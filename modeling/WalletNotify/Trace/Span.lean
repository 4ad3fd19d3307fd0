import WalletNotify.Server.Socket
import WalletNotify.Trace.Context

/-!
# Spans

The span that a request is traced in: it is named after the called method, tells who is connected to
whom, and belongs to the context that the request tells.
-/

namespace WalletNotify.Trace

open Server (SocketAddress)

/-- The methods of the service. -/
def methods : List String :=
  ["TransactionNotifications", "UtxosNotifications", "AddWebhook", "RemoveWebhook", "ListWebhooks"]

/-- What is traced of a request. -/
structure Request where
  uri : String
  headers : Headers
  peer : Option SocketAddress

/-- A span with its attributes. -/
structure Span where
  name : String
  attributes : List (String × String)
  parent : Option Context
deriving DecidableEq, Repr

/-- The parts of a request's target. -/
structure Target where
  authority : Option (List Char)
  path : List Char

/-- What follows a scheme and two slashes, if there are any. -/
def afterScheme? : List Char → Option (List Char)
  | ':' :: '/' :: '/' :: rest => some rest
  | c :: rest => if c.isAlphanum || c = '+' || c = '-' || c = '.' then afterScheme? rest else none
  | [] => none

/-- The target that a text tells: a path alone, an authority alone, or both behind a scheme. -/
def Target.read (cs : List Char) : Target :=
  let cs := cs.takeWhile fun c => c != '?' && c != '#'
  match afterScheme? cs with
  | some rest => ⟨some (rest.takeWhile (· != '/')), rest.dropWhile (· != '/')⟩
  | none =>
    match cs with
    | '/' :: _ => ⟨none, cs⟩
    | ['*'] => ⟨none, cs⟩
    | _ => ⟨some cs, []⟩

namespace Target

/-- The host of a target; one in brackets keeps them. -/
def host? (t : Target) : Option String :=
  t.authority.map fun a =>
    let hostPort := (a.reverse.takeWhile (· != '@')).reverse
    match hostPort with
    | '[' :: _ => String.ofList (hostPort.takeWhile (· != ']') ++ [']'])
    | _ => String.ofList (hostPort.takeWhile (· != ':'))

/-- The port behind the last colon of a target. -/
def port? (t : Target) : Option Nat :=
  t.authority.bind fun a =>
    let digits := (a.reverse.takeWhile (· != ':')).reverse
    if digits.length = a.length ∨ digits.isEmpty ∨ !digits.all Char.isDigit then none
    else (Url.numberIn? 10 digits).bind fun n => if n < 65536 then some n else none

/-- The method that the last segment of the path names. -/
def method (t : Target) : String :=
  let last := String.ofList (t.path.reverse.takeWhile (· != '/')).reverse
  if methods.contains last then last else "Unknown"

end Target

/-- The name of the traced service. -/
def serviceName : String := "notification.rpc"

/-- What is told of a connected peer. -/
def peerAttributes (a : SocketAddress) : List (String × String) :=
  [("client.address", a.ip.text), ("client.port", toString a.port.toNat),
   ("network.transport", "tcp"), ("network.type", if a.ip.isV6 then "ipv6" else "ipv4")]

/-- The span of a request. -/
def Span.ofRequest (r : Request) : Span :=
  let target := Target.read r.uri.toList
  { name := serviceName ++ "/" ++ target.method
    attributes :=
      [("rpc.service", serviceName), ("rpc.method", target.method), ("rpc.system", "grpc")]
        ++ (target.host?.map fun h => ("server.address", h)).toList
        ++ (target.port?.map fun p => ("server.port", toString p)).toList
        ++ (r.peer.map peerAttributes).getD []
    parent := Context.ofHeaders? r.headers }

end WalletNotify.Trace
