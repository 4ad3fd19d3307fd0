import WalletNotify.Url.Read

/-!
# Socket addresses

The address and the port that a URL tells a server to listen at.
-/

namespace WalletNotify.Server

open Url (Ipv4 Ipv6)

/-- An address of either version. -/
inductive Ip where
  | v4 (address : Ipv4)
  | v6 (address : Ipv6)
deriving DecidableEq, Repr

namespace Ip

/-- The text of an address; one of version four inside version six keeps its dots. -/
def text : Ip → String
  | v4 a => Ipv4.text a
  | v6 [0, 0, 0, 0, 0, 0xffff, high, low] =>
    "::ffff:" ++ Ipv4.text (UInt32.ofNat (high.toNat * 65536 + low.toNat))
  | v6 a => Ipv6.text a

/-- Whether the address is of version six. -/
def isV6 : Ip → Bool
  | v4 _ => false
  | v6 _ => true

/-- Whether every machine has the address: the loopback ones, and the one that stands for all. -/
def isLocal : Ip → Bool
  | v4 a => a = 0 || a.toNat / 2 ^ 24 = 127
  | v6 a => a = [0, 0, 0, 0, 0, 0, 0, 0] || a = [0, 0, 0, 0, 0, 0, 0, 1]

/-- The address that a name spells: four decimal bytes. -/
def ofName? (name : String) : Option Ip := do
  match ← (name.toList.splitOn '.').mapM Ipv6.decimalByte? with
  | [a, b, c, d] => some (v4 (UInt32.ofNat (((a * 256 + b) * 256 + c) * 256 + d)))
  | _ => none

end Ip

/-- Where a server listens. -/
structure SocketAddress where
  ip : Ip
  port : UInt16
deriving DecidableEq, Repr

/-- The text of a socket address. -/
def SocketAddress.text (a : SocketAddress) : String :=
  (if a.ip.isV6 then "[" ++ a.ip.text ++ "]" else a.ip.text) ++ ":" ++ toString a.port.toNat

/-- The socket address that a text tells: an address, in brackets if it is of version six, and a
port. -/
def SocketAddress.read? (s : String) : Option SocketAddress := do
  let cs := s.toList
  let port := (cs.reverse.takeWhile (· != ':')).reverse
  let host := (cs.take (cs.length - port.length)).dropLast
  let ip ← match host with
    | '[' :: rest =>
      if rest.getLast? = some ']' then (Ipv6.read? rest.dropLast).map Ip.v6 else none
    | _ => Ip.ofName? (String.ofList host)
  let n ← Url.numberIn? 10 port
  if !port.isEmpty ∧ n < 65536 then some ⟨ip, UInt16.ofNat n⟩ else none

/-- Why an address is not usable. -/
inductive AddressFault where
  | noHost
  | noPort
  | lookup
  | other (text : String)
deriving DecidableEq, Repr

/-- The wording of an address fault. -/
def AddressFault.message : AddressFault → String
  | noHost => "No host name in the URL"
  | noPort => "No port number in the URL"
  | lookup => "failed to lookup address information: Name or service not known"
  | other text => text

/-- Why the API is not served. -/
inductive ApiError where
  | io
  | serveFailed (causes : List String)
  | unresolved (endpoint : String)
  | badEndpoint (fault : AddressFault)
deriving DecidableEq, Repr

/-- The wording of an API error. -/
def ApiError.message : ApiError → String
  | io => "an I/O error has occurred"
  | serveFailed _ => "serving the Api server has failed"
  | unresolved endpoint => "resolution of the server address has failed: " ++ endpoint
  | badEndpoint fault =>
    "converting the \x60Url\x60 into a socket address failed: " ++ fault.message

/-- The address of a host; names are not looked up, but may spell one. -/
def hostIp? : Url.Host → Except AddressFault Ip
  | .ipv4 a => .ok (.v4 a)
  | .ipv6 a => .ok (.v6 a)
  | .name s =>
    match Ip.ofName? s with
    | some ip => .ok ip
    | none => .error .lookup

/-- The socket address of a URL: it must have a host, and a port that is told or meant. -/
def toSocket (u : Url) : Except ApiError SocketAddress :=
  match u.host with
  | none => .error (.badEndpoint .noHost)
  | some (.name "") => .error (.badEndpoint .noHost)
  | some host =>
    match u.portOrDefault with
    | none => .error (.badEndpoint .noPort)
    | some port => (hostIp? host).bind (fun ip => .ok ⟨ip, port⟩) |>.mapError .badEndpoint

end WalletNotify.Server
