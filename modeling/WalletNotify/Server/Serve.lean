import WalletNotify.Server.Interleaving
import WalletNotify.Server.Socket

/-!
# Serving

A served service has two tasks: the dispatcher, and the API, which closes the hub at the signal to
shut down. A task that fails, or that ends while the hub is open, takes the server down.
-/

namespace WalletNotify.Server

open Webhook (Branch Registry)

/-- The tasks of a server. -/
inductive Task where
  | dispatcher
  | api
deriving DecidableEq, Repr

/-- The name of a task. -/
def Task.name : Task → String
  | dispatcher => "webhook-dispatcher"
  | api => "rpc"

/-- Why a server fails. -/
inductive ServerError where
  | api (error : ApiError)
  | taskFailed (task report : String)
  | taskExited (task : String)
deriving DecidableEq, Repr

/-- The wording of a server error. -/
def ServerError.message : ServerError → String
  | api e => "api error: " ++ e.message
  | taskFailed task report => "task " ++ task ++ " failed: " ++ report
  | taskExited task => "task " ++ task ++ " exited unexpectedly"

/-- Why a task fails: it tells an error, or it breaks off. -/
inductive Fault where
  | error (error : ApiError)
  | broken (report : String)
deriving DecidableEq, Repr

/-- What a server fails with when one of its tasks does. -/
def Fault.serverError (t : Task) : Fault → ServerError
  | error e => .api e
  | broken report => .taskFailed t.name report

/-- Whether the API is served. It shuts down once the signal has closed the hub. -/
inductive ApiPhase where
  | serving
  | shuttingDown
  | finished
deriving DecidableEq, Repr

/-- What may happen to a server. The embedding program has handles of its own, and may use them
before the dispatcher starts; the server's handle is the first. -/
inductive Happening where
  | service (move : Move)
  | signal
  | apiFinishes
  | apiFails (causes : List String)
  | breaksOff (task : Task) (report : String)
  | join (task : Task)
deriving DecidableEq, Repr

end WalletNotify.Server

namespace WalletNotify

open Server

/-- A server: its service, its API, the tasks that failed, those that are not joined yet, and its
result. -/
structure Server where
  service : Paced
  api : ApiPhase
  faults : List (Task × Fault)
  unjoined : List Task
  result : Option (Except ServerError Unit)

namespace Server

/-- The handle that the server keeps. -/
def ownHandle : Nat := 0

/-- A server that serves a service. -/
def serve (s : Service) : Server := ⟨.of s, .serving, [], [.dispatcher, .api], none⟩

/-- The hub of a server. -/
def hub (s : Server) : Hub := s.service.service.hub

/-- Whether a task has ended, with a fault or without. -/
def hasEnded (s : Server) : Task → Bool
  | .dispatcher => s.service.service.dispatcher.phase == .stopped
  | .api => s.api == .finished

/-- How a task has ended. -/
def outcome? (s : Server) (t : Task) : Option (Except Fault Unit) :=
  if s.hasEnded t then
    match s.faults.lookup t with
    | some fault => some (.error fault)
    | none => some (.ok ())
  else none

/-- Joins a task that has ended. The server fails if the task did, or if the hub is open; else it
goes on until all tasks are joined. -/
def joinTask (s : Server) (t : Task) : Server :=
  if s.result.isSome || !s.unjoined.contains t then s
  else
    match s.outcome? t with
    | none => s
    | some (.error fault) => { s with result := some (.error (fault.serverError t)) }
    | some (.ok ()) =>
      if s.hub.isClosed then
        let unjoined := s.unjoined.filter (· != t)
        { s with unjoined, result := if unjoined.isEmpty then some (.ok ()) else none }
      else { s with result := some (.error (.taskExited t.name)) }

/-- Ends a task with a fault, unless it has ended before. A dispatcher is no longer subscribed
then. -/
def failTask (s : Server) (t : Task) (fault : Fault) : Server :=
  if s.hasEnded t then s
  else
    let faults := s.faults ++ [(t, fault)]
    match t with
    | .dispatcher =>
      let service := s.service.service
      let (dispatcher, hub) := service.dispatcher.stop service.hub
      { s with service := .of { service with dispatcher, hub }, faults }
    | .api => { s with api := .finished, faults }

/-- What becomes of a server when something happens. -/
def step (s : Server) : Happening → Server
  | .service (.operation (.hub (.dropHandle i))) =>
    if i = ownHandle then s
    else { s with service := (s.service.step (.operation (.hub (.dropHandle i)))).2 }
  | .service m => { s with service := (s.service.step m).2 }
  | .signal =>
    if s.api = .serving then
      { s with
        service := (s.service.step (.operation (.hub (.close ownHandle)))).2
        api := .shuttingDown }
    else s
  | .apiFinishes => { s with api := .finished }
  | .apiFails causes => s.failTask .api (.error (.serveFailed causes))
  | .breaksOff t report => s.failTask t (.broken report)
  | .join t => s.joinTask t

/-- What becomes of a server after all that happens. -/
def run (s : Server) (hs : List Happening) : Server := hs.foldl step s

/-- Listens at an endpoint, if the address may be bound, with a service that is not served yet. -/
def init (mayBind : SocketAddress → Bool) (endpoint : Url) (capacity : Nat) :
    Except ServerError (SocketAddress × Service) := do
  let address ← (toSocket endpoint).mapError .api
  if mayBind address then return (address, Service.new capacity) else throw (.api .io)

end Server

end WalletNotify
