import WalletNotify.Config.Basic
import WalletNotify.Server.Serve

/-!
# Log lines

What a server logs of its start and its end, read off from what becomes of it.
-/

namespace WalletNotify.Server

/-- What is logged. -/
inductive Note where
  | configured (file : String) (config : Config)
  | signalled
  | shuttingDown
  | dispatcherStopped
  | stopped
deriving DecidableEq, Repr

/-- The text of a log line. -/
def Note.message : Note → String
  | configured file config => "Configuration loaded path=" ++ file ++ " " ++ config.text
  | signalled => "Received SIGTERM"
  | shuttingDown => "Shutting down"
  | dispatcherStopped => "Event hub closed, webhook dispatcher stopped"
  | stopped => "Server stopped"

/-- What is logged when something happens to a server. -/
def notes (s : Server) (h : Happening) : List Note :=
  let next := s.step h
  (if h = .signal ∧ s.api = .serving then [.signalled, .shuttingDown] else [])
    ++ (match s.outcome? .dispatcher, next.outcome? .dispatcher with
      | none, some (.ok ()) => [.dispatcherStopped]
      | _, _ => [])
    ++ (match s.result, next.result with
      | none, some (.ok ()) => [.stopped]
      | _, _ => [])

/-- What is logged in the course of all that happens. -/
def log (s : Server) : List Happening → List Note
  | [] => []
  | h :: hs => s.notes h ++ (s.step h).log hs

/-- All that happens if nothing is going on until the signal to terminate. -/
def termination : List Happening :=
  [.service (.operation .start), .signal, .service (.operation (.turn .flag)), .join .dispatcher,
    .apiFinishes, .join .api]

end WalletNotify.Server
