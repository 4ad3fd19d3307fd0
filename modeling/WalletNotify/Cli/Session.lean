import WalletNotify.Cli.Arguments
import WalletNotify.Config.Load
import WalletNotify.Server.Log

/-!
# Sessions

A session of the program, from its arguments and variables to what it prints, or to a server that is
ready to serve.
-/

namespace WalletNotify.Cli

open Server (ApiError ServerError Service SocketAddress)

/-- What a session ends with. -/
structure Output where
  code : UInt32
  out : String
  err : String
deriving DecidableEq, Repr

/-- What becomes of a session: it ends, or it serves. -/
inductive Session where
  | ended (output : Output)
  | serving (file : String) (config : Config) (service : Service)

/-- A variable's value; of several of one name the last. -/
def valueOf? (name : String) (environment : List (String × String)) : Option String :=
  (environment.findRev? (·.1 = name)).map (·.2)

/-- What is shown instead of carrying out a command. -/
def Refusal.output (exportValue : Option String) : Refusal → Output
  | help l full => ⟨0, l.helpText full exportValue, ""⟩
  | version => ⟨0, programName ++ " " ++ Cli.version ++ "\n", ""⟩
  | missingCommand => ⟨2, "", Level.program.helpText false exportValue⟩
  | wrong e => ⟨2, "", e.message⟩

/-- The causes of a server error, from the outermost inwards. -/
def causes : ServerError → List String
  | .api e => ServerError.message (.api e) :: e.message :: match e with
    | .io => ["Cannot assign requested address (os error 99)"]
    | .serveFailed causes => causes
    | _ => []
  | .taskFailed task report => [ServerError.message (.taskFailed task report), report]
  | .taskExited task => [ServerError.message (.taskExited task)]

/-- Causes in lines of their own, numbered if there are several. -/
def causeLines : List String → String
  | [cause] => "    " ++ cause ++ "\n"
  | causes => String.join ((causes.zipIdx).map fun (cause, i) =>
      "    " ++ toString i ++ ": " ++ cause ++ "\n")

/-- A session that fails. -/
def failed (message : String) (causes : List String) : Session :=
  .ended ⟨1, "", "Error: " ++ message ++ "\n"
    ++ (if causes.isEmpty then "" else "\nCaused by:\n" ++ causeLines causes)⟩

/-- A path without the parts that stay where they are. -/
def plainPath (path : String) : String :=
  let parts := (path.toList.splitOn '/').filter fun p => !p.isEmpty && p != ['.']
  (if path.toList.head? = some '/' then "/" else "")
    ++ "/".intercalate (parts.map String.ofList)

/-- Starts the service with the configuration of a file. -/
def start (content : Option String) (mayBind : SocketAddress → Bool) (file : String)
    (environment : List (String × String)) : Session :=
  match Config.load content environment with
  | .error e =>
    failed ("failed to load config file \x60" ++ file ++ "\x60: " ++ e.message (plainPath file)) []
  | .ok config =>
    match Server.init mayBind config.endpoint config.subscriberBuffer.toNat with
    | .error e => failed "Loading notification service" (causes e)
    | .ok (_, service) => .serving file config service

/-- The file that a session reads, if it gets so far. -/
def fileOf? (arguments : List String) (environment : List (String × String)) : Option String :=
  match Command.read (valueOf? exportVariable environment) arguments with
  | .ok (.start file _) => some file
  | _ => none

/-- Runs a session, given the files and the addresses that may be bound. -/
def run (files : String → Option String) (mayBind : SocketAddress → Bool)
    (arguments : List String) (environment : List (String × String)) : Session :=
  let exportValue := valueOf? exportVariable environment
  match Command.read exportValue arguments with
  | .error r => .ended (r.output exportValue)
  | .ok .dumpConfig => .ended ⟨0, Config.default.tomlText ++ "\n", ""⟩
  | .ok (.start file _) => start (files (plainPath file)) mayBind file environment

/-- What a session that serves logs until it is terminated. -/
def logged (file : String) (config : Config) (service : Service) : List Server.Note :=
  .configured file config :: (Server.serve service).log Server.termination

end WalletNotify.Cli
