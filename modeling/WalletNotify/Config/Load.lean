import WalletNotify.Config.Read
import WalletNotify.Toml.Document

/-!
# Loading configurations

A configuration is loaded from a TOML file, if there is one, with the environment laid over it.
-/

namespace WalletNotify.Config

/-- Why a configuration is not loaded: the file is not TOML, or a setting does not fit. -/
inductive LoadError where
  | unreadable (fault : Toml.Fault) (text : String)
  | unfit (error : Error)
deriving DecidableEq, Repr

/-- The wording of a load error, given the name of the file. -/
def LoadError.message (file : String) : LoadError → String
  | unreadable fault text => fault.report text ++ " in " ++ Error.source file .file
  | unfit e => e.message file

/-- The settings of a file. -/
def fileLayer : Option String → Except LoadError Settings
  | none => .ok []
  | some text =>
    match Toml.read text with
    | .ok table => .ok (Setting.ofTable table)
    | .error fault => .error (.unreadable fault text)

/-- The settings of a file with those of variables laid over them. -/
def layers (file : Option String) (environment : List (String × String)) :
    Except LoadError Settings := do
  let settings ← fileLayer file
  return Setting.overlayAll (environmentLayer environment) settings

/-- Loads a configuration. -/
def load (file : Option String) (environment : List (String × String)) :
    Except LoadError Config := do
  let settings ← layers file environment
  (ofSettings settings).mapError .unfit

end WalletNotify.Config
