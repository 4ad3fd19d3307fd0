import WalletNotify.Cli.Page

/-!
# Usage errors

Why arguments are refused, and how that is told.
-/

namespace WalletNotify.Cli

/-- What could have been meant. -/
inductive Tip where
  | similarArgument (argument : String)
  | similarValue (value : String)
  | similarCommands (commands : List String)
  | elsewhere (command argument : String)
  | withoutDashes (command : String)
deriving DecidableEq, Repr

/-- The wording of a tip. -/
def Tip.message : Tip → String
  | similarArgument a => "a similar argument exists: '" ++ a ++ "'"
  | similarValue v => "a similar value exists: '" ++ v ++ "'"
  | similarCommands [c] => "a similar subcommand exists: '" ++ c ++ "'"
  | similarCommands cs =>
    "some similar subcommands exist: " ++ ", ".intercalate (cs.map fun c => "'" ++ c ++ "'")
  | elsewhere command argument => "'" ++ command ++ " " ++ argument ++ "' exists"
  | withoutDashes command =>
    "subcommand '" ++ command ++ "' exists; to use it, remove the '--' before it"

/-- What is wrong with arguments. -/
inductive Complaint where
  | unexpectedArgument (argument : String)
  | unexpectedValue (value switch : String)
  | unknownCommand (word : String)
  | missingValue (switch : String) (possible : List String)
  | invalidValue (value switch : String) (possible : List String)
  | repeated (switch : String)
deriving DecidableEq, Repr

/-- The values that are possible, if they are known. -/
def possibleValues (values : List String) : String :=
  if values.isEmpty then "" else "\n  [possible values: " ++ ", ".intercalate values ++ "]"

/-- The wording of a complaint. -/
def Complaint.message : Complaint → String
  | unexpectedArgument a => "unexpected argument '" ++ a ++ "' found"
  | unexpectedValue v s =>
    "unexpected value '" ++ v ++ "' for '" ++ s ++ "' found; no more were expected"
  | unknownCommand w => "unrecognized subcommand '" ++ w ++ "'"
  | missingValue s possible =>
    "a value is required for '" ++ s ++ "' but none was supplied" ++ possibleValues possible
  | invalidValue v s possible =>
    "invalid value '" ++ v ++ "' for '" ++ s ++ "'" ++ possibleValues possible
  | repeated s => "the argument '" ++ s ++ "' cannot be used multiple times"

/-- A complaint, a tip, and the usage as far as they help. -/
structure UsageError where
  complaint : Complaint
  tip : Option Tip
  usage : Option String
  offersHelp : Bool
deriving DecidableEq, Repr

/-- The wording of a usage error. -/
def UsageError.message (e : UsageError) : String :=
  "error: " ++ e.complaint.message
    ++ (match e.tip with
      | some t => "\n\n  tip: " ++ t.message
      | none => "")
    ++ (match e.usage with
      | some u => "\n\nUsage: " ++ u
      | none => "")
    ++ (if e.offersHelp then "\n\nFor more information, try '--help'.\n" else "\n")

end WalletNotify.Cli
