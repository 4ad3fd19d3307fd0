/-!
# Help pages

What the command line offers, and the pages that tell of it: briefly, or with all details.
-/

namespace WalletNotify.Cli

/-- A switch: its names, the name of its value, what it does, further paragraphs, and remarks. -/
structure Switch where
  letter : Option Char
  name : String
  value : Option String
  about : String
  details : List String
  remarks : List String
deriving DecidableEq, Repr

namespace Switch

/-- A switch as it is written, with its value. -/
def written (s : Switch) : String :=
  "--" ++ s.name ++ match s.value with
    | some v => " <" ++ v ++ ">"
    | none => ""

/-- A switch under all its names. -/
def names (s : Switch) : String :=
  (match s.letter with
    | some c => "-" ++ String.singleton c ++ ", "
    | none => "    ") ++ s.written

/-- The paragraphs that tell of a switch. A single one has no full stop. -/
def paragraphs (s : Switch) : List String :=
  (if s.details.isEmpty then s.about else s.about ++ ".") :: s.details ++ s.remarks

end Switch

/-- A help page: what it is about, the usage, and titled lists of words with what they mean. -/
structure Page where
  about : String
  usage : String
  words : List (String × List (String × String))
  switches : List Switch
deriving DecidableEq, Repr

namespace Page

/-- Words and their meanings in two columns. -/
def columns (rows : List (String × String)) : String :=
  let width := rows.foldl (fun w (word, _) => max w word.length) 0
  String.join (rows.map fun (word, meaning) =>
    "  " ++ word ++ String.ofList (List.replicate (width - word.length + 2) ' ') ++ meaning ++ "\n")

/-- A switch in a block of its own. -/
def block (s : Switch) : String :=
  "  " ++ s.names ++ "\n          " ++ "\n          \n          ".intercalate s.paragraphs ++ "\n"

/-- A page, with the switches in two columns or, in `full`, each in a block. -/
def text (full : Bool) (p : Page) : String :=
  let lists := p.words.map fun (title, rows) => "\n" ++ title ++ ":\n" ++ columns rows
  let switches :=
    if p.switches.isEmpty then ""
    else if full then "\nOptions:\n" ++ "\n".intercalate (p.switches.map block)
    else "\nOptions:\n" ++ columns (p.switches.map fun s =>
      (s.names, " ".intercalate (s.about :: s.remarks)))
  p.about ++ "\n\nUsage: " ++ p.usage ++ "\n" ++ String.join lists ++ switches

end Page

/-- The name of the program. -/
def programName : String := "oceand"

/-- The version of the program. -/
def version : String := "0.1.0"

/-- The file that the configuration is read from if none is told. -/
def defaultFile : String := "oceand.toml"

/-- The variable that switches the export of traces on. -/
def exportVariable : String := "OCEAN_ENABLE_OTEL"

/-- The switch for the file. -/
def fileSwitch : Switch :=
  ⟨some 'c', "config", some "FILE",
    "Read the configuration from this file. Missing values, or a missing file, fall back to the "
      ++ "defaults", [], ["[default: " ++ defaultFile ++ "]"]⟩

/-- The switch for the export of traces, given the value of its variable. -/
def exportSwitch (value : Option String) : Switch :=
  ⟨none, "enable-otel", none, "Enables the exporting of traces for OpenTelemetry",
    ["This can be further configured using environment variables as defined in the official "
      ++ "OpenTelemetry documentation."],
    ["[env: " ++ exportVariable ++ "=" ++ value.getD "" ++ "]"]⟩

/-- The switch for help. -/
def helpSwitch (about : String) : Switch := ⟨some 'h', "help", none, about, [], []⟩

/-- The switch for the version. -/
def versionSwitch : Switch := ⟨some 'V', "version", none, "Print version", [], []⟩

/-- What a level of the command line is. -/
inductive Level where
  | program
  | start
  | dumpConfig
  | help
deriving DecidableEq, Repr

namespace Level

/-- The commands in order. -/
def commands : List Level := [start, dumpConfig, help]

/-- The word of a command. -/
def word : Level → String
  | program => programName
  | start => "start"
  | dumpConfig => "dump-config"
  | help => "help"

/-- What a command does. -/
def about : Level → String
  | program => "Ocean notification service binary"
  | start => "Starts the notification service"
  | dumpConfig => "Prints the default configuration as TOML"
  | help => "Print this message or the help of the given subcommand(s)"

/-- The command of a word. -/
def ofWord? (w : String) : Option Level := commands.find? (·.word = w)

/-- The words in front of what a level takes. -/
def path : Level → String
  | program => programName
  | l => programName ++ " " ++ l.word

/-- The usage of a level. -/
def usage : Level → String
  | program => programName ++ " <COMMAND>"
  | start => path start ++ " [OPTIONS]"
  | dumpConfig => path dumpConfig
  | help => path help ++ " [COMMAND]..."

/-- The names of a level's switches. -/
def switchNames : Level → List String
  | program => ["help", "version"]
  | start => ["config", "enable-otel", "help"]
  | dumpConfig => ["help"]
  | help => []

/-- The page of a level. Only one level has details to tell. -/
def page (l : Level) (full : Bool) (exportValue : Option String) : Page :=
  match l with
  | program =>
    ⟨l.about, l.usage, [("Commands", commands.map fun c => (c.word, c.about))],
      [helpSwitch "Print help", versionSwitch]⟩
  | start =>
    let other := if full then "Print help (see a summary with '-h')"
      else "Print help (see more with '--help')"
    ⟨l.about, l.usage, [], [fileSwitch, exportSwitch exportValue, helpSwitch other]⟩
  | dumpConfig => ⟨l.about, l.usage, [], [helpSwitch "Print help"]⟩
  | help =>
    ⟨l.about, l.usage, [("Arguments", [("[COMMAND]...", "Print help for the subcommand(s)")])], []⟩

/-- The text of a level's help. -/
def helpText (l : Level) (full : Bool) (exportValue : Option String) : String :=
  (l.page full exportValue).text (full && l = start)

end Level

end WalletNotify.Cli
