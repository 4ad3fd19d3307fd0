import WalletNotify.Cli.Similarity
import WalletNotify.Cli.UsageError

/-!
# Arguments

The arguments of the program as a command. They are read one by one from the left; the first thing
that cannot be right, and the first switch that asks for help, end the reading.
-/

namespace WalletNotify.Cli

/-- What the program is told to do. -/
inductive Command where
  | start (file : String) (exportsTraces : Bool)
  | dumpConfig
deriving DecidableEq, Repr

/-- Why there is no command: something is shown instead. -/
inductive Refusal where
  | help (level : Level) (full : Bool)
  | version
  | missingCommand
  | wrong (error : UsageError)
deriving DecidableEq, Repr

/-- An argument as it looks. -/
inductive Shape where
  | escape
  | long (name : String) (value : Option String)
  | short (letters : List Char)
  | word (text : String)
deriving DecidableEq, Repr

/-- The shape of an argument. A dash alone is a word. -/
def Shape.of (argument : String) : Shape :=
  match argument.toList with
  | ['-', '-'] => escape
  | '-' :: '-' :: rest =>
    let name := String.ofList (rest.takeWhile (· != '='))
    match rest.dropWhile (· != '=') with
    | _ :: value => long name (some (String.ofList value))
    | [] => long name none
  | '-' :: c :: rest => short (c :: rest)
  | _ => word argument

/-- Refuses arguments. -/
def refuse {α : Type} (complaint : Complaint) (tip : Option Tip) (usage : Option String) :
    Except Refusal α :=
  .error (.wrong ⟨complaint, tip, usage, true⟩)

/-- The usage of a level with switches that are in use. -/
def usageWith (l : Level) (used : List String) : String :=
  if used.isEmpty then l.usage
  else l.path ++ " " ++ " ".intercalate used ++ (if l = .program then " <COMMAND>" else "")

/-- The switch that a wrong long name is like. -/
def similarSwitch? (l : Level) (name : String) : Option String :=
  (similar name l.switchNames).getLast?

/-- Where among the arguments that follow a word stands. -/
def placeOf (word : String) (arguments : List String) : Option Nat :=
  arguments.findIdx? (· = word)

/-- The command that has a switch like a wrong long name and that stands among the arguments that
follow, with that switch; of several the one that stands first. -/
def elsewhere? (name : String) (arguments : List String) : Option (Level × String) :=
  let found := Level.commands.filterMap fun c => do
    let switch ← similarSwitch? c name
    let place ← placeOf c.word arguments
    return (place, c, switch)
  (found.foldl (fun best next =>
    match best with
    | none => some next
    | some b => if next.1 < b.1 then some next else some b) none).map (·.2)

/-- Refuses an argument that is not known. -/
def unexpected {α : Type} (l : Level) (argument : String) : Except Refusal α :=
  refuse (.unexpectedArgument argument) none (some l.usage)

/-! ## Starting -/

/-- The switch for the file, as it is written. -/
def fileWritten : String := fileSwitch.written

/-- The switch for the export of traces, as it is written. -/
def exportWritten : String := (exportSwitch none).written

/-- What the arguments of a start have told so far: the file, the export of traces, and whether the
switch for the file waits for its value (`some none`) or has one that is not taken yet. -/
structure Choices where
  file : Option String
  exports : Bool
  pending : Option (Option String)
deriving DecidableEq, Repr

namespace Choices

/-- Nothing is told. -/
def empty : Choices := ⟨none, false, none⟩

/-- Takes the file. -/
def takeFile (c : Choices) (value : String) : Except Refusal Choices :=
  if c.file.isSome then refuse (.repeated fileWritten) none (some Level.start.usage)
  else if value.isEmpty then refuse (.missingValue fileWritten []) none none
  else .ok { c with file := some value }

/-- Takes the value that is not taken yet. -/
def settle (c : Choices) : Except Refusal Choices :=
  match c.pending with
  | none => .ok c
  | some none => refuse (.missingValue fileWritten []) none none
  | some (some value) => { c with pending := none }.takeFile value

/-- Whether the switch for the file waits for its value. -/
def isWaiting (c : Choices) : Bool := c.pending = some none

/-- The switches in use, in addition to `more`. As soon as one of a start is in use, all of them are
shown as alternatives. -/
def used (c : Choices) (more : List String) : List String :=
  let own := [fileWritten, exportWritten]
  if c.file.isSome || c.exports then
    more.filter (fun s => !own.contains s) ++ ["<" ++ "|".intercalate own ++ ">"]
  else more

/-- Reads a long switch. -/
def long (c : Choices) (name : String) (value : Option String) : Except Refusal Choices :=
  if name = "config" then
    match value with
    | some v => do (← c.settle).takeFile v
    | none => do return { (← c.settle) with pending := some none }
  else if name = "enable-otel" then
    match value with
    | some v =>
      refuse (.unexpectedValue v exportWritten) none
        (some (usageWith .start (c.used [exportWritten])))
    | none => do
      let c ← c.settle
      if c.exports then refuse (.repeated exportWritten) none (some Level.start.usage)
      else return { c with exports := true }
  else if name = "help" then
    match value with
    | some v =>
      refuse (.unexpectedValue v "--help") none (some (usageWith .start (c.used ["--help"])))
    | none => do
      let _ ← c.settle
      throw (.help .start true)
  else
    let settled := c.settle.toOption.getD { c with file := none }
    match similarSwitch? .start name with
    | none =>
      refuse (.unexpectedArgument ("--" ++ name)) none (some (usageWith .start (settled.used [])))
    | some switch =>
      let more := if switch = "help" then ["--help"] else []
      let shown := { settled with exports := settled.exports || switch != "help" }
      refuse (.unexpectedArgument ("--" ++ name)) (some (.similarArgument ("--" ++ switch)))
        (some (usageWith .start (shown.used more)))

/-- Reads short switches that stand together. -/
def short (c : Choices) : List Char → Except Refusal Choices
  | 'c' :: '=' :: value => do (← c.settle).takeFile (String.ofList value)
  | 'c' :: v :: value => do (← c.settle).takeFile (String.ofList (v :: value))
  | 'c' :: [] => do return { (← c.settle) with pending := some none }
  | 'h' :: _ => do
    let _ ← c.settle
    throw (.help .start false)
  | letter :: _ => unexpected .start ("-" ++ String.singleton letter)
  | [] => .ok c

/-- Reads the arguments of a start. -/
def read (c : Choices) : List String → Except Refusal Choices
  | [] => c.settle
  | argument :: rest =>
    match Shape.of argument with
    | .escape =>
      match rest with
      | [] => c.settle
      | argument :: _ => unexpected .start argument
    | .long name value => do (← c.long name value).read rest
    | .short letters => do (← c.short letters).read rest
    | .word text =>
      if c.isWaiting then { c with pending := some (some text) }.read rest
      else unexpected .start argument

/-- The choices as a command. What no argument tells may be told by the variable for the export of
traces. -/
def command (c : Choices) (setting : Option String) : Except Refusal Command :=
  let file := c.file.getD defaultFile
  if c.exports then .ok (.start file true)
  else
    match setting with
    | none => .ok (.start file false)
    | some value =>
      let possible := ["true", "false"]
      if value = "true" then .ok (.start file true)
      else if value = "false" then .ok (.start file false)
      else if value.isEmpty then refuse (.missingValue exportWritten possible) none none
      else
        refuse (.invalidValue value exportWritten possible)
          ((similar value possible).getLast?.map Tip.similarValue) none

end Choices

/-! ## The other levels -/

/-- Reads the arguments that follow the command for the default configuration: there are none. -/
def readDump : List String → Except Refusal Command
  | [] => .ok .dumpConfig
  | argument :: rest =>
    match Shape.of argument with
    | .escape =>
      match rest with
      | [] => .ok .dumpConfig
      | argument :: _ => unexpected .dumpConfig argument
    | .long name value =>
      if name = "help" then
        match value with
        | some v =>
          refuse (.unexpectedValue v "--help") none (some (usageWith .dumpConfig ["--help"]))
        | none => .error (.help .dumpConfig true)
      else
        let switch := (similarSwitch? .dumpConfig name).map ("--" ++ ·)
        refuse (.unexpectedArgument ("--" ++ name)) (switch.map Tip.similarArgument)
          (some (usageWith .dumpConfig switch.toList))
    | .short ('h' :: _) => .error (.help .dumpConfig false)
    | .short letters => unexpected .dumpConfig ("-" ++ String.ofList (letters.take 1))
    | .word text => unexpected .dumpConfig text

/-- Reads the words that follow the command for help: they lead to the level to be told of. -/
def readHelp (l : Level) : List String → Except Refusal Command
  | [] => .error (.help l true)
  | word :: rest =>
    match if l = .program then Level.ofWord? word else none with
    | some c => readHelp c rest
    | none => .error (.wrong ⟨.unknownCommand word, none, some l.usage, l ≠ .help⟩)

/-- Refuses a word that is no command. -/
def unknownCommand (word : String) : Except Refusal Command :=
  let tip := match similar word (Level.commands.map Level.word) with
    | [] => none
    | words => some (Tip.similarCommands words)
  refuse (.unknownCommand word) tip (some Level.program.usage)

/-- Refuses a word behind the two dashes that stand for themselves. -/
def afterDashes (word : String) : Except Refusal Command :=
  match Level.ofWord? word with
  | some c => refuse (.unexpectedArgument word) (some (.withoutDashes c.word))
      (some Level.program.usage)
  | none => unknownCommand word

/-- Reads a long switch in front of any command. -/
def programSwitch (name : String) (value : Option String) (rest : List String) :
    Except Refusal Command :=
  match name, value with
  | "help", none => .error (.help .program true)
  | "version", none => .error .version
  | "help", some v =>
    refuse (.unexpectedValue v "--help") none (some (usageWith .program ["--help"]))
  | "version", some v =>
    refuse (.unexpectedValue v "--version") none (some (usageWith .program ["--version"]))
  | name, _ =>
    let switch := (similarSwitch? .program name).map ("--" ++ ·)
    let tip := match switch with
      | some s => some (Tip.similarArgument s)
      | none => (elsewhere? name rest).map fun (c, s) => Tip.elsewhere c.word ("--" ++ s)
    refuse (.unexpectedArgument ("--" ++ name)) tip (some (usageWith .program switch.toList))

/-- Reads the arguments of the program, given the value of the variable for the export of traces. -/
def Command.read (setting : Option String) : List String → Except Refusal Command
  | [] => .error .missingCommand
  | argument :: rest =>
    match Level.ofWord? argument with
    | some .start => do (← Choices.empty.read rest).command setting
    | some .dumpConfig => readDump rest
    | some _ => readHelp .program rest
    | none =>
      match Shape.of argument with
      | .escape =>
        match rest with
        | [] => .error .missingCommand
        | word :: _ => afterDashes word
      | .long name value => programSwitch name value rest
      | .short ('h' :: _) => .error (.help .program false)
      | .short ('V' :: _) => .error .version
      | .short letters => unexpected .program ("-" ++ String.ofList (letters.take 1))
      | .word text => unknownCommand text

end WalletNotify.Cli
