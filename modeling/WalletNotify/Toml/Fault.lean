/-!
# TOML faults

Why a text is not a TOML document, where it goes wrong, and how that is told.
-/

namespace WalletNotify.Toml

/-- Text that is still to be read. -/
abbrev Input := List Char

/-- The parts of a document that a fault may lie in. -/
inductive Construct where
  | key
  | tableHeader
  | basicString
  | longBasicString
  | literalString
  | longLiteralString
  | escape
  | shortCode
  | longCode
  | someString
  | array
  | inlineTable
  | integer
  | hexadecimal
  | octal
  | binary
  | real
  | dateTime
  | time
  | offset
deriving DecidableEq, Repr

/-- The name of a part. -/
def Construct.name : Construct → String
  | key => "key"
  | tableHeader => "table header"
  | basicString => "basic string"
  | longBasicString => "multiline basic string"
  | literalString => "literal string"
  | longLiteralString => "multiline literal string"
  | escape => "escape sequence"
  | shortCode => "unicode 4-digit hex code"
  | longCode => "unicode 8-digit hex code"
  | someString => "string"
  | array => "array"
  | inlineTable => "inline table"
  | integer => "integer"
  | hexadecimal => "hexadecimal integer"
  | octal => "octal integer"
  | binary => "binary integer"
  | real => "floating-point number"
  | dateTime => "date-time"
  | time => "time"
  | offset => "time offset"

/-- What could have stood at a place. -/
inductive Expected where
  | sign (text : String)
  | lineBreak
  | described (text : String)
deriving DecidableEq, Repr

/-- The name of what could have stood at a place. -/
def Expected.name : Expected → String
  | sign text => "\x60" ++ text ++ "\x60"
  | lineBreak => "newline"
  | described text => text

/-- What is wrong with text that has the right form. -/
inductive Problem where
  | duplicateKey (key : String) (table : Option (List String))
  | notTable (path : List String) (kind : String)
  | outOfRange
  | tooLarge
  | tooSmall
  | tooDeep
deriving DecidableEq, Repr

/-- The wording of a problem. -/
def Problem.message : Problem → String
  | duplicateKey key none => "duplicate key \x60" ++ key ++ "\x60"
  | duplicateKey key (some []) => "duplicate key \x60" ++ key ++ "\x60 in document root"
  | duplicateKey key (some table) =>
    "duplicate key \x60" ++ key ++ "\x60 in table \x60" ++ ".".intercalate table ++ "\x60"
  | notTable path kind =>
    "dotted key \x60" ++ ".".intercalate path ++ "\x60 attempted to extend non-table type ("
      ++ kind ++ ")"
  | outOfRange => "value is out of range"
  | tooLarge => "number too large to fit in target type"
  | tooSmall => "number too small to fit in target type"
  | tooDeep => "recursion limit exceeded"

/-- Why a text is not read: how much of it was left, whether no other reading is to be tried, the
innermost part it lies in, what could have stood there, and what is wrong otherwise. -/
structure Fault where
  left : Nat
  committed : Bool
  construct : Option Construct
  expected : List Expected
  problem : Option Problem
deriving DecidableEq, Repr

/-- Reads something off a text. -/
abbrev Reader (α : Type) := Input → Except Fault (α × Input)

namespace Fault

/-- A fault at the start of a text. -/
def here (input : Input) : Fault := ⟨input.length, false, none, [], none⟩

/-- A fault at the start of a text, whose form is right. -/
def problemAt (input : Input) (p : Problem) : Fault := ⟨input.length, false, none, [], some p⟩

/-- No other reading is to be tried. -/
def commit (f : Fault) : Fault := { f with committed := true }

/-- The fault lies in a part, if it is not known to lie in a smaller one. -/
def inside (c : Construct) (f : Fault) : Fault :=
  { f with construct := f.construct <|> some c }

/-- Something else could have stood there. -/
def expecting (es : List Expected) (f : Fault) : Fault := { f with expected := f.expected ++ es }

/-- What is wrong, without the place. -/
def message (f : Fault) : String :=
  let form := match f.construct with
    | some c => ["invalid " ++ c.name]
    | none => []
  let expected :=
    if f.expected.isEmpty then []
    else ["expected " ++ ", ".intercalate (f.expected.map Expected.name)]
  let problem := match f.problem with
    | some p => [p.message]
    | none => []
  "\n".intercalate (form ++ expected ++ problem)

/-- The line and the column of a fault, from zero on. A fault at the end of a text is told behind
its last character, be it a line break. -/
def place (f : Fault) (text : Input) : Nat × Nat :=
  let offset := text.length - f.left
  let shown := min offset (text.length - 1)
  let front := text.take shown
  (front.count '\n', (front.reverse.takeWhile (· != '\n')).length + (offset - shown))

/-- A fault with the line that it is in, and a mark under its place. -/
def report (f : Fault) (text : String) : String :=
  let (line, column) := f.place text.toList
  let number := toString (line + 1)
  let margin := String.ofList (List.replicate (number.length + 1) ' ') ++ "|"
  let content := String.ofList ((text.toList.splitOn '\n').getD line [])
  "TOML parse error at line " ++ number ++ ", column " ++ toString (column + 1) ++ "\n"
    ++ margin ++ "\n"
    ++ number ++ " | " ++ content ++ "\n"
    ++ margin ++ String.ofList (List.replicate (column + 1) ' ') ++ "^\n"
    ++ f.message ++ "\n"

end Fault

namespace Reader

variable {α β : Type}

/-- Changes the fault of a reader that fails. -/
def onFault (r : Reader α) (change : Fault → Fault) : Reader α := fun input =>
  (r input).mapError change

/-- Tries another reader where the first one fails, unless it is sure. -/
def orElse (r s : Reader α) : Reader α := fun input =>
  match r input with
  | .error f => if f.committed then .error f else s input
  | done => done

/-- Reads something if it is there; a fault that is sure remains one. -/
def optional (r : Reader α) : Reader (Option α) := fun input =>
  match r input with
  | .ok (a, rest) => .ok (some a, rest)
  | .error f => if f.committed then .error f else .ok (none, input)

/-- Changes what is read. -/
def map (f : α → β) (r : Reader α) : Reader β := fun input =>
  (r input).map fun (a, rest) => (f a, rest)

/-- Reads the rest of a sequence, an item behind every comma; a comma without an item is left. -/
def more (item : Reader α) : Nat → Reader (List α)
  | 0, input => .ok ([], input)
  | fuel + 1, ',' :: rest =>
    match item rest with
    | .ok (a, rest) => do
      let (as, rest) ← more item fuel rest
      return (a :: as, rest)
    | .error f => if f.committed then .error f else .ok ([], ',' :: rest)
  | _ + 1, input => .ok ([], input)

/-- Reads items with commas between them; there may be none. -/
def separated (item : Reader α) : Reader (List α) := fun input =>
  match item input with
  | .ok (a, rest) => do
    let (as, rest) ← more item rest.length rest
    return (a :: as, rest)
  | .error f => if f.committed then .error f else .ok ([], input)

end Reader

end WalletNotify.Toml
