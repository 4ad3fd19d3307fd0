import WalletNotify.Toml.Moment
import WalletNotify.Toml.Node
import WalletNotify.Toml.Number

/-!
# Reading TOML values

Values of every kind. Arrays and tables on a line may nest as deep as a document may.
-/

namespace WalletNotify.Toml

open Fault
open Text (Keyed)

/-- What a value that has no quotes could have been. -/
def asString (f : Fault) : Fault :=
  (f.inside .someString).expecting [.sign "\"", .sign "'"]

/-- Reads a word. -/
def word (expected : List Char) (v : Value) : Reader Value := fun input =>
  if expected.isPrefixOf input then .ok (v, input.drop expected.length)
  else .error (asString (here input))

/-- Reads a number, a date or a time. -/
def numeric : Reader Value :=
  (moment.map Value.moment).orElse ((real.map Value.real).orElse (integer.map Value.integer))

/-- Reads a value that holds no others. -/
def simpleValue : Reader Value := fun input =>
  match input with
  | [] => .error (here [])
  | c :: _ =>
    if c = '"' ∨ c = '\x27' then (string.map fun cs => Value.text (String.ofList cs)) input
    else if c = '+' ∨ c = '-' ∨ c.isDigit then numeric input
    else if c = '_' then
      ((integer.map Value.integer).onFault fun f => f.expecting [.described "leading digit"]) input
    else if c = '.' then
      ((real.map Value.real).onFault fun f => f.expecting [.described "leading digit"]) input
    else if c = 't' then ((word ['t', 'r', 'u', 'e'] (.flag true)).onFault commit) input
    else if c = 'f' then ((word ['f', 'a', 'l', 's', 'e'] (.flag false)).onFault commit) input
    else if c = 'i' then word ['i', 'n', 'f'] (.real (.infinite false)) input
    else if c = 'n' then word ['n', 'a', 'n'] (.real .nan) input
    else .error (asString (here input))

/-- Reads an item of an array, with blanks, comments and line breaks around it. -/
def arrayItem (item : Reader Value) : Reader Value := fun input => do
  let (v, rest) ← item (← skipSpace input)
  return (v, ← skipSpace rest)

/-- Reads the rest of an array. A comma may stand behind the last item. -/
def arrayTail (item : Reader Value) : Reader Value := fun input => Except.mapError commit do
  match input with
  | ']' :: rest => return (.array [], rest)
  | _ =>
    let (vs, rest) ← Reader.separated (arrayItem item) input
    let rest := match vs, rest with
      | _ :: _, ',' :: rest => rest
      | _, rest => rest
    match ← skipSpace rest with
    | ']' :: rest => return (.array vs, rest)
    | rest => throw (((here rest).inside .array).expecting [.sign "]"])

/-- Reads a key, the sign behind it, and blanks. -/
def assignment : Reader (List String) := fun input => do
  let (path, rest) ← keyPath input
  match rest with
  | '=' :: rest => return (path, skipBlanks rest)
  | _ => throw ((here rest).commit.expecting [.sign ".", .sign "="])

/-- Reads a key and its value on a line. -/
def lineEntry (item : Reader Value) : Reader (List String × Value) := fun input => do
  let (path, rest) ← assignment input
  let (v, rest) ← (item rest).mapError commit
  return ((path, v), skipBlanks rest)

/-- The table of entries on a line. -/
def lineTable (entries : List (List String × Value)) : Except Problem (Keyed Node) :=
  entries.foldlM (fun table (path, v) =>
    addEntry .line none path.dropLast (path.getLast?.getD "") v table) []

/-- Reads the rest of a table on a line. -/
def tableTail (item : Reader Value) : Reader Value := fun input => Except.mapError commit do
  let (entries, rest) ← Reader.separated (lineEntry item) input
  let rest := skipBlanks rest
  match lineTable entries with
  | .error p => throw (problemAt input p)
  | .ok table =>
    match rest with
    | '}' :: rest => return (.table (tableValue table), rest)
    | _ => throw (((here rest).inside .inlineTable).expecting [.sign "\x7d"])

/-- Reads a value, with so many levels left for what it holds. -/
def valueWithin : (levels : Nat) → Reader Value
  | 0, input =>
    match input with
    | '[' :: _ => .error (problemAt input .tooDeep).commit
    | '{' :: _ => .error (problemAt input .tooDeep).commit
    | _ => simpleValue input
  | levels + 1, input =>
    match input with
    | '[' :: rest => arrayTail (valueWithin levels) rest
    | '{' :: rest => tableTail (valueWithin levels) rest
    | _ => simpleValue input

/-- Reads a value. -/
def value : Reader Value := valueWithin maxLevels

end WalletNotify.Toml
