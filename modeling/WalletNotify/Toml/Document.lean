import WalletNotify.Toml.Value

/-!
# TOML documents

A document is a list of lines: entries, which belong to the table of the header above them, headers,
comments and blank lines.
-/

namespace WalletNotify.Toml

open Fault
open Text (Keyed)

/-- A line that says something. -/
inductive Line where
  | entry (path : List String) (key : String) (v : Value)
  | header (path : List String) (key : String)
  | element (path : List String) (key : String)

/-- A path as the keys in front of the last one, and the last one. -/
def splitLast (path : List String) : List String × String := (path.dropLast, path.getLast?.getD "")

/-- Reads an entry with the rest of its line. -/
def entryLine : Reader Line := fun input => do
  let (path, rest) ← assignment input
  let (v, rest) ← value rest
  let rest ← restOfLine rest
  let (path, key) := splitLast path
  return (.entry path key v, rest)

/-- Reads a header with the rest of its line, its opening already read. -/
def headerLine (closing : List Char) (line : List String → String → Line) : Reader Line :=
  fun input => do
    let (path, rest) ← keyPath input
    if closing.isPrefixOf rest then
      let rest ← restOfLine (rest.drop closing.length)
      let (path, key) := splitLast path
      return (line path key, rest)
    else throw ((here rest).expecting [.sign ".", .sign (String.ofList closing)])

/-- Reads a header. -/
def anyHeader : Reader Line := fun input =>
  Except.mapError (Fault.inside .tableHeader) <|
    match input with
    | '[' :: '[' :: rest => headerLine [']', ']'] .element rest
    | ['['] => .error (here input)
    | _ => headerLine [']'] .header (input.drop 1)

/-- A document as far as it is read: its places, and the path of the table that is open. -/
structure Draft where
  root : Keyed Node
  current : List String

/-- A document with one line more. -/
def Draft.add (d : Draft) : Line → Except Problem Draft
  | .entry path key v => do
    let root ← within .document .parent
      (fun _ entries => addEntry .document (some d.current) path key v entries) [] d.current false
      d.root
    return { d with root }
  | .header path key => do return ⟨← openTable path key d.root, path ++ [key]⟩
  | .element path key => do return ⟨← openElement path key d.root, path ++ [key]⟩

/-- Adds a line that is read at the start of a text. -/
def Draft.addAt (d : Draft) (input : Input) (line : Line) : Except Fault Draft :=
  (d.add line).mapError fun p =>
    match line with
    | .entry .. => problemAt input p
    | _ => (problemAt input p).inside .tableHeader

/-- Reads the lines of a document, at most `fuel` of them. -/
def lines (d : Draft) : Nat → Input → Except Fault Draft
  | 0, input => .error (here input)
  | fuel + 1, input =>
    let start := skipBlanks input
    match start with
    | [] => .ok d
    | '#' :: _ => do
      let rest ← endOfLine (skipComment start)
      lines d fuel rest
    | '[' :: _ => do
      let (line, rest) ← anyHeader start
      let d ← d.addAt start line
      lines d fuel rest
    | _ =>
      match lineBreak? start with
      | some rest => lines d fuel rest
      | none =>
        if start.head? = some '\r' then .error (here start)
        else do
          let (line, rest) ← entryLine start
          let d ← d.addAt start line
          lines d fuel rest

/-- Leaves the mark at the start of a text out. -/
def skipMark : Input → Input
  | '\ufeff' :: rest => rest
  | input => input

/-- Reads a document. -/
def read (text : String) : Except Fault Table := do
  let input := text.toList
  let d ← lines ⟨[], []⟩ (input.length + 1) (skipMark input)
  return tableValue d.root

end WalletNotify.Toml
