import WalletNotify.Toml.Basic
import WalletNotify.Toml.Fault

/-!
# Tables under construction

Tables grow entry by entry. How a table came about decides what may still be added to it: one with a
header of its own is not opened again, and one that keys with dots have made grows by such keys
only.
-/

namespace WalletNotify.Toml

open Text (Keyed)

/-- How a table came about: by its header, on the way to another header, or by a key with dots. -/
inductive Origin where
  | header
  | parent
  | dotted
deriving DecidableEq, Repr

/-- A place in a document: a value, a table, or a list of tables, the latest of them apart. -/
inductive Node where
  | value (v : Value)
  | table (origin : Origin) (entries : List (String × Node))
  | tables (latest : List (String × Node)) (earlier : List (List (String × Node)))

mutual

/-- The value of a place. -/
def Node.toValue : Node → Value
  | .value v => v
  | .table _ entries => .table (tableValue entries)
  | .tables latest earlier => .array (tableValues earlier ++ [.table (tableValue latest)])

/-- The values of a table's places. -/
def tableValue : List (String × Node) → List (String × Value)
  | [] => []
  | (key, node) :: rest => (key, node.toValue) :: tableValue rest

/-- The values of tables in a list, the latest last. -/
def tableValues : List (List (String × Node)) → List Value
  | [] => []
  | entries :: rest => tableValues rest ++ [.table (tableValue entries)]

end

/-- Where tables are built: among the headers of a document, or on a line. -/
inductive Site where
  | document
  | line
deriving DecidableEq, Repr

/-- Why a path does not lead through a value. -/
def blocked (site : Site) (front : List String) (key : String) (v : Value) : Problem :=
  match site, v with
  | .line, .table _ => .duplicateKey key none
  | _, _ => .notTable (front ++ [key]) v.kind

/-- A change of a table, which may depend on whether keys with dots have made it. -/
abbrev Change := (isDotted : Bool) → Keyed Node → Except Problem (Keyed Node)

/-- Changes the table at a path. Tables that are missing on the way are made, and of a list of
tables the latest is meant. A path of dotted keys does not lead into a table with a header. -/
def within (site : Site) (missing : Origin) (change : Change) (front : List String) :
    List String → Change
  | [], isDotted, entries => change isDotted entries
  | key :: path, _, entries =>
    match (Keyed.get? key entries).getD (.table missing []) with
    | .value v => .error (blocked site front key v)
    | .tables latest earlier => do
      let latest ← within site missing change (front ++ [key]) path false latest
      return Keyed.put key (.tables latest earlier) entries
    | .table origin inner =>
      if missing = .dotted ∧ origin = .header then .error (.duplicateKey key none)
      else do
        let inner ← within site missing change (front ++ [key]) path (origin = .dotted) inner
        return Keyed.put key (.table origin inner) entries

/-- Adds a value under a new key. A path in front of the key leads to a table that such paths have
made. -/
def addEntry (site : Site) (owner : Option (List String)) (path : List String) (key : String)
    (v : Value) (entries : Keyed Node) : Except Problem (Keyed Node) :=
  let change : Change := fun isDotted entries =>
    if isDotted = path.isEmpty then .error (.duplicateKey key none)
    else
      match Keyed.get? key entries with
      | some _ => .error (.duplicateKey key owner)
      | none => .ok (Keyed.put key (.value v) entries)
  within site .dotted change [] path false entries

/-- Opens the table of a header. One that is known by headers below it only may be opened. -/
def openTable (path : List String) (key : String) (root : Keyed Node) :
    Except Problem (Keyed Node) :=
  let change : Change := fun _ entries =>
    match Keyed.get? key entries with
    | none => .ok (Keyed.put key (.table .header []) entries)
    | some (.table .parent inner) => .ok (Keyed.put key (.table .header inner) entries)
    | some _ => .error (.duplicateKey key (some path))
  within .document .parent change [] path false root

/-- Opens one more table of a list. -/
def openElement (path : List String) (key : String) (root : Keyed Node) :
    Except Problem (Keyed Node) :=
  let change : Change := fun _ entries =>
    match Keyed.get? key entries with
    | none => .ok (Keyed.put key (.tables [] []) entries)
    | some (.tables latest earlier) => .ok (Keyed.put key (.tables [] (latest :: earlier)) entries)
    | some _ => .error (.duplicateKey key (some path))
  within .document .parent change [] path false root

end WalletNotify.Toml
