/-!
# Tables of code points

Classes of characters as the lengths of alternating runs of code points outside and inside them, and
tables that hold numbers for single characters or for runs of them.
-/

namespace WalletNotify.Unicode

/-- The bounds of the runs that lie inside a class, the first run starting at `start`. -/
def insideRuns (start : Nat) : List Nat → List (Nat × Nat)
  | outside :: inside :: rest =>
    (start + outside, start + outside + inside) :: insideRuns (start + outside + inside) rest
  | _ => []

/-- The numbers in lines of decimal text with blanks between them. -/
def readNumbers (lines : List String) : List Nat :=
  lines.flatMap fun line => (line.splitOn " ").filterMap String.toNat?

/-- A class of characters, as half-open ranges of code points. -/
structure Ranges where
  runs : List (Nat × Nat)

namespace Ranges

/-- The class with the given run lengths. -/
def ofLines (lines : List String) : Ranges := ⟨insideRuns 0 (readNumbers lines)⟩

/-- Whether a character is in the class. -/
def contains (r : Ranges) (c : Char) : Bool :=
  r.runs.any fun run => run.1 ≤ c.toNat && c.toNat < run.2

end Ranges

/-- A table of code points in ascending order with the numbers kept for them. -/
structure Entries where
  rows : List (Nat × List Nat)

namespace Entries

/-- Rows in which each code point is told by its distance from the one before. -/
def sumDistances (start : Nat) : List (List Nat) → List (Nat × List Nat)
  | (distance :: numbers) :: rest =>
    (start + distance, numbers) :: sumDistances (start + distance) rest
  | [] :: rest => sumDistances start rest
  | [] => []

/-- The table written in lines, with commas between the rows. -/
def ofLines (lines : List String) : Entries :=
  ⟨sumDistances 0 (lines.flatMap fun line => (line.splitOn ",").map fun row => readNumbers [row])⟩

/-- What is kept for a character. -/
def find? (e : Entries) (c : Char) : Option (List Nat) := e.rows.lookup c.toNat

/-- The last number of the run that holds a character, zero outside of all runs. -/
def classOf (e : Entries) (c : Char) : Nat :=
  match e.rows.find? fun row => row.1 ≤ c.toNat && c.toNat < row.1 + row.2.headD 0 with
  | some row => row.2.getLastD 0
  | none => 0

end Entries

end WalletNotify.Unicode
