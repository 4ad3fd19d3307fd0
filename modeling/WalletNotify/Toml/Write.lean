import WalletNotify.Power

/-!
# Writing TOML strings

A string is written between the quotes that need no escapes, if there are such: plain quotes first,
then apostrophes, then three quotes, then three apostrophes.
-/

namespace WalletNotify.Toml

/-- The length of the longest run of a character. -/
def longestRun (c : Char) (cs : List Char) : Nat :=
  (cs.foldl (fun (best, run) d =>
    let run := if d = c then run + 1 else 0
    (max best run, run)) (0, 0)).1

/-- The quotes that a string may stand between. -/
inductive Quotes where
  | basic
  | literal
  | longBasic
  | longLiteral
  | escaped
deriving DecidableEq, Repr

/-- The quotes for a string of one line without controls. -/
def Quotes.choose (cs : List Char) : Quotes :=
  let quotes := longestRun '"' cs
  let apostrophes := longestRun '\x27' cs
  let hasBackslash := cs.contains '\\'
  if !hasBackslash && quotes = 0 then basic
  else if apostrophes = 0 then literal
  else if !hasBackslash && quotes ≤ 2 then longBasic
  else if apostrophes ≤ 2 then longLiteral
  else escaped

/-- A string of one line without controls, between quotes. -/
def quoted (s : String) : String :=
  match Quotes.choose s.toList with
  | .basic => "\"" ++ s ++ "\""
  | .literal => "'" ++ s ++ "'"
  | .longBasic => "\"\"\"" ++ s ++ "\"\"\""
  | .longLiteral => "'''" ++ s ++ "'''"
  | .escaped =>
    let escape := fun c => if c = '"' ∨ c = '\\' then ['\\', c] else [c]
    "\"" ++ String.ofList (s.toList.flatMap escape) ++ "\""

/-- The text of a number, if it is one of 64 bits with a sign. -/
def numberText? (n : Nat) : Option String := if n < 2 ^ 63 then some (toString n) else none

end WalletNotify.Toml
