import WalletNotify.Json.Scalar

/-!
# Written records

A record is written as an object with its members in the order of its shape and no blanks; an absent
record is `null`.
-/

namespace WalletNotify.Json

open Record (Shape)

/-- Texts with commas between them. -/
def commaSeparated : List (List Char) → List Char
  | [] => []
  | [x] => x
  | x :: xs => x ++ ',' :: commaSeparated xs

/-- The text of an array. -/
def writeArray (items : List (List Char)) : List Char := '[' :: commaSeparated items ++ [']']

/-- The text of a member. -/
def writeMember (name : String) (value : List Char) : List Char :=
  writeString name ++ ':' :: value

/-- The texts of the members of a record. -/
def writeMembers : (s : Shape Scalar) → s.Value → List (List Char)
  | .nil, _ => []
  | .scalar l k rest, v => writeMember l.name (k.write v.1) :: writeMembers rest v.2
  | .texts l rest, v =>
    writeMember l.name (writeArray (v.1.map writeString)) :: writeMembers rest v.2
  | .record l _ sub rest, v =>
    writeMember l.name (match v.1 with
      | none => ['n', 'u', 'l', 'l']
      | some r => '\x7b' :: commaSeparated (writeMembers sub r) ++ ['\x7d'])
      :: writeMembers rest v.2
  | .records l _ sub rest, v =>
    writeMember l.name (writeArray (v.1.map fun r =>
      '\x7b' :: commaSeparated (writeMembers sub r) ++ ['\x7d'])) :: writeMembers rest v.2

/-- The text of a record. -/
def write (s : Shape Scalar) (v : s.Value) : List Char :=
  '\x7b' :: commaSeparated (writeMembers s v) ++ ['\x7d']

end WalletNotify.Json
