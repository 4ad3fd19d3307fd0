import WalletNotify.Power
import WalletNotify.Text.Hex
import WalletNotify.Url.Fault

/-!
# Addresses

Addresses of both versions of the internet protocol, as hosts spell them.
-/

namespace WalletNotify.Url

/-- An address of version four. -/
abbrev Ipv4 := UInt32

/-- An address of version six: eight pieces. -/
abbrev Ipv6 := List UInt16

/-- The value of digits in a base. -/
def numberIn? (base : Nat) (cs : List Char) : Option Nat :=
  cs.foldlM (fun n c => do
    let d ← Text.Hex.digitValue? c
    if d < base then some (base * n + d) else none) 0

namespace Ipv4

/-- The four bytes of an address, the highest first. -/
def bytes (a : Ipv4) : List Nat :=
  [a.toNat / 2 ^ 24, a.toNat / 2 ^ 16 % 256, a.toNat / 2 ^ 8 % 256, a.toNat % 256]

/-- The text of an address. -/
def text (a : Ipv4) : String := ".".intercalate ((bytes a).map fun n => toString n)

/-- Reads a part of an address: hexadecimal behind `0x`, octal behind another zero. -/
def part? : List Char → Option Nat
  | [] => none
  | '0' :: 'x' :: digits => numberIn? 16 digits
  | '0' :: 'X' :: digits => numberIn? 16 digits
  | '0' :: c :: digits => numberIn? 8 (c :: digits)
  | digits => numberIn? 10 digits

/-- Whether a name is meant as an address: its last part is a number. One empty part may follow. -/
def endsInNumber (name : List Char) : Bool :=
  let last := match (name.splitOn '.').reverse with
    | [] :: before :: _ => before
    | last :: _ => last
    | [] => []
  (!last.isEmpty && last.all Char.isDigit) || (part? last).isSome

/-- The value of at most `k` parts: all but the last are bytes, and the last fills the rest. -/
def ofParts? : Nat → List Nat → Option Nat
  | _, [] => none
  | 0, _ :: _ => none
  | k + 1, [last] => if last < 256 ^ (k + 1) then some last else none
  | k + 1, n :: rest => do
    let low ← ofParts? k rest
    if n < 256 then some (n * 256 ^ k + low) else none

/-- Reads an address of one to four parts. -/
def read (name : List Char) : Except Fault Ipv4 :=
  let parts := match (name.splitOn '.').reverse with
    | [] :: before => before.reverse
    | all => all.reverse
  match (parts.mapM part?).bind (ofParts? 4) with
  | some n => .ok (UInt32.ofNat n)
  | none => .error .badIpv4

end Ipv4

namespace Ipv6

/-- The text of a piece, without leading zeros. -/
def pieceText (p : UInt16) : String := String.ofList (Nat.toDigits 16 p.toNat)

/-- The length of the run of zeros in front. -/
def zeros (a : List UInt16) : Nat := (a.takeWhile (· == 0)).length

/-- The first of the longest runs of zeros: where it starts, and its length. -/
def longestZeros : Nat → List UInt16 → Nat × Nat
  | _, [] => (0, 0)
  | start, p :: rest =>
    let later := longestZeros (start + 1) rest
    let here := zeros (p :: rest)
    if later.2 ≤ here then (start, here) else later

/-- Pieces with colons between them. -/
def pieces (a : List UInt16) : String := ":".intercalate (a.map pieceText)

/-- The text of an address; the first of the longest runs of two zeros or more is left out. -/
def text (a : Ipv6) : String :=
  let (start, length) := longestZeros 0 a
  if length < 2 then pieces a
  else pieces (a.take start) ++ "::" ++ pieces (a.drop (start + length))

/-- Reads a decimal byte without leading zeros. -/
def decimalByte? (cs : List Char) : Option Nat :=
  match cs with
  | [] => none
  | '0' :: _ :: _ => none
  | digits =>
    if digits.all Char.isDigit then
      (numberIn? 10 digits).bind fun n => if n < 256 then some n else none
    else none

/-- Reads an address of version four at the end, as two pieces. -/
def embedded? (cs : List Char) : Option (List UInt16) := do
  match ← (cs.splitOn '.').mapM decimalByte? with
  | [a, b, c, d] => some [UInt16.ofNat (256 * a + b), UInt16.ofNat (256 * c + d)]
  | _ => none

/-- Reads a piece of one to four digits. -/
def piece? (cs : List Char) : Option UInt16 :=
  if cs.isEmpty ∨ 4 < cs.length then none else (numberIn? 16 cs).map UInt16.ofNat

/-- Reads pieces with colons between them; the last may be an address of version four. -/
def pieces? : List (List Char) → Option (List UInt16)
  | [] => some []
  | [last] =>
    if last.contains '.' then embedded? last
    else do
      let p ← piece? last
      return [p]
  | first :: rest => do
    let p ← piece? first
    let ps ← pieces? rest
    return p :: ps

/-- The pieces of a part of an address, which may be empty. -/
def side? (cs : List Char) : Option (List UInt16) :=
  if cs.isEmpty then some [] else pieces? (cs.splitOn ':')

/-- The parts of a text around the first pair of colons. -/
def splitGap? : List Char → Option (List Char × List Char)
  | ':' :: ':' :: rest => some ([], rest)
  | c :: rest => (splitGap? rest).map fun (before, after) => (c :: before, after)
  | [] => none

/-- Reads an address: eight pieces, or fewer around one pair of colons. -/
def read? (cs : List Char) : Option Ipv6 :=
  match splitGap? cs with
  | none => do
    let ps ← side? cs
    if ps.length = 8 then some ps else none
  | some (before, after) => do
    let front ← side? before
    let back ← side? after
    if before.contains '.' ∨ 7 < front.length + back.length then none
    else some (front ++ List.replicate (8 - front.length - back.length) 0 ++ back)

/-- Reads an address. -/
def read (cs : List Char) : Except Fault Ipv6 :=
  match read? cs with
  | some a => .ok a
  | none => .error .badIpv6

end Ipv6

end WalletNotify.Url
