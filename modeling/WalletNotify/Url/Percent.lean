import WalletNotify.Text.Hex
import WalletNotify.Text.Utf8

/-!
# Percent encoding

Each part of a URL has a set of characters that it does not hold as they are; the bytes of those are
written as a percent sign and two digits.
-/

namespace WalletNotify.Url

/-- A set of characters to encode. -/
abbrev CharSet := Char → Bool

namespace CharSet

/-- Characters that no part holds: controls and all that is not ASCII. -/
def controls : CharSet := fun c => c.toNat < 32 || 126 < c.toNat

/-- A set with more characters. -/
def adding (s : CharSet) (cs : List Char) : CharSet := fun c => s c || cs.contains c

/-- What a fragment does not hold. -/
def fragment : CharSet := controls.adding [' ', '"', '<', '>', '\x60']

/-- What a query does not hold. -/
def query : CharSet := controls.adding [' ', '"', '#', '<', '>']

/-- What a query does not hold under the well-known schemes. -/
def specialQuery : CharSet := query.adding ['\x27']

/-- What a path does not hold. -/
def path : CharSet := fragment.adding ['#', '?', '\x7b', '\x7d']

/-- What a user name or a password does not hold. -/
def userinfo : CharSet := path.adding ['/', ':', ';', '=', '@', '[', '\\', ']', '^', '|']

end CharSet

/-- The upper-case digit of a number below sixteen. -/
def upperDigit (n : Nat) : Char := if n < 10 then Char.ofNat (48 + n) else Char.ofNat (55 + n)

/-- A byte as a percent sign and two digits. -/
def percentByte (b : UInt8) : List Char :=
  ['%', upperDigit (b.toNat / 16), upperDigit (b.toNat % 16)]

/-- Text with the characters of a set encoded. -/
def percentEncode (s : CharSet) (cs : List Char) : List Char :=
  cs.flatMap fun c =>
    if s c then (Text.utf8 (String.singleton c)).flatMap percentByte else [c]

/-- Bytes with every percent sign that two digits follow replaced by the byte they tell. -/
def percentDecode : List UInt8 → List UInt8
  | [] => []
  | 37 :: a :: b :: rest =>
    match Text.Hex.digitValue? (Char.ofNat a.toNat), Text.Hex.digitValue? (Char.ofNat b.toNat) with
    | some h, some l => UInt8.ofNat (16 * h + l) :: percentDecode rest
    | _, _ => 37 :: percentDecode (a :: b :: rest)
  | b :: rest => b :: percentDecode rest

end WalletNotify.Url
