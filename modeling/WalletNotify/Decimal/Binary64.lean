import WalletNotify.Power

/-!
# Binary numbers of 64 bits

A number is a significand of 53 bits times a power of two. A decimal number stands for the nearest
of them, and of two that are as near for the one with an even significand.
-/

namespace WalletNotify.Decimal

/-- A number of 64 bits: `significand * 2 ^ exponent`, an infinity, or no number. -/
inductive Binary64 where
  | finite (negative : Bool) (significand : Nat) (exponent : Int)
  | infinite (negative : Bool)
  | nan
deriving DecidableEq, Repr

/-- The value of decimal digits. -/
def digitsValue (digits : List Char) : Nat :=
  digits.foldl (fun n c => 10 * n + (c.toNat - 48)) 0

/-- A quotient rounded to the nearest number, a half to the even one. -/
def roundHalfEven (n d : Nat) : Nat :=
  let q := n / d
  let r := n % d
  if 2 * r < d then q
  else if d < 2 * r then q + 1
  else if q % 2 = 0 then q else q + 1

namespace Binary64

/-- The power of two of the last bit of the smallest numbers. -/
def leastExponent : Int := -1074

/-- The power of two of the last bit of the largest numbers. -/
def greatestExponent : Int := 971

/-- The quotient of two positive numbers, divided by a power of two and rounded. -/
def scaled (n d : Nat) (exponent : Int) : Nat :=
  if 0 ≤ exponent then roundHalfEven n (d * 2 ^ exponent.toNat)
  else roundHalfEven (n * 2 ^ (-exponent).toNat) d

/-- Whether a quotient is below a power of two. -/
def isBelow (n d : Nat) (exponent : Int) : Bool :=
  if 0 ≤ exponent then n < d * 2 ^ exponent.toNat else n * 2 ^ (-exponent).toNat < d

/-- The power of two that a quotient reaches. -/
def magnitude (n d : Nat) : Int :=
  let guess : Int := (Nat.log2 n : Int) - Nat.log2 d
  if isBelow n d guess then guess - 1 else guess

/-- The number nearest to the quotient of two positive numbers. -/
def nearest (negative : Bool) (n d : Nat) : Binary64 :=
  let exponent := max leastExponent (magnitude n d - 52)
  let significand := scaled n d exponent
  let (significand, exponent) :=
    if significand = 2 ^ 53 then (2 ^ 52, exponent + 1) else (significand, exponent)
  if greatestExponent < exponent then infinite negative
  else finite negative significand exponent

/-- The number nearest to `significand * 10 ^ exponent`. -/
def ofDecimal (negative : Bool) (significand : Nat) (exponent : Int) : Binary64 :=
  let size : Int := ((Nat.toDigits 10 significand).length : Int) + exponent
  if significand = 0 ∨ size < -330 then finite negative 0 leastExponent
  else if 310 < size then infinite negative
  else if 0 ≤ exponent then nearest negative (significand * 10 ^ exponent.toNat) 1
  else nearest negative significand (10 ^ (-exponent).toNat)

end Binary64

end WalletNotify.Decimal
