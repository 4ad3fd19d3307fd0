import WalletNotify.Decimal.Binary64

/-!
# Shortest decimal texts

A binary number is written with as few digits as still tell it from its neighbours, without an
exponent. Of the decimal numbers that round to it, those on the coarsest grid of powers of ten are
looked at, and the nearest of them is taken.
-/

namespace WalletNotify.Decimal

/-- What rounds to a binary number: all between `low / scale` and `high / scale`, the ends as well
if `closed`; the number itself is `middle / scale`. -/
structure Interval where
  low : Nat
  middle : Nat
  high : Nat
  scale : Nat
  closed : Bool
deriving DecidableEq, Repr

namespace Interval

/-- What rounds to `significand * 2 ^ exponent`. Below a power of two the neighbour is half as
far. -/
def around (significand : Nat) (exponent : Int) : Interval :=
  let below :=
    if significand = 2 ^ 52 ∧ Binary64.leastExponent < exponent then 1 else 2
  let unit := 2 ^ (exponent - 2).toNat
  let scale := 2 ^ (2 - exponent).toNat
  ⟨(4 * significand - below) * unit, 4 * significand * unit, (4 * significand + 2) * unit, scale,
    significand % 2 = 0⟩

/-- The interval with all ends times `factor`. -/
def stretch (i : Interval) (factor : Nat) : Interval :=
  { i with low := i.low * factor, middle := i.middle * factor, high := i.high * factor }

/-- Whether a whole number lies in the interval. -/
def contains (i : Interval) (n : Nat) : Bool :=
  let x := n * i.scale
  if i.closed then i.low ≤ x && x ≤ i.high else i.low < x && x < i.high

/-- The whole number in the interval that is nearest to its middle, if there is one. -/
def whole? (i : Interval) : Option Nat :=
  let below := i.middle / i.scale
  let above := below + 1
  match i.contains below, i.contains above with
  | true, true =>
    some (if i.middle - below * i.scale ≤ above * i.scale - i.middle then below else above)
  | true, false => some below
  | false, true => some above
  | false, false => none

/-- The interval in units of a power of ten. -/
def inUnits (i : Interval) (place : Int) : Interval :=
  if 0 ≤ place then { i with scale := i.scale * 10 ^ place.toNat }
  else i.stretch (10 ^ (-place).toNat)

/-- The whole number on the coarsest grid, from a power of ten downwards, and that power. -/
def coarsest (i : Interval) : (steps : Nat) → (place : Int) → Nat × Int
  | 0, place => (i.middle / i.scale, place)
  | steps + 1, place =>
    match (i.inUnits place).whole? with
    | some n => (n, place)
    | none => coarsest i steps (place - 1)

end Interval

/-- The text of `n * 10 ^ place`, without an exponent. -/
def positional (n : Nat) (place : Int) : String :=
  let digits := Nat.toDigits 10 n
  if 0 ≤ place then String.ofList (digits ++ List.replicate place.toNat '0')
  else
    let places := (-place).toNat
    let padded := List.replicate (places + 1 - digits.length) '0' ++ digits
    let front := padded.take (padded.length - places)
    String.ofList (front ++ '.' :: padded.drop (padded.length - places))

namespace Binary64

/-- The text of a binary number. -/
def text : Binary64 → String
  | nan => "NaN"
  | infinite negative => if negative then "-inf" else "inf"
  | finite negative significand exponent =>
    let sign := if negative then "-" else ""
    if significand = 0 then sign ++ "0"
    else
      let i := Interval.around significand exponent
      let start := (Nat.toDigits 10 (i.high / i.scale)).length
      let (n, place) := i.coarsest (start + 1100) start
      sign ++ positional n place

end Binary64

end WalletNotify.Decimal
