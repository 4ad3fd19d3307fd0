import WalletNotify.Power

/-!
# Durations

Lengths of time in nanoseconds, as far as a 64-bit number of seconds goes, and how they are shown.
-/

namespace WalletNotify.Time

/-- A length of time. -/
structure Duration where
  nanos : Nat
deriving DecidableEq, Repr

namespace Duration

/-- The longest duration: all seconds of 64 bits, and a nanosecond less than another. -/
def longest : Duration := ⟨2 ^ 64 * 10 ^ 9 - 1⟩

/-- A number of milliseconds. -/
def ofMillis (n : UInt64) : Duration := ⟨n.toNat * 10 ^ 6⟩

/-- Twice a duration, or the longest. -/
def double (d : Duration) : Duration := ⟨min (2 * d.nanos) longest.nanos⟩

/-- The digits of a fraction with `places` places, without zeros at the end. -/
def fraction (places n : Nat) : String :=
  let digits := Nat.toDigits 10 n
  let padded := List.replicate (places - digits.length) '0' ++ digits
  match (padded.reverse.dropWhile (· = '0')).reverse with
  | [] => ""
  | cs => "." ++ String.ofList cs

/-- A number of units of `10 ^ places` nanoseconds, with a fraction. -/
def inUnit (places : Nat) (unit : String) (nanos : Nat) : String :=
  toString (nanos / 10 ^ places)
    ++ (if nanos % 10 ^ places = 0 then "" else fraction places (nanos % 10 ^ places)) ++ unit

/-- A duration in the largest unit that it has one of. -/
def text (d : Duration) : String :=
  if 10 ^ 9 ≤ d.nanos then inUnit 9 "s" d.nanos
  else if 10 ^ 6 ≤ d.nanos then inUnit 6 "ms" d.nanos
  else if 10 ^ 3 ≤ d.nanos then inUnit 3 "µs" d.nanos
  else inUnit 0 "ns" d.nanos

end Duration

end WalletNotify.Time
