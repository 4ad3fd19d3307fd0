/-!
# Punycode

Labels of domain names in ASCII: the ASCII characters first, then, behind a hyphen, where the others
are inserted, as differences in a mixed radix that adapts to them.
-/

namespace WalletNotify.Url.Punycode

/-- The digit of a number below thirty-six. -/
def digit (n : Nat) : Char :=
  if n < 26 then Char.ofNat (97 + n) else Char.ofNat (22 + n)

/-- The number of a digit. -/
def digitValue? (c : Char) : Option Nat :=
  if 'a' ≤ c ∧ c ≤ 'z' then some (c.toNat - 97)
  else if 'A' ≤ c ∧ c ≤ 'Z' then some (c.toNat - 65)
  else if '0' ≤ c ∧ c ≤ '9' then some (c.toNat - 22)
  else none

/-- The least digit that another one follows, at position `k` of a difference. -/
def threshold (k bias : Nat) : Nat := min 26 (max 1 (36 * (k + 1) - bias))

/-- Some digit is always the last one, so that the digits of a difference come to an end. -/
theorem threshold_pos (k bias : Nat) : 0 < threshold k bias := by
  unfold threshold
  omega

/-- Divides a difference until it is small, and counts how often. -/
def shrink (delta : Nat) : Nat × Nat :=
  if delta ≤ 455 then (delta, 0)
  else
    let (small, count) := shrink (delta / 35)
    (small, count + 36)
termination_by delta
decreasing_by omega

/-- The bias after a difference, with `count` characters in the label. -/
def adapt (delta count : Nat) (first : Bool) : Nat :=
  let damped := if first then delta / 700 else delta / 2
  let (small, k) := shrink (damped + damped / count)
  k + 36 * small / (small + 38)

/-- The digits of a difference, the lowest first, from position `k` on. -/
def differenceDigits (bias k n : Nat) : List Char :=
  let t := threshold k bias
  if n < t then [digit n]
  else digit (t + (n - t) % (36 - t)) :: differenceDigits bias (k + 1) ((n - t) / (36 - t))
termination_by n
decreasing_by
  have h1 := threshold_pos k bias
  have h2 := Nat.div_le_self (n - threshold k bias) (36 - threshold k bias)
  omega

/-- The state of encoding: digits written, difference, bias and number of characters written. -/
structure Writing where
  digits : List Char
  delta : Nat
  bias : Nat
  count : Nat

/-- Looks at one character while those equal to `n` are written. -/
def Writing.look (basic n : Nat) (w : Writing) (c : Char) : Writing :=
  if c.toNat < n then { w with delta := w.delta + 1 }
  else if c.toNat = n then
    { digits := w.digits ++ differenceDigits w.bias 0 w.delta
      delta := 0
      bias := adapt w.delta (w.count + 1) (w.count == basic)
      count := w.count + 1 }
  else w

/-- Writes the characters equal to each of the numbers, in ascending order from `n` on. -/
def writeAll (label : List Char) (basic : Nat) : Nat → List Nat → Writing → Writing
  | _, [], w => w
  | n, m :: rest, w =>
    let w := { w with delta := w.delta + (m - n) * (w.count + 1) }
    let w := label.foldl (Writing.look basic m) w
    writeAll label basic (m + 1) rest { w with delta := w.delta + 1 }

/-- The ASCII form of a label. -/
def encode (label : List Char) : List Char :=
  let basic := label.filter fun c => c.toNat < 128
  let others := ((label.map Char.toNat).filter (128 ≤ ·)).mergeSort.eraseReps
  let start : Writing := ⟨[], 0, 72, basic.length⟩
  basic ++ (if basic.isEmpty then [] else ['-'])
    ++ (writeAll label basic.length 128 others start).digits

/-- Reads a difference from position `k` on, in front of which `weight` is the value of a digit. -/
def readDifference (bias : Nat) : Nat → Nat → Nat → List Char → Option (Nat × List Char)
  | _, _, _, [] => none
  | k, weight, sum, c :: rest =>
    match digitValue? c with
    | none => none
    | some d =>
      let sum := sum + d * weight
      let t := threshold k bias
      if d < t then some (sum, rest) else readDifference bias (k + 1) (weight * (36 - t)) sum rest

/-- Inserts characters as the differences tell, at most one for each of the digits. -/
def insertAll : Nat → (n i bias : Nat) → List Char → List Char → Option (List Char)
  | _, _, _, _, label, [] => some label
  | 0, _, _, _, _, _ :: _ => none
  | fuel + 1, n, i, bias, label, digits =>
    match readDifference bias 0 1 0 digits with
    | none => none
    | some (delta, rest) =>
      let count := label.length + 1
      let n := n + (i + delta) / count
      let i' := (i + delta) % count
      if n < 0x110000 ∧ ¬ (0xD800 ≤ n ∧ n < 0xE000) then
        insertAll fuel n (i' + 1) (adapt delta count (label.all fun c => c.toNat < 128))
          (label.take i' ++ Char.ofNat n :: label.drop i') rest
      else none

/-- The label of an ASCII form. A hyphen that nothing stands in front of is no digit. -/
def decode (form : List Char) : Option (List Char) :=
  let digits := (form.reverse.takeWhile (· != '-')).reverse
  let front := form.take (form.length - digits.length)
  let basic := front.dropLast
  if front = ['-'] ∨ basic.any fun c => 128 ≤ c.toNat then none
  else insertAll digits.length 128 0 72 basic digits

end WalletNotify.Url.Punycode
