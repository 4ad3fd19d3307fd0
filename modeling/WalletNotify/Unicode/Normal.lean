import WalletNotify.Unicode.Composites

/-!
# Composed form

Text in which every base and its marks are one character where there is one. Characters are taken
apart, marks are ordered by class, and what follows a base is composed with it unless something in
between blocks it.
-/

namespace WalletNotify.Unicode

/-- The class of a mark, zero for a base. -/
def combiningClass (c : Char) : Nat :=
  if c.toNat < 128 then 0 else combiningClasses.classOf c

/-- The parts of a syllable of Hangul. -/
def hangulParts? (c : Char) : Option (List Char) :=
  let s := c.toNat - 0xAC00
  if 0xAC00 ≤ c.toNat ∧ s < 11172 then
    let base := [Char.ofNat (0x1100 + s / 588), Char.ofNat (0x1161 + s % 588 / 28)]
    some (if s % 28 = 0 then base else base ++ [Char.ofNat (0x11A7 + s % 28)])
  else none

/-- The syllable of Hangul that two characters make. -/
def hangulSyllable? (a b : Char) : Option Char :=
  if 0x1100 ≤ a.toNat ∧ a.toNat < 0x1113 ∧ 0x1161 ≤ b.toNat ∧ b.toNat < 0x1176 then
    some (Char.ofNat (0xAC00 + ((a.toNat - 0x1100) * 21 + (b.toNat - 0x1161)) * 28))
  else if 0xAC00 ≤ a.toNat ∧ a.toNat < 0xD7A4 ∧ (a.toNat - 0xAC00) % 28 = 0
      ∧ 0x11A8 ≤ b.toNat ∧ b.toNat < 0x11C3 then
    some (Char.ofNat (a.toNat + (b.toNat - 0x11A7)))
  else none

/-- The parts of a character; composed characters are at most four deep. -/
def parts : Nat → Char → List Char
  | 0, c => [c]
  | depth + 1, c =>
    if c.toNat < 128 then [c]
    else
      match hangulParts? c with
      | some cs => cs
      | none =>
        match composites.find? c with
        | some numbers => numbers.flatMap fun n => parts depth (Char.ofNat n)
        | none => [c]

/-- The character that two make. -/
def composite? (a b : Char) : Option Char :=
  match hangulSyllable? a b with
  | some c => some c
  | none =>
    (composites.rows.find? fun row => row.2 == [a.toNat, b.toNat]).map fun row => Char.ofNat row.1

/-- Puts a mark in front of the marks of a higher class that stand last, the last one first. -/
def placeMark (c : Char) : List Char → List Char
  | [] => [c]
  | a :: before =>
    if combiningClass c < combiningClass a then a :: placeMark c before else c :: a :: before

/-- Marks in order of class behind each base. -/
def orderMarks (cs : List Char) : List Char :=
  (cs.foldl (fun before c => if combiningClass c = 0 then c :: before else placeMark c before)
    []).reverse

/-- Composes what follows the base `base`, of which the marks `held` have been held back, the last
one first. -/
def composeAfter (base : Char) (held : List Char) : List Char → List Char
  | [] => base :: held.reverse
  | c :: rest =>
    let free := match held with
      | [] => true
      | last :: _ => combiningClass last < combiningClass c
    match if free then composite? base c else none with
    | some whole => composeAfter whole held rest
    | none =>
      if combiningClass c = 0 then base :: held.reverse ++ composeAfter c [] rest
      else composeAfter base (c :: held) rest

/-- Composes a text that is taken apart and ordered; marks without a base are kept. -/
def composeParts : List Char → List Char
  | [] => []
  | c :: rest => if combiningClass c = 0 then composeAfter c [] rest else c :: composeParts rest

/-- The composed form of a text. -/
def compose (cs : List Char) : List Char :=
  composeParts (orderMarks (cs.flatMap (parts 4)))

end WalletNotify.Unicode
