import WalletNotify.Proofs.Text.Hex

/-!
# Faults of hexadecimal text

A text is hexadecimal if it has pairs of digits and nothing else. What is wrong with any other text
is told by `Faulty`: its length, or else the place of the first byte that is no digit. Main
statements: a text is read exactly if it is hexadecimal (`decode_eq_ok`), and otherwise what is
wrong with it is told (`decode_eq_error`).
-/

namespace WalletNotify.Text.Hex

/-- A hexadecimal digit, of either case. -/
def IsDigit (c : Char) : Prop :=
  ('0' ≤ c ∧ c ≤ '9') ∨ ('a' ≤ c ∧ c ≤ 'f') ∨ ('A' ≤ c ∧ c ≤ 'F')

instance : DecidablePred IsDigit :=
  fun c => inferInstanceAs (Decidable (('0' ≤ c ∧ c ≤ '9') ∨ _))

/-- A byte of text that is a hexadecimal digit. -/
def IsDigitByte (b : UInt8) : Prop := IsDigit (Char.ofNat b.toNat)

instance : DecidablePred IsDigitByte :=
  fun b => inferInstanceAs (Decidable (IsDigit (Char.ofNat b.toNat)))

/-- A text of hexadecimal digits with an even number of bytes. -/
structure IsHex (s : String) : Prop where
  even : (utf8 s).length % 2 = 0
  digits : ∀ c ∈ s.toList, IsDigit c

/-- What is wrong with a text that is not hexadecimal: its length, whatever it is made of, and
otherwise the first byte that is no digit. -/
inductive Faulty (s : String) : Fault → Prop where
  | length : (utf8 s).length % 2 = 1 → Faulty s .oddLength
  | character {before b after} :
    (utf8 s).length % 2 = 0 → utf8 s = before ++ b :: after → (∀ d ∈ before, IsDigitByte d) →
    ¬ IsDigitByte b → Faulty s (.invalidCharacter b before.length)

/-! ## Digits -/

/-- A character has no value exactly if it is no digit. -/
lemma digitValue?_eq_none {c : Char} : digitValue? c = none ↔ ¬ IsDigit c := by
  unfold digitValue? IsDigit
  split_ifs with decimal lower upper <;> simp [*]

/-- A digit of either case is ASCII. -/
lemma isDigit_ascii {c : Char} (digit : IsDigit c) : c.toNat < 128 := by
  have bound {d : Char} (small : d.toNat < 128) (le : c ≤ d) : c.toNat < 128 :=
    Nat.lt_of_le_of_lt (UInt32.le_iff_toNat_le.mp le) small
  rcases digit with ⟨-, le⟩ | ⟨-, le⟩ | ⟨-, le⟩ <;> exact bound (by decide) le

/-- A byte is read as a digit if it is one. -/
lemma exists_readDigit_iff {b : UInt8} {position : Nat} :
    (∃ n, readDigit b position = .ok n) ↔ IsDigitByte b := by
  simp only [readDigit_eq_ok]
  rw [IsDigitByte, ← Option.isSome_iff_exists, Option.isSome_iff_ne_none, ne_eq,
    digitValue?_eq_none, not_not]

/-- A byte that is no digit is a fault at its position. -/
lemma readDigit_eq_error {b : UInt8} {position : Nat} {fault : Fault} :
    readDigit b position = .error fault ↔
      ¬ IsDigitByte b ∧ fault = .invalidCharacter b position := by
  rw [IsDigitByte, ← digitValue?_eq_none, readDigit]
  split
  case h_1 n value => simp [value]
  case h_2 none => simp [none, eq_comm]

/-- A byte that is a digit is ASCII. -/
lemma isDigitByte_ascii {b : UInt8} (digit : IsDigitByte b) : b.toNat < 128 := by
  obtain ⟨n, read⟩ := (@exists_readDigit_iff b 0).mpr digit
  exact (digit_of_digitValue? b.toNat b.toNat_lt n (readDigit_eq_ok.mp read)).2.1

/-- The characters of a text are digits if its bytes are. -/
lemma forall_isDigit_iff {s : String} :
    (∀ c ∈ s.toList, IsDigit c) ↔ ∀ b ∈ utf8 s, IsDigitByte b := by
  constructor
  · intro digits
    have bytes := utf8_ofList fun c member => isDigit_ascii (digits c member)
    rw [String.ofList_toList] at bytes
    rw [bytes]
    intro b listed
    obtain ⟨c, member, rfl⟩ := List.mem_map.mp listed
    have small := isDigit_ascii (digits c member)
    rw [IsDigitByte, UInt8.toNat_ofNat_of_lt' (by simp only [UInt8.size]; omega), Char.ofNat_toNat]
    exact digits c member
  · intro digits
    have whole := eq_ofList_of_ascii fun b member => isDigitByte_ascii (digits b member)
    rw [whole, String.toList_ofList]
    intro c listed
    obtain ⟨b, member, rfl⟩ := List.mem_map.mp listed
    exact digits b member

/-! ## Reading -/

/-- Pairs of digits are read up to the first byte that is none. -/
lemma readPairs_eq_error {position : Nat} {text : List UInt8} {fault : Fault}
    (even : text.length % 2 = 0) : readPairs position text = .error fault ↔
      ∃ before b after, text = before ++ b :: after ∧ (∀ d ∈ before, IsDigitByte d) ∧
        ¬ IsDigitByte b ∧ fault = .invalidCharacter b (position + before.length) := by
  fun_induction readPairs position text with
  | case1 position high low rest ih =>
    simp only [List.length_cons] at even
    simp only [bind_eq_error, readDigit_eq_error, ih (by omega)]
    constructor
    · rintro (⟨bad, rfl⟩ | ⟨h, high', ⟨bad, rfl⟩ |
        ⟨l, low', ⟨before, b, after, rfl, digits, bad, rfl⟩ | ⟨_, _, ⟨⟩⟩⟩⟩)
      · exact ⟨[], high, low :: rest, rfl, List.forall_mem_nil _, bad, rfl⟩
      · refine ⟨[high], low, rest, rfl, ?_, bad, rfl⟩
        exact List.forall_mem_singleton.mpr (exists_readDigit_iff.mp ⟨h, high'⟩)
      · refine ⟨high :: low :: before, b, after, rfl, ?_, bad, ?_⟩
        · rw [List.forall_mem_cons, List.forall_mem_cons]
          exact ⟨exists_readDigit_iff.mp ⟨h, high'⟩, exists_readDigit_iff.mp ⟨l, low'⟩, digits⟩
        · simp only [List.length_cons, Nat.add_assoc, Nat.add_comm 2]
    · rintro ⟨before, b, after, parts, digits, bad, rfl⟩
      rcases before with _ | ⟨d, _ | ⟨d', before⟩⟩ <;> cases parts
      case nil.refl => exact .inl ⟨bad, rfl⟩
      case cons.nil.refl =>
        obtain ⟨h, high'⟩ := exists_readDigit_iff.mpr (List.forall_mem_singleton.mp digits)
        exact .inr ⟨h, high', .inl ⟨bad, rfl⟩⟩
      case cons.cons.refl =>
        rw [List.forall_mem_cons, List.forall_mem_cons] at digits
        obtain ⟨first, second, digits⟩ := digits
        obtain ⟨h, high'⟩ := exists_readDigit_iff.mpr first
        obtain ⟨l, low'⟩ := exists_readDigit_iff.mpr second
        refine .inr ⟨h, high', .inr ⟨l, low', .inl ⟨before, _, after, rfl, digits, bad, ?_⟩⟩⟩
        simp only [List.length_cons, Nat.add_assoc, Nat.add_comm 2]
  | case2 text position notPair =>
    -- What is not a pair is at most one byte, and by its even length none.
    rcases text with _ | ⟨high, _ | ⟨low, rest⟩⟩
    case nil => simp
    case cons.nil => simp at even
    case cons.cons => exact (notPair high low rest rfl).elim

/-- A text is not read for what is wrong with it. -/
theorem decode_eq_error {s : String} {fault : Fault} :
    decode s = .error fault ↔ Faulty s fault := by
  simp only [decode]
  split
  case isTrue odd =>
    constructor
    · rintro ⟨⟩
      exact .length odd
    · rintro (_ | ⟨even⟩)
      · rfl
      · omega
  case isFalse notOdd =>
    have even : (utf8 s).length % 2 = 0 := by omega
    rw [readPairs_eq_error even]
    simp only [Nat.zero_add]
    constructor
    · rintro ⟨before, b, after, parts, digits, bad, rfl⟩
      exact .character even parts digits bad
    · rintro (odd | ⟨-, parts, digits, bad⟩)
      · exact absurd odd notOdd
      · exact ⟨_, _, _, parts, digits, bad, rfl⟩

/-- Something is wrong with a text if it is not hexadecimal. -/
lemma exists_faulty_iff {s : String} : (∃ fault, Faulty s fault) ↔ ¬ IsHex s := by
  constructor
  · rintro ⟨fault, odd | ⟨-, parts, -, bad⟩⟩ hex
    · have even := hex.even
      omega
    · apply bad
      apply forall_isDigit_iff.mp hex.digits
      rw [parts]
      exact List.mem_append_right _ List.mem_cons_self
  · intro notHex
    by_cases even : (utf8 s).length % 2 = 0
    · have bad : ∃ b ∈ utf8 s, ¬ IsDigitByte b := by
        by_contra none
        exact notHex ⟨even, forall_isDigit_iff.mpr (by simpa using none)⟩
      -- The first of the bad bytes is at fault.
      cases found : (utf8 s).find? (fun b => ¬ IsDigitByte b) with
      | none =>
        obtain ⟨b, member, bad⟩ := bad
        exact absurd bad (by simpa using List.find?_eq_none.mp found b member)
      | some b =>
        obtain ⟨bad, before, after, parts, digits⟩ := List.find?_eq_some_iff_append.mp found
        exact ⟨_, .character even parts (by simpa using digits) (by simpa using bad)⟩
    · exact ⟨_, .length (by omega)⟩

/-- A text is read exactly if it is hexadecimal, as the bytes that it is the text of but for the
case of its letters. -/
theorem decode_eq_ok {s : String} {bytes : List UInt8} :
    decode s = .ok bytes ↔ IsHex s ∧ encode bytes = s.toLower := by
  constructor
  · intro read
    refine ⟨?_, encode_of_decode read⟩
    by_contra notHex
    obtain ⟨fault, faulty⟩ := exists_faulty_iff.mpr notHex
    cases read.symm.trans (decode_eq_error.mpr faulty)
  · rintro ⟨hex, lower⟩
    cases read : decode s with
    | error fault => exact absurd hex (exists_faulty_iff.mp ⟨fault, decode_eq_error.mp read⟩)
    | ok others => rw [encode_injective (lower.trans (encode_of_decode read).symm)]

end WalletNotify.Text.Hex
