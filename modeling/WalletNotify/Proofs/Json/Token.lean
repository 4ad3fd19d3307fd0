import WalletNotify.Proofs.Json.Strings

/-!
# Written scalars

A string is read up to its closing quote, a number up to what is no part of a number. Main
statement: a scalar is read from its own text, and what follows it is left
(`Scalar.read_write_append`).
-/

namespace WalletNotify.Json

variable {α : Type}

/-! ## Texts that are read -/

/-- Nothing follows that a number would go on with. -/
def Ends (rest : Input) : Prop :=
  ∀ c ∈ rest.head?, ¬ c.isDigit ∧ c ≠ '.' ∧ c ≠ 'e' ∧ c ≠ 'E'

namespace Ends

/-- A token ends where the text does. -/
lemma nil : Ends [] := nofun

/-- A token ends before a comma. -/
lemma comma (rest : Input) : Ends (',' :: rest) := by
  rintro c ⟨⟩
  decide

/-- A token ends before a bracket. -/
lemma bracket (rest : Input) : Ends (']' :: rest) := by
  rintro c ⟨⟩
  decide

/-- A token ends before a brace. -/
lemma brace (rest : Input) : Ends ('\x7d' :: rest) := by
  rintro c ⟨⟩
  decide

end Ends

/-- There are no blanks before a visible character. -/
lemma skipBlanks_cons {c : Char} (visible : isBlank c = false) (rest : Input) :
    skipBlanks (c :: rest) = c :: rest := by
  rw [skipBlanks, List.dropWhile_cons_of_neg (by simp [visible])]

/-! ## Strings -/

/-- A text is read from a string in quotes. -/
lemma readString_writeString (s : String) (rest : Input) :
    readString (writeString s ++ rest) = .ok (s, rest) := by
  obtain ⟨body, quoted, spells⟩ := isName_writeString s
  rw [quoted, List.cons_append, List.append_assoc, readString, skipBlanks_cons (by decide)]
  simp only [List.singleton_append, spells.string rest, ok_bind, String.ofList_toList]
  rfl

/-! ## Numbers -/

/-- The digits of a number in front of what ends it are told from it. -/
lemma takeWhile_digits {digits rest : List Char} (all : ∀ c ∈ digits, c.isDigit)
    (ends : Ends rest) :
    (digits ++ rest).takeWhile Char.isDigit = digits ∧
      (digits ++ rest).dropWhile Char.isDigit = rest := by
  rw [List.takeWhile_append_of_pos all, List.dropWhile_append_of_pos all]
  cases rest with
  | nil => simp
  | cons c rest =>
    have stop := (ends c rfl).1
    simp [stop]

/-- A number has a digit at least, and only zero begins with the digit zero. -/
lemma toDigits_eq_cons (n : Nat) :
    ∃ c cs, Nat.toDigits 10 n = c :: cs ∧ c.isDigit ∧ (c = '0' → n = 0) := by
  induction n using Nat.strongRecOn with
  | ind n ih =>
    by_cases small : n < 10
    case pos =>
      refine ⟨n.digitChar, [], Nat.toDigits_of_lt_base small, ?_, Nat.digitChar_eq_zero.mp⟩
      rw [Nat.isDigit_digitChar]
      exact decide_eq_true small
    case neg =>
      obtain ⟨c, cs, digits, digit, zero⟩ := ih (n / 10) (by omega)
      refine ⟨c, cs ++ [(n % 10).digitChar], ?_, digit, ?_⟩
      · rw [Nat.toDigits_of_base_le (by decide) (by omega), digits]
        rfl
      · intro first
        have none := zero first
        omega

/-- Nothing but an integer ends where its digits end. -/
lemma integerTail_of_ends {rest : Input} (ends : Ends rest) (negative : Bool) (n : Nat) :
    integerTail negative n rest = integerNumber negative n rest := by
  unfold integerTail
  split
  case h_1 => exact absurd rfl (ends _ rfl).2.1
  case h_2 => exact absurd rfl (ends _ rfl).2.2.1
  case h_3 => exact absurd rfl (ends _ rfl).2.2.2
  case h_4 => rfl

/-- An integer is read from its digits. -/
lemma unsignedNumber_toDigits {rest : Input} (ends : Ends rest) (negative : Bool) (n : Nat) :
    unsignedNumber negative (Nat.toDigits 10 n ++ rest) = integerNumber negative n rest := by
  rcases Nat.eq_zero_or_pos n with rfl | pos
  · rw [Nat.toDigits_zero, List.singleton_append, ← integerTail_of_ends ends]
    cases rest with
    | nil => rfl
    | cons c rest => exact if_neg (ends c rfl).1
  · obtain ⟨c, cs, digits, first, zero⟩ := toDigits_eq_cons n
    have others : ∀ d ∈ cs, d.isDigit := by
      intro d mem
      have digit : d ∈ Nat.toDigits 10 n := digits ▸ List.mem_cons_of_mem c mem
      exact Nat.isDigit_of_mem_toDigits (by decide) (by decide) digit
    have value : digitsValue (c :: cs) = n := by
      rw [← digits]
      exact Nat.ofDigitChars_ten_toDigits
    obtain ⟨taken, left⟩ := takeWhile_digits others ends
    rw [digits, List.cons_append, unsignedNumber, if_pos first, taken, left, value]
    · exact integerTail_of_ends ends negative n
    · intro leading
      have none := zero leading
      omega

/-- The text of an integer: a sign if it is negative, and digits. -/
lemma toString_int (i : Int) :
    (toString i).toList =
      if 0 ≤ i then Nat.toDigits 10 i.toNat else '-' :: Nat.toDigits 10 (-i).toNat := by
  rw [Int.toString_eq_repr, Int.repr_eq_if]
  split
  · rw [Nat.repr_eq_ofList_toDigits, String.toList_ofList]
  · rw [String.toList_append, Nat.repr_eq_ofList_toDigits, String.toList_ofList,
      String.toList_ofList]
    rfl

/-- The text of an integer begins with a sign or a digit. -/
lemma toString_int_eq_cons (i : Int) :
    ∃ c cs, (toString i).toList = c :: cs ∧ (c = '-' ∨ c.isDigit) := by
  rw [toString_int]
  split
  case isTrue =>
    obtain ⟨c, cs, digits, digit, -⟩ := toDigits_eq_cons i.toNat
    exact ⟨c, cs, digits, .inr digit⟩
  case isFalse => exact ⟨'-', _, rfl, .inl rfl⟩

/-- A number that begins with a digit has no sign. -/
lemma number_of_isDigit {c : Char} (digit : c.isDigit) (rest : Input) :
    number (c :: rest) = unsignedNumber false (c :: rest) := by
  rw [number]
  rintro rest ⟨⟩
  cases digit

/-- An integer of 64 bits, with a sign or without one, is read from its text. -/
lemma number_toString {i : Int} (low : -2 ^ 63 ≤ i) (high : i < 2 ^ 64) {rest : Input}
    (ends : Ends rest) : number ((toString i).toList ++ rest) = .ok (.integer i, rest) := by
  rw [toString_int]
  split
  case isTrue nonneg =>
    have digits := unsignedNumber_toDigits ends false i.toNat
    have whole : ((i.toNat : Nat) : Int) = i := Int.toNat_of_nonneg nonneg
    have small : i.toNat < 2 ^ 64 := by omega
    obtain ⟨c, cs, spelled, digit, -⟩ := toDigits_eq_cons i.toNat
    rw [spelled, List.cons_append] at digits ⊢
    rw [number_of_isDigit digit, digits]
    simp only [integerNumber, Bool.false_eq_true, if_false, if_pos small, whole]
  case isFalse negative =>
    have digits := unsignedNumber_toDigits ends true (-i).toNat
    have whole : (((-i).toNat : Nat) : Int) = -i := Int.toNat_of_nonneg (by omega)
    have small : 0 < (-i).toNat ∧ (-i).toNat ≤ 2 ^ 63 := by omega
    simp only [List.cons_append, number, digits, integerNumber, if_true, if_pos small, whole,
      Int.neg_neg]

/-- An integer does not begin with a blank. -/
lemma isBlank_of_integer {c : Char} (first : c = '-' ∨ c.isDigit) : isBlank c = false := by
  rcases first with rfl | digit
  · decide
  · unfold isBlank
    by_contra blank
    simp only [Bool.not_eq_false, Bool.or_eq_true, decide_eq_true_eq] at blank
    rcases blank with ((rfl | rfl) | rfl) | rfl <;> cases digit

/-- An integer of 64 bits that there is room for is read from its text. -/
lemma readInteger_toString {fit : Int → Option α} {i : Int} {a : α} (fits : fit i = some a)
    (low : -2 ^ 63 ≤ i) (high : i < 2 ^ 64) {rest : Input} (ends : Ends rest) :
    readInteger fit ((toString i).toList ++ rest) = .ok (a, rest) := by
  have read := number_toString low high ends
  obtain ⟨c, cs, text, first⟩ := toString_int_eq_cons i
  rw [text, List.cons_append] at read ⊢
  rw [readInteger, skipBlanks_cons (isBlank_of_integer first)]
  simp only [if_pos first, read, ok_bind, fits]
  rfl

/-- A scalar is read from its own text. -/
theorem Scalar.read_write_append (k : Scalar) (v : k.Value) {rest : Input} (ends : Ends rest) :
    k.read (k.write v ++ rest) = .ok (v, rest) := by
  cases k with
  | text => exact readString_writeString v rest
  | word32 =>
    change UInt32 at v
    have room := v.toNat_lt
    refine readInteger_toString (i := v.toNat) ?_ (by omega) (by omega) ends
    rw [if_pos (by omega), Int.toNat_natCast, UInt32.ofNat_toNat]
  | word64 =>
    change UInt64 at v
    have room := v.toNat_lt
    refine readInteger_toString (i := v.toNat) ?_ (by omega) (by omega) ends
    rw [if_pos (by omega), Int.toNat_natCast, UInt64.ofNat_toNat]
  | signed64 =>
    change Int64 at v
    have low := v.le_toInt
    have high := v.toInt_lt
    refine readInteger_toString (i := v.toInt) ?_ (by omega) (by omega) ends
    rw [if_pos (by omega), Int64.ofInt_toInt]

end WalletNotify.Json
