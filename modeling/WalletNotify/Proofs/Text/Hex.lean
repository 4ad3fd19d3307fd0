import Mathlib.Tactic.Lemma
import WalletNotify.Proofs.Result
import WalletNotify.Text.Hex

/-!
# Reading and writing hexadecimal text

Main statements: the text of bytes is read as those bytes (`decode_encode`), and a text that is read
is written again with its letters in lower case (`encode_of_decode`).
-/

namespace WalletNotify.Text

/-- Two texts of the same bytes are one. -/
lemma utf8_injective {s t : String} (same : utf8 s = utf8 t) : s = t := by
  have read := congrArg ofUtf8? same
  rw [ofUtf8?_utf8, ofUtf8?_utf8] at read
  exact Option.some.inj read

/-- The bytes of a text are those of its characters. -/
lemma utf8_eq_flatMap (s : String) : utf8 s = s.toList.flatMap String.utf8EncodeChar := by
  have bytes (chars : List Char) :
      utf8 (String.ofList chars) = chars.flatMap String.utf8EncodeChar := by
    simp [utf8, List.utf8Encode]
  rw [← bytes, String.ofList_toList]

/-- An ASCII character is encoded as its own number. -/
lemma utf8EncodeChar_of_ascii {c : Char} (ascii : c.toNat < 128) :
    String.utf8EncodeChar c = [UInt8.ofNat c.toNat] := by
  apply String.utf8EncodeChar_eq_singleton
  have small : c.val.toNat ≤ 127 := Nat.le_of_lt_succ ascii
  simp only [Char.utf8Size]
  exact if_pos (UInt32.le_iff_toNat_le.mpr small)

/-- No byte of a character beyond ASCII is ASCII. -/
lemma le_of_mem_utf8EncodeChar {c : Char} (beyond : 128 ≤ c.toNat) :
    ∀ b ∈ String.utf8EncodeChar c, 128 ≤ b.toNat := by
  unfold String.utf8EncodeChar
  have large : ¬ c.val.toNat ≤ 127 := Nat.not_le.mpr beyond
  rw [if_neg large]
  split_ifs <;> simp [UInt8.toNat_ofNat'] <;> omega

/-- ASCII characters are their own bytes. -/
lemma utf8_ofList {chars : List Char} (ascii : ∀ c ∈ chars, c.toNat < 128) :
    utf8 (String.ofList chars) = chars.map fun c => UInt8.ofNat c.toNat := by
  rw [utf8_eq_flatMap, String.toList_ofList, List.map_eq_flatMap]
  simp only [List.flatMap_def,
    List.map_congr_left fun c member => utf8EncodeChar_of_ascii (ascii c member)]

/-- The character of an ASCII number has that number. -/
lemma toNat_ofNat : ∀ n < 128, (Char.ofNat n).toNat = n := by decide

/-- An ASCII text is made of the characters of its bytes. -/
lemma eq_ofList_of_ascii {s : String} (ascii : ∀ b ∈ utf8 s, b.toNat < 128) :
    s = String.ofList ((utf8 s).map fun b => Char.ofNat b.toNat) := by
  apply utf8_injective
  have number : ∀ b ∈ utf8 s, (Char.ofNat b.toNat).toNat = b.toNat :=
    fun b member => toNat_ofNat _ (ascii b member)
  rw [utf8_ofList, List.map_map]
  · refine (List.map_id _).symm.trans (List.map_congr_left fun b member => ?_)
    simp [number b member]
  · intro c listed
    obtain ⟨b, member, rfl⟩ := List.mem_map.mp listed
    rw [number b member]
    exact ascii b member

namespace Hex

/-- A digit has the value it was made for. -/
lemma digitValue?_digit : ∀ n < 16, digitValue? (digit n) = some n := by decide

/-- Digits are ASCII. -/
lemma digit_ascii : ∀ n < 16, (digit n).toNat < 128 := by decide

/-- A byte that is read as a digit is ASCII, and its digit is the same letter in lower case. -/
lemma digit_of_digitValue? :
    ∀ byte < 256, ∀ n ∈ digitValue? (Char.ofNat byte),
      n < 16 ∧ byte < 128 ∧ digit n = (Char.ofNat byte).toLower := by
  decide +kernel

/-- A byte is read as a digit exactly if its character is one. -/
lemma readDigit_eq_ok {byte : UInt8} {position n : Nat} :
    readDigit byte position = .ok n ↔ digitValue? (Char.ofNat byte.toNat) = some n := by
  unfold readDigit
  split <;> simp_all

/-- The digits of bytes are the two of the first byte and those of the rest. -/
lemma digits_cons (b : UInt8) (bytes : List UInt8) :
    digits (b :: bytes) = digit (b.toNat / 16) :: digit (b.toNat % 16) :: digits bytes := rfl

/-- Every byte has two digits. -/
lemma length_digits (bytes : List UInt8) : (digits bytes).length = 2 * bytes.length := by
  induction bytes with
  | nil => rfl
  | cons b bytes ih => simp only [digits_cons, List.length_cons, ih]; omega

/-- What holds of every digit holds of all digits of bytes. -/
lemma forall_mem_digits {P : Char → Prop} (each : ∀ n < 16, P (digit n)) (bytes : List UInt8) :
    ∀ c ∈ digits bytes, P c := by
  induction bytes with
  | nil => simp [digits]
  | cons b bytes ih =>
    rw [digits_cons, List.forall_mem_cons, List.forall_mem_cons]
    have small := b.toNat_lt
    exact ⟨each _ (by omega), each _ (by omega), ih⟩

/-- The digits of bytes are ASCII. -/
lemma digits_ascii (bytes : List UInt8) : ∀ c ∈ digits bytes, c.toNat < 128 :=
  forall_mem_digits digit_ascii bytes

/-- The digits of bytes are in lower case. -/
lemma digits_lower (bytes : List UInt8) :
    ∀ c ∈ digits bytes, c ∈ "0123456789abcdef".toList :=
  forall_mem_digits (by decide) bytes

/-- The byte of a digit is read as its number. -/
lemma readDigit_digit {n : Nat} (small : n < 16) (position : Nat) :
    readDigit (UInt8.ofNat (digit n).toNat) position = .ok n := by
  have byte : (digit n).toNat < 256 := by have := digit_ascii n small; omega
  rw [readDigit_eq_ok, UInt8.toNat_ofNat_of_lt' byte, Char.ofNat_toNat]
  exact digitValue?_digit n small

/-- The digits of bytes are read as those bytes. -/
lemma readPairs_digits (bytes : List UInt8) (position : Nat) :
    readPairs position ((digits bytes).map fun c => UInt8.ofNat c.toNat) = .ok bytes := by
  induction bytes generalizing position with
  | nil => rfl
  | cons b bytes ih =>
    have whole : UInt8.ofNat (16 * (b.toNat / 16) + b.toNat % 16) = b := by
      rw [Nat.div_add_mod, UInt8.ofNat_toNat]
    have small := b.toNat_lt
    rw [digits_cons, List.map_cons, List.map_cons, readPairs, readDigit_digit (by omega),
      readDigit_digit (by omega), ih]
    simp only [ok_bind, whole]
    rfl

/-- Bytes that are read as pairs of digits are ASCII, and spell those digits in either case. -/
lemma digits_of_readPairs {position : Nat} {text bytes : List UInt8} (even : text.length % 2 = 0)
    (read : readPairs position text = .ok bytes) :
    (∀ b ∈ text, b.toNat < 128) ∧
      digits bytes = text.map fun b => (Char.ofNat b.toNat).toLower := by
  fun_induction readPairs position text generalizing bytes with
  | case1 position high low rest ih =>
    simp only [bind_eq_ok, readDigit_eq_ok] at read
    obtain ⟨h, high', l, low', others, read, made⟩ := read
    cases made
    obtain ⟨hSmall, hAscii, hDigit⟩ := digit_of_digitValue? _ high.toNat_lt h high'
    obtain ⟨lSmall, lAscii, lDigit⟩ := digit_of_digitValue? _ low.toNat_lt l low'
    simp only [List.length_cons] at even
    obtain ⟨ascii, spelled⟩ := ih (by omega) read
    have byte : (UInt8.ofNat (16 * h + l)).toNat = 16 * h + l :=
      UInt8.toNat_ofNat_of_lt' (by simp only [UInt8.size]; omega)
    refine ⟨by simpa [hAscii, lAscii] using ascii, ?_⟩
    rw [digits_cons, byte, show (16 * h + l) / 16 = h by omega, show (16 * h + l) % 16 = l by omega,
      hDigit, lDigit, spelled]
    rfl
  | case2 text position notPair =>
    -- What is not a pair is at most one byte, and by its even length none.
    match text, notPair with
    | [], _ => cases read; simp [digits]
    | [b], _ => simp at even
    | high :: low :: rest, notPair => exact (notPair high low rest rfl).elim

/-- The text of bytes is read as those bytes. -/
theorem decode_encode (bytes : List UInt8) : decode (encode bytes) = .ok bytes := by
  have even : ¬ (digits bytes).length % 2 = 1 := by rw [length_digits]; omega
  simp only [decode, encode, utf8_ofList (digits_ascii bytes), List.length_map, if_neg even]
  exact readPairs_digits bytes 0

/-- No two lists of bytes have the same digits. -/
lemma encode_injective {bytes others : List UInt8} (same : encode bytes = encode others) :
    bytes = others := by
  have read := congrArg decode same
  rw [decode_encode, decode_encode] at read
  exact Except.ok.inj read

/-- A text that is read is the text of its bytes but for the case of its letters. -/
theorem encode_of_decode {s : String} {bytes : List UInt8} (read : decode s = .ok bytes) :
    encode bytes = s.toLower := by
  simp only [decode] at read
  split at read
  case isTrue odd => cases read
  case isFalse even =>
    obtain ⟨ascii, spelled⟩ := digits_of_readPairs (by omega) read
    have whole := eq_ofList_of_ascii ascii
    change encode bytes = s.map Char.toLower
    rw [String.map_eq_internal, encode, spelled]
    conv => rhs; rw [whole, String.toList_ofList, List.map_map]
    rfl

end Hex

end WalletNotify.Text
