import Mathlib.Tactic.Lemma
import WalletNotify.Json.Scalar
import WalletNotify.Json.Skip
import WalletNotify.Proofs.Result
import WalletNotify.Proofs.Text.Hex

/-!
# Strings in JSON

What may stand between quotes (`IsBody`), and which characters it stands for (`Spells`). Main
statements: a string is read from any of its spellings (`Spells.string`), one of which is its own
text (`isName_writeString`).
-/

namespace WalletNotify.Json

/-! ## Spellings -/

/-- The escapes of one letter or sign, and their characters. -/
def shortEscapes : List (Char × Char) :=
  [('"', '"'), ('\\', '\\'), ('/', '/'), ('b', '\x08'), ('f', '\x0c'), ('n', '\n'), ('r', '\r'),
    ('t', '\t')]

/-- Four hexadecimal digits in either case, and their number. -/
inductive Quad : Input → Nat → Prop where
  | mk {a b c d : Char} {i j k l : Nat} (first : Text.Hex.digitValue? a = some i)
      (second : Text.Hex.digitValue? b = some j) (third : Text.Hex.digitValue? c = some k)
      (fourth : Text.Hex.digitValue? d = some l) :
      Quad [a, b, c, d] (4096 * i + 256 * j + 16 * k + l)

/-- What may stand between quotes. -/
inductive IsBody : Input → Prop where
  | nil : IsBody []
  | plain {c : Char} {body : Input} (quote : c ≠ '"') (backslash : c ≠ '\\') (high : 32 ≤ c.toNat)
      (is : IsBody body) : IsBody (c :: body)
  | short {e c : Char} {body : Input} (escape : (e, c) ∈ shortEscapes) (is : IsBody body) :
      IsBody ('\\' :: e :: body)
  | code {quad body : Input} {n : Nat} (hex : Quad quad n) (is : IsBody body) :
      IsBody ('\\' :: 'u' :: (quad ++ body))

/-- What may stand between quotes, and the characters that it stands for: an escape by number is the
unit of a character, or the first of a pair of them. -/
inductive Spells : Input → List Char → Prop where
  | nil : Spells [] []
  | plain {c : Char} {body cs : List Char} (quote : c ≠ '"') (backslash : c ≠ '\\')
      (high : 32 ≤ c.toNat) (spells : Spells body cs) : Spells (c :: body) (c :: cs)
  | short {e c : Char} {body cs : List Char} (escape : (e, c) ∈ shortEscapes)
      (spells : Spells body cs) : Spells ('\\' :: e :: body) (c :: cs)
  | code {quad body cs : List Char} {n : Nat} (hex : Quad quad n) (single : n < 0xD800 ∨ 0xDFFF < n)
      (spells : Spells body cs) : Spells ('\\' :: 'u' :: (quad ++ body)) (Char.ofNat n :: cs)
  | pair {high low body cs : List Char} {n m : Nat} (highHex : Quad high n) (lowHex : Quad low m)
      (isHigh : 0xD800 ≤ n ∧ n ≤ 0xDBFF) (isLow : 0xDC00 ≤ m ∧ m ≤ 0xDFFF)
      (spells : Spells body cs) :
      Spells ('\\' :: 'u' :: (high ++ '\\' :: 'u' :: (low ++ body)))
        (Char.ofNat (0x10000 + 0x400 * (n - 0xD800) + (m - 0xDC00)) :: cs)

/-- A string token. -/
def IsString (token : Input) : Prop := ∃ body, token = '"' :: (body ++ ['"']) ∧ IsBody body

/-- A string token that stands for a name. -/
def IsName (token : Input) (name : String) : Prop :=
  ∃ body, token = '"' :: (body ++ ['"']) ∧ Spells body name.toList

/-! ## Reading and passing over strings -/

variable {quad body : Input} {n fuel : Nat}

/-- A short escape stands for its character. -/
lemma shortEscape?_of_mem : ∀ x ∈ shortEscapes, shortEscape? x.1 = some x.2 := by decide

/-- Four hexadecimal digits are read as their number. -/
lemma Quad.hexQuad (is : Quad quad n) (rest : Input) : hexQuad (quad ++ rest) = .ok (n, rest) := by
  cases is with
  | mk first second third fourth =>
    simp only [List.cons_append, List.nil_append, Json.hexQuad, hexQuad?, first, second, third,
      fourth, Option.bind_eq_bind, Option.bind_some, Option.pure_def]

/-- A string is passed over up to its closing quote, if there is fuel for each character. -/
lemma IsBody.skip (is : IsBody body) (enough : body.length < fuel) (rest : Input) :
    skipString fuel (body ++ '"' :: rest) = .ok rest := by
  induction is generalizing fuel with
  | nil =>
    cases fuel with
    | zero => simp at enough
    | succ fuel => rfl
  | @plain c body quote backslash high _ ih =>
    cases fuel with
    | zero => simp at enough
    | succ fuel =>
      rw [List.cons_append, skipString, if_neg (by omega), ih (Nat.lt_of_succ_lt_succ enough)]
      all_goals simp_all
  | @short e c body escape _ ih =>
    cases fuel with
    | zero => simp at enough
    | succ fuel =>
      have known := shortEscape?_of_mem _ escape
      rw [List.cons_append, List.cons_append, skipString, if_pos (by rw [known]; rfl), ih]
      · simp only [List.length_cons] at enough
        omega
      · rintro rfl
        cases known
  | @code quad body n hex _ ih =>
    cases fuel with
    | zero => simp at enough
    | succ fuel =>
      rw [List.cons_append, List.cons_append, List.append_assoc, skipString, hex.hexQuad, ok_bind]
      apply ih
      simp only [List.length_cons, List.length_append] at enough
      omega

/-- A character that is written as itself is read as itself. -/
lemma stringTail_plain (fuel : Nat) (rest : Input) {c : Char} (quote : c ≠ '"')
    (backslash : c ≠ '\\') (high : 32 ≤ c.toNat) :
    stringTail (fuel + 1) (c :: rest) = do
      let (cs, rest) ← stringTail fuel rest
      return (c :: cs, rest) := by
  rw [stringTail]
  · exact if_neg (by omega)
  all_goals simp_all

/-- An escape that is one letter or sign is read as its character. -/
lemma stringTail_short (fuel : Nat) (rest : Input) {e c : Char} (short : shortEscape? e = some c) :
    stringTail (fuel + 1) ('\\' :: e :: rest) = do
      let (cs, rest) ← stringTail fuel rest
      return (c :: cs, rest) := by
  rw [stringTail, short]
  · rintro rfl
    cases short

/-- An escaped number outside of the surrogates is that of its character. -/
lemma numberEscape_code (hex : Quad quad n) (single : n < 0xD800 ∨ 0xDFFF < n) (rest : Input) :
    numberEscape (quad ++ rest) = .ok (Char.ofNat n, rest) := by
  have notLow : isLowSurrogate n = false := by
    simp only [isLowSurrogate, Bool.and_eq_false_iff, decide_eq_false_iff_not]
    omega
  have notHigh : isHighSurrogate n = false := by
    simp only [isHighSurrogate, Bool.and_eq_false_iff, decide_eq_false_iff_not]
    omega
  simp only [numberEscape, hex.hexQuad, ok_bind, notLow, notHigh]
  rfl

/-- A surrogate pair is read as one character. -/
lemma numberEscape_pair {high low : Input} {m : Nat} (highHex : Quad high n) (lowHex : Quad low m)
    (isHigh : 0xD800 ≤ n ∧ n ≤ 0xDBFF) (isLow : 0xDC00 ≤ m ∧ m ≤ 0xDFFF) (rest : Input) :
    numberEscape (high ++ '\\' :: 'u' :: (low ++ rest))
      = .ok (Char.ofNat (0x10000 + 0x400 * (n - 0xD800) + (m - 0xDC00)), rest) := by
  have notLow : isLowSurrogate n = false := by
    simp only [isLowSurrogate, Bool.and_eq_false_iff, decide_eq_false_iff_not]
    omega
  have first : isHighSurrogate n = true := by simpa [isHighSurrogate] using isHigh
  have second : isLowSurrogate m = true := by simpa [isLowSurrogate] using isLow
  simp only [numberEscape, highHex.hexQuad, lowHex.hexQuad, ok_bind, notLow, first, second]
  rfl

/-- A name is read as the characters that it stands for, if there is fuel for each. -/
lemma Spells.stringTail {cs : List Char} (spells : Spells body cs) (enough : cs.length < fuel)
    (rest : Input) : stringTail fuel (body ++ '"' :: rest) = .ok (cs, rest) := by
  induction spells generalizing fuel with
  | nil =>
    cases fuel with
    | zero => simp at enough
    | succ fuel => rfl
  | plain quote backslash high _ ih =>
    cases fuel with
    | zero => simp at enough
    | succ fuel =>
      rw [List.cons_append, stringTail_plain _ _ quote backslash high,
        ih (Nat.lt_of_succ_lt_succ enough)]
      rfl
  | short escape _ ih =>
    cases fuel with
    | zero => simp at enough
    | succ fuel =>
      rw [List.cons_append, List.cons_append, stringTail_short _ _ (shortEscape?_of_mem _ escape),
        ih (Nat.lt_of_succ_lt_succ enough)]
      rfl
  | code hex single _ ih =>
    cases fuel with
    | zero => simp at enough
    | succ fuel =>
      rw [List.cons_append, List.cons_append, List.append_assoc, Json.stringTail,
        numberEscape_code hex single, ok_bind]
      simp only [ih (Nat.lt_of_succ_lt_succ enough)]
      rfl
  | pair highHex lowHex isHigh isLow _ ih =>
    cases fuel with
    | zero => simp at enough
    | succ fuel =>
      rw [List.cons_append, List.cons_append, List.append_assoc, List.cons_append, List.cons_append,
        List.append_assoc, Json.stringTail, numberEscape_pair highHex lowHex isHigh isLow, ok_bind]
      simp only [ih (Nat.lt_of_succ_lt_succ enough)]
      rfl

/-- No character is written in less than one. -/
lemma Spells.length_le {cs : List Char} (spells : Spells body cs) : cs.length ≤ body.length := by
  induction spells with
  | nil => exact Nat.le_refl 0
  | plain | short | code | pair =>
    simp only [List.length_cons, List.length_append]
    omega

/-- A name is read from any of its spellings, and what follows the closing quote is left. -/
lemma Spells.string {cs : List Char} (spells : Spells body cs) (rest : Input) :
    string (body ++ '"' :: rest) = .ok (cs, rest) := by
  have shorter := spells.length_le
  apply spells.stringTail
  rw [List.length_append, List.length_cons]
  omega

/-- A character stands for itself if it is written as in a string. -/
lemma spells_escape (c : Char) {body cs : List Char} (spells : Spells body cs) :
    Spells (escape c ++ body) (c :: cs) := by
  unfold escape
  split_ifs with quote backslash backspace formFeed lineFeed carriageReturn tab low
  case pos => exact .short (by rw [quote]; decide) spells
  case pos => exact .short (by rw [backslash]; decide) spells
  case pos => exact .short (by rw [backspace]; decide) spells
  case pos => exact .short (by rw [formFeed]; decide) spells
  case pos => exact .short (by rw [lineFeed]; decide) spells
  case pos => exact .short (by rw [carriageReturn]; decide) spells
  case pos => exact .short (by rw [tab]; decide) spells
  case pos =>
    have zero : Text.Hex.digitValue? '0' = some 0 := by decide
    have high := Text.Hex.digitValue?_digit (c.toNat / 16) (by omega)
    have last := Text.Hex.digitValue?_digit (c.toNat % 16) (by omega)
    have number : 4096 * 0 + 256 * 0 + 16 * (c.toNat / 16) + c.toNat % 16 = c.toNat := by omega
    have code := Spells.code (Quad.mk zero zero high last) (by omega) spells
    rwa [number, Char.ofNat_toNat] at code
  case neg => exact .plain quote backslash (by omega) spells

/-- The text of a string stands for it. -/
lemma isName_writeString (name : String) : IsName (writeString name) name := by
  refine ⟨_, rfl, ?_⟩
  generalize name.toList = cs
  induction cs with
  | nil => exact .nil
  | cons c cs ih => exact spells_escape c ih

end WalletNotify.Json
