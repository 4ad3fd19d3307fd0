import Mathlib.Data.List.DropRight
import WalletNotify.Json.Write
import WalletNotify.Proofs.Json.Token

/-!
# The layout of JSON texts

A text is laid out as tokens with blanks between them (`Spaced`). Arrays and objects are tokens
between brackets, with commas between their parts.
-/

namespace WalletNotify.Json

/-! ## Tokens and blanks -/

/-- White space of JSON. -/
def Blank (gap : Input) : Prop := ∀ c ∈ gap, c = ' ' ∨ c = '\n' ∨ c = '\t' ∨ c = '\r'

/-- A text starts with tokens, blanks in front of each of them, and goes on with `rest`. -/
inductive Laid : List Input → Input → Input → Prop where
  | nil {rest : Input} : Laid [] rest rest
  | cons {gap token : Input} {tokens : List Input} {text rest : Input} (blank : Blank gap)
      (others : Laid tokens text rest) : Laid (token :: tokens) (gap ++ (token ++ text)) rest

/-- A text is made of tokens and of blanks around them. -/
def Spaced (tokens : List Input) (text : Input) : Prop :=
  ∃ rest, Laid tokens text rest ∧ Blank rest

/-- The first of the tokens begins with a character, which is no blank. -/
def Begins (tokens : List Input) (c : Char) : Prop :=
  ∃ token others, tokens = (c :: token) :: others ∧ isBlank c = false

variable {gap token text mid rest : Input} {tokens others : List Input} {c : Char}

/-- Nothing is blank. -/
lemma blank_nil : Blank [] := nofun

/-- A blank text has blanks only. -/
lemma Blank.isBlank (blank : Blank gap) : ∀ c ∈ gap, isBlank c := by
  intro c member
  simpa [Json.isBlank, or_assoc] using blank c member

/-- Blanks before a text make no difference to what is left behind blanks. -/
lemma Blank.skipBlanks_append (blank : Blank gap) (text : Input) :
    skipBlanks (gap ++ text) = skipBlanks text :=
  List.dropWhile_append_of_pos blank.isBlank

/-- Behind the blanks of a blank text nothing is left. -/
lemma Blank.skipBlanks (blank : Blank gap) : skipBlanks gap = [] :=
  List.dropWhile_eq_nil_iff.mpr blank.isBlank

/-- Blanks are passed over once and for all. -/
lemma skipBlanks_skipBlanks (input : Input) : skipBlanks (skipBlanks input) = skipBlanks input :=
  List.dropWhile_idempotent _ _

/-- Blanks end a number. -/
lemma Ends.append (ends : Ends rest) (blank : Blank gap) : Ends (gap ++ rest) := by
  cases gap with
  | nil => exact ends
  | cons c gap =>
    rintro d ⟨⟩
    rcases blank c List.mem_cons_self with rfl | rfl | rfl | rfl <;> decide

/-- A token ends where there are blanks. -/
lemma ends_of_blank (blank : Blank gap) : Ends gap := by
  simpa using Ends.nil.append blank

namespace Laid

/-- Tokens that follow others start where these end. -/
lemma exists_append (laid : Laid (tokens ++ others) text rest) :
    ∃ mid, Laid tokens text mid ∧ Laid others mid rest := by
  induction tokens generalizing text with
  | nil => exact ⟨text, .nil, laid⟩
  | cons token tokens ih =>
    cases laid with
    | cons blank laid =>
      obtain ⟨mid, front, back⟩ := ih laid
      exact ⟨mid, .cons blank front, back⟩

/-- A text with no blanks is laid out as the tokens it is put together from. -/
lemma flatten (tokens : List Input) (rest : Input) : Laid tokens (tokens.flatten ++ rest) rest := by
  induction tokens with
  | nil => exact .nil
  | cons token tokens ih =>
    rw [List.flatten_cons, List.append_assoc]
    exact .cons blank_nil ih

/-- Behind the blanks stands the first token, and behind it the others. -/
lemma first (laid : Laid ((c :: token) :: tokens) text rest) (visible : isBlank c = false) :
    ∃ mid, skipBlanks text = c :: (token ++ mid) ∧ Laid tokens mid rest := by
  cases laid with
  | cons blank laid =>
    refine ⟨_, ?_, laid⟩
    rw [blank.skipBlanks_append, List.cons_append, skipBlanks_cons visible]

/-- Blanks in front of the first token may be left out. -/
lemma begins (laid : Laid tokens text rest) (begins : Begins tokens c) :
    ∃ tail, skipBlanks text = c :: tail ∧ Laid tokens (c :: tail) rest := by
  obtain ⟨token, others, rfl, visible⟩ := begins
  obtain ⟨mid, opened, laid⟩ := laid.first visible
  exact ⟨_, opened, .cons blank_nil laid⟩

/-- A number ends in front of a token that it does not go on with. -/
lemma ends (laid : Laid ((c :: token) :: tokens) text rest) (ends : ∀ tail, Ends (c :: tail)) :
    Ends text := by
  cases laid with
  | cons blank laid => exact (ends _).append blank

/-- What follows the tokens is no longer than the whole text. -/
lemma length_rest (laid : Laid tokens text rest) : rest.length ≤ text.length := by
  induction laid with
  | nil => exact Nat.le_refl _
  | cons _ _ ih =>
    simp only [List.length_append]
    omega

/-- A text is no shorter than the number of tokens in it. -/
lemma length_le (laid : Laid tokens text rest) (filled : ∀ token ∈ tokens, token ≠ []) :
    tokens.length ≤ text.length := by
  induction laid with
  | nil => exact Nat.zero_le _
  | cons blank _ ih =>
    obtain ⟨first, others⟩ := List.forall_mem_cons.mp filled
    have pos := List.length_pos_iff.mpr first
    have shorter := ih others
    simp only [List.length_cons, List.length_append]
    omega

end Laid

/-- What follows tokens at the start of a text, if they stand there. -/
def rest? : List Input → Input → Option Input
  | [], text => some text
  | token :: tokens, text =>
    if token.isPrefixOf (skipBlanks text) then
      rest? tokens ((skipBlanks text).drop token.length)
    else none

/-- Tokens that are found in a text are laid out there. -/
lemma laid_of_rest? (found : rest? tokens text = some rest) : Laid tokens text rest := by
  induction tokens generalizing text with
  | nil => exact Option.some.inj found ▸ .nil
  | cons token tokens ih =>
    rw [rest?] at found
    split_ifs at found with stands
    obtain ⟨after, same⟩ := List.isPrefixOf_iff_prefix.mp stands
    rw [← same, List.drop_left] at found
    have parts : text = text.takeWhile isBlank ++ (token ++ after) := by
      rw [same, skipBlanks, List.takeWhile_append_dropWhile]
    have blank : Blank (text.takeWhile isBlank) := by
      intro c member
      simpa [isBlank, or_assoc] using List.mem_takeWhile_imp member
    rw [parts]
    exact .cons blank (ih found)

/-! ## Brackets and commas -/

/-- Parts with commas between them. -/
def commas : List (List Input) → List Input
  | [] => []
  | [part] => part
  | part :: next :: parts => part ++ [','] :: commas (next :: parts)

/-- Parts between brackets, with commas between them. -/
def enclosed (opening closing : Char) (parts : List (List Input)) : List Input :=
  [opening] :: (commas parts ++ [[closing]])

section Parts

variable {closing : Char} {part next : List Input} {parts : List (List Input)}

/-- A list with commas begins as its first part does. -/
lemma Begins.commas (begins : Begins part c) (parts : List (List Input)) (back : List Input) :
    Begins (Json.commas (part :: parts) ++ back) c := by
  obtain ⟨token, others, rfl, visible⟩ := begins
  cases parts with
  | nil => exact ⟨token, others ++ back, rfl, visible⟩
  | cons next parts => exact ⟨token, _, rfl, visible⟩

/-- What holds of every token of the parts, of brackets and of commas holds of all tokens. -/
lemma forall_mem_enclosed {P : Input → Prop} {opening : Char} (first : P [opening])
    (comma : P [',']) (last : P [closing]) (each : ∀ part ∈ parts, ∀ token ∈ part, P token) :
    ∀ token ∈ enclosed opening closing parts, P token := by
  have inner : ∀ token ∈ Json.commas parts, P token := by
    fun_induction Json.commas parts with
    | case1 => exact nofun
    | case2 part => exact each part List.mem_cons_self
    | case3 part next parts ih =>
      obtain ⟨own, others⟩ := List.forall_mem_cons.mp each
      rw [List.forall_mem_append, List.forall_mem_cons]
      exact ⟨own, comma, ih others⟩
  rw [enclosed, List.forall_mem_cons, List.forall_mem_append, List.forall_mem_singleton]
  exact ⟨first, inner, last⟩

namespace Laid

/-- The last part is followed by the closing bracket. -/
lemma last (closes : closing = ']' ∨ closing = '\x7d')
    (laid : Laid (commas [part] ++ [[closing]]) text rest) :
    ∃ mid, Laid part text mid ∧ Ends mid ∧ Json.skipBlanks mid = closing :: rest := by
  obtain ⟨mid, front, back⟩ := laid.exists_append
  have visible : isBlank closing = false := by rcases closes with rfl | rfl <;> decide
  have ends : ∀ tail, Ends (closing :: tail) := by
    rcases closes with rfl | rfl
    · exact .bracket
    · exact .brace
  obtain ⟨after, opened, done⟩ := back.first visible
  cases done
  exact ⟨mid, front, back.ends ends, opened⟩

/-- Any other part is followed by a comma and the parts behind it. -/
lemma more (laid : Laid (commas (part :: next :: parts) ++ [[closing]]) text rest) :
    ∃ mid after, Laid part text mid ∧ Ends mid ∧ Json.skipBlanks mid = ',' :: after ∧
      Laid (commas (next :: parts) ++ [[closing]]) after rest := by
  rw [commas, List.append_assoc] at laid
  obtain ⟨mid, front, back⟩ := laid.exists_append
  obtain ⟨after, opened, others⟩ := back.first (by decide)
  exact ⟨mid, after, front, back.ends .comma, opened, others⟩

/-- There is a comma between any two parts. -/
lemma length_parts (laid : Laid (commas parts ++ [[closing]]) text rest) :
    parts.length ≤ text.length + 1 := by
  induction parts generalizing text with
  | nil => exact Nat.zero_le _
  | cons part parts ih =>
    cases parts with
    | nil => exact Nat.le_add_left 1 _
    | cons next parts =>
      obtain ⟨mid, after, front, -, comma, back⟩ := laid.more
      have fewer := ih back
      have shorter := front.length_rest
      have visible : (Json.skipBlanks mid).length ≤ mid.length :=
        List.length_dropWhile_le _ _
      rw [comma, List.length_cons] at visible
      rw [List.length_cons]
      omega

end Laid

/-- Parts with commas between them, without blanks, are what is written of them. -/
lemma flatten_commas (parts : List (List Input)) :
    (commas parts).flatten = commaSeparated (parts.map List.flatten) := by
  fun_induction commas parts with
  | case1 => rfl
  | case2 part => rfl
  | case3 part next parts ih => simp [commaSeparated, ih]

/-- Parts in brackets, without blanks, are what is written of them. -/
lemma flatten_enclosed (opening closing : Char) (parts : List (List Input)) :
    (enclosed opening closing parts).flatten
      = opening :: (commaSeparated (parts.map List.flatten) ++ [closing]) := by
  simp [enclosed, flatten_commas]

end Parts

end WalletNotify.Json
