import WalletNotify.Json.Read
import WalletNotify.Proofs.Json.Grammar

/-!
# Reading tokens

What is read from tokens, however they are laid out: a value, or that something does not fit. Items
of arrays and members of objects are read one after the other. Main statements: `yields_array` and
`Law.yields_record`.
-/

namespace WalletNotify.Json

variable {α β σ ε : Type}

/-- A value is read and the rest is left, or something does not fit. -/
def outcome (rest : Input) : Option α → Except Fault (α × Input)
  | some a => .ok (a, rest)
  | none => .error .unfit

/-- Tokens are read as a value, or as something that does not fit, however they are laid out. -/
def Yields (reader : Input → Except Fault (α × Input)) (tokens : List Input) (o : Option α) :
    Prop :=
  ∀ text rest, Laid tokens text rest → Ends rest → reader text = outcome rest o

/-! ## Scalars -/

/-- A value is read in the same way behind blanks. -/
lemma Scalar.read_skipBlanks (k : Scalar) (text : Input) :
    k.read (skipBlanks text) = k.read text := by
  cases k <;> simp only [Scalar.read, readString, readInteger, skipBlanks_skipBlanks]

/-- What is written of a value does not begin like the end of an array. -/
lemma Scalar.write_begins (k : Scalar) (v : k.Value) : ∃ c, Begins [k.write v] c ∧ c ≠ ']' := by
  have integer (i : Int) : ∃ c, Begins [(toString i).toList] c ∧ c ≠ ']' := by
    obtain ⟨c, cs, text, first⟩ := toString_int_eq_cons i
    refine ⟨c, ⟨cs, [], by rw [text], isBlank_of_integer first⟩, ?_⟩
    rintro rfl
    simp at first
  cases k with
  | text => exact ⟨'"', ⟨_, [], rfl, by decide⟩, by decide⟩
  | word32 => exact integer (UInt32.toNat v)
  | word64 => exact integer (UInt64.toNat v)
  | signed64 => exact integer (Int64.toInt v)

/-- A value is read from what is written of it. -/
lemma Scalar.yields (k : Scalar) (v : k.Value) : Yields k.read [k.write v] (some v) := by
  intro text rest laid ends
  obtain ⟨c, ⟨token, others, tokens, visible⟩, -⟩ := k.write_begins v
  obtain ⟨written, -⟩ := List.cons.inj tokens
  rw [written] at laid
  obtain ⟨mid, opened, done⟩ := laid.first visible
  cases done
  rw [← k.read_skipBlanks, opened, ← List.cons_append, ← written, k.read_write_append v ends]
  rfl

/-! ## Arrays -/

section Arrays

variable {item : Input → Except Fault (α × Input)} {part : β → List Input} {value : β → Option α}
  {b : β} {items : List β} {text rest : Input} {fuel : Nat}

/-- The items of an array are read up to its end, if there is fuel for each of them. -/
lemma readItems_laid (each : ∀ b ∈ items, Yields item (part b) (value b))
    (begins : ∀ b ∈ items, ∃ c, Begins (part b) c ∧ c ≠ ']')
    (enough : items.length ≤ fuel) (filled : items ≠ [])
    (laid : Laid (commas (items.map part) ++ [[']']]) text rest) :
    readItems item fuel text = outcome rest (items.mapM value) := by
  induction items generalizing fuel text with
  | nil => exact absurd rfl filled
  | cons b items ih =>
    obtain ⟨first, others⟩ := List.forall_mem_cons.mp each
    obtain ⟨_, begins⟩ := List.forall_mem_cons.mp begins
    cases fuel with
    | zero => simp at enough
    | succ fuel =>
      cases items with
      | nil =>
        obtain ⟨mid, front, ends, closed⟩ := laid.last (.inl rfl)
        rw [readItems, first _ _ front ends, List.mapM_cons, List.mapM_nil]
        cases value b with
        | none => rfl
        | some a =>
          simp only [outcome, ok_bind, closed]
          rfl
      | cons next items =>
        obtain ⟨mid, after, front, ends, comma, back⟩ := laid.more
        -- Behind a comma the reader looks for a closing bracket; the next item begins with none.
        obtain ⟨c, opens, other⟩ := begins next List.mem_cons_self
        obtain ⟨tail, opened, back⟩ := back.begins (opens.commas _ _)
        rw [readItems, first _ _ front ends, List.mapM_cons]
        cases value b with
        | none => rfl
        | some a =>
          have later := ih others begins (Nat.le_of_succ_le_succ enough) (by simp) back
          simp only [outcome, ok_bind, comma, opened]
          split
          case h_1 same => cases same
          case h_2 same => exact absurd (List.cons.inj same).1 other
          case h_3 =>
            rw [later]
            cases (next :: items).mapM value <;> rfl

/-- An array is read as its items, if all of them fit. -/
lemma yields_array (each : ∀ b ∈ items, Yields item (part b) (value b))
    (begins : ∀ b ∈ items, ∃ c, Begins (part b) c ∧ c ≠ ']') :
    Yields (readArray item) (enclosed '[' ']' (items.map part)) (items.mapM value) := by
  intro text rest laid ends
  obtain ⟨mid, opened, inner⟩ := laid.first (by decide)
  rw [List.nil_append] at opened
  rw [readArray, opened]
  cases items with
  | nil =>
    obtain ⟨after, closed, done⟩ := inner.first (by decide)
    cases done
    simp only [closed]
    rfl
  | cons b items =>
    obtain ⟨c, opens, other⟩ := begins b List.mem_cons_self
    obtain ⟨tail, visible, inner⟩ := inner.begins (opens.commas _ _)
    have fewer := inner.length_parts
    rw [List.length_cons, List.length_map] at fewer
    simp only [visible]
    split
    case h_1 same => cases same
    case h_2 same => exact absurd (List.cons.inj same).1 other
    case h_3 => exact readItems_laid each begins fewer (by simp) inner

end Arrays

/-! ## Optional values -/

/-- What may be missing is read as missing from its null. -/
lemma yields_null (value : Input → Except Fault (α × Input)) :
    Yields (readOptional value) [['n', 'u', 'l', 'l']] (some none) := by
  intro text rest laid ends
  obtain ⟨mid, opened, done⟩ := laid.first (by decide)
  cases done
  rw [readOptional, opened]
  rfl

/-- What may be missing is read as it is read elsewhere, if it does not begin like null. -/
lemma yields_some {value : Input → Except Fault (α × Input)} {tokens : List Input} {o : Option α}
    (yields : Yields value tokens o) {c : Char} (begins : Begins tokens c) (present : c ≠ 'n') :
    Yields (readOptional value) tokens (o.map some) := by
  intro text rest laid ends
  obtain ⟨tail, opened, laid⟩ := laid.begins begins
  rw [readOptional, opened]
  split
  case h_1 null => exact absurd (List.cons.inj null).1 present
  case h_2 =>
    rw [yields _ _ laid ends]
    cases o <;> rfl

/-! ## Members -/

/-- A way to read the member of a name into what has been read. -/
abbrev MemberReader (σ : Type) := String → Input → σ → Except Fault (σ × Input)

/-- How members of a kind are written: the name, its token, and the tokens of the value. -/
structure Writing (ε : Type) where
  name : ε → String
  token : ε → Input
  value : ε → List Input
  isName : ∀ e, IsName (token e) (name e)

/-- The tokens of a member. -/
def Writing.tokens (w : Writing ε) (e : ε) : List Input := memberTokens (w.token e) (w.value e)

/-- A member that is fine for what has been read is taken as `take` says. -/
def Law (w : Writing ε) (member : MemberReader σ) (fine : σ → ε → Prop)
    (take : σ → ε → Option σ) : Prop :=
  ∀ p e, fine p e → ∀ text rest, Laid ([':'] :: w.value e) text rest → Ends rest →
    member (w.name e) text p = outcome rest (take p e)

/-- Every member is fine for what has been read up to it. -/
def AllFine (fine : σ → ε → Prop) (take : σ → ε → Option σ) : σ → List ε → Prop
  | _, [] => True
  | p, e :: members => fine p e ∧ ∀ q, take p e = some q → AllFine fine take q members

section Members

variable {w : Writing ε} {member : MemberReader σ} {fine : σ → ε → Prop} {take : σ → ε → Option σ}
  {members : List ε} {e : ε} {p : σ} {text rest : Input} {fuel : Nat}

/-- A member begins with the quote of its name. -/
lemma Writing.begins (w : Writing ε) (e : ε) : Begins (w.tokens e) '"' := by
  obtain ⟨body, quoted, -⟩ := w.isName e
  exact ⟨body ++ ['"'], [':'] :: w.value e, by rw [tokens, memberTokens, quoted], by decide⟩

/-- The name of a member is read up to the colon. -/
lemma Writing.exists_name (w : Writing ε) (laid : Laid (w.tokens e) text rest) :
    ∃ inner after, skipBlanks text = '"' :: inner ∧
      string inner = .ok ((w.name e).toList, after) ∧ Laid ([':'] :: w.value e) after rest := by
  obtain ⟨body, quoted, spells⟩ := w.isName e
  rw [tokens, memberTokens, quoted] at laid
  obtain ⟨after, opened, laid⟩ := laid.first (by decide)
  refine ⟨_, after, opened, ?_, laid⟩
  rw [List.append_assoc]
  exact spells.string after

/-- Members are read up to the end of the object, if there is fuel for each of them. -/
lemma Law.readMembers (law : Law w member fine take) (allFine : AllFine fine take p members)
    (enough : members.length ≤ fuel) (filled : members ≠ [])
    (laid : Laid (commas (members.map w.tokens) ++ [['\x7d']]) text rest) :
    readMembers member fuel (skipBlanks text) p = outcome rest (members.foldlM take p) := by
  induction members generalizing fuel text p with
  | nil => exact absurd rfl filled
  | cons e members ih =>
    obtain ⟨fine, later⟩ := allFine
    cases fuel with
    | zero => simp at enough
    | succ fuel =>
      cases members with
      | nil =>
        obtain ⟨mid, front, ends, closed⟩ := laid.last (.inr rfl)
        obtain ⟨inner, after, opened, name, value⟩ := w.exists_name front
        rw [opened, Json.readMembers, name]
        simp only [ok_bind, String.ofList_toList, law p e fine _ _ value ends, List.foldlM_cons,
          List.foldlM_nil]
        cases take p e with
        | none => rfl
        | some q =>
          simp only [outcome, ok_bind, closed]
          rfl
      | cons next members =>
        obtain ⟨mid, after, front, ends, comma, back⟩ := laid.more
        obtain ⟨inner, afterName, opened, name, value⟩ := w.exists_name front
        rw [opened, Json.readMembers, name]
        simp only [ok_bind, String.ofList_toList, law p e fine _ _ value ends]
        rw [List.foldlM_cons]
        cases taken : take p e with
        | none => rfl
        | some q =>
          simp only [outcome, ok_bind, comma]
          exact ih (later q taken) (Nat.le_of_succ_le_succ enough) (by simp) back

end Members

/-- An object is read as the record that its members make, if they make one. -/
lemma Law.yields_record {s : Record.Shape Scalar} {r : FieldReader s} {w : Writing ε}
    {fine : Partial s → ε → Prop} {take : Partial s → ε → Option (Partial s)} {members : List ε}
    (law : Law w r.member fine take) (allFine : AllFine fine take (Partial.empty s) members) :
    Yields r.record (enclosed '\x7b' '\x7d' (members.map w.tokens))
      (members.foldlM take (Partial.empty s) >>= Partial.finish s) := by
  intro text rest laid ends
  obtain ⟨mid, opened, inner⟩ := laid.first (by decide)
  rw [List.nil_append] at opened
  rw [FieldReader.record, opened]
  cases members with
  | nil =>
    obtain ⟨after, closed, done⟩ := inner.first (by decide)
    cases done
    simp only [closed, ok_bind, List.foldlM_nil]
    change _ = outcome _ (Partial.finish s (Partial.empty s))
    cases Partial.finish s (Partial.empty s) <;> rfl
  | cons e members =>
    obtain ⟨tail, visible, inner⟩ := inner.begins ((w.begins e).commas _ _)
    have fewer : (e :: members).length ≤ ('"' :: tail).length + 1 := by
      simpa using inner.length_parts
    have read := law.readMembers allFine fewer (by simp) inner
    rw [skipBlanks_cons (by decide)] at read
    simp only [visible]
    split
    case h_1 same => cases same
    case h_2 =>
      rw [read]
      cases (e :: members).foldlM take (Partial.empty s) with
      | none => rfl
      | some p =>
        simp only [outcome, ok_bind, Option.bind_eq_bind, Option.bind_some]
        cases Partial.finish s p <;> rfl

end WalletNotify.Json
