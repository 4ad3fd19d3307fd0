import WalletNotify.Proofs.Wire.Merge

/-!
# What an encoding makes of a value

Merging the encoding of one value into another overlays the other: scalars that are set replace,
lists grow, and nested records are overlaid in turn. Main statement: an encoding spells this
(`spells_encode`), if the fields of its shape have numbers of their own and it does not nest too
deep.
-/

namespace WalletNotify.Record.Shape

variable {κ : Type}

/-- The numbers of the fields of a shape. -/
def numbers (s : Shape κ) : List Nat := s.labels.map Label.number

/-- A number that a key has room for, and that no field of a shape has. -/
abbrev IsFree (n : Nat) (s : Shape κ) : Prop := 0 < n ∧ n < 2 ^ 29 ∧ n ∉ s.numbers

/-- Every field has a number of its own, in nested records too. -/
def WellNumbered : Shape κ → Prop
  | nil => True
  | scalar l _ rest => IsFree l.number rest ∧ rest.WellNumbered
  | texts l rest => IsFree l.number rest ∧ rest.WellNumbered
  | record l _ sub rest => IsFree l.number rest ∧ sub.WellNumbered ∧ rest.WellNumbered
  | records l _ sub rest => IsFree l.number rest ∧ sub.WellNumbered ∧ rest.WellNumbered

instance instDecidableWellNumbered : (s : Shape κ) → Decidable s.WellNumbered
  | nil => isTrue trivial
  | scalar l _ rest =>
    have := instDecidableWellNumbered rest
    inferInstanceAs (Decidable (IsFree l.number rest ∧ rest.WellNumbered))
  | texts l rest =>
    have := instDecidableWellNumbered rest
    inferInstanceAs (Decidable (IsFree l.number rest ∧ rest.WellNumbered))
  | record l _ sub rest =>
    have := instDecidableWellNumbered sub
    have := instDecidableWellNumbered rest
    inferInstanceAs (Decidable (IsFree l.number rest ∧ sub.WellNumbered ∧ rest.WellNumbered))
  | records l _ sub rest =>
    have := instDecidableWellNumbered sub
    have := instDecidableWellNumbered rest
    inferInstanceAs (Decidable (IsFree l.number rest ∧ sub.WellNumbered ∧ rest.WellNumbered))

/-- How deep records are nested. -/
def height : Shape κ → Nat
  | nil => 0
  | scalar _ _ rest => rest.height
  | texts _ rest => rest.height
  | record _ _ sub rest => max (sub.height + 1) rest.height
  | records _ _ sub rest => max (sub.height + 1) rest.height

end WalletNotify.Record.Shape

namespace WalletNotify.Wire

open Record (Label Shape)

/-- A value with another laid over it. -/
def overlay : (s : Shape Scalar) → s.Value → s.Value → s.Value
  | .nil, _, _ => ()
  | .scalar _ k rest, a, b =>
    (if b.1 = Record.Scalars.unset k then a.1 else b.1, overlay rest a.2 b.2)
  | .texts _ rest, a, b => (a.1 ++ b.1, overlay rest a.2 b.2)
  | .record _ _ sub rest, a, b =>
    (match b.1 with
      | none => a.1
      | some y => some (overlay sub (a.1.getD sub.unset) y), overlay rest a.2 b.2)
  | .records _ _ _ rest, a, b => (a.1 ++ b.1, overlay rest a.2 b.2)

/-- Over a value with nothing set, every value is itself. -/
lemma overlay_unset (s : Shape Scalar) (v : s.Value) : overlay s s.unset v = v := by
  induction s with
  | nil => rfl
  | scalar l k rest ih =>
    refine Prod.ext ?_ (ih v.2)
    change (if v.1 = Record.Scalars.unset k then Record.Scalars.unset k else v.1) = v.1
    split
    case isTrue e => exact e.symm
    case isFalse => rfl
  | texts l rest ih => exact Prod.ext (List.nil_append _) (ih v.2)
  | record l name _ rest ihs ih =>
    obtain ⟨x, w⟩ := v
    refine Prod.ext ?_ (ih w)
    cases x with
    | none => rfl
    | some y => exact congrArg some (ihs y)
  | records l name sub rest ihs ih => exact Prod.ext (List.nil_append _) (ih v.2)

/-! ## Fields -/

section Fields

variable (l : Label) (inner name : String) (depth : Nat) (sub others : Shape Scalar)

/-- A scalar passes the keys of other numbers to the fields behind it. -/
lemma passes_scalar (k : Scalar) :
    Passes l.number (mergeField (.scalar l k others) name depth) (mergeField others name depth) :=
  fun _ ne _ _ => if_neg ne

/-- Texts pass the keys of other numbers to the fields behind them. -/
lemma passes_texts :
    Passes l.number (mergeField (.texts l others) name depth) (mergeField others name depth) :=
  fun _ ne _ _ => if_neg ne

/-- A nested record passes the keys of other numbers to the fields behind it. -/
lemma passes_record :
    Passes l.number (mergeField (.record l inner sub others) name depth)
      (mergeField others name depth) :=
  fun _ ne _ _ => if_neg ne

/-- Nested records pass the keys of other numbers to the fields behind them. -/
lemma passes_records :
    Passes l.number (mergeField (.records l inner sub others) name depth)
      (mergeField others name depth) :=
  fun _ ne _ _ => if_neg ne

variable {others depth}

/-- A scalar's payload replaces the scalar. -/
lemma takes_scalar {k : Scalar} {x : k.Value} (fits : (k.payload x).length < 2 ^ 64)
    (old : k.Value) (w : others.Value) :
    Takes (mergeField (.scalar l k others) name depth) ⟨l.number, k.wireType⟩ (k.payload x)
      (old, w) (x, w) := by
  intro rest
  refine (if_pos rfl).trans ?_
  rw [mapError_eq_ok]
  simp only [expect, ↓reduceIte, ok_bind, Scalar.read_payload fits]
  rfl

/-- A text's payload puts it behind the others. -/
lemma takes_texts {x : String} (fits : (Scalar.text.payload x).length < 2 ^ 64)
    (old : List String) (w : others.Value) :
    Takes (mergeField (.texts l others) name depth) ⟨l.number, .delimited⟩
      (Scalar.text.payload x) (old, w) (old ++ [x], w) := by
  intro rest
  refine (if_pos rfl).trans ?_
  rw [mapError_eq_ok]
  simp only [expect, ↓reduceIte, ok_bind, Scalar.read_payload fits]
  rfl

variable {sub}

/-- A counted payload is merged into a nested record, with one level less left around it. -/
lemma mergeNested_counted {numbers : List Nat} {bytes : Bytes} {a b : sub.Value}
    (spells : Spells (mergeField sub inner depth) numbers bytes a b)
    (fits : bytes.length < 2 ^ 64) (rest : Bytes) :
    mergeNested (depth + 1) (mergeField sub inner) .delimited (Scalar.counted bytes ++ rest) a =
      .ok (b, rest) := by
  simp only [mergeNested, expect, ↓reduceIte, Except.mapError, ok_bind]
  exact spells.mergeCounted fits rest

/-- The payload of a nested record goes on from what was there. -/
lemma takes_record {numbers : List Nat} {bytes : Bytes} {old : Option sub.Value} {b : sub.Value}
    (spells : Spells (mergeField sub inner depth) numbers bytes (old.getD sub.unset) b)
    (fits : bytes.length < 2 ^ 64) (w : others.Value) :
    Takes (mergeField (.record l inner sub others) name (depth + 1)) ⟨l.number, .delimited⟩
      (Scalar.counted bytes) (old, w) (some b, w) := by
  intro rest
  refine (if_pos rfl).trans ?_
  rw [mapError_eq_ok]
  simp only [mergeNested_counted inner spells fits, ok_bind]
  rfl

/-- The payload of a repeated record is one more record. -/
lemma takes_records {numbers : List Nat} {bytes : Bytes} {b : sub.Value}
    (spells : Spells (mergeField sub inner depth) numbers bytes sub.unset b)
    (fits : bytes.length < 2 ^ 64) (old : List sub.Value) (w : others.Value) :
    Takes (mergeField (.records l inner sub others) name (depth + 1)) ⟨l.number, .delimited⟩
      (Scalar.counted bytes) (old, w) (old ++ [b], w) := by
  intro rest
  refine (if_pos rfl).trans ?_
  rw [mapError_eq_ok]
  simp only [mergeNested_counted inner spells fits, ok_bind]
  rfl

end Fields

/-! ## Encodings -/

section Encodings

variable (l : Label) (name : String) (sub rest : Shape Scalar) (w : rest.Value)

/-- A scalar is encoded in front of the fields behind it. -/
lemma encode_scalar (k : Scalar) (x : k.Value) :
    encode (.scalar l k rest) (x, w) = k.encodeRecord l.number x ++ encode rest w := rfl

/-- Texts are encoded one by one in front of the fields behind them. -/
lemma encode_texts (items : List String) :
    encode (.texts l rest) (items, w) =
      items.flatMap (fun x => delimitedRecord l.number (Text.utf8 x)) ++ encode rest w := rfl

/-- A nested record that is missing is not encoded. -/
lemma encode_record_none :
    encode (.record l name sub rest) (none, w) = encode rest w := rfl

/-- A nested record is encoded in front of the fields behind it. -/
lemma encode_record_some (x : sub.Value) :
    encode (.record l name sub rest) (some x, w) =
      delimitedRecord l.number (encode sub x) ++ encode rest w := rfl

/-- A nested record that may be missing is encoded as a list of one record or none. -/
lemma encode_record (x : Option sub.Value) :
    encode (.record l name sub rest) (x, w) =
      x.toList.flatMap (fun x => delimitedRecord l.number (encode sub x)) ++ encode rest w := by
  cases x with
  | none => exact encode_record_none l name sub rest w
  | some x => rw [encode_record_some, Option.toList_some, List.flatMap_singleton]

/-- Nested records are encoded one by one in front of the fields behind them. -/
lemma encode_records (items : List sub.Value) :
    encode (.records l name sub rest) (items, w) =
      items.flatMap (fun x => delimitedRecord l.number (encode sub x)) ++ encode rest w := rfl

end Encodings

/-- What is written of one item is no longer than what is written of all. -/
lemma length_le_flatMap {α : Type} (write : α → Bytes) {items : List α} {x : α}
    (mem : x ∈ items) : (write x).length ≤ (items.flatMap write).length := by
  obtain ⟨before, after, rfl⟩ := List.append_of_mem mem
  simp only [List.flatMap_append, List.flatMap_cons, List.length_append]
  omega

/-- A delimited record has its key, the length of its payload and its payload. -/
lemma length_delimitedRecord (n : Nat) (payload : Bytes) :
    (delimitedRecord n payload).length = (Key.encode ⟨n, .delimited⟩).length +
      (Varint.encode payload.length).length + payload.length := by
  rw [delimitedRecord, List.length_append, Scalar.length_counted, Nat.add_assoc]

/-- The encoding of a value overlays it. -/
lemma spells_encode (s : Shape Scalar) (numbered : s.WellNumbered) (name : String) (depth : Nat)
    (deep : s.height ≤ depth) (a b : s.Value) (fits : (encode s b).length < 2 ^ 64) :
    Spells (mergeField s name depth) s.numbers (encode s b) a (overlay s a b) := by
  -- The records of the first field come first, and those of the others pass it: no other field
  -- has its number.
  induction s generalizing name depth with
  | nil => exact .nil
  | scalar l k rest ih =>
    obtain ⟨⟨pos, small, new⟩, numbered⟩ := numbered
    obtain ⟨old, w⟩ := a
    obtain ⟨x, y⟩ := b
    rw [encode_scalar, List.length_append] at fits
    have later := ih numbered name depth deep w y (by omega)
    refine .append ?_ (later.behind (passes_scalar l name depth rest k) new _)
    simp only [Scalar.encodeRecord]
    split
    case isTrue => exact .nil
    case isFalse set =>
      simp only [Scalar.encodeRecord, if_neg set, List.length_append] at fits
      exact .single (takes_scalar l name (by omega) old w) List.mem_cons_self pos small
  | texts l rest ih =>
    obtain ⟨⟨pos, small, new⟩, numbered⟩ := numbered
    obtain ⟨old, w⟩ := a
    obtain ⟨items, y⟩ := b
    rw [encode_texts, List.length_append] at fits
    have each : ∀ x ∈ items, ∀ before, Spells (mergeField (.texts l rest) name depth)
        (l.number :: rest.numbers) (delimitedRecord l.number (Text.utf8 x)) (before, w)
        (before ++ [x], w) := by
      intro x mem before
      have within := length_le_flatMap (fun x => delimitedRecord l.number (Text.utf8 x)) mem
      rw [length_delimitedRecord] at within
      have fits : (Scalar.text.payload x).length < 2 ^ 64 := by
        rw [Scalar.payload, Scalar.length_counted]
        omega
      exact .single (takes_texts l name fits before w) List.mem_cons_self pos small
    have later := ih numbered name depth deep w y (by omega)
    exact (Spells.flatMap each old).append
      (later.behind (passes_texts l name depth rest) new _)
  | record l inner sub rest ihs ih =>
    obtain ⟨⟨pos, small, new⟩, numberedSub, numbered⟩ := numbered
    obtain ⟨old, w⟩ := a
    obtain ⟨x, y⟩ := b
    rw [Shape.height] at deep
    have passes := passes_record l inner name depth sub rest
    cases x with
    | none =>
      rw [encode_record_none] at fits ⊢
      exact (ih numbered name depth (by omega) w y fits).behind passes new _
    | some m =>
      rw [encode_record_some, List.length_append, length_delimitedRecord] at fits
      have later := ih numbered name depth (by omega) w y (by omega)
      refine .append ?_ (later.behind passes new _)
      cases depth with
      | zero => omega
      | succ depth =>
        have nested := ihs numberedSub inner depth (by omega) (old.getD sub.unset) m (by omega)
        exact .single (takes_record l inner name nested (by omega) w) List.mem_cons_self pos small
  | records l inner sub rest ihs ih =>
    obtain ⟨⟨pos, small, new⟩, numberedSub, numbered⟩ := numbered
    obtain ⟨old, w⟩ := a
    obtain ⟨items, y⟩ := b
    rw [encode_records, List.length_append] at fits
    rw [Shape.height] at deep
    have each : ∀ x ∈ items, ∀ before, Spells (mergeField (.records l inner sub rest) name depth)
        (l.number :: rest.numbers) (delimitedRecord l.number (encode sub x)) (before, w)
        (before ++ [x], w) := by
      intro x mem before
      have within := length_le_flatMap (fun x => delimitedRecord l.number (encode sub x)) mem
      rw [length_delimitedRecord] at within
      cases depth with
      | zero => omega
      | succ depth =>
        have nested := ihs numberedSub inner depth (by omega) sub.unset x (by omega)
        rw [overlay_unset] at nested
        exact .single (takes_records l inner name nested (by omega) before w) List.mem_cons_self
          pos small
    have later := ih numbered name depth (by omega) w y (by omega)
    exact (Spells.flatMap each old).append
      (later.behind (passes_records l inner name depth sub rest) new _)

/-- What was encoded is decoded again. -/
lemma decode_encode {s : Shape Scalar} (numbered : s.WellNumbered) (deep : s.height ≤ maxDepth)
    (name : String) {v : s.Value} (fits : (encode s v).length < 2 ^ 64) :
    decode s name (encode s v) = .ok v := by
  have spells := spells_encode s numbered name maxDepth deep s.unset v fits
  rw [overlay_unset] at spells
  rw [decode, mergeAll, spells.mergeUntil]
  rfl

end WalletNotify.Wire
