import WalletNotify.Proofs.Wire.Field

/-!
# Nested records

A nested record is merged from the bytes that follow its count, so that what is wrong with it may
first be met behind its end. It must end where its count says, though. Main statements: a nested
record is merged exactly if its bytes are on their own (`mergeCounted_counted`), and what is behind
it then goes on from a value that has it (`mergeAll_nested`, `mergeAll_nested_of_error`).
-/

namespace WalletNotify.Record

variable {κ : Type} [Scalars κ]

/-- Nested records of a shape are a field of another shape: one record, or many. -/
inductive NestedField (l : Label) (inner : String) (sub : Shape κ) : Shape κ → Type where
  | record {rest} : NestedField l inner sub (.record l inner sub rest)
  | records {rest} : NestedField l inner sub (.records l inner sub rest)
  | behindScalar {l' k rest} :
    NestedField l inner sub rest → NestedField l inner sub (.scalar l' k rest)
  | behindTexts {l' rest} :
    NestedField l inner sub rest → NestedField l inner sub (.texts l' rest)
  | behindRecord {l' inner' sub' rest} :
    NestedField l inner sub rest → NestedField l inner sub (.record l' inner' sub' rest)
  | behindRecords {l' inner' sub' rest} :
    NestedField l inner sub rest → NestedField l inner sub (.records l' inner' sub' rest)

namespace NestedField

variable {l : Label} {inner : String} {sub : Shape κ}

/-- What merging goes on from: the record that is there, or else an empty one. -/
def start : {s : Shape κ} → NestedField l inner sub s → s.Value → sub.Value
  | _, record, v => v.1.getD sub.unset
  | _, records, _ => sub.unset
  | _, behindScalar f, v => f.start v.2
  | _, behindTexts f, v => f.start v.2
  | _, behindRecord f, v => f.start v.2
  | _, behindRecords f, v => f.start v.2

/-- The value whose field is this record, or has it behind the others. -/
def put : {s : Shape κ} → NestedField l inner sub s → s.Value → sub.Value → s.Value
  | _, record, v, x => (some x, v.2)
  | _, records, v, x => (v.1 ++ [x], v.2)
  | _, behindScalar f, v, x => (v.1, f.put v.2 x)
  | _, behindTexts f, v, x => (v.1, f.put v.2 x)
  | _, behindRecord f, v, x => (v.1, f.put v.2 x)
  | _, behindRecords f, v, x => (v.1, f.put v.2 x)

/-- Where nothing is set, a nested field starts with nothing set. -/
lemma start_unset {s : Shape κ} (f : NestedField l inner sub s) : f.start s.unset = sub.unset := by
  induction f with
  | record => rfl
  | records => rfl
  | behindScalar _ ih => exact ih
  | behindTexts _ ih => exact ih
  | behindRecord _ ih => exact ih
  | behindRecords _ ih => exact ih

omit [Scalars κ] in
/-- The number of a nested field is one of the shape's. -/
lemma number_mem {s : Shape κ} (f : NestedField l inner sub s) : l.number ∈ s.numbers := by
  induction f with
  | record => exact List.mem_cons_self
  | records => exact List.mem_cons_self
  | behindScalar _ ih => exact List.mem_cons_of_mem _ ih
  | behindTexts _ ih => exact List.mem_cons_of_mem _ ih
  | behindRecord _ ih => exact List.mem_cons_of_mem _ ih
  | behindRecords _ ih => exact List.mem_cons_of_mem _ ih

omit [Scalars κ] in
/-- The number of a nested field fits a key. -/
lemma number_bounds {s : Shape κ} (f : NestedField l inner sub s) (numbered : s.WellNumbered) :
    0 < l.number ∧ l.number < 2 ^ 29 := by
  induction f with
  | record => exact ⟨numbered.1.1, numbered.1.2.1⟩
  | records => exact ⟨numbered.1.1, numbered.1.2.1⟩
  | behindScalar _ ih => exact ih numbered.2
  | behindTexts _ ih => exact ih numbered.2
  | behindRecord _ ih => exact ih numbered.2.2
  | behindRecords _ ih => exact ih numbered.2.2

end NestedField

end WalletNotify.Record

namespace WalletNotify.Wire

open Record (Label NestedField Shape)

variable {α β γ : Type} {bytes rest : Bytes}

/-! ## Fuel -/

/-- A step that goes on takes a byte or more. -/
def Advances (step : Bytes → α → Except DecodeError (α × Bytes)) : Prop :=
  ∀ bytes a b rest, step bytes a = .ok (b, rest) → rest.length < bytes.length

/-- Merging with fuel for every byte is merging with any more. -/
lemma mergeUntil_of_enough {step : Bytes → α → Except DecodeError (α × Bytes)}
    (advances : Advances step) {limit fuel fuel' : Nat} (a : α) (enough : bytes.length ≤ fuel)
    (enough' : bytes.length ≤ fuel') :
    mergeUntil limit step fuel bytes a = mergeUntil limit step fuel' bytes a := by
  induction fuel generalizing fuel' bytes a with
  | zero =>
    unfold mergeUntil
    have none : bytes.length ≤ limit := by omega
    rw [if_pos none, if_pos none]
  | succ fuel ih =>
    by_cases done : bytes.length ≤ limit
    · unfold mergeUntil
      rw [if_pos done, if_pos done]
    · cases fuel' with
      | zero => omega
      | succ fuel' =>
        rw [mergeUntil, mergeUntil, if_neg done, if_neg done]
        cases first : step bytes a with
        | error e => rfl
        | ok next =>
          have less := advances _ _ _ _ first
          exact ih next.1 (by omega) (by omega)

/-- Merging a record takes a byte or more. -/
lemma advances_mergeField (s : Shape Scalar) (name : String) (depth : Nat) :
    Advances (mergeRecord (mergeField s name depth)) := by
  intro bytes a b rest found
  obtain ⟨⟨key, behind⟩, read, taken⟩ := bind_eq_ok.mp found
  obtain ⟨payload, rfl, -⟩ := takesPayloads_mergeField s name depth _ _ _ _ _ taken
  have less := length_pos_of_key (mapError_eq_ok.mp read)
  rw [List.length_append] at less
  omega

/-! ## Counted records -/

/-- Merging all bytes is merging until none are left, with fuel for every byte. -/
lemma mergeAll_eq_ok {s : Shape Scalar} {name : String} {depth : Nat} {a b : s.Value} :
    mergeAll s name depth bytes a = .ok b ↔
      mergeUntil 0 (mergeRecord (mergeField s name depth)) bytes.length bytes a = .ok (b, []) := by
  rw [mergeAll, bind_eq_ok]
  constructor
  · rintro ⟨⟨_, rest⟩, found, built⟩
    cases built
    obtain ⟨atEnd, -⟩ := records_of_mergeUntil (takesPayloads_mergeField s name depth) found
    rw [found, List.eq_nil_of_length_eq_zero atEnd]
  · intro found
    exact ⟨(b, []), found, rfl⟩

/-- Counted records are merged exactly if they are on their own, and then to their end. -/
lemma mergeCounted_counted {s : Shape Scalar} {name : String} {depth : Nat} {a b : s.Value}
    {rest' : Bytes} (fits : bytes.length < 2 ^ 64) :
    mergeCounted (mergeRecord (mergeField s name depth)) (Scalar.counted bytes ++ rest) a =
        .ok (b, rest') ↔
      mergeAll s name depth bytes a = .ok b ∧ rest' = rest := by
  have takes := takesPayloads_mergeField s name depth
  have counts := Varint.decode_encode fits
  rw [mergeAll_eq_ok, Scalar.counted, List.append_assoc]
  constructor
  · intro found
    rw [mergeCounted, counts] at found
    have within : bytes.length ≤ (bytes ++ rest).length := by simp
    have left : (bytes ++ rest).length - bytes.length = rest.length := by simp
    simp only [Except.mapError, ok_bind, if_pos within, left] at found
    -- Merging stops where the count says, also if it has read records across that place.
    obtain ⟨atEnd, records, split, merges, -⟩ := records_of_mergeUntil takes found
    obtain ⟨rfl, rfl⟩ := List.append_inj' split atEnd.symm
    exact ⟨by simpa using merges.mergeUntil [] le_rfl, rfl⟩
  · rintro ⟨found, rfl⟩
    obtain ⟨-, records, split, merges, -⟩ := records_of_mergeUntil takes found
    rw [List.append_nil] at split
    subst split
    exact merges.mergeCounted counts rest'

/-! ## Fields of nested records -/

/-- A field in front of others makes of their payloads what they do. -/
lemma Passes.told {field : Field (α × β)} {others : Field β} {number : Nat}
    (passes : Passes number field others) {key : Key} (other : key.number ≠ number) {v : α × β}
    {merged : Except DecodeError (γ × Bytes)} {put : γ → β} {tell : DecodeError → DecodeError}
    (told : others key bytes v.2 = Except.mapError tell do
      let (x, rest) ← merged
      return (put x, rest)) :
    field key bytes v = Except.mapError tell do
      let (x, rest) ← merged
      return ((v.1, put x), rest) := by
  rw [passes key other, told]
  cases merged <;> rfl

variable {l : Label} {inner : String} {sub s : Shape Scalar}

/-- A field of nested records merges a payload into what is there, whatever fields are in front. -/
lemma mergeField_nested (f : NestedField l inner sub s) (numbered : s.WellNumbered) (name : String)
    (depth : Nat) (bytes : Bytes) (v : s.Value) :
    mergeField s name depth ⟨l.number, .delimited⟩ bytes v =
      Except.mapError (DecodeError.within name l.name) do
        let (x, rest) ← mergeNested depth (mergeField sub inner) .delimited bytes (f.start v)
        return (f.put v x, rest) := by
  induction f with
  | record =>
    rw [mergeField, if_pos rfl]
    rfl
  | records =>
    rw [mergeField, if_pos rfl]
    rfl
  | @behindScalar l' k others g ih =>
    obtain ⟨⟨-, -, new⟩, numbered⟩ := numbered
    have other : l.number ≠ l'.number := ne_of_mem_of_not_mem g.number_mem new
    exact (passes_scalar l' name depth others k).told other (ih numbered v.2)
  | @behindTexts l' others g ih =>
    obtain ⟨⟨-, -, new⟩, numbered⟩ := numbered
    have other : l.number ≠ l'.number := ne_of_mem_of_not_mem g.number_mem new
    exact (passes_texts l' name depth others).told other (ih numbered v.2)
  | @behindRecord l' inner' sub' others g ih =>
    obtain ⟨⟨-, -, new⟩, -, numbered⟩ := numbered
    have other : l.number ≠ l'.number := ne_of_mem_of_not_mem g.number_mem new
    exact (passes_record l' inner' name depth sub' others).told other (ih numbered v.2)
  | @behindRecords l' inner' sub' others g ih =>
    obtain ⟨⟨-, -, new⟩, -, numbered⟩ := numbered
    have other : l.number ≠ l'.number := ne_of_mem_of_not_mem g.number_mem new
    exact (passes_records l' inner' name depth sub' others).told other (ih numbered v.2)

/-- Merging goes on behind the record in front, or tells what is wrong with it. -/
lemma mergeAll_front {key : Key} (pos : 0 < key.number) (small : key.number < 2 ^ 29)
    (name : String) (depth : Nat) (bytes : Bytes) (v : s.Value) :
    mergeAll s name depth (key.encode ++ bytes) v =
      mergeField s name depth key bytes v >>= fun (w, rest) => mergeAll s name depth rest w := by
  have advances := advances_mergeField s name depth
  have some : 0 < key.encode.length := Varint.length_encode_pos key.toNat
  obtain ⟨fuel, enough⟩ : ∃ fuel, (key.encode ++ bytes).length = fuel + 1 := by
    rw [List.length_append]
    exact Nat.exists_eq_succ_of_ne_zero (by omega)
  have first : mergeRecord (mergeField s name depth) (key.encode ++ bytes) v =
      mergeField s name depth key bytes v := by
    rw [mergeRecord, Key.decode_encode pos small]
    rfl
  rw [mergeAll, enough, mergeUntil, if_neg (by omega), first]
  cases merged : mergeField s name depth key bytes v with
  | error e => rfl
  | ok next =>
    obtain ⟨w, rest⟩ := next
    have less := advances _ _ _ _ (first.trans merged)
    have onward : mergeUntil 0 (mergeRecord (mergeField s name depth)) fuel rest w =
        mergeUntil 0 (mergeRecord (mergeField s name depth)) rest.length rest w :=
      mergeUntil_of_enough advances w (by omega) le_rfl
    simp only [ok_bind, mergeAll, onward]

/-- A nested record is merged into a field exactly if its bytes are on their own. -/
lemma mergeField_delimited (f : NestedField l inner sub s) (numbered : s.WellNumbered)
    (fits : bytes.length < 2 ^ 64) (name : String) (depth : Nat) {v w : s.Value} {rest' : Bytes} :
    mergeField s name (depth + 1) ⟨l.number, .delimited⟩ (Scalar.counted bytes ++ rest) v =
        .ok (w, rest') ↔
      ∃ x, mergeAll sub inner depth bytes (f.start v) = .ok x ∧ w = f.put v x ∧ rest' = rest := by
  rw [mergeField_nested f numbered, mapError_eq_ok, bind_eq_ok]
  have enters (bytes : Bytes) (x : sub.Value) :
      mergeNested (depth + 1) (mergeField sub inner) .delimited bytes x =
        mergeCounted (mergeRecord (mergeField sub inner depth)) bytes x := rfl
  simp only [enters]
  constructor
  · rintro ⟨⟨x, _⟩, merged, built⟩
    cases built
    obtain ⟨whole, rfl⟩ := (mergeCounted_counted fits).mp merged
    exact ⟨x, whole, rfl, rfl⟩
  · rintro ⟨x, whole, rfl, rfl⟩
    exact ⟨(x, rest'), (mergeCounted_counted fits).mpr ⟨whole, rfl⟩, rfl⟩

section Merging

variable (f : NestedField l inner sub s) (numbered : s.WellNumbered) (fits : bytes.length < 2 ^ 64)
  (name : String) {depth : Nat} {v : s.Value}
include numbered fits

/-- What is behind a nested record goes on from a value that has it. -/
lemma mergeAll_nested {x : sub.Value} (whole : mergeAll sub inner depth bytes (f.start v) = .ok x) :
    mergeAll s name (depth + 1) (delimitedRecord l.number bytes ++ rest) v =
      mergeAll s name (depth + 1) rest (f.put v x) := by
  obtain ⟨pos, small⟩ := f.number_bounds numbered
  have merged : mergeField s name (depth + 1) ⟨l.number, .delimited⟩
      (Scalar.counted bytes ++ rest) v = .ok (f.put v x, rest) :=
    (mergeField_delimited f numbered fits name depth).mpr ⟨x, whole, rfl, rfl⟩
  rw [delimitedRecord, List.append_assoc, mergeAll_front pos small, merged]
  rfl

/-- Nothing behind a nested record makes good what is wrong with it. -/
lemma mergeAll_nested_of_error {e : DecodeError}
    (failed : mergeAll sub inner depth bytes (f.start v) = .error e) :
    ∃ e', mergeAll s name (depth + 1) (delimitedRecord l.number bytes ++ rest) v = .error e' := by
  obtain ⟨pos, small⟩ := f.number_bounds numbered
  rw [delimitedRecord, List.append_assoc, mergeAll_front pos small]
  cases merged : mergeField s name (depth + 1) ⟨l.number, .delimited⟩
      (Scalar.counted bytes ++ rest) v with
  | error e' => exact ⟨e', rfl⟩
  | ok next =>
    obtain ⟨x, whole, -⟩ := (mergeField_delimited f numbered fits name depth).mp merged
    cases failed.symm.trans whole

end Merging

end WalletNotify.Wire
