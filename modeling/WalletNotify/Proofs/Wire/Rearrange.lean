import WalletNotify.Proofs.Wire.Field

/-!
# Records in another order

Bytes that are decoded split into field records in one way, and decoding is merging these. Only the
records of each declared field and their order among each other matter: main statement
`decode_of_rearranges`.
-/

namespace WalletNotify.Wire

open Record (Shape)

/-! ## Splits -/

/-- A record at the top of an encoding that has a payload of its key and nothing else. -/
def FieldRecord.IsWhole (r : FieldRecord) : Prop := IsPayload maxDepth r.key r.payload

/-- Bytes split into these records. -/
structure Splits (bytes : Bytes) (records : List FieldRecord) : Prop where
  bytesOf_eq : bytesOf records = bytes
  whole : ∀ r ∈ records, r.IsWhole

/-- No bytes start with two whole records. -/
lemma FieldRecord.IsWhole.unique {r r' : FieldRecord} {rest rest' : Bytes} (whole : r.IsWhole)
    (whole' : r'.IsWhole) (same : r.bytes ++ rest = r'.bytes ++ rest') : r = r' ∧ rest = rest' := by
  obtain ⟨key, head, payload, reads⟩ := r
  obtain ⟨key', head', payload', reads'⟩ := r'
  simp only [FieldRecord.bytes, List.append_assoc] at same
  have key_eq := reads (payload ++ rest)
  rw [same, reads'] at key_eq
  obtain ⟨rfl, behind⟩ := Prod.mk.inj (Except.ok.inj key_eq)
  obtain ⟨rfl, rfl⟩ := IsPayload.unique whole' whole behind
  obtain rfl := List.append_cancel_right same
  exact ⟨rfl, rfl⟩

namespace Splits

variable {bytes : Bytes} {records others : List FieldRecord}

/-- Only no records have no bytes. -/
lemma eq_nil_of_bytesOf (empty : bytesOf records = []) : records = [] := by
  cases records with
  | nil => rfl
  | cons r records =>
    have pos := r.length_bytes_pos
    rw [bytesOf_cons, List.append_eq_nil_iff] at empty
    rw [empty.1] at pos
    exact absurd pos (Nat.lt_irrefl 0)

/-- Whole records in front of other bytes are the first of those that all the bytes split into. -/
lemma isPrefix_of_bytesOf {rest : Bytes} (whole : ∀ r ∈ records, r.IsWhole)
    (whole' : ∀ r ∈ others, r.IsWhole) (same : bytesOf others ++ rest = bytesOf records) :
    others <+: records := by
  induction others generalizing records with
  | nil => exact List.nil_prefix
  | cons r' others ih =>
    cases records with
    | nil =>
      have empty := eq_nil_of_bytesOf (List.append_eq_nil_iff.mp same).1
      cases empty
    | cons r records =>
      rw [bytesOf_cons, bytesOf_cons, List.append_assoc] at same
      obtain ⟨rfl, behind⟩ := FieldRecord.IsWhole.unique (whole' r' List.mem_cons_self)
        (whole r List.mem_cons_self) same
      rw [List.cons_prefix_cons]
      refine ⟨rfl, ih ?_ ?_ behind⟩
      · exact fun r mem => whole r (List.mem_cons_of_mem _ mem)
      · exact fun r mem => whole' r (List.mem_cons_of_mem _ mem)

/-- Bytes split in one way only. -/
lemma unique (splits : Splits bytes records) (splits' : Splits bytes others) :
    records = others := by
  obtain ⟨rfl, whole⟩ := splits
  obtain ⟨same, whole'⟩ := splits'
  have front := isPrefix_of_bytesOf whole whole' (by rw [List.append_nil, same])
  have front' := isPrefix_of_bytesOf whole' whole (by rw [List.append_nil, same])
  exact front'.eq_of_length_le front.length_le

end Splits

section Decoding

variable {s : Shape Scalar} {name : String} {bytes : Bytes} {records : List FieldRecord}
  {v : s.Value}

/-- Records that are merged are decoded. -/
lemma decode_of_merges (merges : Merges (mergeField s name maxDepth) records s.unset v) :
    decode s name (bytesOf records) = .ok v := by
  have merged := merges.mergeUntil [] le_rfl
  rw [List.append_nil, List.length_nil] at merged
  rw [decode, mergeAll, merged]
  rfl

/-- Bytes that are decoded split into records that are merged. -/
lemma exists_splits (found : decode s name bytes = .ok v) :
    ∃ records, Splits bytes records ∧ Merges (mergeField s name maxDepth) records s.unset v := by
  obtain ⟨⟨_, rest⟩, merged, built⟩ := bind_eq_ok.mp found
  cases built
  obtain ⟨atEnd, records, rfl, merges, whole⟩ :=
    records_of_mergeUntil (takesPayloads_mergeField s name maxDepth) merged
  obtain rfl := List.eq_nil_of_length_eq_zero atEnd
  have levels : 0 < maxDepth := by decide
  exact ⟨records, ⟨(List.append_nil _).symm, fun r mem => whole r mem levels⟩, merges⟩

/-- Decoding is merging the records that the bytes split into. -/
lemma Splits.merges (splits : Splits bytes records) (found : decode s name bytes = .ok v) :
    Merges (mergeField s name maxDepth) records s.unset v := by
  obtain ⟨records', splits', merges⟩ := exists_splits found
  rwa [splits.unique splits']

end Decoding

/-! ## Rearranged records -/

/-- Other records hold the same ones of each of these fields, in the same order, and whole ones of
other fields anywhere among them. -/
structure Rearranges (numbers : List Nat) (records others : List FieldRecord) : Prop where
  declared : ∀ n ∈ numbers,
    others.filter (·.key.number = n) = records.filter (·.key.number = n)
  undeclared : ∀ r ∈ others, r.key.number ∉ numbers → r.IsWhole

variable {records others : List FieldRecord}

/-- What is rearranged of all fields is rearranged of those behind the first. -/
lemma Rearranges.behind {number : Nat} {numbers : List Nat}
    (rearranges : Rearranges (number :: numbers) records others) (new : number ∉ numbers) :
    Rearranges numbers (records.filter (·.key.number ≠ number))
      (others.filter (·.key.number ≠ number)) where
  declared n mem := by
    have ne : n ≠ number := fun same => new (same ▸ mem)
    have keeps (r : FieldRecord) :
        (decide (r.key.number = n) && decide (r.key.number ≠ number)) =
          decide (r.key.number = n) := by
      by_cases same : r.key.number = n
      · simp [same, ne]
      · simp [same]
    simp only [List.filter_filter, keeps]
    exact rearranges.declared n (List.mem_cons_of_mem _ mem)
  undeclared r mem free := by
    obtain ⟨mem, ne⟩ := List.mem_filter.mp mem
    refine rearranges.undeclared r mem fun known => ?_
    rcases List.mem_cons.mp known with same | known
    · simp [same] at ne
    · exact free known

variable {α β : Type}

/-- A field beside others makes the same of rearranged records if the others do. -/
lemma Merges.rearrange_beside {number : Nat} {numbers : List Nat} {own : Field α} {rest : Field β}
    {a b : α × β} (rearranges : Rearranges (number :: numbers) records others)
    (later : ∀ w w', Merges rest (records.filter (·.key.number ≠ number)) w w' →
      Merges rest (others.filter (·.key.number ≠ number)) w w')
    (merges : Merges (Field.beside number own rest) records a b) :
    Merges (Field.beside number own rest) others a b := by
  obtain ⟨mine, theirs⟩ := merges_beside.mp merges
  rw [← rearranges.declared number List.mem_cons_self] at mine
  exact merges_beside.mpr ⟨mine, later _ _ theirs⟩

/-- Rearranged records make the same of a value. -/
lemma Merges.rearrange {s : Shape Scalar} (numbered : s.WellNumbered) (name : String)
    {a b : s.Value} (rearranges : Rearranges s.numbers records others)
    (merges : Merges (mergeField s name maxDepth) records a b) :
    Merges (mergeField s name maxDepth) others a b := by
  induction s generalizing records others with
  | nil =>
    -- No field is declared: every record is passed over, and there is one value only.
    have whole := rearranges.undeclared
    clear rearranges merges
    induction others with
    | nil => exact .nil
    | cons r others ih =>
      refine .cons (b := ()) (fun rest => ?_) (ih fun r mem => whole r (List.mem_cons_of_mem _ mem))
      have skipped := skip_of_isPayload (whole r List.mem_cons_self List.not_mem_nil) rest
      rw [mergeField, skipped]
      rfl
  | scalar l k rest ih =>
    obtain ⟨⟨-, -, new⟩, numbered⟩ := numbered
    rw [mergeField_scalar] at merges ⊢
    exact merges.rearrange_beside rearranges fun _ _ => ih numbered (rearranges.behind new)
  | texts l rest ih =>
    obtain ⟨⟨-, -, new⟩, numbered⟩ := numbered
    rw [mergeField_texts] at merges ⊢
    exact merges.rearrange_beside rearranges fun _ _ => ih numbered (rearranges.behind new)
  | record l inner sub rest _ ih =>
    obtain ⟨⟨-, -, new⟩, -, numbered⟩ := numbered
    rw [mergeField_record] at merges ⊢
    exact merges.rearrange_beside rearranges fun _ _ => ih numbered (rearranges.behind new)
  | records l inner sub rest _ ih =>
    obtain ⟨⟨-, -, new⟩, -, numbered⟩ := numbered
    rw [mergeField_records] at merges ⊢
    exact merges.rearrange_beside rearranges fun _ _ => ih numbered (rearranges.behind new)

/-- Rearranged records are decoded as the same value. -/
lemma decode_of_rearranges {s : Shape Scalar} (numbered : s.WellNumbered) {name : String}
    {bytes : Bytes} {v : s.Value} (found : decode s name bytes = .ok v)
    (splits : Splits bytes records) (rearranges : Rearranges s.numbers records others) :
    decode s name (bytesOf others) = .ok v :=
  decode_of_merges ((splits.merges found).rearrange numbered name rearranges)

end WalletNotify.Wire
