import WalletNotify.Proofs.Wire.Rearrange

/-!
# Encodings that are cut

An encoding is a field record for every scalar that is set, every item of a list and every nested
record that is present, in the order of the fields. Main statements: its first records are the
encoding of the value without the other fields (`exists_cuts`), and no other front of it is decoded
(`Splits.exists_take`).
-/

namespace WalletNotify.Wire

open Record (Label Scalars Shape)

/-- A value with the fields of its first `n` records only. A scalar behind them is unset and a
nested record absent, and a list has the items among them. -/
def truncate : (s : Shape Scalar) → Nat → s.Value → s.Value
  | .nil, _, _ => ()
  | .scalar _ k rest, n, v =>
    (if n = 0 then Scalars.unset k else v.1,
      truncate rest (n - if v.1 = Scalars.unset k then 0 else 1) v.2)
  | .texts _ rest, n, v => (v.1.take n, truncate rest (n - v.1.length) v.2)
  | .record _ _ _ rest, n, v =>
    (if n = 0 then none else v.1, truncate rest (n - v.1.toList.length) v.2)
  | .records _ _ _ rest, n, v => (v.1.take n, truncate rest (n - v.1.length) v.2)

/-! ## First records -/

/-- Bytes split into these records, of which the first `n` are the bytes `front n`. -/
structure Cuts (bytes : Bytes) (records : List FieldRecord) (front : Nat → Bytes) : Prop
    extends Splits bytes records where
  take : ∀ n, bytesOf (records.take n) = front n

variable {bytes more : Bytes} {records others : List FieldRecord} {front behind : Nat → Bytes}

/-- Bytes that are cut one after the other are cut together. -/
lemma Cuts.append (cuts : Cuts bytes records front) (cuts' : Cuts more others behind) :
    Cuts (bytes ++ more) (records ++ others)
      (fun n => front n ++ behind (n - records.length)) where
  bytesOf_eq := by rw [bytesOf_append, cuts.bytesOf_eq, cuts'.bytesOf_eq]
  whole := List.forall_mem_append.mpr ⟨cuts.whole, cuts'.whole⟩
  take n := by rw [List.take_append, bytesOf_append, cuts.take, cuts'.take]

section Fields

variable {number : Nat} (pos : 0 < number) (small : number < 2 ^ 29)
include pos small

/-- A scalar is one record, or none if it is unset. -/
lemma exists_cuts_scalar {k : Scalar} {x : k.Value}
    (fits : (k.encodeRecord number x).length < 2 ^ 64) :
    ∃ records, records.length = (if x = Scalars.unset k then 0 else 1) ∧
      Cuts (k.encodeRecord number x) records
        fun n => k.encodeRecord number (if n = 0 then Scalars.unset k else x) := by
  have none : k.encodeRecord number (Scalars.unset k) = [] := if_pos rfl
  by_cases unset : x = Scalars.unset k
  case pos =>
    subst unset
    refine ⟨[], (if_pos rfl).symm, ⟨none.symm, nofun⟩, fun n => ?_⟩
    rw [List.take_nil, ite_self, none]
    rfl
  case neg =>
    have set : k.encodeRecord number x = Key.encode ⟨number, k.wireType⟩ ++ k.payload x :=
      if_neg unset
    rw [set, List.length_append] at fits
    -- What is read back is a payload.
    have read := Scalar.read_payload (by omega : (k.payload x).length < 2 ^ 64) []
    obtain ⟨payload, eq, -, whole⟩ := takesPayload_read k _ _ _ read
    rw [List.append_nil, List.append_nil] at eq
    subst eq
    let r := FieldRecord.of ⟨number, k.wireType⟩ (k.payload x) pos small
    have bytes : bytesOf [r] = k.encodeRecord number x := (List.append_nil _).trans set.symm
    refine ⟨[r], (if_neg unset).symm, ⟨bytes, ?_⟩, fun n => ?_⟩
    · intro r mem
      rw [List.mem_singleton.mp mem]
      exact whole _ number
    · cases n with
      | zero => exact none.symm
      | succ n =>
        rw [List.take_succ_cons, List.take_nil, if_neg n.succ_ne_zero]
        exact bytes

/-- The items of a list are one record each. -/
lemma exists_cuts_items {α : Type} (write : α → Bytes) (items : List α)
    (fits : (items.flatMap fun x => delimitedRecord number (write x)).length < 2 ^ 64) :
    ∃ records, records.length = items.length ∧
      Cuts (items.flatMap fun x => delimitedRecord number (write x)) records
        fun n => (items.take n).flatMap fun x => delimitedRecord number (write x) := by
  let record (x : α) : FieldRecord :=
    .of ⟨number, .delimited⟩ (Scalar.counted (write x)) pos small
  have bytes (items : List α) : bytesOf (items.map record) =
      items.flatMap fun x => delimitedRecord number (write x) :=
    List.flatMap_map record FieldRecord.bytes items
  refine ⟨items.map record, List.length_map _, ⟨bytes items, ?_⟩, fun n => ?_⟩
  · rw [List.forall_mem_map]
    intro x mem
    have within := length_le_flatMap (fun x => delimitedRecord number (write x)) mem
    rw [length_delimitedRecord] at within
    have counts := Varint.decode_encode (by omega : (write x).length < 2 ^ 64) []
    rw [List.append_nil] at counts
    exact IsPayload.delimited counts
  · rw [← List.map_take, bytes]

end Fields

/-- The first records of an encoding are the encoding of what they tell. -/
lemma exists_cuts (s : Shape Scalar) (numbered : s.WellNumbered) (v : s.Value)
    (fits : (encode s v).length < 2 ^ 64) :
    ∃ records, Cuts (encode s v) records fun n => encode s (truncate s n v) := by
  induction s with
  | nil => exact ⟨[], ⟨rfl, nofun⟩, fun n => congrArg bytesOf List.take_nil⟩
  | scalar l k rest ih =>
    obtain ⟨⟨pos, small, -⟩, numbered⟩ := numbered
    obtain ⟨x, w⟩ := v
    rw [encode_scalar, List.length_append] at fits
    obtain ⟨records, length, cuts⟩ :=
      exists_cuts_scalar pos small (by omega : (k.encodeRecord l.number x).length < 2 ^ 64)
    obtain ⟨others, cuts'⟩ := ih numbered w (by omega)
    have all := cuts.append cuts'
    rw [length] at all
    exact ⟨_, all⟩
  | texts l rest ih =>
    obtain ⟨⟨pos, small, -⟩, numbered⟩ := numbered
    obtain ⟨items, w⟩ := v
    rw [encode_texts, List.length_append] at fits
    obtain ⟨records, length, cuts⟩ :=
      exists_cuts_items pos small Text.utf8 items (by omega)
    obtain ⟨others, cuts'⟩ := ih numbered w (by omega)
    have all := cuts.append cuts'
    rw [length] at all
    exact ⟨_, all⟩
  | record l inner sub rest _ ih =>
    obtain ⟨⟨pos, small, -⟩, -, numbered⟩ := numbered
    obtain ⟨x, w⟩ := v
    rw [encode_record, List.length_append] at fits
    obtain ⟨records, length, cuts⟩ :=
      exists_cuts_items pos small (encode sub) x.toList (by omega)
    obtain ⟨others, cuts'⟩ := ih numbered w (by omega)
    have all := cuts.append cuts'
    rw [length] at all
    refine ⟨records ++ others, ⟨?_, all.whole⟩, fun n => ?_⟩
    · rw [all.bytesOf_eq, encode_record]
    · have kept : (if n = 0 then none else x).toList = x.toList.take n := by
        cases n <;> cases x <;> simp
      change _ = encode (.record l inner sub rest)
        (if n = 0 then none else x, truncate rest (n - x.toList.length) w)
      rw [all.take, encode_record, kept]
  | records l inner sub rest _ ih =>
    obtain ⟨⟨pos, small, -⟩, -, numbered⟩ := numbered
    obtain ⟨items, w⟩ := v
    rw [encode_records, List.length_append] at fits
    obtain ⟨records, length, cuts⟩ :=
      exists_cuts_items pos small (encode sub) items (by omega)
    obtain ⟨others, cuts'⟩ := ih numbered w (by omega)
    have all := cuts.append cuts'
    rw [length] at all
    exact ⟨_, all⟩

/-- A front of an encoding that is decoded ends with one of its records. -/
lemma Splits.exists_take {s : Shape Scalar} {name : String} {part : Bytes} {v : s.Value}
    (splits : Splits bytes records) (front : part <+: bytes) (found : decode s name part = .ok v) :
    ∃ n, part = bytesOf (records.take n) := by
  obtain ⟨rest, eq⟩ := front
  obtain ⟨others, ⟨told, whole'⟩, -⟩ := exists_splits found
  have first : others <+: records := by
    apply isPrefix_of_bytesOf splits.whole whole'
    rw [told, eq, splits.bytesOf_eq]
  rw [List.prefix_iff_eq_take] at first
  exact ⟨others.length, by rw [← first, told]⟩

end WalletNotify.Wire
