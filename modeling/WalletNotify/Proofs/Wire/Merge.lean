import WalletNotify.Proofs.Wire.Scalar
import WalletNotify.Wire.Decode

/-!
# Merging records

Bytes that are split into field records are merged record by record. `Merges` says what a list of
records makes of a value, `Spells` the same of bytes that are such a list. Main statement: merging
reads such bytes to their end and no further, on their own (`Spells.mergeUntil`) and behind their
count (`Spells.mergeCounted`).
-/

namespace WalletNotify.Wire

variable {α β γ : Type}

/-! ## Records -/

/-- A field record: its key, the bytes that tell the key, and its payload. -/
structure FieldRecord where
  key : Key
  head : Bytes
  payload : Bytes
  reads : ∀ rest, Key.decode (head ++ rest) = .ok (key, rest)

namespace FieldRecord

/-- The bytes of a record. -/
def bytes (r : FieldRecord) : Bytes := r.head ++ r.payload

/-- The record whose key is as short as it may be. -/
def of (key : Key) (payload : Bytes) (pos : 0 < key.number) (small : key.number < 2 ^ 29) :
    FieldRecord :=
  ⟨key, key.encode, payload, Key.decode_encode pos small⟩

/-- A record takes a byte at least. -/
lemma length_bytes_pos (r : FieldRecord) : 0 < r.bytes.length := by
  have shorter := Key.length_encode_le (r.reads [])
  have pos := Varint.length_encode_pos r.key.toNat
  rw [Key.encode, List.append_nil] at shorter
  rw [bytes, List.length_append]
  omega

end FieldRecord

/-- The bytes of records in order. -/
def bytesOf (records : List FieldRecord) : Bytes := records.flatMap FieldRecord.bytes

/-- No records have no bytes. -/
@[simp] lemma bytesOf_nil : bytesOf [] = [] := rfl

/-- The bytes of records are those of the first and those of the rest. -/
@[simp] lemma bytesOf_cons (r : FieldRecord) (records : List FieldRecord) :
    bytesOf (r :: records) = r.bytes ++ bytesOf records := rfl

/-- The bytes of records in a row are those of both in a row. -/
@[simp] lemma bytesOf_append (records more : List FieldRecord) :
    bytesOf (records ++ more) = bytesOf records ++ bytesOf more := List.flatMap_append

/-- A way to merge the payload behind a key into a value. -/
abbrev Field (α : Type) := Key → Bytes → α → Except DecodeError (α × Bytes)

/-- A payload makes one value of another, whatever follows it. -/
def Takes (field : Field α) (key : Key) (payload : Bytes) (a b : α) : Prop :=
  ∀ rest, field key (payload ++ rest) a = .ok (b, rest)

/-- Records make one value of another, one after the other. -/
inductive Merges (field : Field α) : List FieldRecord → α → α → Prop where
  | nil {a} : Merges field [] a a
  | cons {r records a b c} :
    Takes field r.key r.payload a b →
    Merges field records b c →
    Merges field (r :: records) a c

/-- A wire type is as expected exactly if it is the expected one. -/
lemma expect_eq_ok {expected found : WireType} {u : Unit} :
    expect expected found = .ok u ↔ found = expected := by
  unfold expect
  split <;> simp_all

/-- Merging stops where its bytes end. -/
lemma mergeUntil_of_end {step : Bytes → α → Except DecodeError (α × Bytes)} (bytes : Bytes) (a : α)
    (fuel : Nat) : mergeUntil bytes.length step fuel bytes a = .ok (a, bytes) := by
  unfold mergeUntil
  simp

/-- Merging goes on behind the first record. -/
lemma mergeUntil_of_step {step : Bytes → α → Except DecodeError (α × Bytes)} {limit : Nat}
    {bytes rest : Bytes} {a b : α} (more : limit < bytes.length)
    (first : step bytes a = .ok (b, rest)) (fuel : Nat) :
    mergeUntil limit step (fuel + 1) bytes a = mergeUntil limit step fuel rest b := by
  rw [mergeUntil, if_neg (by omega), first]
  rfl

namespace Merges

variable {field : Field α} {records : List FieldRecord} {a b c : α}

/-- Records that are merged one after the other are merged together. -/
lemma append {more : List FieldRecord} (first : Merges field records a b)
    (second : Merges field more b c) : Merges field (records ++ more) a c := by
  induction first with
  | nil => exact second
  | cons takes _ ih => exact .cons takes (ih second)

/-- Records that every step of which can be made elsewhere make the same there. -/
lemma lift {other : Field β} {f : α → β} (merges : Merges field records a b)
    (lifts : ∀ r ∈ records, ∀ a b, Takes field r.key r.payload a b →
      Takes other r.key r.payload (f a) (f b)) :
    Merges other records (f a) (f b) := by
  induction merges with
  | nil => exact .nil
  | cons takes _ ih =>
    refine .cons (lifts _ List.mem_cons_self _ _ takes) (ih ?_)
    exact fun r mem => lifts r (List.mem_cons_of_mem _ mem)

/-- Merging goes on to the end of the records and stops there. -/
lemma mergeUntil (merges : Merges field records a b) (rest : Bytes) {fuel : Nat}
    (enough : (bytesOf records).length ≤ fuel) :
    mergeUntil rest.length (mergeRecord field) fuel (bytesOf records ++ rest) a =
      .ok (b, rest) := by
  induction merges generalizing fuel with
  | nil => exact mergeUntil_of_end rest _ fuel
  | @cons r records a b c takes _ ih =>
    have pos := r.length_bytes_pos
    have length : (bytesOf (r :: records)).length =
        r.bytes.length + (bytesOf records).length := by simp
    have step : mergeRecord field (bytesOf (r :: records) ++ rest) a =
        .ok (b, bytesOf records ++ rest) := by
      have split : bytesOf (r :: records) ++ rest =
          r.head ++ (r.payload ++ (bytesOf records ++ rest)) := by
        simp [FieldRecord.bytes]
      rw [split, mergeRecord, r.reads]
      exact takes _
    -- The record takes a byte at least, so the fuel is not used up.
    cases fuel with
    | zero => omega
    | succ fuel =>
      rw [mergeUntil_of_step (by rw [List.length_append]; omega) step]
      exact ih (by omega)

/-- Behind their count, merging goes on to the end of the records, and what follows them is left. -/
lemma mergeCounted (merges : Merges field records a b) {count : Bytes}
    (counts : ∀ rest, Varint.decode (count ++ rest) = .ok ((bytesOf records).length, rest))
    (rest : Bytes) :
    Wire.mergeCounted (mergeRecord field) (count ++ (bytesOf records ++ rest)) a =
      .ok (b, rest) := by
  have within : (bytesOf records).length ≤ (bytesOf records ++ rest).length := by simp
  have left : (bytesOf records ++ rest).length - (bytesOf records).length = rest.length := by simp
  rw [Wire.mergeCounted, counts]
  simp only [Except.mapError, ok_bind, within, ↓reduceIte, left]
  exact merges.mergeUntil rest within

end Merges

/-! ## Bytes that are records -/

/-- Bytes are records of fields with these numbers, and make one value of another. -/
def Spells (field : Field α) (numbers : List Nat) (bytes : Bytes) (a b : α) : Prop :=
  ∃ records, bytesOf records = bytes ∧ (∀ r ∈ records, r.key.number ∈ numbers) ∧
    Merges field records a b

/-- A field leaves the keys of other numbers to the fields behind it. -/
def Passes (number : Nat) (field : Field (α × β)) (others : Field β) : Prop :=
  ∀ key, key.number ≠ number → ∀ bytes v,
    field key bytes v = do
      let (w, rest) ← others key bytes v.2
      return ((v.1, w), rest)

namespace Spells

variable {field : Field α} {numbers : List Nat} {bytes more : Bytes} {a b c : α}

/-- No bytes change nothing. -/
lemma nil : Spells field numbers [] a a := ⟨[], rfl, nofun, .nil⟩

/-- A key and a payload that is taken. -/
lemma single {key : Key} (takes : Takes field key bytes a b) (mem : key.number ∈ numbers)
    (pos : 0 < key.number) (small : key.number < 2 ^ 29) :
    Spells field numbers (key.encode ++ bytes) a b := by
  refine ⟨[.of key bytes pos small], by simp [bytesOf, FieldRecord.bytes, FieldRecord.of], ?_,
    .cons takes .nil⟩
  intro r here
  rw [List.mem_singleton.mp here]
  exact mem

/-- Bytes that are records one after the other are records together. -/
lemma append (first : Spells field numbers bytes a b) (second : Spells field numbers more b c) :
    Spells field numbers (bytes ++ more) a c := by
  obtain ⟨records, rfl, known, merges⟩ := first
  obtain ⟨records', rfl, known', merges'⟩ := second
  refine ⟨records ++ records', bytesOf_append _ _, fun r mem => ?_, merges.append merges'⟩
  rcases List.mem_append.mp mem with mem | mem
  · exact known r mem
  · exact known' r mem

/-- What is written for the items of a list, one after the other. -/
lemma flatMap {field : Field (List α × β)} {write : α → Bytes} {items : List α} {w : β}
    (each : ∀ x ∈ items, ∀ before, Spells field numbers (write x) (before, w) (before ++ [x], w))
    (before : List α) :
    Spells field numbers (items.flatMap write) (before, w) (before ++ items, w) := by
  induction items generalizing before with
  | nil =>
    rw [List.append_nil]
    exact nil
  | cons x items ih =>
    have first := each x List.mem_cons_self before
    have later := ih (fun y mem => each y (List.mem_cons_of_mem _ mem)) (before ++ [x])
    rw [List.append_assoc] at later
    exact first.append later

/-- What the fields behind another one make of their value. -/
lemma behind {number : Nat} {field : Field (α × β)} {others : Field β} {v w : β}
    (passes : Passes number field others) (new : number ∉ numbers)
    (spells : Spells others numbers bytes v w) (x : α) :
    Spells field (number :: numbers) bytes (x, v) (x, w) := by
  obtain ⟨records, rfl, known, merges⟩ := spells
  refine ⟨records, rfl, fun r mem => List.mem_cons_of_mem _ (known r mem), merges.lift ?_⟩
  intro r mem v w takes rest
  have ne : r.key.number ≠ number := by
    rintro rfl
    exact new (known r mem)
  rw [passes r.key ne, takes rest]
  rfl

/-- Merging reads the bytes to their end. -/
lemma mergeUntil (spells : Spells field numbers bytes a b) :
    mergeUntil 0 (mergeRecord field) bytes.length bytes a = .ok (b, []) := by
  obtain ⟨records, rfl, -, merges⟩ := spells
  simpa using merges.mergeUntil [] le_rfl

/-- Behind their count, merging reads the bytes to their end, and what follows them is left. -/
lemma mergeCounted (spells : Spells field numbers bytes a b) (fits : bytes.length < 2 ^ 64)
    (rest : Bytes) :
    mergeCounted (mergeRecord field) (Scalar.counted bytes ++ rest) a = .ok (b, rest) := by
  obtain ⟨records, rfl, -, merges⟩ := spells
  rw [Scalar.counted, List.append_assoc]
  exact merges.mergeCounted (Varint.decode_encode fits) rest

end Spells

end WalletNotify.Wire
