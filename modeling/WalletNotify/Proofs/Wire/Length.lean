import WalletNotify.Proofs.Wire.Encode
import WalletNotify.Proofs.Wire.Payload

/-!
# The length of what is encoded again

Bytes that are decoded may be longer than the encoding of the value they tell, or shorter: a
negative enumeration number that was told in five bytes is written in ten. Main statement: the
encoding of a decoded value is at most twice as long as the bytes it was decoded from
(`length_encode_le`).
-/

namespace WalletNotify.Wire

open Record (Label Shape)

/-! ## Unknown fields -/

/-- Passing over a field leaves what follows its payload. -/
lemma length_skip {depth : Nat} {key : Key} {bytes rest : Bytes}
    (found : skip depth key bytes = .ok rest) : rest.length ≤ bytes.length := by
  obtain ⟨payload, rfl, -⟩ := isPayload_of_skip found
  exact List.length_append ▸ Nat.le_add_left _ _

/-! ## Merging -/

variable {α : Type} {size : α → Nat}

/-- What a step adds to the size of a value is at most twice the bytes that it takes. -/
def Doubles (size : α → Nat) (step : Bytes → α → Except DecodeError (α × Bytes)) : Prop :=
  ∀ bytes rest a b, step bytes a = .ok (b, rest) →
    size b + 2 * rest.length ≤ size a + 2 * bytes.length

/-- Merging to a limit adds at most twice the bytes that it takes. -/
lemma Doubles.mergeUntil {step : Bytes → α → Except DecodeError (α × Bytes)}
    (doubles : Doubles size step) {limit fuel : Nat} {bytes rest : Bytes} {a b : α}
    (found : mergeUntil limit step fuel bytes a = .ok (b, rest)) :
    rest.length = limit ∧ size b + 2 * rest.length ≤ size a + 2 * bytes.length := by
  fun_induction Wire.mergeUntil limit step fuel bytes a with
  | case1 fuel bytes a _ atEnd =>
    cases found
    exact ⟨atEnd, le_rfl⟩
  | case2 => cases found
  | case3 => cases found
  | case4 bytes a more fuel ih =>
    obtain ⟨⟨c, next⟩, first, found⟩ := bind_eq_ok.mp found
    have first := doubles _ _ _ _ first
    obtain ⟨atEnd, later⟩ := ih c next found
    exact ⟨atEnd, by omega⟩

/-- A counted payload adds at most twice its bytes. -/
lemma Doubles.mergeCounted {step : Bytes → α → Except DecodeError (α × Bytes)}
    (doubles : Doubles size step) {bytes rest : Bytes} {a b : α}
    (found : mergeCounted step bytes a = .ok (b, rest)) :
    ∃ n, (Varint.encode n).length + n + rest.length ≤ bytes.length ∧ size b ≤ size a + 2 * n := by
  obtain ⟨⟨n, behind⟩, read, found⟩ := bind_eq_ok.mp found
  have shorter := Varint.length_encode_le (mapError_eq_ok.mp read)
  simp only at found
  split at found
  case isTrue within =>
    obtain ⟨atEnd, grown⟩ := doubles.mergeUntil found
    exact ⟨n, by omega, by omega⟩
  case isFalse => cases found

/-- What a field adds to the size of a value is at most twice its key and the bytes it takes. -/
def Field.Doubles (size : α → Nat) (field : Field α) : Prop :=
  ∀ key bytes rest a b, field key bytes a = .ok (b, rest) →
    size b + 2 * rest.length ≤ size a + 2 * (key.encode.length + bytes.length)

/-- Merging one record adds at most twice the bytes that it takes. -/
lemma Field.Doubles.mergeRecord {field : Field α} (doubles : Field.Doubles size field) :
    Wire.Doubles size (mergeRecord field) := by
  intro bytes rest a b found
  obtain ⟨⟨key, behind⟩, read, found⟩ := bind_eq_ok.mp found
  have shorter := Key.length_encode_le (mapError_eq_ok.mp read)
  have grown := doubles _ _ _ _ _ found
  omega

/-- A nested record adds at most as much as its counted payload. -/
lemma length_mergeNested {field : Nat → Field α} (doubles : ∀ depth, (field depth).Doubles size)
    {depth : Nat} {type : WireType} {bytes rest : Bytes} {a b : α}
    (found : mergeNested depth field type bytes a = .ok (b, rest)) :
    type = .delimited ∧
      (Varint.encode (size b)).length + size b + 2 * rest.length ≤
        (Varint.encode (size a)).length + size a + 2 * bytes.length := by
  obtain ⟨_, fits, found⟩ := bind_eq_ok.mp found
  refine ⟨expect_eq_ok.mp (mapError_eq_ok.mp fits), ?_⟩
  cases depth with
  | zero => cases found
  | succ depth =>
    obtain ⟨n, taken, grown⟩ := (doubles depth).mergeRecord.mergeCounted found
    -- The count may need more groups than before, but no more than those of what was added.
    have count := Varint.length_encode_mono grown
    have parts := Varint.length_encode_add (size a) (2 * n)
    have double := Varint.length_encode_add n n
    rw [← Nat.two_mul] at double
    omega

/-! ## Fields -/

/-- Where nothing is set, nothing is encoded. -/
lemma encode_unset (s : Shape Scalar) : encode s s.unset = [] := by
  induction s with
  | nil => rfl
  | scalar l k rest ih =>
    refine (encode_scalar l rest _ k _).trans ?_
    rw [Scalar.encodeRecord, if_pos rfl, List.nil_append]
    exact ih
  | texts l rest ih => exact ih
  | record l name sub rest _ ih => exact ih
  | records l name sub rest _ ih => exact ih

/-- A scalar takes its key and its payload at most. -/
lemma length_encodeRecord_le (k : Scalar) (n : Nat) (x : k.Value) :
    (k.encodeRecord n x).length ≤
      (Key.encode ⟨n, k.wireType⟩).length + (k.payload x).length := by
  unfold Scalar.encodeRecord
  split
  · exact Nat.zero_le _
  · exact List.length_append.le

/-- The field of a number changes the front of a value alone, and adds at most twice its key and the
bytes it takes to it. -/
def Grows {β : Type} (number : Nat) (front : α → Nat) (field : Field (α × β)) : Prop :=
  ∀ type bytes rest a b, field ⟨number, type⟩ bytes a = .ok (b, rest) →
    b.2 = a.2 ∧
      front b.1 + 2 * rest.length ≤
        front a.1 + 2 * ((Key.encode ⟨number, type⟩).length + bytes.length)

/-- A field adds what is its own to the front, and what the fields behind it add to the rest. -/
lemma Passes.doubles {β : Type} {number : Nat} {front : α → Nat} {behind : β → Nat}
    {size : α × β → Nat} {field : Field (α × β)} {others : Field β}
    (passes : Passes number field others) (grows : Grows number front field)
    (doubles : others.Doubles behind) (parts : ∀ x w, size (x, w) = front x + behind w) :
    field.Doubles size := by
  rintro ⟨n, type⟩ bytes rest ⟨x, w⟩ ⟨y, w'⟩ found
  rw [parts, parts]
  by_cases own : n = number
  · subst own
    obtain ⟨rfl, grown⟩ := grows _ _ _ _ _ found
    simp only at grown ⊢
    omega
  · rw [passes _ own] at found
    obtain ⟨⟨_, _⟩, later, built⟩ := bind_eq_ok.mp found
    cases built
    have grown := doubles _ _ _ _ _ later
    simp only at grown ⊢
    omega

section Grows

variable (l : Label) (inner name : String) (depth : Nat) (others : Shape Scalar)

/-- A scalar adds at most twice the bytes that it takes. -/
lemma grows_scalar (k : Scalar) :
    Grows l.number (fun x => (k.encodeRecord l.number x).length)
      (mergeField (.scalar l k others) name depth) := by
  intro type bytes rest a b found
  have taken := mapError_eq_ok.mp ((if_pos rfl).symm.trans found)
  obtain ⟨_, typed, taken⟩ := bind_eq_ok.mp taken
  obtain ⟨⟨x, _⟩, read, built⟩ := bind_eq_ok.mp taken
  obtain rfl : type = k.wireType := expect_eq_ok.mp typed
  cases built
  have written := length_encodeRecord_le k l.number x
  have payload := Scalar.length_payload_le read
  refine ⟨rfl, ?_⟩
  simp only
  omega

/-- A text that is added adds at most twice the bytes that it takes. -/
lemma grows_texts :
    Grows l.number (fun xs => (xs.flatMap fun x => delimitedRecord l.number (Text.utf8 x)).length)
      (mergeField (.texts l others) name depth) := by
  intro type bytes rest a b found
  have taken := mapError_eq_ok.mp ((if_pos rfl).symm.trans found)
  obtain ⟨_, typed, taken⟩ := bind_eq_ok.mp taken
  obtain ⟨⟨x, _⟩, read, built⟩ := bind_eq_ok.mp taken
  obtain rfl : type = .delimited := expect_eq_ok.mp typed
  cases built
  have payload := Scalar.length_payload_le read
  rw [Scalar.payload, Scalar.length_counted] at payload
  refine ⟨rfl, ?_⟩
  simp only [List.flatMap_append, List.flatMap_singleton, List.length_append,
    length_delimitedRecord]
  omega

variable {inner depth} {sub : Shape Scalar}
  (doubles : ∀ depth, Field.Doubles (fun v => (encode sub v).length) (mergeField sub inner depth))
include doubles

/-- A nested record that starts with nothing set takes at most twice its key and its bytes. -/
lemma length_delimitedRecord_le {type : WireType} {bytes rest : Bytes} {x : sub.Value}
    (nested : mergeNested depth (mergeField sub inner) type bytes sub.unset = .ok (x, rest)) :
    (delimitedRecord l.number (encode sub x)).length + 2 * rest.length ≤
      2 * ((Key.encode ⟨l.number, type⟩).length + bytes.length) := by
  obtain ⟨rfl, grown⟩ := length_mergeNested doubles nested
  -- The key, which is not part of what was merged, makes up for the count of an empty record.
  have empty : (Varint.encode 0).length = 1 := by decide
  have key := Varint.length_encode_pos (Key.toNat ⟨l.number, .delimited⟩)
  rw [encode_unset, List.length_nil, empty] at grown
  rw [length_delimitedRecord]
  unfold Key.encode
  omega

/-- A nested record that is merged adds at most twice the bytes that it takes. -/
lemma grows_record :
    Grows l.number
      (fun x => (x.toList.flatMap fun x => delimitedRecord l.number (encode sub x)).length)
      (mergeField (.record l inner sub others) name depth) := by
  rintro type bytes rest ⟨old, w⟩ b found
  have taken := mapError_eq_ok.mp ((if_pos rfl).symm.trans found)
  obtain ⟨⟨x, _⟩, nested, built⟩ := bind_eq_ok.mp taken
  cases built
  refine ⟨rfl, ?_⟩
  simp only [Option.toList_some, List.flatMap_singleton]
  cases old with
  | none =>
    have fresh := length_delimitedRecord_le l doubles nested
    exact fresh.trans (Nat.le_add_left _ _)
  | some m =>
    obtain ⟨rfl, grown⟩ := length_mergeNested doubles nested
    simp only [Option.getD_some] at grown
    rw [Option.toList_some, List.flatMap_singleton, length_delimitedRecord, length_delimitedRecord]
    omega

/-- A nested record that is added adds at most twice the bytes that it takes. -/
lemma grows_records :
    Grows l.number (fun xs => (xs.flatMap fun x => delimitedRecord l.number (encode sub x)).length)
      (mergeField (.records l inner sub others) name depth) := by
  intro type bytes rest a b found
  have taken := mapError_eq_ok.mp ((if_pos rfl).symm.trans found)
  obtain ⟨⟨x, _⟩, nested, built⟩ := bind_eq_ok.mp taken
  cases built
  have fresh := length_delimitedRecord_le l doubles nested
  refine ⟨rfl, ?_⟩
  simp only [List.flatMap_append, List.flatMap_singleton, List.length_append] at fresh ⊢
  omega

end Grows

/-- Every field adds at most twice its bytes to the encoding of a value. -/
lemma doubles_mergeField (s : Shape Scalar) (name : String) (depth : Nat) :
    Field.Doubles (fun v : s.Value => (encode s v).length) (mergeField s name depth) := by
  induction s generalizing name depth with
  | nil =>
    intro key bytes rest a b found
    obtain ⟨_, skipped, built⟩ := bind_eq_ok.mp found
    cases built
    have shorter := length_skip (mapError_eq_ok.mp skipped)
    omega
  | scalar l k others ih =>
    apply (passes_scalar l name depth others k).doubles (grows_scalar l name depth others k)
      (ih name depth)
    intro x w
    rw [encode_scalar, List.length_append]
  | texts l others ih =>
    apply (passes_texts l name depth others).doubles (grows_texts l name depth others)
      (ih name depth)
    intro xs w
    rw [encode_texts, List.length_append]
  | record l inner sub others ihs ih =>
    apply (passes_record l inner name depth sub others).doubles
      (grows_record l name others (ihs inner)) (ih name depth)
    intro x w
    rw [encode_record, List.length_append]
  | records l inner sub others ihs ih =>
    apply (passes_records l inner name depth sub others).doubles
      (grows_records l name others (ihs inner)) (ih name depth)
    intro xs w
    rw [encode_records, List.length_append]

/-- The encoding of a decoded value is at most twice as long as the bytes it was decoded from. -/
lemma length_encode_le {s : Shape Scalar} {name : String} {bytes : Bytes} {v : s.Value}
    (found : decode s name bytes = .ok v) : (encode s v).length ≤ 2 * bytes.length := by
  obtain ⟨⟨_, rest⟩, merged, built⟩ := bind_eq_ok.mp found
  cases built
  obtain ⟨atEnd, grown⟩ := (doubles_mergeField s name maxDepth).mergeRecord.mergeUntil merged
  simp only [encode_unset, List.length_nil] at grown
  omega

end WalletNotify.Wire
