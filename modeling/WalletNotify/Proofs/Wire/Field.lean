import WalletNotify.Proofs.Wire.Encode
import WalletNotify.Proofs.Wire.Payload

/-!
# Fields side by side

A record is its first field beside the others, each with a part of the value of its own. Main
statements: whatever a record takes behind a key is a payload of that key
(`takesPayloads_mergeField`), merging stops at the ends of records only (`records_of_mergeUntil`),
and merging records is merging those of the first field and those of the others apart
(`merges_beside`).
-/

namespace WalletNotify.Wire

open Record (Label Shape)

variable {α β : Type}

/-- A field that takes the keys of its number, beside others that take the other keys. -/
def Field.beside (number : Nat) (own : Field α) (others : Field β) : Field (α × β) :=
  fun key bytes v =>
    if key.number = number then do
      let (x, rest) ← own key bytes v.1
      return ((x, v.2), rest)
    else do
      let (w, rest) ← others key bytes v.2
      return ((v.1, w), rest)

/-! ## The fields of a shape -/

section Own

variable (l : Label) (name : String) (nested : Nat → Field α) (unset : α) (depth : Nat)

/-- The field of a scalar: a payload replaces it. -/
def scalarField (k : Scalar) : Field k.Value := fun key bytes _ =>
  Except.mapError (fun f => DecodeError.within name l.name (.ofFault f)) do
    expect k.wireType key.type
    k.read bytes

/-- The field of texts: a payload is one more. -/
def textsField : Field (List String) := fun key bytes xs =>
  Except.mapError (fun f => DecodeError.within name l.name (.ofFault f)) do
    expect .delimited key.type
    let (x, rest) ← Scalar.text.read bytes
    return (xs ++ [x], rest)

/-- The field of a nested record: a payload goes on from what was there. -/
def recordField : Field (Option α) := fun key bytes x =>
  Except.mapError (DecodeError.within name l.name) do
    let (y, rest) ← mergeNested depth nested key.type bytes (x.getD unset)
    return (some y, rest)

/-- The field of repeated records: a payload is one more. -/
def recordsField : Field (List α) := fun key bytes xs =>
  Except.mapError (DecodeError.within name l.name) do
    let (y, rest) ← mergeNested depth nested key.type bytes unset
    return (xs ++ [y], rest)

end Own

section Shapes

variable (l : Label) (inner name : String) (depth : Nat) (sub others : Shape Scalar)

/-- A field that leaves other keys to the others, and takes its own apart from them, is beside
them. -/
lemma eq_beside {number : Nat} {field : Field (α × β)} {own : Field α} {others : Field β}
    (passes : Passes number field others)
    (owns : ∀ key, key.number = number → ∀ bytes v, field key bytes v = do
      let (x, rest) ← own key bytes v.1
      return ((x, v.2), rest)) : field = Field.beside number own others := by
  funext key bytes v
  by_cases same : key.number = number
  · exact (owns key same bytes v).trans (if_pos same).symm
  · exact (passes key same bytes v).trans (if_neg same).symm

/-- A scalar is merged beside the fields behind it. -/
lemma mergeField_scalar (k : Scalar) : mergeField (.scalar l k others) name depth =
    Field.beside l.number (scalarField l name k) (mergeField others name depth) := by
  refine eq_beside (passes_scalar l name depth others k) fun key same bytes v => ?_
  simp only [mergeField, scalarField, if_pos same]
  cases expect k.wireType key.type with
  | error => rfl
  | ok => cases k.read bytes <;> rfl

/-- Texts are merged beside the fields behind them. -/
lemma mergeField_texts : mergeField (.texts l others) name depth =
    Field.beside l.number (textsField l name) (mergeField others name depth) := by
  refine eq_beside (passes_texts l name depth others) fun key same bytes v => ?_
  simp only [mergeField, textsField, if_pos same]
  cases expect .delimited key.type with
  | error => rfl
  | ok => cases Scalar.text.read bytes <;> rfl

/-- A nested record is merged beside the fields behind it. -/
lemma mergeField_record : mergeField (.record l inner sub others) name depth =
    Field.beside l.number (recordField l name (mergeField sub inner) sub.unset depth)
      (mergeField others name depth) := by
  refine eq_beside (passes_record l inner name depth sub others) fun key same bytes v => ?_
  simp only [mergeField, recordField, if_pos same]
  cases mergeNested depth (mergeField sub inner) key.type bytes (v.1.getD sub.unset) <;> rfl

/-- Nested records are merged beside the fields behind them. -/
lemma mergeField_records : mergeField (.records l inner sub others) name depth =
    Field.beside l.number (recordsField l name (mergeField sub inner) sub.unset depth)
      (mergeField others name depth) := by
  refine eq_beside (passes_records l inner name depth sub others) fun key same bytes v => ?_
  simp only [mergeField, recordsField, if_pos same]
  cases mergeNested depth (mergeField sub inner) key.type bytes sub.unset <;> rfl

end Shapes

/-! ## Payloads -/

/-- What a field takes is a payload of its key, whatever follows it. Where no level is left, nothing
is told of the payload: only declared fields are read there. -/
def Field.TakesPayloads (depth : Nat) (field : Field α) : Prop :=
  ∀ key bytes rest a b, field key bytes a = .ok (b, rest) →
    ∃ payload, bytes = payload ++ rest ∧ Takes field key payload a b ∧
      (0 < depth → IsPayload depth key payload)

/-- What a reader takes is a payload of one wire type, whatever follows it. -/
def TakesPayload (type : WireType) (read : Bytes → Except Fault (α × Bytes)) : Prop :=
  ∀ bytes a rest, read bytes = .ok (a, rest) →
    ∃ payload, bytes = payload ++ rest ∧ (∀ more, read (payload ++ more) = .ok (a, more)) ∧
      ∀ depth number, IsPayload (depth + 1) ⟨number, type⟩ payload

/-- A varint is a payload of its wire type, whatever it is read as. -/
lemma takesPayload_varint (ofNat : Nat → α) : TakesPayload .varint fun bytes => do
    let (n, rest) ← Varint.decode bytes
    return (ofNat n, rest) := by
  intro bytes a rest found
  obtain ⟨⟨n, _⟩, read, found⟩ := bind_eq_ok.mp found
  cases found
  obtain ⟨payload, rfl, again⟩ := Varint.decode_front _ _ _ read
  refine ⟨payload, rfl, fun more => ?_, fun depth number => .varint (n := n) ?_⟩
  · simp only [again, ok_bind]
    rfl
  · simpa using again []

/-- Counted bytes are a delimited payload. -/
lemma takesPayload_readCounted : TakesPayload .delimited Scalar.readCounted := by
  intro bytes b rest found
  obtain ⟨count, rfl, again⟩ := Scalar.readCounted_front found
  refine ⟨count ++ b, rfl, fun more => ?_, fun depth number => .delimited ?_⟩
  · rw [Scalar.readCounted, List.append_assoc, again, ok_bind]
    simp [pure, Except.pure]
  · simpa using again []

/-- Every scalar is read from a payload of its wire type. -/
lemma takesPayload_read (k : Scalar) : TakesPayload k.wireType k.read := by
  cases k with
  | text =>
    intro bytes s rest found
    obtain ⟨⟨b, _⟩, read, found⟩ := bind_eq_ok.mp found
    simp only at found
    split at found
    case h_1 s isText =>
      cases found
      obtain ⟨payload, rfl, again, whole⟩ := takesPayload_readCounted _ _ _ read
      refine ⟨payload, rfl, fun more => ?_, whole⟩
      simp only [Scalar.read, again, ok_bind, isText]
      rfl
    case h_2 => cases found
  | blob => exact takesPayload_readCounted
  | word32 => exact takesPayload_varint UInt32.ofNat
  | word64 => exact takesPayload_varint UInt64.ofNat
  | signed64 => exact takesPayload_varint fun n => (UInt64.ofNat n).toInt64
  | enumeration => exact takesPayload_varint fun n => (UInt32.ofNat n).toInt32
  | flag => exact takesPayload_varint (· != 0)

section Merging

variable {field : Field α} {depth : Nat} {bytes rest : Bytes} {a b : α}

/-- Merging that succeeds has merged records. -/
lemma records_of_mergeUntil (takes : field.TakesPayloads depth) {limit fuel : Nat}
    (found : mergeUntil limit (mergeRecord field) fuel bytes a = .ok (b, rest)) :
    rest.length = limit ∧ ∃ records, bytes = bytesOf records ++ rest ∧ Merges field records a b ∧
      ∀ r ∈ records, 0 < depth → IsPayload depth r.key r.payload := by
  fun_induction Wire.mergeUntil limit (mergeRecord field) fuel bytes a with
  | case1 fuel bytes a _ atEnd =>
    cases found
    exact ⟨atEnd, [], rfl, .nil, nofun⟩
  | case2 => cases found
  | case3 => cases found
  | case4 bytes a more fuel ih =>
    obtain ⟨⟨c, next⟩, first, later⟩ := bind_eq_ok.mp found
    obtain ⟨⟨key, behind⟩, read, taken⟩ := bind_eq_ok.mp first
    obtain ⟨payload, rfl, again, whole⟩ := takes _ _ _ _ _ taken
    obtain ⟨r, rfl, rfl, rfl⟩ := exists_record (mapError_eq_ok.mp read)
    obtain ⟨atEnd, records, rfl, merges, wholes⟩ := ih c next later
    refine ⟨atEnd, r :: records, ?_, .cons again merges, ?_⟩
    · rw [bytesOf_cons, List.append_assoc]
    · intro r' mem
      rcases List.mem_cons.mp mem with rfl | mem
      · exact whole
      · exact wholes r' mem

/-- A counted payload that is merged is a count of records and the records. -/
lemma mergeCounted_front (takes : field.TakesPayloads depth)
    (found : mergeCounted (mergeRecord field) bytes a = .ok (b, rest)) :
    ∃ payload, bytes = payload ++ rest ∧
      (∀ more, mergeCounted (mergeRecord field) (payload ++ more) a = .ok (b, more)) ∧
      ∀ depth number, IsPayload (depth + 1) ⟨number, .delimited⟩ payload := by
  obtain ⟨⟨n, behind⟩, read, found⟩ := bind_eq_ok.mp found
  simp only at found
  split at found
  case isTrue within =>
    obtain ⟨atEnd, records, rfl, merges, -⟩ := records_of_mergeUntil takes found
    obtain ⟨count, rfl, again⟩ := Varint.decode_front _ _ _ (mapError_eq_ok.mp read)
    -- What is left behind the records is what the count leaves, so it counts the records.
    rw [List.length_append] at atEnd within
    obtain rfl : n = (bytesOf records).length := by omega
    refine ⟨count ++ bytesOf records, (List.append_assoc _ _ _).symm, fun more => ?_,
      fun depth number => .delimited ?_⟩
    · rw [List.append_assoc]
      exact merges.mergeCounted again more
    · simpa using again []
  case isFalse => cases found

/-- A nested record is merged from a delimited payload. -/
lemma mergeNested_front {nested : Nat → Field α}
    (takes : ∀ depth, (nested depth).TakesPayloads depth) {type : WireType}
    (found : mergeNested depth nested type bytes a = .ok (b, rest)) :
    type = .delimited ∧ ∃ payload, bytes = payload ++ rest ∧
      (∀ more, mergeNested depth nested .delimited (payload ++ more) a = .ok (b, more)) ∧
      ∀ depth number, IsPayload (depth + 1) ⟨number, .delimited⟩ payload := by
  obtain ⟨_, typed, found⟩ := bind_eq_ok.mp found
  obtain rfl : type = .delimited := expect_eq_ok.mp (mapError_eq_ok.mp typed)
  cases depth with
  | zero => cases found
  | succ depth =>
    obtain ⟨payload, rfl, again, whole⟩ := mergeCounted_front (takes depth) found
    exact ⟨rfl, payload, rfl, again, whole⟩

end Merging

section Own

variable (l : Label) (name : String) {nested : Nat → Field α} {unset : α} {depth : Nat}

/-- A payload with a level to spare is a payload wherever a level is left. -/
lemma isPayload_of_pos {key : Key} {payload : Bytes}
    (whole : ∀ depth, IsPayload (depth + 1) key payload) (pos : 0 < depth) :
    IsPayload depth key payload := by
  cases depth with
  | zero => omega
  | succ depth => exact whole depth

/-- A scalar takes a payload of its key. -/
lemma takesPayloads_scalarField (k : Scalar) : (scalarField l name k).TakesPayloads depth := by
  rintro ⟨number, type⟩ bytes rest a b found
  obtain ⟨_, typed, read⟩ := bind_eq_ok.mp (mapError_eq_ok.mp found)
  obtain rfl : type = k.wireType := expect_eq_ok.mp typed
  obtain ⟨payload, rfl, again, whole⟩ := takesPayload_read k _ _ _ read
  refine ⟨payload, rfl, fun more => ?_, isPayload_of_pos fun depth => whole depth number⟩
  rw [scalarField, mapError_eq_ok]
  simp only [expect, ↓reduceIte, ok_bind]
  exact again more

/-- A list of texts takes a payload of its key. -/
lemma takesPayloads_textsField : (textsField l name).TakesPayloads depth := by
  rintro ⟨number, type⟩ bytes rest a b found
  obtain ⟨_, typed, found⟩ := bind_eq_ok.mp (mapError_eq_ok.mp found)
  obtain ⟨⟨x, _⟩, read, built⟩ := bind_eq_ok.mp found
  obtain rfl : type = .delimited := expect_eq_ok.mp typed
  cases built
  obtain ⟨payload, rfl, again, whole⟩ := takesPayload_read .text _ _ _ read
  refine ⟨payload, rfl, fun more => ?_, isPayload_of_pos fun depth => whole depth number⟩
  rw [textsField, mapError_eq_ok]
  simp only [expect, ↓reduceIte, ok_bind, again]
  rfl

variable (takes : ∀ depth, (nested depth).TakesPayloads depth)
include takes

/-- A nested record takes a payload of its key. -/
lemma takesPayloads_recordField : (recordField l name nested unset depth).TakesPayloads depth := by
  rintro ⟨number, type⟩ bytes rest a b found
  obtain ⟨⟨x, _⟩, merged, built⟩ := bind_eq_ok.mp (mapError_eq_ok.mp found)
  cases built
  obtain ⟨rfl, payload, rfl, again, whole⟩ := mergeNested_front takes merged
  refine ⟨payload, rfl, fun more => ?_, isPayload_of_pos fun depth => whole depth number⟩
  rw [recordField, mapError_eq_ok]
  simp only [again, ok_bind]
  rfl

/-- A list of nested records takes a payload of its key. -/
lemma takesPayloads_recordsField :
    (recordsField l name nested unset depth).TakesPayloads depth := by
  rintro ⟨number, type⟩ bytes rest a b found
  obtain ⟨⟨x, _⟩, merged, built⟩ := bind_eq_ok.mp (mapError_eq_ok.mp found)
  cases built
  obtain ⟨rfl, payload, rfl, again, whole⟩ := mergeNested_front takes merged
  refine ⟨payload, rfl, fun more => ?_, isPayload_of_pos fun depth => whole depth number⟩
  rw [recordsField, mapError_eq_ok]
  simp only [again, ok_bind]
  rfl

end Own

/-! ## Side by side -/

section Beside

variable {number depth : Nat} {own : Field α} {others : Field β} {key : Key} {payload : Bytes}
  {x y : α} {w w' : β}

/-- Of two fields side by side, the one with the number of the key is merged. -/
lemma beside_own {bytes rest : Bytes} (same : key.number = number) :
    Field.beside number own others key bytes (x, w) = .ok ((y, w'), rest) ↔
      own key bytes x = .ok (y, rest) ∧ w' = w := by
  rw [Field.beside, if_pos same, bind_eq_ok]
  constructor
  · rintro ⟨⟨z, _⟩, found, built⟩
    cases built
    exact ⟨found, rfl⟩
  · rintro ⟨found, rfl⟩
    exact ⟨(y, rest), found, rfl⟩

/-- Of two fields side by side, the other one is merged under keys of other numbers. -/
lemma beside_others {bytes rest : Bytes} (ne : key.number ≠ number) :
    Field.beside number own others key bytes (x, w) = .ok ((y, w'), rest) ↔
      others key bytes w = .ok (w', rest) ∧ y = x := by
  rw [Field.beside, if_neg ne, bind_eq_ok]
  constructor
  · rintro ⟨⟨z, _⟩, found, built⟩
    cases built
    exact ⟨found, rfl⟩
  · rintro ⟨found, rfl⟩
    exact ⟨(w', rest), found, rfl⟩

/-- Two fields side by side take a payload of the first one's key as the first one does. -/
lemma takes_beside_own (same : key.number = number) :
    Takes (Field.beside number own others) key payload (x, w) (y, w') ↔
      Takes own key payload x y ∧ w' = w := by
  simp only [Takes, beside_own same, forall_and, forall_const]

/-- Two fields side by side take any other payload as the second one does. -/
lemma takes_beside_others (ne : key.number ≠ number) :
    Takes (Field.beside number own others) key payload (x, w) (y, w') ↔
      Takes others key payload w w' ∧ y = x := by
  simp only [Takes, beside_others ne, forall_and, forall_const]

/-- Two fields side by side take payloads of their keys if each of them does. -/
lemma Field.TakesPayloads.beside (takes : own.TakesPayloads depth)
    (takesOthers : others.TakesPayloads depth) :
    (Field.beside number own others).TakesPayloads depth := by
  rintro key bytes rest ⟨x, w⟩ ⟨y, w'⟩ found
  by_cases same : key.number = number
  · obtain ⟨taken, rfl⟩ := (beside_own same).mp found
    obtain ⟨payload, rfl, again, whole⟩ := takes _ _ _ _ _ taken
    exact ⟨payload, rfl, (takes_beside_own same).mpr ⟨again, rfl⟩, whole⟩
  · obtain ⟨taken, rfl⟩ := (beside_others same).mp found
    obtain ⟨payload, rfl, again, whole⟩ := takesOthers _ _ _ _ _ taken
    exact ⟨payload, rfl, (takes_beside_others same).mpr ⟨again, rfl⟩, whole⟩

/-- Merging records is merging those of a field and those of the others apart. -/
lemma merges_beside {records : List FieldRecord} :
    Merges (Field.beside number own others) records (x, w) (y, w') ↔
      Merges own (records.filter (·.key.number = number)) x y ∧
        Merges others (records.filter (·.key.number ≠ number)) w w' := by
  induction records generalizing x w with
  | nil =>
    constructor
    · rintro ⟨⟩
      exact ⟨.nil, .nil⟩
    · rintro ⟨⟨⟩, ⟨⟩⟩
      exact .nil
  | cons r records ih =>
    by_cases same : r.key.number = number
    · rw [List.filter_cons_of_pos (by simpa using same),
        List.filter_cons_of_neg (by simpa using same)]
      constructor
      · rintro (_ | @⟨_, _, _, ⟨z, u⟩, _, taken, merges⟩)
        obtain ⟨mine, theirs⟩ := ih.mp merges
        obtain ⟨takes, rfl⟩ := (takes_beside_own same).mp taken
        exact ⟨.cons takes mine, theirs⟩
      · rintro ⟨_ | @⟨_, _, _, z, _, taken, mine⟩, theirs⟩
        exact .cons ((takes_beside_own same).mpr ⟨taken, rfl⟩) (ih.mpr ⟨mine, theirs⟩)
    · rw [List.filter_cons_of_neg (by simpa using same),
        List.filter_cons_of_pos (by simpa using same)]
      constructor
      · rintro (_ | @⟨_, _, _, ⟨z, u⟩, _, taken, merges⟩)
        obtain ⟨mine, theirs⟩ := ih.mp merges
        obtain ⟨takes, rfl⟩ := (takes_beside_others same).mp taken
        exact ⟨mine, .cons takes theirs⟩
      · rintro ⟨mine, _ | @⟨_, _, _, u, _, taken, theirs⟩⟩
        exact .cons ((takes_beside_others same).mpr ⟨taken, rfl⟩) (ih.mpr ⟨mine, theirs⟩)

end Beside

/-- Whatever a record takes behind a key is a payload of that key. -/
lemma takesPayloads_mergeField (s : Shape Scalar) (name : String) (depth : Nat) :
    Field.TakesPayloads depth (mergeField s name depth) := by
  induction s generalizing name depth with
  | nil =>
    intro key bytes rest a b found
    obtain ⟨_, skipped, built⟩ := bind_eq_ok.mp found
    cases built
    obtain ⟨payload, rfl, whole⟩ := isPayload_of_skip (mapError_eq_ok.mp skipped)
    refine ⟨payload, rfl, fun more => ?_, fun _ => whole⟩
    rw [mergeField, skip_of_isPayload whole]
    rfl
  | scalar l k others ih =>
    rw [mergeField_scalar]
    exact (takesPayloads_scalarField l name k).beside (ih name depth)
  | texts l others ih =>
    rw [mergeField_texts]
    exact (takesPayloads_textsField l name).beside (ih name depth)
  | record l inner sub others ihs ih =>
    rw [mergeField_record]
    exact (takesPayloads_recordField l name (ihs inner)).beside (ih name depth)
  | records l inner sub others ihs ih =>
    rw [mergeField_records]
    exact (takesPayloads_recordsField l name (ihs inner)).beside (ih name depth)

end WalletNotify.Wire
