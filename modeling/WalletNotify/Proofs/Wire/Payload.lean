import WalletNotify.Proofs.Wire.Merge
import WalletNotify.Wire.Skip

/-!
# Payloads

What the payload of a field record is can be told from its key alone: `IsPayload` has a rule for
every wire type. Main statements: passing over a field takes the payload of its key and nothing else
(`skip_of_isPayload`, `isPayload_of_skip`), so that no bytes start with two payloads of one key
(`IsPayload.unique`).
-/

namespace WalletNotify.Wire

variable {bytes rest : Bytes}

/-! ## Fronts -/

/-- What a reader takes is a front of the bytes, whatever follows it. -/
def TakesFront {ε α : Type} (read : Bytes → Except ε (α × Bytes)) : Prop :=
  ∀ bytes a rest, read bytes = .ok (a, rest) →
    ∃ front, bytes = front ++ rest ∧ ∀ more, read (front ++ more) = .ok (a, more)

namespace Varint

/-- Reading stops behind the last group. -/
lemma read_front {k n : Nat} (found : read k bytes = some (n, rest)) :
    ∃ front, bytes = front ++ rest ∧ ∀ more, read k (front ++ more) = some (n, more) := by
  induction k generalizing n bytes with
  | zero =>
    cases bytes with
    | nil => cases found
    | cons b tail =>
      rw [read] at found
      split at found
      case isTrue last =>
        cases found
        exact ⟨[b], rfl, fun more => if_pos last⟩
      case isFalse => cases found
  | succ k ih =>
    cases bytes with
    | nil => cases found
    | cons b tail =>
      rw [read] at found
      split at found
      case isTrue last =>
        cases found
        exact ⟨[b], rfl, fun more => if_pos last⟩
      case isFalse high =>
        obtain ⟨⟨m, _⟩, later, eq⟩ := Option.map_eq_some_iff.mp found
        cases eq
        obtain ⟨front, rfl, again⟩ := ih later
        refine ⟨b :: front, rfl, fun more => ?_⟩
        rw [List.cons_append, read, if_neg high, again]
        rfl

/-- A varint is decoded exactly as its groups are read. -/
lemma decode_eq_ok {n : Nat} : decode bytes = .ok (n, rest) ↔ read 9 bytes = some (n, rest) := by
  unfold decode
  cases read 9 bytes <;> simp

/-- A varint takes a front of the bytes, whatever follows it. -/
lemma decode_front : TakesFront decode := by
  intro bytes n rest found
  obtain ⟨front, eq, again⟩ := read_front (decode_eq_ok.mp found)
  exact ⟨front, eq, fun more => decode_eq_ok.mpr (again more)⟩

/-- Bytes that are a number are read as that number in front of others, too. -/
lemma decode_append {n : Nat} (found : decode bytes = .ok (n, [])) (more : Bytes) :
    decode (bytes ++ more) = .ok (n, more) := by
  obtain ⟨front, eq, again⟩ := decode_front _ _ _ found
  rw [eq, List.append_nil]
  exact again more

end Varint

/-- A key takes a front of the bytes, whatever follows it. -/
lemma Key.decode_front : TakesFront Key.decode := by
  intro bytes key rest found
  obtain ⟨⟨n, _⟩, read, found⟩ := bind_eq_ok.mp found
  obtain ⟨_, meant, found⟩ := bind_eq_ok.mp found
  cases found
  obtain ⟨front, eq, again⟩ := Varint.decode_front _ _ _ read
  refine ⟨front, eq, fun more => ?_⟩
  simp only [Key.decode, again, ok_bind, meant]
  rfl

/-- A counted payload is a count and as many bytes. -/
lemma Scalar.readCounted_front {b : Bytes} (found : readCounted bytes = .ok (b, rest)) :
    ∃ count, bytes = count ++ b ++ rest ∧
      ∀ more, Varint.decode (count ++ more) = .ok (b.length, more) := by
  obtain ⟨⟨n, tail⟩, read, found⟩ := bind_eq_ok.mp found
  simp only at found
  split at found
  case isTrue le =>
    obtain ⟨rfl, rfl⟩ : tail.take n = b ∧ tail.drop n = rest := by
      simpa [pure, Except.pure] using found
    obtain ⟨count, rfl, again⟩ := Varint.decode_front _ _ _ read
    refine ⟨count, by simp, ?_⟩
    rwa [List.length_take, Nat.min_eq_left le]
  case isFalse => cases found

/-! ## Payloads by wire type -/

/-- Bytes are the payload of a field record, with so many levels of nesting left. A group holds
records of its own up to a key that ends it, and takes a level. -/
inductive IsPayload : Nat → Key → Bytes → Prop where
  | varint {depth number n bytes} :
    Varint.decode bytes = .ok (n, []) →
    IsPayload (depth + 1) ⟨number, .varint⟩ bytes
  | fixed32 {depth number bytes} :
    bytes.length = 4 →
    IsPayload (depth + 1) ⟨number, .fixed32⟩ bytes
  | fixed64 {depth number bytes} :
    bytes.length = 8 →
    IsPayload (depth + 1) ⟨number, .fixed64⟩ bytes
  | delimited {depth number count bytes} :
    Varint.decode count = .ok (bytes.length, []) →
    IsPayload (depth + 1) ⟨number, .delimited⟩ (count ++ bytes)
  | group {depth number records last} :
    (∀ r ∈ records, IsPayload depth r.key r.payload) →
    Key.decode last = .ok (⟨number, .groupEnd⟩, []) →
    IsPayload (depth + 1) ⟨number, .groupStart⟩ (bytesOf records ++ last)

/-- The record of a key that was read, whose payload is what follows up to the rest. -/
lemma exists_record {key : Key} {payload behind : Bytes}
    (read : Key.decode bytes = .ok (key, payload ++ behind)) :
    ∃ r : FieldRecord, r.key = key ∧ r.payload = payload ∧ bytes = r.bytes ++ behind := by
  obtain ⟨head, rfl, again⟩ := Key.decode_front _ _ _ read
  exact ⟨⟨key, head, payload, again⟩, rfl, rfl, (List.append_assoc head payload behind).symm⟩

/-- A key takes a byte or more. -/
lemma length_pos_of_key {key : Key} (read : Key.decode bytes = .ok (key, rest)) :
    rest.length < bytes.length := by
  have shorter := Key.length_encode_le read
  have pos := Varint.length_encode_pos key.toNat
  unfold Key.encode at shorter
  omega

/-- As many bytes as are dropped are gone, and what follows is left. -/
lemma dropBytes_append {n : Nat} (length : bytes.length = n) (rest : Bytes) :
    dropBytes n (bytes ++ rest) = .ok rest := by
  subst length
  simp [dropBytes]

/-- Leaving bytes out leaves out a front of that length. -/
lemma dropBytes_front {n : Nat} (found : dropBytes n bytes = .ok rest) :
    ∃ front, bytes = front ++ rest ∧ front.length = n := by
  unfold dropBytes at found
  split at found
  case isTrue le =>
    cases found
    exact ⟨bytes.take n, (List.take_append_drop n bytes).symm, List.length_take_of_le le⟩
  case isFalse => cases found

/-- Passing over records, each of which is passed over on its own, up to the end of their group. -/
lemma skipGroup_of_records {pass : Key → Bytes → Except Fault Bytes} {records : List FieldRecord}
    {last : Bytes} {number fuel : Nat}
    (passes : ∀ r ∈ records, r.key.type ≠ .groupEnd ∧
      ∀ rest, pass r.key (r.payload ++ rest) = .ok rest)
    (ends : Key.decode last = .ok (⟨number, .groupEnd⟩, [])) (rest : Bytes)
    (enough : (bytesOf records ++ last).length ≤ fuel) :
    skipGroup pass number fuel (bytesOf records ++ (last ++ rest)) = .ok rest := by
  induction records generalizing fuel with
  | nil =>
    have pos := length_pos_of_key ends
    cases fuel with
    | zero =>
      rw [bytesOf_nil, List.nil_append] at enough
      omega
    | succ fuel =>
      obtain ⟨front, eq, again⟩ := Key.decode_front _ _ _ ends
      rw [List.append_nil] at eq
      subst eq
      rw [bytesOf_nil, List.nil_append, skipGroup, again]
      simp only [ok_bind, ↓reduceIte]
      rfl
  | cons r records ih =>
    obtain ⟨inner, passed⟩ := passes r List.mem_cons_self
    have pos := r.length_bytes_pos
    rw [bytesOf_cons, List.append_assoc, List.length_append] at enough
    cases fuel with
    | zero => omega
    | succ fuel =>
      have later : skipGroup pass number fuel (bytesOf records ++ (last ++ rest)) = .ok rest :=
        ih (fun r mem => passes r (List.mem_cons_of_mem _ mem)) (by omega)
      rw [bytesOf_cons, FieldRecord.bytes, List.append_assoc, List.append_assoc, skipGroup, r.reads]
      simp only [ok_bind, if_neg inner, passed]
      exact later

/-- Passing over a group passes over records and the key that ends it. -/
lemma skipGroup_front {pass : Key → Bytes → Except Fault Bytes} {P : Key → Bytes → Prop}
    (passes : ∀ key bytes rest, pass key bytes = .ok rest →
      ∃ payload, bytes = payload ++ rest ∧ P key payload)
    {number fuel : Nat} (found : skipGroup pass number fuel bytes = .ok rest) :
    ∃ records last, bytes = bytesOf records ++ (last ++ rest) ∧
      (∀ r ∈ records, P r.key r.payload) ∧ Key.decode last = .ok (⟨number, .groupEnd⟩, []) := by
  induction fuel generalizing bytes with
  | zero => cases found
  | succ fuel ih =>
    obtain ⟨⟨key, behind⟩, read, found⟩ := bind_eq_ok.mp found
    simp only at found
    split at found
    case isTrue ends =>
      split at found
      case isTrue same =>
        cases found
        obtain ⟨number', type⟩ := key
        obtain rfl : type = .groupEnd := ends
        obtain rfl : number' = number := same
        obtain ⟨last, rfl, again⟩ := Key.decode_front _ _ _ read
        refine ⟨[], last, rfl, nofun, ?_⟩
        simpa using again []
      case isFalse => cases found
    case isFalse =>
      obtain ⟨next, skipped, goes⟩ := bind_eq_ok.mp found
      obtain ⟨payload, rfl, passed⟩ := passes _ _ _ skipped
      obtain ⟨records, last, rfl, later, ended⟩ := ih goes
      obtain ⟨r, rfl, rfl, rfl⟩ := exists_record read
      refine ⟨r :: records, last, ?_, ?_, ended⟩
      · rw [bytesOf_cons, List.append_assoc]
      · intro r' mem
        rcases List.mem_cons.mp mem with rfl | mem
        · exact passed
        · exact later r' mem

variable {depth : Nat} {key : Key} {payload : Bytes}

/-- No payload belongs to a key that ends a group. -/
lemma IsPayload.type_ne (whole : IsPayload depth key payload) : key.type ≠ .groupEnd := by
  cases whole <;> exact WireType.noConfusion

/-- A payload is passed over, and what follows it is left. -/
lemma skip_of_isPayload (whole : IsPayload depth key payload) (rest : Bytes) :
    skip depth key (payload ++ rest) = .ok rest := by
  induction whole generalizing rest with
  | varint number =>
    simp only [skip, Varint.decode_append number, ok_bind]
    rfl
  | fixed32 length => exact dropBytes_append length rest
  | fixed64 length => exact dropBytes_append length rest
  | delimited count =>
    simp only [skip, List.append_assoc, Varint.decode_append count, ok_bind]
    exact dropBytes_append rfl rest
  | group whole ends ih =>
    simp only [skip, List.append_assoc]
    refine skipGroup_of_records (fun r mem => ⟨(whole r mem).type_ne, ih r mem⟩) ends rest ?_
    simp

/-- What is passed over is a payload. -/
lemma isPayload_of_skip (found : skip depth key bytes = .ok rest) :
    ∃ payload, bytes = payload ++ rest ∧ IsPayload depth key payload := by
  induction depth generalizing key bytes rest with
  | zero => cases found
  | succ depth ih =>
    obtain ⟨number, type⟩ := key
    cases type with
    | varint =>
      obtain ⟨⟨n, _⟩, read, found⟩ := bind_eq_ok.mp found
      cases found
      obtain ⟨front, rfl, again⟩ := Varint.decode_front _ _ _ read
      exact ⟨front, rfl, .varint (n := n) (by simpa using again [])⟩
    | fixed32 =>
      obtain ⟨front, rfl, length⟩ := dropBytes_front found
      exact ⟨front, rfl, .fixed32 length⟩
    | fixed64 =>
      obtain ⟨front, rfl, length⟩ := dropBytes_front found
      exact ⟨front, rfl, .fixed64 length⟩
    | delimited =>
      obtain ⟨⟨n, behind⟩, read, found⟩ := bind_eq_ok.mp found
      obtain ⟨front, rfl, rfl⟩ := dropBytes_front found
      obtain ⟨count, rfl, again⟩ := Varint.decode_front _ _ _ read
      refine ⟨count ++ front, (List.append_assoc count front rest).symm, .delimited ?_⟩
      simpa using again []
    | groupStart =>
      have passes (key : Key) (bytes rest : Bytes) (found : skip depth key bytes = .ok rest) :
          ∃ payload, bytes = payload ++ rest ∧ IsPayload depth key payload := ih found
      have found : skipGroup (skip depth) number bytes.length bytes = .ok rest := found
      obtain ⟨records, last, rfl, whole, ends⟩ := skipGroup_front passes found
      exact ⟨bytesOf records ++ last, (List.append_assoc _ _ _).symm, .group whole ends⟩
    | groupEnd => cases found

/-- No bytes start with two payloads of one key. -/
lemma IsPayload.unique {payload' rest' : Bytes} (whole : IsPayload depth key payload)
    (whole' : IsPayload depth key payload') (same : payload ++ rest = payload' ++ rest') :
    payload = payload' ∧ rest = rest' := by
  have skipped := skip_of_isPayload whole rest
  rw [same, skip_of_isPayload whole' rest'] at skipped
  obtain rfl := Except.ok.inj skipped
  exact ⟨List.append_cancel_right same, rfl⟩

end WalletNotify.Wire
