import WalletNotify.Proofs.Result
import WalletNotify.Proofs.Wire.Varint
import WalletNotify.Wire.Encode

/-!
# Keys and scalars

A written key, a counted payload and a scalar read back, whatever follows them. Reading them takes
no fewer bytes than writing them does, but for negative enumeration numbers: these are read from
five bytes and written in ten.
-/

namespace WalletNotify.Wire

/-! ## Keys -/

namespace Key

/-- The number of a key fits thirty-two bits. -/
lemma toNat_lt {k : Key} (small : k.number < 2 ^ 29) : k.toNat < 2 ^ 32 := by
  have code : k.type.code < 8 := by cases k.type <;> decide
  unfold toNat
  omega

/-- A written key reads back, and what follows it is left. -/
lemma decode_encode {k : Key} (pos : 0 < k.number) (small : k.number < 2 ^ 29) (rest : Bytes) :
    decode (k.encode ++ rest) = .ok (k, rest) := by
  have fits := toNat_lt small
  rw [decode, encode, Varint.decode_encode (by omega)]
  simp only [ok_bind, ofNat_toNat pos small]
  rfl

/-- A wire type has the code that it was found by. -/
lemma code_of_ofCode? {n : Nat} {w : WireType} (found : WireType.ofCode? n = some w) :
    w.code = n := by
  unfold WireType.ofCode? at found
  split at found <;> cases found <;> rfl

/-- A number stands for one key only. -/
lemma toNat_of_ofNat {n : Nat} {k : Key} (found : ofNat n = .ok k) : k.toNat = n := by
  unfold ofNat at found
  split at found
  case isFalse => cases found
  case isTrue =>
    split at found
    case h_1 => cases found
    case h_2 type code =>
      split at found
      case isTrue => cases found
      case isFalse =>
        cases found
        rw [toNat, code_of_ofCode? code]
        exact Nat.div_add_mod n 8

/-- No reading of a key takes fewer bytes than writing it does. -/
lemma length_encode_le {bytes rest : Bytes} {k : Key} (found : decode bytes = .ok (k, rest)) :
    k.encode.length + rest.length ≤ bytes.length := by
  obtain ⟨⟨n, _⟩, read, found⟩ := bind_eq_ok.mp found
  obtain ⟨key, meant, found⟩ := bind_eq_ok.mp found
  cases found
  rw [encode, toNat_of_ofNat meant]
  exact Varint.length_encode_le read

end Key

namespace Scalar

/-! ## Counted payloads -/

/-- Counted bytes are as long as their count and themselves. -/
lemma length_counted (b : Bytes) :
    (counted b).length = (Varint.encode b.length).length + b.length := by
  rw [counted, List.length_append]

/-- A counted payload reads back, and what follows it is left. -/
lemma readCounted_counted {b : Bytes} (fits : b.length < 2 ^ 64) (rest : Bytes) :
    readCounted (counted b ++ rest) = .ok (b, rest) := by
  rw [readCounted, counted, List.append_assoc, Varint.decode_encode fits, ok_bind]
  simp [pure, Except.pure]

/-- No reading of a counted payload takes fewer bytes than writing it does. -/
lemma length_counted_le {bytes b rest : Bytes} (found : readCounted bytes = .ok (b, rest)) :
    (counted b).length + rest.length ≤ bytes.length := by
  obtain ⟨⟨n, tail⟩, read, found⟩ := bind_eq_ok.mp found
  simp only at found
  split at found
  case isTrue le =>
    obtain ⟨rfl, rfl⟩ : tail.take n = b ∧ tail.drop n = rest := by
      simpa [pure, Except.pure] using found
    have shorter := Varint.length_encode_le read
    rw [length_counted, List.length_take, List.length_drop, Nat.min_eq_left le]
    omega
  case isFalse => cases found

/-! ## Enumeration numbers -/

/-- A negative number is written with 32 more bits set. -/
lemma toNat_extended (x : Int32) : x.toInt64.toUInt64.toNat =
    x.toUInt32.toNat + if 2 ^ 31 ≤ x.toUInt32.toNat then 2 ^ 64 - 2 ^ 32 else 0 := by
  have extended : x.toInt64.toUInt64.toNat = (x.toBitVec.signExtend 64).toNat := rfl
  have bits : x.toBitVec.toNat = x.toUInt32.toNat := rfl
  have lt : x.toBitVec.toNat < 2 ^ 32 := x.toBitVec.isLt
  rw [extended, BitVec.toNat_signExtend, BitVec.toNat_setWidth, BitVec.msb_eq_decide, bits]
  simp only [decide_eq_true_eq]
  rw [Nat.mod_eq_of_lt]
  omega

/-- The low bits of a number that is written are the number. -/
lemma ofNat_extended (x : Int32) : (UInt32.ofNat x.toInt64.toUInt64.toNat).toInt32 = x := by
  have low : UInt32.ofNat x.toInt64.toUInt64.toNat = x.toUInt32 := by
    apply UInt32.toNat_inj.mp
    have lt := x.toUInt32.toNat_lt
    rw [toNat_extended, UInt32.toNat_ofNat']
    split <;> omega
  simpa using congrArg UInt32.toInt32 low

/-- A number that keeps the low bits of another takes twice as many bytes at most. -/
lemma length_extended_le (n : Nat) :
    (Varint.encode (UInt32.ofNat n).toInt32.toInt64.toUInt64.toNat).length ≤
      2 * (Varint.encode n).length := by
  have bits : (UInt32.ofNat n).toInt32.toUInt32.toNat = n % 2 ^ 32 := by simp
  rw [toNat_extended, bits]
  have low : n % 2 ^ 32 ≤ n := Nat.mod_le _ _
  split
  case isTrue negative =>
    -- The number has its sign bit set, so it was read from five bytes or more.
    have ten := Varint.length_groups_le 9 (n % 2 ^ 32 + (2 ^ 64 - 2 ^ 32))
    have five : (Varint.encode (2 ^ 31)).length = 5 := by decide
    have more := Varint.length_encode_mono (negative.trans low)
    unfold Varint.encode at five more ⊢
    omega
  case isFalse =>
    have less := Varint.length_encode_mono low
    rw [Nat.add_zero]
    omega

/-! ## Scalars -/

section Varints

variable {α : Type} (ofNat : Nat → α) {a : α}

/-- A written number reads back as what it stands for. -/
lemma read_varint {n : Nat} (fits : n < 2 ^ 64) (meant : ofNat n = a) (rest : Bytes) :
    (do
      let (m, rest) ← Varint.decode (Varint.encode n ++ rest)
      return (ofNat m, rest)) = Except.ok (a, rest) := by
  rw [Varint.decode_encode fits, ← meant]
  rfl

/-- What stands for a number takes twice as many bytes at most, if it does for every number. -/
lemma length_varint_le (toNat : α → Nat) {bytes rest : Bytes}
    (found : (do
      let (n, rest) ← Varint.decode bytes
      return (ofNat n, rest)) = Except.ok (a, rest))
    (double : ∀ n, (Varint.encode (toNat (ofNat n))).length ≤ 2 * (Varint.encode n).length) :
    (Varint.encode (toNat a)).length + 2 * rest.length ≤ 2 * bytes.length := by
  obtain ⟨⟨n, _⟩, read, found⟩ := bind_eq_ok.mp found
  cases found
  have shorter := Varint.length_encode_le read
  have double := double n
  omega

/-- A smaller number is written in at most twice the bytes of a larger one. -/
lemma length_encode_le_double {m n : Nat} (le : m ≤ n) :
    (Varint.encode m).length ≤ 2 * (Varint.encode n).length := by
  have mono := Varint.length_encode_mono le
  omega

end Varints

/-- The payload of a scalar reads back, and what follows it is left. -/
lemma read_payload {k : Scalar} {v : k.Value} (fits : (k.payload v).length < 2 ^ 64)
    (rest : Bytes) : k.read (k.payload v ++ rest) = .ok (v, rest) := by
  cases k with
  | text =>
    rw [payload, length_counted] at fits
    rw [payload, read, readCounted_counted (by omega)]
    simp only [ok_bind, Text.ofUtf8?_utf8]
    rfl
  | blob =>
    rw [payload, length_counted] at fits
    exact readCounted_counted (by omega) rest
  | word32 =>
    have lt := UInt32.toNat_lt v
    exact read_varint UInt32.ofNat (by omega) UInt32.ofNat_toNat rest
  | word64 => exact read_varint UInt64.ofNat (UInt64.toNat_lt v) UInt64.ofNat_toNat rest
  | signed64 =>
    refine read_varint (fun n => (UInt64.ofNat n).toInt64) (UInt64.toNat_lt _) ?_ rest
    rw [UInt64.ofNat_toNat, Int64.toInt64_toUInt64]
  | enumeration =>
    exact read_varint (fun n => (UInt32.ofNat n).toInt32) (UInt64.toNat_lt _) (ofNat_extended v)
      rest
  | flag => cases v <;> rfl

/-- Writing a scalar that was read takes twice as many bytes at most. -/
lemma length_payload_le {k : Scalar} {v : k.Value} {bytes rest : Bytes}
    (found : k.read bytes = .ok (v, rest)) :
    (k.payload v).length + 2 * rest.length ≤ 2 * bytes.length := by
  cases k with
  | text =>
    obtain ⟨⟨b, _⟩, read, found⟩ := bind_eq_ok.mp found
    simp only at found
    split at found
    case h_1 s isText =>
      cases found
      have shorter := length_counted_le read
      rw [payload, Text.utf8_of_ofUtf8? isText]
      omega
    case h_2 => cases found
  | blob =>
    have shorter := length_counted_le found
    rw [payload]
    omega
  | word32 =>
    refine length_varint_le UInt32.ofNat UInt32.toNat found fun n => length_encode_le_double ?_
    rw [UInt32.toNat_ofNat']
    exact Nat.mod_le _ _
  | word64 =>
    refine length_varint_le UInt64.ofNat UInt64.toNat found fun n => length_encode_le_double ?_
    rw [UInt64.toNat_ofNat']
    exact Nat.mod_le _ _
  | signed64 =>
    refine length_varint_le (fun n => (UInt64.ofNat n).toInt64) (fun x => x.toUInt64.toNat) found
      fun n => length_encode_le_double ?_
    rw [UInt64.toUInt64_toInt64, UInt64.toNat_ofNat']
    exact Nat.mod_le _ _
  | enumeration =>
    exact length_varint_le (fun n => (UInt32.ofNat n).toInt32) (fun x => x.toInt64.toUInt64.toNat)
      found length_extended_le
  | flag =>
    refine length_varint_le (· != 0) Bool.toNat found fun n => length_encode_le_double ?_
    cases n <;> simp

end Scalar

end WalletNotify.Wire
