import WalletNotify.Power
import WalletNotify.Wire.Fault

/-!
# Varints

Numbers in groups of seven bits, the lowest group first; a group with its high bit set is followed
by another. Ten groups hold every 64-bit number. Main statement: a written number reads back.
-/

namespace WalletNotify.Wire

/-- Encoded data. -/
abbrev Bytes := List UInt8

namespace Varint

/-- At most `k + 1` groups of a number. -/
def groups : Nat → Nat → Bytes
  | 0, n => [UInt8.ofNat n]
  | k + 1, n =>
    if n < 128 then [UInt8.ofNat n] else UInt8.ofNat (n % 128 + 128) :: groups k (n / 128)

/-- The shortest groups of a 64-bit number. -/
def encode (n : Nat) : Bytes := groups 9 n

/-- Reads at most `k + 1` groups; the last that is allowed holds one bit only. -/
def read : Nat → Bytes → Option (Nat × Bytes)
  | _, [] => none
  | 0, b :: rest => if b.toNat < 2 then some (b.toNat, rest) else none
  | k + 1, b :: rest =>
    if b.toNat < 128 then some (b.toNat, rest)
    else (read k rest).map fun (high, rest) => (b.toNat - 128 + 128 * high, rest)

/-- Reads a 64-bit number; groups that add nothing are allowed. -/
def decode (bytes : Bytes) : Except Fault (Nat × Bytes) :=
  match read 9 bytes with
  | some r => .ok r
  | none => .error .badVarint

/-- A number is read back from its groups, and what follows is left. -/
theorem read_groups {k n : Nat} (h : n < 2 * 128 ^ k) (rest : Bytes) :
    read k (groups k n ++ rest) = some (n, rest) := by
  induction k generalizing n with
  | zero =>
    have h2 : n < 2 := by simpa using h
    have h3 : n % 256 = n := by omega
    simp [groups, read, h3, h2]
  | succ k ih =>
    rw [groups]
    split
    case isTrue hn =>
      have h3 : n % 256 = n := by omega
      simp [read, h3, hn]
    case isFalse hn =>
      have hb : (n % 128 + 128) % 256 = n % 128 + 128 := by omega
      have hge : ¬ n % 128 + 128 < 128 := by omega
      have hd : n / 128 < 2 * 128 ^ k := by
        rw [Nat.pow_succ] at h
        omega
      simp only [List.cons_append, read, UInt8.toNat_ofNat', hb, hge, if_false, ih hd,
        Option.map_some]
      congr 2
      omega

/-- A written number reads back, and what follows it is left. -/
theorem decode_encode {n : Nat} (h : n < 2 ^ 64) (rest : Bytes) :
    decode (encode n ++ rest) = .ok (n, rest) := by
  rw [decode, encode, read_groups (by omega)]

end Varint

end WalletNotify.Wire
