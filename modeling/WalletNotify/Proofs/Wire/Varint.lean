import Mathlib.Order.Nat
import Mathlib.Tactic.Lemma
import WalletNotify.Wire.Key

/-!
# The length of varints

A number is written in as many groups as it needs. Main statements: no reading of a number takes
fewer bytes than writing it does (`length_encode_le`), and the groups of a sum are at most those of
its parts together (`length_encode_add`).
-/

namespace WalletNotify.Wire

namespace Varint

/-- A number is written in one byte at least. -/
lemma length_groups_pos (k n : Nat) : 0 < (groups k n).length := by
  cases k with
  | zero => exact Nat.one_pos
  | succ k => unfold groups; split <;> simp

/-- A number of seven bits is written in one byte. -/
lemma length_groups_of_lt {n : Nat} (small : n < 128) (k : Nat) : (groups k n).length = 1 := by
  cases k with
  | zero => rfl
  | succ k => rw [groups, if_pos small]; rfl

/-- Another number is one group more than what is above its lowest group. -/
lemma length_groups_succ {n : Nat} (large : ¬ n < 128) (k : Nat) :
    (groups (k + 1) n).length = (groups k (n / 128)).length + 1 := by
  rw [groups, if_neg large, List.length_cons]

/-- A larger number is written in no fewer bytes. -/
lemma length_groups_mono {m n : Nat} (le : m ≤ n) (k : Nat) :
    (groups k m).length ≤ (groups k n).length := by
  induction k generalizing m n with
  | zero => exact le_rfl
  | succ k ih =>
    by_cases small : m < 128
    · rw [length_groups_of_lt small]
      exact length_groups_pos _ _
    · rw [length_groups_succ small, length_groups_succ (by omega)]
      exact Nat.succ_le_succ (ih (Nat.div_le_div_right le))

/-- Doubling a number takes one more group at most. -/
lemma length_groups_double (k n : Nat) :
    (groups k (2 * n + 1)).length ≤ (groups k n).length + 1 := by
  induction k generalizing n with
  | zero => exact Nat.le_succ _
  | succ k ih =>
    by_cases small : 2 * n + 1 < 128
    · rw [length_groups_of_lt small]
      exact Nat.succ_pos _
    · rw [length_groups_succ small]
      apply Nat.succ_le_succ
      by_cases single : n < 128
      · exact (length_groups_of_lt (by omega) k).trans_le (length_groups_pos _ _)
      · rw [length_groups_succ single]
        have halves : (2 * n + 1) / 128 ≤ 2 * (n / 128) + 1 := by omega
        exact (length_groups_mono halves k).trans (ih _)

/-- The groups of a sum are at most those of its parts together. -/
lemma length_groups_add (k m n : Nat) :
    (groups k (m + n)).length ≤ (groups k m).length + (groups k n).length := by
  -- Twice the greater part is as much as both, and takes one group more at most.
  have sum (n m : Nat) (le : m ≤ n) : (groups k (m + n)).length ≤ (groups k n).length + 1 := by
    have double : m + n ≤ 2 * n + 1 := by omega
    exact (length_groups_mono double k).trans (length_groups_double k n)
  rcases Nat.le_total m n with le | le
  · have pos := length_groups_pos k m
    have sum := sum n m le
    omega
  · have pos := length_groups_pos k n
    have sum := sum m n le
    rw [Nat.add_comm] at sum
    omega

/-- Reading a number takes no fewer bytes than its groups. -/
lemma length_groups_le_of_read {k n : Nat} {bytes rest : Bytes}
    (found : read k bytes = some (n, rest)) :
    (groups k n).length + rest.length ≤ bytes.length := by
  induction k generalizing n bytes with
  | zero =>
    cases bytes with
    | nil => cases found
    | cons b tail =>
      rw [read] at found
      split at found
      · cases found
        exact (Nat.add_comm _ _).le
      · cases found
  | succ k ih =>
    cases bytes with
    | nil => cases found
    | cons b tail =>
      rw [read] at found
      split at found
      case isTrue last =>
        cases found
        rw [length_groups_of_lt last]
        exact (Nat.add_comm _ _).le
      case isFalse =>
        obtain ⟨⟨high, _⟩, later, eq⟩ := Option.map_eq_some_iff.mp found
        cases eq
        have tail_le := ih later
        have byte := b.toNat_lt
        rw [List.length_cons]
        by_cases small : b.toNat - 128 + 128 * high < 128
        · have pos := length_groups_pos k high
          rw [length_groups_of_lt small]
          omega
        · rw [length_groups_succ small, show (b.toNat - 128 + 128 * high) / 128 = high by omega]
          omega

variable {m n : Nat} {bytes rest : Bytes}

/-- A varint has a byte or more. -/
lemma length_encode_pos (n : Nat) : 0 < (encode n).length := length_groups_pos 9 n

/-- A varint of a larger number has no fewer bytes. -/
lemma length_encode_mono (le : m ≤ n) : (encode m).length ≤ (encode n).length :=
  length_groups_mono le 9

/-- A varint of a sum has no more bytes than those of its parts. -/
lemma length_encode_add (m n : Nat) :
    (encode (m + n)).length ≤ (encode m).length + (encode n).length :=
  length_groups_add 9 m n

/-- A number takes ten bytes at most. -/
lemma length_groups_le (k n : Nat) : (groups k n).length ≤ k + 1 := by
  induction k generalizing n with
  | zero => exact le_rfl
  | succ k ih =>
    by_cases small : n < 128
    · rw [length_groups_of_lt small]
      exact Nat.succ_pos _
    · rw [length_groups_succ small]
      exact Nat.succ_le_succ (ih _)

/-- No reading of a number takes fewer bytes than writing it does. -/
lemma length_encode_le (found : decode bytes = .ok (n, rest)) :
    (encode n).length + rest.length ≤ bytes.length := by
  unfold decode at found
  split at found
  case h_1 r eq =>
    cases found
    exact length_groups_le_of_read eq
  case h_2 => cases found

end Varint

end WalletNotify.Wire
