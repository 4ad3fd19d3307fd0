import Mathlib.Data.Nat.Find
import Mathlib.Order.Bounds.Basic
import Mathlib.Tactic.Lemma
import WalletNotify.Webhook.Delivery

/-!
# The schedule of a delivery

A delivery posts until an attempt succeeds or none is left. Between two attempts it rests once,
every time twice as long as before, as far as durations go. Main statement: all that happens in a
delivery (`deliver_eq`).
-/

namespace WalletNotify.Webhook

open Time (Duration)

/-! ## Waits -/

/-- How long a delivery rests behind an attempt: as long as the policy says, times two for every
attempt before, or the longest duration. -/
def RetryPolicy.wait (p : RetryPolicy) (n : Nat) : Duration :=
  ⟨min (p.backoffMillis.toNat * 10 ^ 6 * 2 ^ (n - 1)) Duration.longest.nanos⟩

namespace RetryPolicy

/-- The first wait is the backoff of the policy: no backoff is longer than the longest duration. -/
lemma wait_one (p : RetryPolicy) : p.wait 1 = p.backoff := by
  have small := p.backoffMillis.toNat_lt
  simp only [wait, backoff, Duration.ofMillis, Duration.longest, Duration.mk.injEq]
  omega

/-- The next wait is twice as long. -/
lemma wait_succ (p : RetryPolicy) {n : Nat} (pos : 1 ≤ n) : p.wait (n + 1) = (p.wait n).double := by
  obtain ⟨m, rfl⟩ := Nat.exists_eq_add_of_le' pos
  simp only [wait, Duration.double, Nat.add_sub_cancel, Nat.pow_succ, ← Nat.mul_assoc,
    Duration.mk.injEq]
  generalize p.backoffMillis.toNat * 10 ^ 6 * 2 ^ m = nanos
  omega

end RetryPolicy

/-! ## The schedule -/

/-- A delivery ends with an attempt: the first one that succeeds, or the last one there is. -/
def EndsWith (p : RetryPolicy) (outcome : Nat → Outcome) (k : Nat) : Prop :=
  IsLeast {n | 1 ≤ n ∧ ((outcome n).error? = none ∨ n = max p.maxAttempts.toNat 1)} k

/-- Some attempt is the one that a delivery ends with. -/
lemma exists_endsWith (p : RetryPolicy) (outcome : Nat → Outcome) : ∃ k, EndsWith p outcome k := by
  classical
  have some : ∃ n, 1 ≤ n ∧ ((outcome n).error? = none ∨ n = max p.maxAttempts.toNat 1) :=
    ⟨_, Nat.le_max_right _ _, .inr rfl⟩
  exact ⟨Nat.find some, Nat.find_spec some, fun n mem => Nat.find_min' some mem⟩

/-- What is reported of an attempt that another one follows. -/
def followed (d : Delivery) (wait : Nat → Duration) (outcome : Nat → Outcome) (n : Nat) :
    List Report :=
  .posted n d.request :: (outcome n).error?.toList.map fun e => .failed n e (wait n)

/-- What is reported of the attempt that a delivery ends with. -/
def concluded (d : Delivery) (outcome : Nat → Outcome) (k : Nat) : List Report :=
  [.posted k d.request,
    match (outcome k).error? with | none => .notified k | some e => .gaveUp k e]

/-- All that happens in a delivery that ends with an attempt. -/
def schedule (p : RetryPolicy) (d : Delivery) (outcome : Nat → Outcome) (k : Nat) : List Report :=
  (List.range' 1 (k - 1)).flatMap (followed d p.wait outcome) ++ concluded d outcome k

/-- Behind every attempt that is followed by another there is the wait of that attempt. -/
lemma wait_of_failed {p : RetryPolicy} {d : Delivery} {outcome : Nat → Outcome} {k n : Nat}
    {e : DeliveryError} {wait : Duration} (failed : .failed n e wait ∈ schedule p d outcome k) :
    wait = p.wait n := by
  rcases List.mem_append.mp failed with before | last
  · obtain ⟨i, -, failed⟩ := List.mem_flatMap.mp before
    rcases List.mem_cons.mp failed with posted | failed
    · cases posted
    · obtain ⟨e', -, same⟩ := List.mem_map.mp failed
      cases same
      rfl
  · unfold concluded at last
    cases error : (outcome k).error? <;> simp [error] at last

/-- Attempts are made up to the first that succeeds, or else to the last, with waits that double. -/
lemma attempt_eq {d : Delivery} {outcome : Nat → Outcome} {wait : Nat → Duration} {left n k : Nat}
    (onward : n ≤ k) (within : k ≤ n + left)
    (fails : ∀ i, n ≤ i → i < k → (outcome i).error? ≠ none)
    (ends : (outcome k).error? = none ∨ k = n + left)
    (doubles : ∀ i, n ≤ i → wait (i + 1) = (wait i).double) :
    attempt d outcome left n (wait n) =
      (List.range' n (k - n)).flatMap (followed d wait outcome) ++ concluded d outcome k := by
  induction left generalizing n with
  | zero =>
    obtain rfl : n = k := by omega
    unfold attempt
    rw [Nat.sub_self, concluded]
    cases (outcome n).error? <;> rfl
  | succ left ih =>
    unfold attempt
    cases error : (outcome n).error? with
    | none =>
      obtain rfl : n = k := by
        by_contra other
        exact fails n le_rfl (by omega) error
      rw [Nat.sub_self, concluded, error]
      rfl
    | some e =>
      have later : n < k := by
        refine onward.lt_of_ne ?_
        rintro rfl
        rcases ends with succeeds | last
        · cases error.symm.trans succeeds
        · omega
      have rest := ih later (by omega) (fun i le => fails i (by omega))
        (ends.imp_right fun last => by omega) fun i le => doubles i (by omega)
      have first : k - n = k - (n + 1) + 1 := by omega
      dsimp only
      rw [← doubles n le_rfl, rest, first, List.range'_succ, List.flatMap_cons, followed, error]
      rfl

/-- All that happens in a delivery: it ends with the first attempt that succeeds or with the last,
every attempt before has failed, and behind each of them there is one wait. -/
lemma deliver_eq {p : RetryPolicy} {outcome : Nat → Outcome} {k : Nat}
    (last : EndsWith p outcome k) (d : Delivery) :
    deliver p d outcome = schedule p d outcome k := by
  obtain ⟨⟨pos, ends⟩, least⟩ := last
  have attempts : 1 + (p.attempts - 1) = max p.maxAttempts.toNat 1 := by
    have one : 1 ≤ p.attempts := Nat.le_max_right _ _
    rw [Nat.add_sub_cancel' one]
    rfl
  rw [deliver, ← p.wait_one]
  refine attempt_eq pos ?_ ?_ ?_ fun i => p.wait_succ
  · rw [attempts]
    exact least ⟨Nat.le_max_right _ _, .inr rfl⟩
  · intro i one lt succeeds
    exact absurd (least ⟨one, .inl succeeds⟩) (Nat.not_le.mpr lt)
  · rwa [attempts]

end WalletNotify.Webhook
