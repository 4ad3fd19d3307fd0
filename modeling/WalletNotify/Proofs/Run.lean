import Mathlib.Data.List.Induction
import Mathlib.Tactic.Lemma

/-!
# Runs

A run of a system carries out operations one after another and collects the answers. Its history is
the operations with their answers. Main statement: what holds before a run and is kept by every step
holds after it, of the history and the state (`IsRun.induction`).
-/

namespace WalletNotify

variable {σ ο α : Type}

/-- What a run answers, and the state it ends with. -/
structure IsRun (step : σ → ο → α × σ) (run : σ → List ο → List α × σ) : Prop where
  nil : ∀ s, run s [] = ([], s)
  cons : ∀ s o rest, run s (o :: rest) =
    ((step s o).1 :: (run (step s o).2 rest).1, (run (step s o).2 rest).2)

namespace IsRun

variable {step : σ → ο → α × σ} {run : σ → List ο → List α × σ}

/-- A longer run goes on from where the shorter one ends. -/
lemma append (isRun : IsRun step run) (s : σ) (xs ys : List ο) :
    run s (xs ++ ys) = ((run s xs).1 ++ (run (run s xs).2 ys).1, (run (run s xs).2 ys).2) := by
  induction xs generalizing s with
  | nil => simp [isRun.nil]
  | cons o rest ih => simp [isRun.cons, ih]

/-- Every operation is answered once. -/
lemma length_answers (isRun : IsRun step run) (s : σ) (ops : List ο) :
    (run s ops).1.length = ops.length := by
  induction ops generalizing s with
  | nil => simp [isRun.nil]
  | cons o rest ih => simp [isRun.cons, ih]

/-- One more operation is one more step. -/
lemma after_concat (isRun : IsRun step run) (s : σ) (ops : List ο) (o : ο) :
    (run s (ops ++ [o])).2 = (step (run s ops).2 o).2 := by
  rw [isRun.append, isRun.cons, isRun.nil]

/-- One more operation is one more entry. -/
lemma history_concat (isRun : IsRun step run) (s : σ) (ops : List ο) (o : ο) :
    (ops ++ [o]).zip (run s (ops ++ [o])).1 =
      ops.zip (run s ops).1 ++ [(o, (step (run s ops).2 o).1)] := by
  rw [isRun.append, isRun.cons, isRun.nil, List.zip_append (isRun.length_answers s ops).symm]
  rfl

/-- What holds before a run and is kept by every step holds after it. -/
lemma induction (isRun : IsRun step run) {I : List (ο × α) → σ → Prop} {s : σ} (start : I [] s)
    (keep : ∀ entries t o, I entries t → I (entries ++ [(o, (step t o).1)]) (step t o).2)
    (ops : List ο) : I (ops.zip (run s ops).1) (run s ops).2 := by
  induction ops using List.reverseRecOn with
  | nil =>
    rw [isRun.nil]
    exact start
  | append_singleton ops o ih =>
    rw [isRun.history_concat, isRun.after_concat]
    exact keep _ _ _ ih

end IsRun

end WalletNotify
