import Mathlib.Data.List.Forall2
import Mathlib.Tactic.Lemma

/-!
# Results

How a computation that may fail comes to succeed: every part of it does. How it comes to fail: its
first part that fails tells the fault.
-/

namespace WalletNotify

variable {ε ε' α β : Type}

/-- What succeeds is gone on from. -/
lemma ok_bind (a : α) (f : α → Except ε β) : (.ok a >>= f) = f a := rfl

/-- What fails is not gone on from. -/
lemma error_bind (e : ε) (f : α → Except ε β) : (.error e >>= f) = .error e := rfl

/-- A computation succeeds if its first part does, and then the rest of it. -/
lemma bind_eq_ok {x : Except ε α} {f : α → Except ε β} {b : β} :
    (x >>= f) = .ok b ↔ ∃ a, x = .ok a ∧ f a = .ok b := by
  cases x with
  | error e => exact ⟨nofun, nofun⟩
  | ok a => simp [ok_bind]

/-- A computation fails if its first part does, or else the rest of it. -/
lemma bind_eq_error {x : Except ε α} {f : α → Except ε β} {e : ε} :
    (x >>= f) = .error e ↔ x = .error e ∨ ∃ a, x = .ok a ∧ f a = .error e := by
  cases x with
  | error e' => simp [error_bind]
  | ok a => simp [ok_bind]

/-- Telling a fault in other words does not change what succeeds. -/
@[simp] lemma mapError_eq_ok {f : ε → ε'} {x : Except ε α} {a : α} :
    x.mapError f = .ok a ↔ x = .ok a := by
  cases x <;> simp [Except.mapError]

/-- A fault that is told in other words is one that was told. -/
@[simp] lemma mapError_eq_error {f : ε → ε'} {x : Except ε α} {e' : ε'} :
    x.mapError f = .error e' ↔ ∃ e, x = .error e ∧ f e = e' := by
  cases x <;> simp [Except.mapError]

/-- A walk over a list succeeds if every step of it does. -/
lemma mapM_eq_ok {f : α → Except ε β} {items : List α} {results : List β} :
    items.mapM f = .ok results ↔ List.Forall₂ (fun a b => f a = .ok b) items results := by
  induction items generalizing results with
  | nil =>
    rw [List.mapM_nil, List.forall₂_nil_left_iff]
    exact ⟨fun made => (Except.ok.inj made).symm, fun none => none ▸ rfl⟩
  | cons item items ih =>
    simp only [List.mapM_cons, bind_eq_ok, List.forall₂_cons_left_iff, ih]
    constructor
    · rintro ⟨first, made, others, rest, done⟩
      exact ⟨first, others, made, rest, (Except.ok.inj done).symm⟩
    · rintro ⟨first, others, made, rest, rfl⟩
      exact ⟨first, made, others, rest, rfl⟩

/-- A walk over a list comes to an end if every step of it succeeds. -/
lemma exists_mapM_iff {f : α → Except ε β} {items : List α} :
    (∃ results, items.mapM f = .ok results) ↔ ∀ a ∈ items, ∃ b, f a = .ok b := by
  induction items with
  | nil => exact iff_of_true ⟨[], rfl⟩ nofun
  | cons item items ih =>
    simp only [mapM_eq_ok, List.forall₂_cons_left_iff] at ih ⊢
    rw [List.forall_mem_cons, ← ih]
    constructor
    · rintro ⟨_, b, rest, made, each, -⟩
      exact ⟨⟨b, made⟩, rest, each⟩
    · rintro ⟨⟨b, made⟩, rest, each⟩
      exact ⟨_, b, rest, made, each, rfl⟩

/-- A walk over a list fails if some step of it does and all before it succeed. -/
lemma mapM_eq_error {f : α → Except ε β} {items : List α} {e : ε} :
    items.mapM f = .error e ↔ ∃ before item after, items = before ++ item :: after ∧
      (∀ a ∈ before, ∃ b, f a = .ok b) ∧ f item = .error e := by
  induction items with
  | nil =>
    refine ⟨nofun, ?_⟩
    rintro ⟨before, item, after, none, -⟩
    exact absurd none.symm (List.append_ne_nil_of_right_ne_nil _ (List.cons_ne_nil _ _))
  | cons first rest ih =>
    simp only [List.mapM_cons, bind_eq_error, ih]
    constructor
    · rintro (failed | ⟨b, made, ⟨before, item, after, rfl, fine, failed⟩ | ⟨_, _, ⟨⟩⟩⟩)
      · exact ⟨[], first, rest, rfl, nofun, failed⟩
      · refine ⟨first :: before, item, after, rfl, ?_, failed⟩
        exact List.forall_mem_cons.mpr ⟨⟨b, made⟩, fine⟩
    · rintro ⟨before, item, after, parts, fine, failed⟩
      cases before with
      | nil =>
        cases parts
        exact .inl failed
      | cons _ before =>
        cases parts
        obtain ⟨⟨b, made⟩, fine⟩ := List.forall_mem_cons.mp fine
        exact .inr ⟨b, made, .inl ⟨before, item, after, rfl, fine, failed⟩⟩

/-- A fold over a list that succeeds has taken every step. -/
lemma exists_step_of_foldlM {step : β → α → Except ε β} {items : List α} {b b' : β}
    (done : items.foldlM step b = .ok b') : ∀ a ∈ items, ∃ c c', step c a = .ok c' := by
  induction items generalizing b with
  | nil => exact nofun
  | cons a items ih =>
    rw [List.foldlM_cons] at done
    obtain ⟨c, taken, done⟩ := bind_eq_ok.mp done
    exact List.forall_mem_cons.mpr ⟨⟨b, c, taken⟩, ih done⟩

/-- A fold over a list that fails does so at a step. -/
lemma exists_step_of_foldlM_error {step : β → α → Except ε β} {items : List α} {b : β} {e : ε}
    (failed : items.foldlM step b = .error e) : ∃ a ∈ items, ∃ c, step c a = .error e := by
  induction items generalizing b with
  | nil => cases failed
  | cons a items ih =>
    rw [List.foldlM_cons] at failed
    rcases bind_eq_error.mp failed with here | ⟨c, -, failed⟩
    · exact ⟨a, List.mem_cons_self, b, here⟩
    · obtain ⟨a', member, later⟩ := ih failed
      exact ⟨a', List.mem_cons_of_mem _ member, later⟩

/-- What every step of a fold keeps still holds at its end. -/
lemma foldlM_keeps {I : β → Prop} {step : β → α → Except ε β} {items : List α} {b b' : β}
    (keeps : ∀ a ∈ items, ∀ c c', I c → step c a = .ok c' → I c') (start : I b)
    (done : items.foldlM step b = .ok b') : I b' := by
  induction items generalizing b with
  | nil => cases done; exact start
  | cons a items ih =>
    rw [List.foldlM_cons] at done
    obtain ⟨c, taken, done⟩ := bind_eq_ok.mp done
    obtain ⟨first, rest⟩ := List.forall_mem_cons.mp keeps
    exact ih rest (first b c start taken) done

end WalletNotify
