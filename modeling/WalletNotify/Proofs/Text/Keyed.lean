import Mathlib.Data.String.Basic
import Mathlib.Tactic.Lemma
import WalletNotify.Proofs.Result
import WalletNotify.Text.Keyed

/-!
# Values under names, in order

What is put under names stays in order (`Ordered.put`), and then a name stands for one value. What a
walk over the values makes of them is told by that value (`foldlM_get`).
-/

namespace WalletNotify.Text.Keyed

variable {α β γ ε : Type} {xs : Keyed α} {key : String} {a : α}

/-- The names are in ascending order, and so no name stands twice. -/
def Ordered (xs : Keyed α) : Prop := xs.Pairwise (·.1 < ·.1)

/-- No entries are in order. -/
lemma ordered_nil : Ordered ([] : Keyed α) := List.Pairwise.nil

/-- One entry is in order. -/
lemma ordered_singleton (e : String × α) : Ordered [e] := List.pairwise_singleton _ e

/-- What is there after a value was put is that value, or was there before. -/
lemma mem_put {e : String × α} (member : e ∈ put key a xs) : e = (key, a) ∨ e ∈ xs := by
  induction xs with
  | nil => exact .inl (List.mem_singleton.mp member)
  | cons x rest ih =>
    rw [put] at member
    split_ifs at member with same before
    · exact (List.mem_cons.mp member).imp_right (List.mem_cons_of_mem _)
    · exact List.mem_cons.mp member
    · rcases List.mem_cons.mp member with rfl | later
      · exact .inr List.mem_cons_self
      · exact (ih later).imp_right (List.mem_cons_of_mem _)

/-- Entries stay in order when one is put among them. -/
lemma Ordered.put (ordered : Ordered xs) (key : String) (a : α) : Ordered (put key a xs) := by
  induction xs with
  | nil => exact ordered_singleton _
  | cons x rest ih =>
    obtain ⟨first, tail⟩ := List.pairwise_cons.mp ordered
    rw [Keyed.put]
    split_ifs with same before
    · subst same
      exact List.pairwise_cons.mpr ⟨first, tail⟩
    · refine List.pairwise_cons.mpr ⟨?_, ordered⟩
      exact List.forall_mem_cons.mpr ⟨before, fun e member => before.trans (first e member)⟩
    · refine List.pairwise_cons.mpr ⟨?_, ih tail⟩
      intro e member
      rcases mem_put member with rfl | old
      · exact lt_of_le_of_ne (not_lt.mp before) (Ne.symm same)
      · exact first e old

/-- What is found under a key is an entry. -/
lemma mem_of_get? (found : get? key xs = some a) : (key, a) ∈ xs := by
  induction xs with
  | nil => cases found
  | cons x rest ih =>
    rw [get?] at found
    split_ifs at found with same
    · cases found
      exact same ▸ List.mem_cons_self
    · exact List.mem_cons_of_mem _ (ih found)

/-- Of entries in order, every one is found under its key. -/
lemma Ordered.get?_eq_some (ordered : Ordered xs) : get? key xs = some a ↔ (key, a) ∈ xs := by
  refine ⟨mem_of_get?, fun member => ?_⟩
  induction xs with
  | nil => cases member
  | cons x rest ih =>
    obtain ⟨first, tail⟩ := List.pairwise_cons.mp ordered
    rw [get?]
    rcases List.mem_cons.mp member with rfl | later
    · exact if_pos rfl
    · rw [if_neg (first _ later).ne', ih tail later]

/-- A name in front of an ordered list does not stand in it again. -/
lemma Ordered.get?_rest {e : String × α} (ordered : Ordered (e :: xs)) : get? e.1 xs = none := by
  cases found : get? e.1 xs with
  | none => rfl
  | some a => exact absurd ((List.pairwise_cons.mp ordered).1 _ (mem_of_get? found)) (lt_irrefl _)

/-! ## What holds of every value -/

/-- The names are in order, and something holds of every value. -/
structure Each (P : α → Prop) (xs : Keyed α) : Prop where
  ordered : Ordered xs
  each : ∀ x ∈ xs, P x.2

namespace Each

variable {P : α → Prop}

/-- No entries are all as they must be. -/
lemma nil : Each P ([] : Keyed α) := ⟨ordered_nil, nofun⟩

/-- Entries are all as they must be with one more that is. -/
lemma put (each : Each P xs) (key : String) (new : P a) : Each P (Keyed.put key a xs) := by
  refine ⟨each.ordered.put key a, ?_⟩
  intro x member
  rcases mem_put member with rfl | old
  · exact new
  · exact each.each x old

/-- What is found among entries that are as they must be is so itself. -/
lemma get? (each : Each P xs) (found : Keyed.get? key xs = some a) : P a :=
  each.each _ (mem_of_get? found)

end Each

/-! ## Values that are changed -/

/-- Changed values stand under the same names. -/
lemma get?_map (f : α → β) (key : String) (xs : Keyed α) :
    get? key (xs.map fun e => (e.1, f e.2)) = (get? key xs).map f := by
  induction xs with
  | nil => rfl
  | cons x rest ih =>
    rw [List.map_cons, get?, get?, ih]
    split <;> rfl

/-- Entries stay in order when their values change. -/
lemma Ordered.map (ordered : Ordered xs) (f : α → β) :
    Ordered (xs.map fun e => (e.1, f e.2)) :=
  List.pairwise_map.mpr ordered

/-! ## Walks -/

variable {step : β → String × α → Except ε β} {b b' : β}

/-- What is told of the outcome of a walk, if only the value under one name changes it: it is told
of that value, or, without one, of the start. -/
lemma foldlM_get (key : String) (tell : β → γ) (told : α → γ → Prop)
    (own : ∀ c a c', step c (key, a) = .ok c' → told a (tell c'))
    (other : ∀ c x c', x.1 ≠ key → step c x = .ok c' → tell c' = tell c)
    (ordered : Ordered xs) (done : xs.foldlM step b = .ok b') :
    (∀ a, get? key xs = some a → told a (tell b')) ∧ (get? key xs = none → tell b' = tell b) := by
  induction xs generalizing b with
  | nil =>
    cases done
    refine ⟨?_, fun _ => rfl⟩
    rintro a ⟨⟩
  | cons x rest ih =>
    rw [List.foldlM_cons] at done
    obtain ⟨c, taken, done⟩ := bind_eq_ok.mp done
    obtain ⟨found, missing⟩ := ih (List.pairwise_cons.mp ordered).2 done
    rw [get?]
    split_ifs with same
    · subst same
      constructor
      · rintro a ⟨⟩
        exact missing ordered.get?_rest ▸ own _ _ _ taken
      · rintro ⟨⟩
    · rw [← other _ _ _ (Ne.symm same) taken]
      exact ⟨found, missing⟩

end WalletNotify.Text.Keyed
