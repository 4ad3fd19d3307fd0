import Mathlib.Tactic.Lemma
import Mathlib.Tactic.Tauto
import WalletNotify.Webhook.Registry

/-!
# The registry

What registering and forgetting a webhook do. Main statements: what is registered and what is
forgotten (`add_eq_ok`, `remove_eq_ok`), and that a registry which was made so has its webhooks in
the order of their ids, each id once (`Reachable.sorted`).
-/

namespace WalletNotify.Webhook

open Event (EventClass)

namespace Registry

variable {r r' : Registry} {hook : Hook} {id : Id} {endpoint secret : String}
  {kind : Option EventClass}

/-! ## What is registered and forgotten -/

/-- A webhook that passes the checks has a class, a readable http endpoint and a secret that may be
sent, and is made of them. -/
lemma check_eq_ok : check endpoint kind secret = .ok hook ↔
    ∃ k url, kind = some k ∧ Url.read endpoint = .ok url ∧
      (url.scheme = "http" ∨ url.scheme = "https") ∧ isSecret secret = true ∧
      hook = Hook.new (Id.of k url) url k secret := by
  unfold check
  cases kind with
  | none => exact ⟨nofun, nofun⟩
  | some k =>
    cases eq : Url.read endpoint with
    | error fault => exact ⟨nofun, nofun⟩
    | ok url =>
      simp only [Except.mapError, bind, Except.bind, pure, Except.pure, throw, throwThe,
        MonadExceptOf.throw]
      by_cases scheme : url.scheme = "http" ∨ url.scheme = "https"
      · rw [if_neg (by tauto)]
        by_cases valid : isSecret secret = true
        · rw [if_neg (by simpa using valid)]
          constructor
          · rintro ⟨⟩
            exact ⟨k, url, rfl, rfl, scheme, valid, rfl⟩
          · rintro ⟨_, _, ⟨⟩, ⟨⟩, -, -, rfl⟩
            rfl
        · rw [if_pos valid]
          exact ⟨nofun, fun ⟨_, _, _, _, _, h, _⟩ => absurd h valid⟩
      · rw [if_pos (by tauto)]
        exact ⟨nofun, fun ⟨_, _, _, e, h, _⟩ => absurd (Except.ok.inj e ▸ h) scheme⟩

/-- A webhook is registered if it passes the checks and its id is not taken. -/
lemma add_eq_ok : r.add endpoint kind secret = .ok (hook, r') ↔
    check endpoint kind secret = .ok hook ∧ r.find? hook.id = none ∧
      r' = ⟨insertSorted hook r.hooks⟩ := by
  unfold add
  cases check endpoint kind secret with
  | error e => exact ⟨nofun, nofun⟩
  | ok new =>
    simp only [bind, Except.bind, pure, Except.pure, throw, throwThe, MonadExceptOf.throw,
      Except.ok.injEq]
    split
    case h_1 taken => exact ⟨nofun, fun ⟨e, free, _⟩ => by simp [← e, taken] at free⟩
    case h_2 free =>
      constructor
      · rintro ⟨⟩
        exact ⟨rfl, free, rfl⟩
      · rintro ⟨rfl, -, rfl⟩
        rfl

/-- A webhook is forgotten if it is registered under the id, which is not empty. -/
lemma remove_eq_ok : r.remove id = .ok (hook, r') ↔
    id.text.isEmpty = false ∧ r.find? id = some hook ∧
      r' = ⟨r.hooks.filter fun h => h.id != id⟩ := by
  unfold remove
  split
  case isTrue empty => simp [empty]
  case isFalse filled =>
    cases r.find? id with
    | none => simp
    | some old => simp [filled, eq_comm]

/-! ## Order -/

/-- The webhooks are in the order of their ids, each id once. -/
def Sorted (r : Registry) : Prop := r.hooks.Pairwise fun g h => g.id.text < h.id.text

/-- Ids are their texts. -/
lemma text_ne_of_ne {i j : Id} (ne : i ≠ j) : i.text ≠ j.text := by
  cases i
  cases j
  simpa using ne

/-- No webhook is found exactly if none has the id. -/
lemma find?_eq_none : r.find? id = none ↔ ∀ h ∈ r.hooks, h.id ≠ id := by
  simp [find?]

/-- Inserting adds the webhook and keeps the others. -/
@[simp] lemma mem_insertSorted {g : Hook} {hooks : List Hook} :
    g ∈ insertSorted hook hooks ↔ g = hook ∨ g ∈ hooks := by
  induction hooks with
  | nil => simp [insertSorted]
  | cons h rest ih =>
    unfold insertSorted
    split
    · exact List.mem_cons
    · simp only [List.mem_cons, ih]
      exact or_left_comm

/-- Inserting changes nothing but the order. -/
lemma insertSorted_perm (hook : Hook) (hooks : List Hook) :
    (insertSorted hook hooks).Perm (hook :: hooks) := by
  induction hooks with
  | nil => exact .refl _
  | cons h rest ih =>
    unfold insertSorted
    split
    · exact .refl _
    · exact (ih.cons h).trans (.swap hook h rest)

/-- What is listed is what is registered for the class that is asked for. -/
lemma mem_list : hook ∈ r.list kind ↔ hook ∈ r.hooks ∧ ∀ k ∈ kind, hook.kind = k := by
  cases kind <;> simp [list]

/-- What is told of an event is what is registered for its class. -/
lemma mem_forClass {k : EventClass} : hook ∈ r.forClass k ↔ hook ∈ r.hooks ∧ hook.kind = k :=
  mem_list.trans (by simp)

/-- A webhook with an id of its own is put in its place. -/
lemma sorted_insertSorted {hooks : List Hook} (sorted : Sorted ⟨hooks⟩)
    (free : ∀ h ∈ hooks, h.id ≠ hook.id) : Sorted ⟨insertSorted hook hooks⟩ := by
  unfold Sorted at sorted ⊢
  induction hooks with
  | nil => exact List.pairwise_singleton _ _
  | cons h rest ih =>
    obtain ⟨first, sorted⟩ := List.pairwise_cons.mp sorted
    simp only [insertSorted]
    split
    case isTrue lt =>
      refine .cons (fun g mem => ?_) (.cons first sorted)
      rcases List.mem_cons.mp mem with rfl | mem
      · exact lt
      · exact String.lt_trans lt (first g mem)
    case isFalse ge =>
      have ne : h.id.text ≠ hook.id.text := text_ne_of_ne (free h List.mem_cons_self)
      have lt : h.id.text < hook.id.text := by
        refine String.not_le.mp fun le => ne ?_
        exact String.le_antisymm (String.not_lt.mp ge) le
      refine .cons (fun g mem => ?_) (ih sorted fun g mem => free g (List.mem_cons_of_mem _ mem))
      rcases mem_insertSorted.mp mem with rfl | mem
      · exact lt
      · exact first g mem

namespace Sorted

/-- Webhooks with one id are one. -/
lemma eq_of_id (sorted : Sorted r) {g h : Hook} (there : g ∈ r.hooks) (there' : h ∈ r.hooks)
    (same : g.id = h.id) : g = h := by
  have before : r.hooks.Pairwise fun g h => g.id = h.id → g = h :=
    sorted.imp fun lt same => absurd (congrArg Id.text same) (String.ne_of_lt lt)
  have behind : r.hooks.Pairwise (flip fun g h => g.id = h.id → g = h) :=
    sorted.imp fun lt same => absurd (congrArg Id.text same.symm) (String.ne_of_lt lt)
  exact before.forall_of_forall_of_flip (fun _ _ _ => rfl) behind there there' same

/-- In a sorted registry, a webhook is found by its id and no other. -/
lemma find?_eq_some (sorted : Sorted r) :
    r.find? id = some hook ↔ hook ∈ r.hooks ∧ hook.id = id := by
  constructor
  · intro found
    exact ⟨List.mem_of_find?_eq_some found, by simpa [find?] using List.find?_some found⟩
  · rintro ⟨mem, rfl⟩
    cases found : r.find? hook.id with
    | none => exact absurd rfl (find?_eq_none.mp found hook mem)
    | some h =>
      have same : h.id = hook.id := by simpa [find?] using List.find?_some found
      rw [sorted.eq_of_id (List.mem_of_find?_eq_some found) mem same]

/-- No webhook is registered twice. -/
lemma nodup (sorted : Sorted r) : r.hooks.Nodup :=
  sorted.imp fun lt e => String.ne_of_lt lt (congrArg (fun h : Hook => h.id.text) e)

/-- No webhook is told of an event twice. -/
lemma nodup_forClass (sorted : Sorted r) (k : EventClass) : (r.forClass k).Nodup :=
  sorted.nodup.filter _

end Sorted

/-- The registries that come from registering and forgetting webhooks. -/
inductive Reachable : Registry → Prop where
  | empty : Reachable empty
  | add {g g' : Registry} {hook endpoint kind secret} :
    Reachable g → g.add endpoint kind secret = .ok (hook, g') → Reachable g'
  | remove {g g' : Registry} {hook id} : Reachable g → g.remove id = .ok (hook, g') → Reachable g'

namespace Reachable

/-- A reachable registry is sorted. -/
lemma sorted (reachable : Reachable r) : Sorted r := by
  induction reachable with
  | empty => exact .nil
  | add _ added sorted =>
    obtain ⟨-, free, rfl⟩ := add_eq_ok.mp added
    exact sorted_insertSorted sorted (find?_eq_none.mp free)
  | remove _ removed sorted =>
    obtain ⟨-, -, rfl⟩ := remove_eq_ok.mp removed
    exact List.Pairwise.sublist List.filter_sublist sorted

/-- What is registered has passed the checks. -/
lemma checked (reachable : Reachable r) (mem : hook ∈ r.hooks) :
    ∃ endpoint kind secret, check endpoint kind secret = .ok hook := by
  induction reachable with
  | empty => cases mem
  | add _ added ih =>
    obtain ⟨ok, -, rfl⟩ := add_eq_ok.mp added
    rcases mem_insertSorted.mp mem with rfl | mem
    · exact ⟨_, _, _, ok⟩
    · exact ih mem
  | remove _ removed ih =>
    obtain ⟨-, -, rfl⟩ := remove_eq_ok.mp removed
    exact ih (List.mem_filter.mp mem).1

end Reachable

end Registry

end WalletNotify.Webhook
