import WalletNotify.Proofs.Hub.Isolation

/-!
# Answers that are due

An observer is answered by an operation of its own, and left alone by all others until it is
dropped. A `Promise` says which answers are due to it, and which one for good after them. Main
statement: whatever is done with the hub, the observer is told what is due (`Promise.answers_eq`).
-/

namespace WalletNotify.Hub

/-- The operation that an observer is answered by. -/
def Observer.turn (id : Nat) : Observer → Operation
  | stream .. => .poll id
  | receiver .. => .receive id
  | watcher _ => .look id

/-- The operation that drops an observer, if there is one. -/
def Observer.drop? (id : Nat) : Observer → Option Operation
  | stream .. => some (.dropStream id)
  | receiver .. => some (.dropReceiver id)
  | watcher _ => none

variable {h : Hub} {id : Nat}

/-- An observer is left alone by all operations but its turn and its drop, and hears nothing of
them. -/
lemma left_alone {ob : Observer} (there : h.observer? id = some ob) (old : id < h.nextId)
    {o : Operation} (others : o ≠ ob.turn id) (kept : ob.drop? id ≠ some o) :
    (h.step o).2.observer? id = some ob ∧ Entry.heard? id (o, (h.step o).1) = none := by
  by_cases own : o.observer? = some id
  · -- What is its own but neither its turn nor its drop is refused.
    cases o with
    | poll j | receive j | look j | dropStream j | dropReceiver j =>
      obtain rfl := Option.some.inj own
      cases ob <;> simp_all [step, Entry.heard?, Observer.turn, Observer.drop?]
    | _ => cases own
  · refine ⟨(observer?_step_of_ne own old).trans there, ?_⟩
    cases o with
    | poll j | receive j | look j =>
      simp only [Entry.heard?]
      rw [if_neg]
      rintro ⟨rfl, -⟩
      exact own rfl
    | _ => rfl

/-- These answers are due to an observer, and after them the last one for good: its turn gives the
first of them, and other operations leave them due unless they drop it. -/
structure Promise (id : Nat) (turn : Operation) (drop? : Option Operation) (last : Answer)
    (Due : List Answer → Hub → Prop) : Prop where
  answered : ∀ {due h}, Due due h →
    Entry.heard? id (turn, (h.step turn).1) = some (due.headD last) ∧ Due due.tail (h.step turn).2
  others : ∀ {due h o}, Due due h → o ≠ turn → drop? ≠ some o →
    Entry.heard? id (o, (h.step o).1) = none ∧ Due due (h.step o).2

/-- The answers to so many turns: those that are due, and then the last one for good. -/
def dueThenLast (due : List Answer) (last : Answer) (turns : Nat) : List Answer :=
  due.take turns ++ List.replicate (turns - due.length) last

/-- With nothing due, the last answer is given every time. -/
@[simp] lemma dueThenLast_nil (last : Answer) (turns : Nat) :
    dueThenLast [] last turns = List.replicate turns last := by
  simp [dueThenLast]

/-- The first turn takes what is due first, or the last answer if nothing is due. -/
lemma dueThenLast_succ (due : List Answer) (last : Answer) (turns : Nat) :
    dueThenLast due last (turns + 1) = due.headD last :: dueThenLast due.tail last turns := by
  cases due with
  | nil => simp [List.replicate_succ]
  | cons a rest => simp [dueThenLast]

/-- An observer that is not dropped is told what is due. -/
lemma Promise.answers_eq {turn : Operation} {drop? : Option Operation} {last : Answer}
    {Due : List Answer → Hub → Prop} (promise : Promise id turn drop? last Due) {due : List Answer}
    (holds : Due due h) {later : List Operation} (kept : ∀ o ∈ later, drop? ≠ some o) :
    answers id (h.history later) = dueThenLast due last (later.count turn) := by
  induction later generalizing due h with
  | nil => simp [answers, history, dueThenLast]
  | cons o rest ih =>
    obtain ⟨stays, keeps⟩ := List.forall_mem_cons.mp kept
    rw [answers_cons]
    by_cases own : o = turn
    · subst own
      obtain ⟨heard, holds⟩ := promise.answered holds
      rw [heard, ih holds keeps, List.count_cons_self, dueThenLast_succ]
      rfl
    · obtain ⟨silent, holds⟩ := promise.others holds own stays
      rw [silent, ih holds keeps, List.count_cons_of_ne own]
      rfl

end WalletNotify.Hub
