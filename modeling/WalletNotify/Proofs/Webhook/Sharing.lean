import WalletNotify.Proofs.Webhook.Book

/-!
# Shared registries as books

A registry takes commands through all the handles that share it. Main statement:
`registries_are_books`, by which each registry of a run replies as one book does that starts empty,
whatever the other registries are told to do.
-/

namespace WalletNotify.Webhook

open Registry (Command)

/-- A book replies to commands in order. -/
inductive Book.Serves : Book → List (Command × Registries.Answer) → Book → Prop where
  | nil {b} : Serves b [] b
  | cons {b b' b'' command reply rest} :
    b.Replies command reply b' → Serves b' rest b'' →
    Serves b ((command, .reply reply) :: rest) b''

/-- Commands that a book serves one after the other are served together. -/
lemma Book.Serves.append {b b' b'' : Book} {first rest : List (Command × Registries.Answer)}
    (serves : Serves b first b') (goesOn : Serves b' rest b'') : Serves b (first ++ rest) b'' := by
  induction serves with
  | nil => exact goesOn
  | cons replies _ ih => exact .cons replies (ih goesOn)

/-- Whatever a registry is told to do, it registers and forgets webhooks and nothing else. -/
lemma Registry.Reachable.reply {r : Registry} (reachable : r.Reachable) (command : Command) :
    (r.reply command).2.Reachable := by
  cases command with
  | add endpoint kind secret =>
    cases added : r.add endpoint kind secret with
    | ok result =>
      simp only [Registry.reply, added]
      exact .add reachable added
    | error e =>
      simp only [Registry.reply, added]
      exact reachable
  | remove id =>
    cases removed : r.remove id with
    | ok result =>
      simp only [Registry.reply, removed]
      exact .remove reachable removed
    | error e =>
      simp only [Registry.reply, removed]
      exact reachable
  | _ => exact reachable

namespace Registries

/-- The pair that an operation asks to register. -/
def Operation.pair? : Operation → Option Pair
  | .command _ c => c.pair?
  | _ => none

/-- What a registry is told to do by an operation through one of its handles, with the answer. -/
def Operation.served (s : Registries) (i : Nat) : Operation → List (Command × Answer)
  | .command handle c =>
    if s.handles[handle]? = some i then [(c, (s.step (.command handle c)).1)] else []
  | _ => []

/-- What a registry is told to do by operations one after another, with the answers. -/
def served (s : Registries) (i : Nat) : List Operation → List (Command × Answer)
  | [] => []
  | op :: ops => op.served s i ++ (s.step op).2.served i ops

/-- Registries after operations one after another. -/
def after (s : Registries) : List Operation → Registries
  | [] => s
  | op :: ops => (s.step op).2.after ops

/-- The registry of a number; a number that is not given out yet has no webhooks. -/
def registry (s : Registries) (i : Nat) : Registry := s.registries[i]?.getD .empty

/-- Every handle refers to a registry. -/
def Valid (s : Registries) : Prop := ∀ i ∈ s.handles, i < s.registries.length

variable {s : Registries} {i j handle : Nat} {command : Command}

/-! ## Steps -/

/-- At the start every handle refers to a registry. -/
lemma valid_start : start.Valid := by
  simp [Valid, start]

/-- At the start every registry is empty. -/
lemma registry_start : start.registry i = .empty := by
  cases i <;> rfl

/-- A command through a handle is replied to by its registry alone. -/
lemma step_command (valid : s.Valid) (refers : s.handles[handle]? = some j) :
    s.step (.command handle command) = (.reply ((s.registry j).reply command).1,
      { s with registries := s.registries.set j ((s.registry j).reply command).2 }) := by
  have bound : j < s.registries.length := valid j (List.mem_of_getElem? refers)
  simp [step, get?, set, refers, registry, List.getElem?_eq_getElem bound]

/-- A command through a handle that there is not is refused. -/
lemma step_command_none (refers : s.handles[handle]? = none) :
    s.step (.command handle command) = (.noHandle, s) := by
  simp [step, get?, refers]

/-- A clone of a handle refers to the same registry. -/
lemma step_clone (refers : s.handles[handle]? = some j) :
    s.step (.clone handle) =
      (.handle s.handles.length, { s with handles := s.handles ++ [j] }) := by
  simp [step, clone, refers]

/-- A handle that there is not has no clone. -/
lemma step_clone_none (refers : s.handles[handle]? = none) :
    s.step (.clone handle) = (.noHandle, s) := by
  simp [step, clone, refers]

/-- A new handle refers to a registry of its own, which is empty. -/
lemma step_new : s.step .new = (.handle s.handles.length,
    ⟨s.registries ++ [.empty], s.handles ++ [s.registries.length]⟩) := rfl

/-- A new registry has no webhooks, as before it was given out. -/
lemma registry_new : (s.step .new).2.registry i = s.registry i := by
  rw [step_new, registry, registry, List.getElem?_append]
  split
  case isTrue => rfl
  case isFalse beyond =>
    have none : s.registries[i]? = none := List.getElem?_eq_none (by omega)
    rw [none]
    cases i - s.registries.length <;> rfl

/-- Every step leaves handles that refer to registries. -/
lemma Valid.step (valid : s.Valid) (op : Operation) : (s.step op).2.Valid := by
  cases op with
  | clone handle =>
    cases refers : s.handles[handle]? with
    | none => exact step_clone_none refers ▸ valid
    | some j =>
      have bound : j < s.registries.length := valid j (List.mem_of_getElem? refers)
      rw [step_clone refers]
      simpa [Valid, or_imp, forall_and, bound] using valid
  | new =>
    simp only [step_new, Valid, List.mem_append, List.mem_singleton, List.length_append,
      List.length_singleton]
    rintro i (old | rfl)
    · exact Nat.lt_succ_of_lt (valid i old)
    · exact Nat.lt_succ_self _
  | command handle command =>
    cases refers : s.handles[handle]? with
    | none => exact step_command_none refers ▸ valid
    | some j =>
      rw [step_command valid refers]
      simpa [Valid] using valid

/-- An operation tells a registry one command, or leaves it alone. -/
lemma step_cases (valid : s.Valid) (i : Nat) (op : Operation) :
    (∃ command, op.served s i = [(command, .reply ((s.registry i).reply command).1)] ∧
      op.pair? = command.pair? ∧ (s.step op).2.registry i = ((s.registry i).reply command).2) ∨
    (op.served s i = [] ∧ (s.step op).2.registry i = s.registry i) := by
  cases op with
  | clone handle =>
    refine .inr ⟨rfl, ?_⟩
    cases refers : s.handles[handle]? with
    | none => rw [step_clone_none refers]
    | some j => rw [step_clone refers]; rfl
  | new => exact .inr ⟨rfl, registry_new⟩
  | command handle command =>
    cases refers : s.handles[handle]? with
    | none =>
      refine .inr ⟨?_, ?_⟩
      · simp only [Operation.served, refers, reduceCtorEq, if_false]
      · rw [step_command_none refers]
    | some j =>
      by_cases same : j = i
      · subst same
        have bound : j < s.registries.length := valid j (List.mem_of_getElem? refers)
        refine .inl ⟨command, ?_, rfl, ?_⟩
        · simp only [Operation.served, refers, step_command valid refers, if_true]
        · rw [step_command valid refers, registry, List.getElem?_set_self bound]
          rfl
      · refine .inr ⟨?_, ?_⟩
        · simp only [Operation.served, refers, Option.some.injEq, if_neg same]
        · rw [step_command valid refers, registry, List.getElem?_set_ne same]
          rfl

/-! ## Runs -/

/-- Every registry of a run comes from registering and forgetting webhooks. -/
lemma reachable_after (valid : s.Valid) (reachable : ∀ i, (s.registry i).Reachable)
    (ops : List Operation) (i : Nat) : ((s.after ops).registry i).Reachable := by
  induction ops generalizing s with
  | nil => exact reachable i
  | cons op ops ih =>
    refine ih (valid.step op) fun i => ?_
    rcases step_cases valid i op with ⟨command, -, -, after⟩ | ⟨-, after⟩
    · rw [after]
      exact (reachable i).reply command
    · rw [after]
      exact reachable i

/-- After every run, every registry is reachable by itself. -/
lemma reachable_registry (ops : List Operation) (i : Nat) :
    ((start.after ops).registry i).Reachable := by
  refine reachable_after valid_start (fun i => ?_) ops i
  rw [registry_start]
  exact .empty

/-- One operation is served by a book as by the registry. -/
lemma serves_step {known : List Pair} (free : CollisionFree known) (valid : s.Valid) {b : Book}
    (rep : Represents known (s.registry i) b) (op : Operation) (mem : ∀ p ∈ op.pair?, p ∈ known) :
    ∃ b', b.Serves (op.served s i) b' ∧ Represents known ((s.step op).2.registry i) b' := by
  rcases step_cases valid i op with ⟨command, served, asks, after⟩ | ⟨served, after⟩
  · rw [asks] at mem
    obtain ⟨b', replies, rep⟩ := rep.reply free command mem
    rw [served, after]
    exact ⟨b', .cons replies .nil, rep⟩
  · rw [served, after]
    exact ⟨b, .nil, rep⟩

/-- Operations are served by a book as by the registry. -/
lemma serves {known : List Pair} (free : CollisionFree known) (valid : s.Valid) {b : Book}
    (rep : Represents known (s.registry i) b) (ops : List Operation)
    (mem : ∀ p ∈ ops.filterMap Operation.pair?, p ∈ known) :
    ∃ b', b.Serves (s.served i ops) b' ∧ ∀ p, b'.lookup p ≠ some (some "") := by
  -- The book is that of the registry from operation to operation, and the pairs that are asked for
  -- stay those of the whole run.
  induction ops generalizing s b with
  | nil =>
    refine ⟨b, .nil, fun p holds => ?_⟩
    obtain ⟨h, there, -, empty⟩ := rep.lookup.mp holds
    exact rep.secret h there empty
  | cons op ops ih =>
    obtain ⟨b', serves, rep⟩ := serves_step free valid rep op fun p asks => mem p (by simp_all)
    obtain ⟨b'', goesOn, secrets⟩ := ih (valid.step op) rep fun p asks => mem p (by simp_all)
    exact ⟨b'', serves.append goesOn, secrets⟩

/-- Every registry of a run replies to its commands, through whichever handles, as one book does
that starts empty, and whose secrets are not empty. Different pairs have different ids. -/
theorem registries_are_books {ops : List Operation}
    (free : CollisionFree (ops.filterMap Operation.pair?)) :
    (∀ i, ∃ b, Book.Serves ∅ (start.served i ops) b ∧ ∀ p, b.lookup p ≠ some (some "")) ∧
    (∀ p ∈ ops.filterMap Operation.pair?, ∀ q ∈ ops.filterMap Operation.pair?,
      p.id = q.id → p = q) := by
  constructor
  · intro i
    apply serves free valid_start _ ops fun p mem => mem
    rw [registry_start]
    exact .empty _
  · intro p mem q mem' same
    exact free.eq_of_id mem mem' same

/-- Two spellings of an endpoint through two handles of one registry, and another pair in another
registry. -/
theorem registries_are_books_respelled :
    let ops : List Operation := [
      .command 0 (.add "HTTP://[0::1]:80" (some .transaction) "k"), .clone 0,
      .command 1 (.add "http://[::1]" (some .transaction) ""), .new,
      .command 2 (.add "http://[::1]" (some .unspents) ""), .command 1 .size]
    ((start.served 0 ops).map (·.1)).length = 3 ∧
    ((start.served 0 ops).map (·.2)).getLast? = some (.reply (.counted 1)) ∧
    ∀ i, ∃ b, Book.Serves ∅ (start.served i ops) b ∧ ∀ p, b.lookup p ≠ some (some "") := by
  intro ops
  have free : CollisionFree (ops.filterMap Operation.pair?) := by decide +kernel
  exact ⟨by decide +kernel, by decide +kernel, (registries_are_books free).1⟩

end Registries

end WalletNotify.Webhook
