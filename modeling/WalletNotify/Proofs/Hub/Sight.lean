import WalletNotify.Proofs.Hub.History

/-!
# What an observer sees of a run

A run shows an observer its own operations, the events of its class while it is there, every closing
of the hub, and that the last handle is dropped. It does not show handles, other observers and other
events. Main statements: how a step comes to be seen (`sees_of_sight?`), and what a step that is not
seen leaves as it was.
-/

namespace WalletNotify.Hub

open Event (EventClass Published)

/-- What an observer sees. -/
inductive Sight where
  | opensStream (eventClass : EventClass)
  | subscribes (eventClass : EventClass)
  | watches
  | published (event : Published)
  | closed
  | abandoned
  | polls
  | receives
  | looks
deriving DecidableEq, Repr

/-- What an observer sees of an entry, which comes after the hub is as given. -/
def Entry.sight? (id : Nat) (h : Hub) : Entry → Option Sight
  | (.openStream _ c, .opened i) => if i = id then some (.opensStream c) else none
  | (.subscribe _ c, .opened i) => if i = id then some (.subscribes c) else none
  | (.watch _, .opened i) => if i = id then some .watches else none
  | (.publish _ e, .reached _) =>
    if (h.observer? id).bind Observer.eventClass? = some e.eventClass then some (.published e)
    else none
  | (.close _, .closed _) => some .closed
  | (.dropHandle i, .dropped _) =>
    if h.isAlive && !(h.dropHandle i).isAlive then some .abandoned else none
  | (.poll i, a) => if i = id ∧ a ≠ .refused then some .polls else none
  | (.receive i, a) => if i = id ∧ a ≠ .refused then some .receives else none
  | (.look i, a) => if i = id ∧ a ≠ .refused then some .looks else none
  | _ => none

/-- What an observer sees of a step. -/
def sight? (id : Nat) (h : Hub) (o : Operation) : Option Sight :=
  Entry.sight? id h (o, (h.step o).1)

/-- What an observer sees of a run, in order. -/
def sights (id : Nat) (h : Hub) : List Operation → List Sight
  | [] => []
  | o :: rest => (h.sight? id o).toList ++ (h.step o).2.sights id rest

/-! ## Steps -/

variable {h : Hub} {o : Operation} {id : Nat}

/-- Sending closes nothing. -/
@[simp] lemma closings_send (h : Hub) (e : Published) : (h.send e).closings = h.closings := by
  unfold send
  split <;> rfl

/-- Sending leaves the handles alone. -/
@[simp] lemma handles_send (h : Hub) (e : Published) : (h.send e).handles = h.handles := by
  unfold send
  split <;> rfl

/-- Sending opens no observer. -/
@[simp] lemma nextId_send (h : Hub) (e : Published) : (h.send e).nextId = h.nextId := by
  unfold send
  split <;> rfl

/-- Sending leaves a hub with a handle or without. -/
lemma isAlive_send (h : Hub) (e : Published) : (h.send e).isAlive = h.isAlive := by
  rw [isAlive, handles_send, isAlive]

/-- Only dropping the last handle makes an end of a hub. -/
lemma isAlive_step (h : Hub) (o : Operation) : (h.step o).2.isAlive = h.isAlive ∨
    ∃ i, o = .dropHandle i ∧ h.isAlive = true ∧ (h.dropHandle i).isAlive = false := by
  have steps := step_steps h o
  generalize (h.step o).1 = a, (h.step o).2 = h' at steps ⊢
  cases steps with
  | clone left =>
    left
    rw [isAlive_of_hasHandle left]
    simp [clone, isAlive]
  | @dropHandle i =>
    cases after : (h.dropHandle i).isAlive with
    | false =>
      cases before : h.isAlive with
      | false => exact .inl rfl
      | true => exact .inr ⟨i, rfl, rfl, after⟩
    | true =>
      obtain ⟨b, mem, left⟩ := List.any_eq_true.mp after
      rcases List.mem_or_eq_of_mem_set mem with mem | rfl
      · exact .inl (List.any_eq_true.mpr ⟨b, mem, left⟩).symm
      · cases left
  | publish => exact .inl (isAlive_send h _)
  | _ => exact .inl rfl

/-- How a step comes to be seen. -/
inductive Sees (h : Hub) (id : Nat) : Operation → Sight → Prop where
  | opensStream {i c} :
    h.hasHandle i = true → id = h.nextId → Sees h id (.openStream i c) (.opensStream c)
  | subscribes {i c} :
    h.hasHandle i = true → id = h.nextId → Sees h id (.subscribe i c) (.subscribes c)
  | watches {i} : h.hasHandle i = true → id = h.nextId → Sees h id (.watch i) .watches
  | published {i e ob} :
    h.hasHandle i = true → h.observer? id = some ob → ob.eventClass? = some e.eventClass →
    Sees h id (.publish i e) (.published e)
  | closed {i} : h.hasHandle i = true → Sees h id (.close i) .closed
  | abandoned {i} :
    h.isAlive = true → (h.dropHandle i).isAlive = false → Sees h id (.dropHandle i) .abandoned
  | polls {c place first ended} :
    h.observer? id = some (.stream c place first ended) → Sees h id (.poll id) .polls
  | receives {c place} :
    h.observer? id = some (.receiver c place) → Sees h id (.receive id) .receives
  | looks {seen} : h.observer? id = some (.watcher seen) → Sees h id (.look id) .looks

/-- What an observer sees follows the rules. -/
lemma sees_of_sight? {s : Sight} (seen : h.sight? id o = some s) : Sees h id o s := by
  unfold sight? at seen
  have steps := step_steps h o
  generalize (h.step o).1 = a, (h.step o).2 = h' at steps seen
  cases steps with
  | refused => cases o <;> simp [Entry.sight?] at seen
  | openStream left =>
    obtain ⟨rfl, rfl⟩ := by simpa [Entry.sight?] using seen
    exact .opensStream left rfl
  | subscribe left =>
    obtain ⟨rfl, rfl⟩ := by simpa [Entry.sight?] using seen
    exact .subscribes left rfl
  | watch left =>
    obtain ⟨rfl, rfl⟩ := by simpa [Entry.sight?] using seen
    exact .watches left rfl
  | publish left =>
    obtain ⟨⟨ob, there, reads⟩, rfl⟩ := by
      simpa [Entry.sight?, Option.bind_eq_some_iff] using seen
    exact .published left there reads
  | close left =>
    cases seen
    exact .closed left
  | dropHandle =>
    obtain ⟨⟨alive, gone⟩, rfl⟩ := by simpa [Entry.sight?] using seen
    exact .abandoned alive gone
  | poll there | pollEnded there =>
    obtain ⟨rfl, rfl⟩ := by simpa [Entry.sight?] using seen
    exact .polls there
  | receive there =>
    obtain ⟨rfl, rfl⟩ := by simpa [Entry.sight?] using seen
    exact .receives there
  | look there =>
    obtain ⟨rfl, rfl⟩ := by simpa [Entry.sight?] using seen
    exact .looks there
  | dropNothing drop =>
    cases o with
    | dropStream | dropReceiver => cases seen
    | _ => cases drop
  | _ => cases seen

/-! ## Steps that are not seen -/

/-- A step that is not seen closes nothing. -/
lemma closings_of_unseen (unseen : h.sight? id o = none) :
    (h.step o).2.closings = h.closings := by
  unfold sight? at unseen
  have steps := step_steps h o
  generalize (h.step o).1 = a, (h.step o).2 = h' at steps unseen ⊢
  cases steps with
  | close => cases unseen
  | publish => exact closings_send h _
  | _ => rfl

/-- A step that is not seen leaves a hub with a handle or without. -/
lemma isAlive_of_unseen (unseen : h.sight? id o = none) : (h.step o).2.isAlive = h.isAlive := by
  rcases isAlive_step h o with same | ⟨i, rfl, alive, gone⟩
  · exact same
  · simp [sight?, Entry.sight?, step, alive, gone] at unseen

/-- A step that is not seen is not answered to the observer. -/
lemma silent_of_unseen (unseen : h.sight? id o = none) :
    Entry.heard? id (o, (h.step o).1) = none := by
  rw [sight?] at unseen
  generalize (h.step o).1 = a at unseen ⊢
  cases o with
  | poll | receive | look => simpa [Entry.sight?, Entry.heard?] using unseen
  | _ => rfl

/-- The channel that an observer reads is left alone by what it does not see. -/
lemma channel_of_unseen (unseen : h.sight? id o = none) {ob : Observer} {c : EventClass}
    (there : h.observer? id = some ob) (reads : ob.eventClass? = some c) :
    (h.step o).2.channel c = h.channel c := by
  unfold sight? at unseen
  have steps := step_steps h o
  generalize (h.step o).1 = a, (h.step o).2 = h' at steps unseen ⊢
  cases steps with
  | publish left =>
    rw [channel_send, if_neg]
    intro own
    simp [Entry.sight?, there, reads, own] at unseen
  | _ => cases c <;> rfl

/-- An observer that is there after what it does not see is as it was. -/
lemma observer?_of_unseen (unseen : h.sight? id o = none) {ob : Observer}
    (there : (h.step o).2.observer? id = some ob) : h.observer? id = some ob := by
  unfold sight? at unseen
  have steps := step_steps h o
  generalize (h.step o).1 = a, (h.step o).2 = h' at steps unseen there
  cases steps with
  | openStream | subscribe | watch =>
    rcases of_observer?_addObserver there with there | ⟨rfl, -⟩
    · exact there
    · simp [Entry.sight?] at unseen
  | poll was | receive was | look was =>
    rcases of_observer?_setObserver there with ⟨-, there⟩ | ⟨rfl, -⟩
    · exact there
    · simp [Entry.sight?] at unseen
  | dropStream | dropReceiver => exact of_observer?_dropObserver there
  | publish => simpa using there
  | _ => exact there

end WalletNotify.Hub
