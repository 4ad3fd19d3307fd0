import WalletNotify.Proofs.Hub.Sight
import WalletNotify.Proofs.Hub.Unread

/-!
# Isolation of observers

An observer hears what it would hear alone: what a run shows it can be done over on a hub of its own
with one handle, and is answered the same there. Main statement: `observer_isolated`, by which an
observer that sees the same in two runs hears the same in both.
-/

namespace WalletNotify.Hub

open Event (EventClass Published)

/-- What is seen, done on a hub with one handle for an observer with the first id. -/
def Sight.operation : Sight → Operation
  | opensStream c => .openStream 0 c
  | subscribes c => .subscribe 0 c
  | watches => .watch 0
  | published e => .publish 0 e
  | closed => .close 0
  | abandoned => .dropHandle 0
  | polls => .poll 1
  | receives => .receive 1
  | looks => .look 1

/-- Observers on two hubs that are alike but for their places, with the same events unread. -/
inductive Alike (h l : Hub) : Observer → Observer → Prop where
  | stream {c place place' first ended unread} :
    (h.channel c).Unread place unread → (l.channel c).Unread place' unread →
    Alike h l (.stream c place first ended) (.stream c place' first ended)
  | receiver {c place place' unread} :
    (h.channel c).Unread place unread → (l.channel c).Unread place' unread →
    Alike h l (.receiver c place) (.receiver c place')
  | watcher {seen} : Alike h l (.watcher seen) (.watcher seen)

/-- An event that is sent is the last one that is yet to be read. -/
lemma unread_send {h : Hub} {e : Published} {place : Nat} {unread : List Published}
    (unreads : (h.channel e.eventClass).Unread place unread) :
    ((h.send e).channel e.eventClass).Unread place (unread ++ [e]) := by
  rw [channel_send, if_pos rfl]
  exact unreads.send e

namespace Alike

variable {h l h' l' : Hub} {ob ob' : Observer}

/-- Only the channel that an observer reads matters to it. -/
lemma congr (alike : Alike h l ob ob') (own : ∀ c, ob.eventClass? = some c →
    h'.channel c = h.channel c ∧ l'.channel c = l.channel c) : Alike h' l' ob ob' := by
  cases alike with
  | stream unread unread' =>
    obtain ⟨same, same'⟩ := own _ rfl
    exact .stream (same ▸ unread) (same' ▸ unread')
  | receiver unread unread' =>
    obtain ⟨same, same'⟩ := own _ rfl
    exact .receiver (same ▸ unread) (same' ▸ unread')
  | watcher => exact .watcher

/-- What is like a stream is a stream, at a place of its own. -/
lemma of_stream {c : EventClass} {place : Nat} {first ended : Bool}
    (alike : Alike h l (.stream c place first ended) ob') :
    ∃ place', ob' = .stream c place' first ended := by
  cases alike
  exact ⟨_, rfl⟩

/-- What is like a receiver is a receiver, at a place of its own. -/
lemma of_receiver {c : EventClass} {place : Nat} (alike : Alike h l (.receiver c place) ob') :
    ∃ place', ob' = .receiver c place' := by
  cases alike
  exact ⟨_, rfl⟩

/-- An event that is sent is unread on both hubs. -/
lemma send (alike : Alike h l ob ob') {e : Published} (reads : ob.eventClass? = some e.eventClass) :
    Alike (h.send e) (l.send e) ob ob' := by
  cases alike with
  | stream unread unread' =>
    cases reads
    exact .stream (unread_send unread) (unread_send unread')
  | receiver unread unread' =>
    cases reads
    exact .receiver (unread_send unread) (unread_send unread')
  | watcher => exact .watcher

variable {c : EventClass} {place place' : Nat} {first ended : Bool}

/-- A poll gives the same on both hubs, and leaves the streams alike. -/
lemma poll (alike : Alike h l (.stream c place first ended) (.stream c place' first ended))
    (slots : (l.channel c).slots = (h.channel c).slots) (closings : l.closings = h.closings)
    (alive : l.isAlive = h.isAlive) :
    (l.pollStream c place' first).1 = (h.pollStream c place first).1 ∧
      (l.pollStream c place' first).2.1 = (h.pollStream c place first).2.1 ∧
      Alike h l (h.pollStream c place first).2.2 (l.pollStream c place' first).2.2 := by
  cases alike with
  | @stream _ _ _ _ _ events unread unread' =>
    have closed : l.isClosed = h.isClosed := by rw [isClosed, isClosed, closings]
    unfold pollStream pollEvents
    rw [closed, unread.readOver_eq, unread'.readOver_eq, slots, alive]
    -- Both streams go over the same gap and find the same events behind it.
    have onward := unread.drop (Nat.sub_le _ (h.channel c).slots)
    have onward' := unread'.drop (Nat.sub_le _ (h.channel c).slots)
    split
    · exact ⟨rfl, rfl, .stream unread unread'⟩
    · cases found : events.drop (events.length - (h.channel c).slots) with
      | nil =>
        rw [found] at onward onward'
        cases h.isAlive <;> cases h.isClosed <;> exact ⟨rfl, rfl, .stream onward onward'⟩
      | cons e rest =>
        rw [found] at onward onward'
        exact ⟨rfl, rfl, .stream (onward.drop (n := 1) (by simp)) (onward'.drop (n := 1) (by simp))⟩

/-- A receiver is given the same on both hubs, and the receivers stay alike. -/
lemma receive (alike : Alike h l (.receiver c place) (.receiver c place'))
    (slots : (l.channel c).slots = (h.channel c).slots) (alive : l.isAlive = h.isAlive) :
    (l.receive c place').1 = (h.receive c place).1 ∧
      Alike h l (.receiver c (h.receive c place).2) (.receiver c (l.receive c place').2) := by
  cases alike with
  | @receiver _ _ _ events unread unread' =>
    unfold Hub.receive
    rw [unread.read_eq, unread'.read_eq, slots, alive]
    by_cases behind : (h.channel c).slots < events.length
    · rw [if_pos behind, if_pos behind]
      have le := Nat.sub_le events.length (h.channel c).slots
      exact ⟨rfl, .receiver (unread.drop le) (unread'.drop le)⟩
    · rw [if_neg behind, if_neg behind]
      cases events with
      | nil => exact ⟨rfl, .receiver unread unread'⟩
      | cons e rest =>
        exact ⟨rfl, .receiver (unread.drop (n := 1) (by simp)) (unread'.drop (n := 1) (by simp))⟩

end Alike

/-! ## A hub of its own -/

/-- An observer is not opened yet on either hub, or alike on both as long as it is there. -/
def Follows (id : Nat) (h l : Hub) : Prop :=
  (h.nextId ≤ id ∧ h.observer? id = none ∧ l.nextId = 1 ∧ l.observer? 1 = none) ∨
  (id < h.nextId ∧
    ∀ ob, h.observer? id = some ob → ∃ ob', l.observer? 1 = some ob' ∧ Alike h l ob ob')

/-- A hub of its own for an observer. -/
structure Mirrors (id : Nat) (h l : Hub) : Prop where
  closings : l.closings = h.closings
  handles : l.handles = [h.isAlive]
  slots : ∀ c, (l.channel c).slots = (h.channel c).slots
  holds : ∀ c, ∃ events, (h.channel c).Holds events
  holds' : ∀ c, ∃ events, (l.channel c).Holds events
  observer : Follows id h l

variable {id : Nat} {h h' l l' : Hub} {o : Operation}

namespace Follows

/-- An observer that is followed has one like it on the other hub. -/
lemma exists_alike (follows : Follows id h l) {ob : Observer} (there : h.observer? id = some ob) :
    id < h.nextId ∧ ∃ ob', l.observer? 1 = some ob' ∧ Alike h l ob ob' := by
  rcases follows with ⟨-, absent, -⟩ | ⟨earlier, alike⟩
  · rw [there] at absent
    cases absent
  · exact ⟨earlier, alike ob there⟩

/-- An observer that is opened on both hubs is followed from then on. -/
lemma opened (follows : Follows h.nextId h l) {ob ob' : Observer} (alike : Alike h l ob ob') :
    Follows h.nextId (h.addObserver ob).2 (l.addObserver ob').2 := by
  rcases follows with ⟨-, absent, next, none⟩ | ⟨earlier, -⟩
  · refine .inr ⟨Nat.lt_succ_self _, fun new there => ?_⟩
    rw [observer?_addObserver, absent, Option.none_or, if_pos rfl] at there
    cases there
    refine ⟨ob', ?_, alike.congr fun c _ => by simp⟩
    rw [observer?_addObserver, none, next]
    rfl
  · exact absurd earlier (lt_irrefl _)

/-- An observer that moves on both hubs stays alike. -/
lemma moved (follows : Follows id h l) {was was' ob ob' : Observer}
    (there : h.observer? id = some was) (there' : l.observer? 1 = some was')
    (alike : Alike h l ob ob') : Follows id (h.setObserver id ob) (l.setObserver 1 ob') := by
  refine .inr ⟨(follows.exists_alike there).1, fun moved now => ?_⟩
  rw [observer?_setObserver, if_pos rfl, there] at now
  cases now
  refine ⟨ob', ?_, alike.congr fun c _ => ?_⟩
  · rw [observer?_setObserver, if_pos rfl, there']
    rfl
  · simp [setObserver, channel_observers]

/-- An event that an observer reads is sent on both hubs. -/
lemma send (follows : Follows id h l) {ob : Observer} {e : Published}
    (there : h.observer? id = some ob) (reads : ob.eventClass? = some e.eventClass) :
    Follows id (h.send e) (l.send e) := by
  obtain ⟨earlier, ob', there', alike⟩ := follows.exists_alike there
  refine .inr ⟨by simpa using earlier, fun same now => ⟨ob', by simpa using there', ?_⟩⟩
  rw [observer?_send, there] at now
  cases now
  exact alike.send reads

/-- What is neither an observer nor an event does not matter. -/
lemma congr (follows : Follows id h l) (nextId : h'.nextId = h.nextId ∧ l'.nextId = l.nextId)
    (observers : h'.observers = h.observers ∧ l'.observers = l.observers)
    (channels : ∀ c, h'.channel c = h.channel c ∧ l'.channel c = l.channel c) :
    Follows id h' l' := by
  have same (i : Nat) : h'.observer? i = h.observer? i := by rw [observer?, observers.1, observer?]
  have same' (i : Nat) : l'.observer? i = l.observer? i := by rw [observer?, observers.2, observer?]
  unfold Follows
  simp only [nextId, same, same']
  rcases follows with fresh | ⟨earlier, there⟩
  · exact .inl fresh
  · refine .inr ⟨earlier, fun ob now => ?_⟩
    obtain ⟨ob', there', alike⟩ := there ob now
    exact ⟨ob', there', alike.congr fun c _ => channels c⟩

/-- An observer is left alone by what it does not see. -/
lemma unseen (follows : Follows id h l) (unseen : h.sight? id o = none) :
    Follows id (h.step o).2 l := by
  rcases follows with ⟨later, absent, fresh⟩ | ⟨earlier, there⟩
  · have none : ∀ ob, (h.step o).2.observer? id ≠ some ob := by
      intro ob there
      rw [observer?_of_unseen unseen there] at absent
      cases absent
    -- Even if the step gave the id out, nobody is there under it.
    by_cases taken : id < (h.step o).2.nextId
    · exact .inr ⟨taken, fun ob there => absurd there (none ob)⟩
    · exact .inl ⟨Nat.le_of_not_lt taken, Option.eq_none_iff_forall_ne_some.mpr none, fresh⟩
  · refine .inr ⟨earlier.trans_le (nextId_step h o).1, fun ob stays => ?_⟩
    have was := observer?_of_unseen unseen stays
    obtain ⟨ob', there', alike⟩ := there ob was
    refine ⟨ob', there', alike.congr fun c reads => ⟨?_, rfl⟩⟩
    exact channel_of_unseen unseen was reads

end Follows

/-! ## Steps -/

/-- A stream that is polled answers what it finds, and moves on. -/
lemma step_poll {c : EventClass} {place : Nat} {first : Bool}
    (there : h.observer? id = some (.stream c place first false)) :
    h.step (.poll id) =
      (.polled (h.pollStream c place first).1 (h.pollStream c place first).2.1,
        h.setObserver id (h.pollStream c place first).2.2) := by
  simp [step, there]

/-- A stream that has ended answers the end. -/
lemma step_poll_ended {c : EventClass} {place : Nat} {first : Bool}
    (there : h.observer? id = some (.stream c place first true)) :
    h.step (.poll id) = (.polled 0 .ended, h) := by
  simp [step, there]

/-- A receiver answers what it finds, and moves on. -/
lemma step_receive {c : EventClass} {place : Nat}
    (there : h.observer? id = some (.receiver c place)) :
    h.step (.receive id) =
      (.received (h.receive c place).1,
        h.setObserver id (.receiver c (h.receive c place).2)) := by
  simp [step, there]

/-- A watcher answers whether there are closings that it has not seen, and has seen them. -/
lemma step_look {seen : Nat} (there : h.observer? id = some (.watcher seen)) :
    h.step (.look id) =
      (.looked (h.look seen).1 (h.look seen).2, h.setObserver id (.watcher h.closings)) := by
  simp [step, there]

/-- The answers of a run are that of its first step and those of the rest. -/
lemma answers_cons (id : Nat) (h : Hub) (o : Operation) (rest : List Operation) :
    answers id (h.history (o :: rest)) = (Entry.heard? id (o, (h.step o).1)).toList ++
      answers id ((h.step o).2.history rest) := by
  change List.filterMap _ ((o, (h.step o).1) :: (h.step o).2.history rest) = _
  rw [List.filterMap_cons]
  cases Entry.heard? id (o, (h.step o).1) <;> rfl

/-- No step makes room in a channel. -/
lemma slots_step (h : Hub) (o : Operation) (c : EventClass) :
    ((h.step o).2.channel c).slots = (h.channel c).slots := by
  rw [channel_step, Channel.slots_sendAll]

/-- Every step leaves channels that hold what was sent. -/
lemma holds_step (holds : ∀ c, ∃ events, (h.channel c).Holds events) (o : Operation)
    (c : EventClass) : ∃ events, ((h.step o).2.channel c).Holds events := by
  obtain ⟨events, holds⟩ := holds c
  rw [channel_step]
  exact ⟨_, holds.sendAll _⟩

namespace Mirrors

/-- A new hub is its own mirror. -/
lemma new (capacity id : Nat) : Mirrors id (new capacity) (new capacity) where
  closings := rfl
  handles := rfl
  slots _ := rfl
  holds c := ⟨[], by cases c <;> exact Channel.holds_new capacity⟩
  holds' c := ⟨[], by cases c <;> exact Channel.holds_new capacity⟩
  observer := by
    by_cases later : 1 ≤ id
    · exact .inl ⟨later, rfl, rfl, rfl⟩
    · exact .inr ⟨Nat.lt_of_not_le later, nofun⟩

/-- A mirror has a handle left exactly if the hub has one. -/
lemma isAlive (mirrors : Mirrors id h l) : l.isAlive = h.isAlive := by
  simp [Hub.isAlive, mirrors.handles]

/-- While a handle is left, so is the one of the observer's own hub. -/
lemma hasHandle (mirrors : Mirrors id h l) {i : Nat} (left : h.hasHandle i = true) :
    l.hasHandle 0 = true := by
  simp [Hub.hasHandle, mirrors.handles, isAlive_of_hasHandle left]

/-- What is not seen leaves the observer's own hub as it is. -/
lemma unseen (mirrors : Mirrors id h l) (unseen : h.sight? id o = none) :
    Mirrors id (h.step o).2 l where
  closings := by rw [closings_of_unseen unseen, mirrors.closings]
  handles := by rw [isAlive_of_unseen unseen, mirrors.handles]
  slots c := by rw [slots_step, mirrors.slots]
  holds := holds_step mirrors.holds o
  holds' := mirrors.holds'
  observer := mirrors.observer.unseen unseen

/-- Steps on both hubs with one answer for the observer that do the same to the flag, the handles
and the observer. -/
lemma steps (mirrors : Mirrors id h l) {p : Operation} {a b : Answer} (step : h.step o = (a, h'))
    (step' : l.step p = (b, l')) (heard : Entry.heard? id (o, a) = Entry.heard? 1 (p, b))
    (closings : l'.closings = h'.closings) (handles : l'.handles = [h'.isAlive])
    (observer : Follows id h' l') :
    Entry.heard? id (o, (h.step o).1) = Entry.heard? 1 (p, (l.step p).1) ∧
      Mirrors id (h.step o).2 (l.step p).2 := by
  -- What holds of channels is kept by whatever is done; only what an operation is about is asked
  -- for.
  have slots (c : EventClass) :
      ((l.step p).2.channel c).slots = ((h.step o).2.channel c).slots := by
    rw [slots_step, slots_step, mirrors.slots]
  have holds := holds_step mirrors.holds o
  have holds' := holds_step mirrors.holds' p
  rw [step, step'] at *
  exact ⟨heard, closings, handles, slots, holds, holds', observer⟩

/-- What is seen is answered the same on the observer's own hub. -/
lemma seen (mirrors : Mirrors id h l) {s : Sight} (sees : Sees h id o s) :
    Entry.heard? id (o, (h.step o).1) = Entry.heard? 1 (s.operation, (l.step s.operation).1) ∧
      Mirrors id (h.step o).2 (l.step s.operation).2 := by
  have atEnd (c : EventClass) : (h.channel c).Unread (h.channel c).sent [] :=
    (mirrors.holds c).choose_spec.unread_nil
  have atEnd' (c : EventClass) : (l.channel c).Unread (l.channel c).sent [] :=
    (mirrors.holds' c).choose_spec.unread_nil
  cases sees with
  | @opensStream i c left next =>
    subst next
    exact mirrors.steps (if_pos left) (if_pos (mirrors.hasHandle left)) rfl mirrors.closings
      mirrors.handles (mirrors.observer.opened (.stream (atEnd c) (atEnd' c)))
  | @subscribes i c left next =>
    subst next
    exact mirrors.steps (if_pos left) (if_pos (mirrors.hasHandle left)) rfl mirrors.closings
      mirrors.handles (mirrors.observer.opened (.receiver (atEnd c) (atEnd' c)))
  | watches left next =>
    subst next
    refine mirrors.steps (if_pos left) (if_pos (mirrors.hasHandle left)) rfl mirrors.closings
      mirrors.handles (mirrors.observer.opened ?_)
    rw [mirrors.closings]
    exact .watcher
  | published left there reads =>
    refine mirrors.steps (if_pos left) (if_pos (mirrors.hasHandle left)) rfl ?_ ?_
      (mirrors.observer.send there reads)
    · rw [closings_send, closings_send, mirrors.closings]
    · rw [handles_send, isAlive_send, mirrors.handles]
  | closed left =>
    refine mirrors.steps (if_pos left) (if_pos (mirrors.hasHandle left)) rfl ?_ mirrors.handles
      (mirrors.observer.congr ⟨rfl, rfl⟩ ⟨rfl, rfl⟩ fun c => ?_)
    · exact congrArg (· + 1) mirrors.closings
    · cases c <;> exact ⟨rfl, rfl⟩
  | abandoned alive gone =>
    refine mirrors.steps rfl rfl rfl mirrors.closings ?_
      (mirrors.observer.congr ⟨rfl, rfl⟩ ⟨rfl, rfl⟩ fun c => ?_)
    · rw [gone, dropHandle, mirrors.handles]
      rfl
    · cases c <;> exact ⟨rfl, rfl⟩
  | @polls c place first ended there =>
    obtain ⟨-, _, there', alike⟩ := mirrors.observer.exists_alike there
    obtain ⟨place', rfl⟩ := alike.of_stream
    cases ended with
    | true =>
      exact mirrors.steps (step_poll_ended there) (step_poll_ended there')
        (by simp [Sight.operation])
        mirrors.closings mirrors.handles mirrors.observer
    | false =>
      obtain ⟨skipped, given, moved⟩ :=
        alike.poll (mirrors.slots c) mirrors.closings mirrors.isAlive
      refine mirrors.steps (step_poll there) (step_poll there') ?_ mirrors.closings mirrors.handles
        (mirrors.observer.moved there there' moved)
      simp [Sight.operation, skipped, given]
  | @receives c place there =>
    obtain ⟨-, _, there', alike⟩ := mirrors.observer.exists_alike there
    obtain ⟨place', rfl⟩ := alike.of_receiver
    obtain ⟨given, moved⟩ := alike.receive (mirrors.slots c) mirrors.isAlive
    refine mirrors.steps (step_receive there) (step_receive there') ?_ mirrors.closings
      mirrors.handles (mirrors.observer.moved there there' moved)
    simp [Sight.operation, given]
  | @looks seen there =>
    obtain ⟨-, _, there', alike⟩ := mirrors.observer.exists_alike there
    cases alike
    have found : l.look seen = h.look seen := by
      simp only [look, isClosed, mirrors.closings, mirrors.isAlive]
    refine mirrors.steps (step_look there) (step_look there') ?_ mirrors.closings mirrors.handles
      (mirrors.observer.moved there there' ?_)
    · simp [Sight.operation, Entry.heard?, found]
    · rw [mirrors.closings]
      exact .watcher

/-- An observer hears what it would hear on a hub of its own. -/
lemma answers_eq (mirrors : Mirrors id h l) (ops : List Operation) :
    answers id (h.history ops) = answers 1 (l.history ((h.sights id ops).map Sight.operation)) := by
  -- The own hub moves only with the steps that are seen, and mirrors the other after every step.
  induction ops generalizing h l with
  | nil => rfl
  | cons o rest ih =>
    rw [answers_cons, sights]
    cases sight : h.sight? id o with
    | none =>
      rw [silent_of_unseen sight]
      exact ih (mirrors.unseen sight)
    | some s =>
      obtain ⟨heard, mirrors⟩ := mirrors.seen (sees_of_sight? sight)
      rw [heard, ih mirrors, Option.toList_some, List.singleton_append, List.map_cons, answers_cons]

end Mirrors

/-- An observer that sees the same in two runs of hubs with one capacity hears the same in both: its
own operations, the events of its class while it is there, the closings and the end of the last
handle decide all it is answered. -/
theorem observer_isolated {capacity : Nat} {ops₁ ops₂ : List Operation} {id₁ id₂ : Nat}
    (same : (new capacity).sights id₁ ops₁ = (new capacity).sights id₂ ops₂) :
    answers id₁ ((new capacity).history ops₁) = answers id₂ ((new capacity).history ops₂) := by
  rw [(Mirrors.new capacity id₁).answers_eq, (Mirrors.new capacity id₂).answers_eq, same]

/-- A stream that falls behind and is closed hears the same with a receiver, another handle and
events of the other class around it. -/
theorem observer_isolated_from_others :
    let t (txid : String) : Published := .transaction ⟨none, txid, [], none⟩
    let u : Published := .unspents ⟨none, []⟩
    let quiet : List Operation := [.openStream 0 .transaction, .publish 0 (t "a"),
      .publish 0 (t "b"), .poll 1, .close 0, .poll 1]
    let noisy : List Operation := [.subscribe 0 .unspents, .clone 0, .publish 1 (t "c"),
      .openStream 1 .transaction, .publish 0 u, .publish 0 (t "a"), .publish 1 u, .receive 1,
      .publish 1 (t "b"), .dropHandle 0, .poll 2, .close 1, .dropReceiver 1, .poll 2]
    answers 2 ((new 1).history noisy) =
        [.polled 1 (.item (t "b")), .polled 0 .ended] ∧
      answers 1 ((new 1).history quiet) = answers 2 ((new 1).history noisy) := by
  intro t u quiet noisy
  exact ⟨by decide, observer_isolated (by decide)⟩

end WalletNotify.Hub
