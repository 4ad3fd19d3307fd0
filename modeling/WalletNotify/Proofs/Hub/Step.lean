import WalletNotify.Hub.Run
import WalletNotify.Proofs.Hub.Channel

/-!
# What a step does

An `Entry` is an operation with its answer: it tells whether an event was published, whether the hub
was closed, and what an observer heard. Main statements: a step sends to a channel what its entry
publishes and nothing else (`channel_step`), the flag is set by the entries that close
(`isClosed_step`), and an observer that is there after a step was just opened, was left alone, or
has moved by its own operation (`step_moves`).
-/

namespace WalletNotify.Hub

open Event (EventClass Published)

/-- An operation with its answer. -/
abbrev Entry := Operation × Answer

/-- The event of a class that an entry publishes. -/
def Entry.published? (c : EventClass) : Entry → Option Published
  | (.publish _ e, .reached _) => if e.eventClass = c then some e else none
  | _ => none

/-- Whether an entry closes the hub. -/
def Entry.closes : Entry → Bool
  | (.close _, .closed _) => true
  | _ => false

/-- Whether an operation drops an observer. -/
def Operation.isDrop : Operation → Bool
  | dropStream _ | dropReceiver _ => true
  | _ => false

/-- What an observer hears by an operation of its own that is not refused. -/
def Entry.heard? (id : Nat) : Entry → Option Answer
  | (.poll i, a) | (.receive i, a) | (.look i, a) => if i = id ∧ a ≠ .refused then some a else none
  | _ => none

/-- A stream hears the answer to its poll. -/
@[simp] lemma heard?_poll (id n : Nat) (given : Polled) :
    Entry.heard? id (.poll id, .polled n given) = some (.polled n given) := by
  simp [Entry.heard?]

/-- A receiver hears what it receives. -/
@[simp] lemma heard?_receive (id : Nat) (given : Received) :
    Entry.heard? id (.receive id, .received given) = some (.received given) := by
  simp [Entry.heard?]

/-- What an answer tells a reader of its events. -/
def Answer.notices : Answer → List (Notice Published)
  | .polled n (.item e) => skips n ++ [.given e]
  | .polled n _ => skips n
  | .received (.item e) => [.given e]
  | .received (.lagged n) => [.skipped n]
  | _ => []

/-- The events of a class that entries publish, in order. -/
def published (c : EventClass) (entries : List Entry) : List Published :=
  entries.filterMap (Entry.published? c)

/-- What is published in two histories is published in both in a row. -/
@[simp] lemma published_append (c : EventClass) (xs ys : List Entry) :
    published c (xs ++ ys) = published c xs ++ published c ys :=
  List.filterMap_append

/-- A poll publishes nothing. -/
@[simp] lemma published_poll (c : EventClass) (id : Nat) (a : Answer) :
    published c [(.poll id, a)] = [] := rfl

/-- Receiving publishes nothing. -/
@[simp] lemma published_receive (c : EventClass) (id : Nat) (a : Answer) :
    published c [(.receive id, a)] = [] := rfl

/-- Nothing is published where an observer is opened. -/
lemma published_opened (c : EventClass) (o : Operation) (id : Nat) :
    published c [(o, .opened id)] = [] := by
  cases o <;> rfl

/-- Nothing is published by what is refused. -/
lemma published_refused (c : EventClass) (o : Operation) : published c [(o, .refused)] = [] := by
  cases o <;> rfl

/-- A class has events of its own only. -/
lemma eventClass_of_mem_published {c : EventClass} {entries : List Entry} {e : Published}
    (mem : e ∈ published c entries) : e.eventClass = c := by
  obtain ⟨⟨o, a⟩, -, found⟩ := List.mem_filterMap.mp mem
  unfold Entry.published? at found
  split at found
  · split at found
    case isTrue eq => cases found; exact eq
    case isFalse => cases found
  · cases found

/-- The class that an observer reads, and its place there. -/
def Observer.reading? : Observer → Option (EventClass × Nat)
  | .stream c place _ _ => some (c, place)
  | .receiver c place => some (c, place)
  | .watcher _ => none

/-- An observer as it is when it is opened on a hub. -/
def Observer.IsNew (h : Hub) : Observer → Prop
  | .stream c place first ended => place = (h.channel c).sent ∧ first = true ∧ ended = false
  | .receiver c place => place = (h.channel c).sent
  | .watcher seen => seen = h.closings

/-! ## Rules -/

/-- The rules of a hub: what an operation may answer, and what the hub is then. -/
inductive Steps (h : Hub) : Operation → Answer → Hub → Prop where
  | refused {o} : Steps h o .refused h
  | clone {i} :
    h.hasHandle i = true →
    Steps h (.clone i) (.handle h.clone.1) h.clone.2
  | dropHandle {i} : Steps h (.dropHandle i) (.dropped (h.hasHandle i)) (h.dropHandle i)
  | openStream {i c} :
    h.hasHandle i = true →
    Steps h (.openStream i c) (.opened h.nextId)
      (h.addObserver (.stream c (h.channel c).sent true false)).2
  | subscribe {i c} :
    h.hasHandle i = true →
    Steps h (.subscribe i c) (.opened h.nextId)
      (h.addObserver (.receiver c (h.channel c).sent)).2
  | watch {i} :
    h.hasHandle i = true →
    Steps h (.watch i) (.opened h.nextId) (h.addObserver (.watcher h.closings)).2
  | publish {i e} :
    h.hasHandle i = true →
    Steps h (.publish i e) (.reached (h.subscribers e.eventClass)) (h.send e)
  | close {i} :
    h.hasHandle i = true →
    Steps h (.close i) (.closed h.close.1) h.close.2
  | isClosed {i} : Steps h (.isClosed i) (.flag h.isClosed) h
  | count {i} :
    Steps h (.count i) (.counts (h.subscribers .transaction) (h.subscribers .unspents)) h
  | poll {id c place first} :
    h.observer? id = some (.stream c place first false) →
    Steps h (.poll id)
      (.polled (h.pollStream c place first).1 (h.pollStream c place first).2.1)
      (h.setObserver id (h.pollStream c place first).2.2)
  | pollEnded {id c place first} :
    h.observer? id = some (.stream c place first true) →
    Steps h (.poll id) (.polled 0 .ended) h
  | receive {id c place} :
    h.observer? id = some (.receiver c place) →
    Steps h (.receive id) (.received (h.receive c place).1)
      (h.setObserver id (.receiver c (h.receive c place).2))
  | look {id seen} :
    h.observer? id = some (.watcher seen) →
    Steps h (.look id) (.looked (h.look seen).1 (h.look seen).2)
      (h.setObserver id (.watcher h.closings))
  | dropStream {id c place first ended} :
    h.observer? id = some (.stream c place first ended) →
    Steps h (.dropStream id) (.dropped true) (h.dropObserver id)
  | dropReceiver {id c place} :
    h.observer? id = some (.receiver c place) →
    Steps h (.dropReceiver id) (.dropped true) (h.dropObserver id)
  | dropNothing {o} : o.isDrop = true → Steps h o (.dropped false) h

/-- Through a handle that is left a step has its effect, through others it is refused. -/
private lemma steps_throughHandle {h : Hub} {o : Operation} {i : Nat} {answer : Answer × Hub}
    (steps : h.hasHandle i = true → Steps h o answer.1 answer.2) :
    Steps h o (h.throughHandle i answer).1 (h.throughHandle i answer).2 := by
  unfold throughHandle
  split
  case isTrue left => exact steps left
  case isFalse => exact .refused

/-- Every step follows the rules. -/
lemma step_steps (h : Hub) (o : Operation) : Steps h o (h.step o).1 (h.step o).2 := by
  cases o with
  | clone i => exact steps_throughHandle .clone
  | dropHandle i => exact .dropHandle
  | openStream i c => exact steps_throughHandle .openStream
  | subscribe i c => exact steps_throughHandle .subscribe
  | watch i => exact steps_throughHandle .watch
  | publish i e => exact steps_throughHandle .publish
  | close i => exact steps_throughHandle .close
  | isClosed i => exact steps_throughHandle fun _ => .isClosed
  | count i => exact steps_throughHandle fun _ => .count
  | poll id =>
    simp only [step]
    split
    case h_1 there => exact .poll there
    case h_2 there => exact .pollEnded there
    case h_3 => exact .refused
  | receive id =>
    simp only [step]
    split
    case h_1 there => exact .receive there
    case h_2 => exact .refused
  | look id =>
    simp only [step]
    split
    case h_1 there => exact .look there
    case h_2 => exact .refused
  | dropStream id =>
    simp only [step]
    split
    case h_1 there => exact .dropStream there
    case h_2 => exact .dropNothing rfl
  | dropReceiver id =>
    simp only [step]
    split
    case h_1 there => exact .dropReceiver there
    case h_2 => exact .dropNothing rfl

/-! ## Observers -/

/-- The first pair with a key decides what is found under it. -/
private lemma lookup_cons_eq_ite (j i : Nat) (q : Observer) (rest : List (Nat × Observer)) :
    ((i, q) :: rest).lookup j = if j = i then some q else rest.lookup j := by
  rw [List.lookup_cons]
  split <;> simp_all

/-- Setting an observer changes what is found under its id, if there is one. -/
lemma observer?_setObserver (h : Hub) (id : Nat) (o : Observer) (j : Nat) :
    (h.setObserver id o).observer? j =
      if j = id then (h.observer? id).map fun _ => o else h.observer? j := by
  unfold observer? setObserver
  induction h.observers with
  | nil => simp
  | cons p rest ih =>
    obtain ⟨i, q⟩ := p
    by_cases e : i = id
    · subst e
      simp only [List.map_cons, ↓reduceIte, lookup_cons_eq_ite, ih]
      split <;> simp_all
    · simp only [List.map_cons, e, ↓reduceIte, lookup_cons_eq_ite, ih]
      by_cases f : j = i
      · simp [f, e]
      · simp [f, Ne.symm e]

/-- An observer that is there is the one that it is set to. -/
lemma observer?_setObserver_self {h : Hub} {id : Nat} {was : Observer}
    (there : h.observer? id = some was) (o : Observer) :
    (h.setObserver id o).observer? id = some o := by
  rw [observer?_setObserver, if_pos rfl, there, Option.map_some]

/-- Dropping an observer leaves nothing under its id. -/
lemma observer?_dropObserver (h : Hub) (id j : Nat) :
    (h.dropObserver id).observer? j = if j = id then none else h.observer? j := by
  unfold observer? dropObserver
  induction h.observers with
  | nil => simp
  | cons p rest ih =>
    obtain ⟨i, q⟩ := p
    by_cases e : i = id
    · subst e
      simp only [List.filter_cons, bne_self_eq_false, Bool.false_eq_true, ↓reduceIte, ih,
        lookup_cons_eq_ite]
      split <;> simp_all
    · simp only [List.filter_cons, bne_iff_ne, ne_eq, e, not_false_eq_true, ↓reduceIte,
        lookup_cons_eq_ite, ih]
      by_cases f : j = i
      · simp [f, e]
      · simp [f]

/-- Adding an observer puts it under the next id, if nothing is there. -/
lemma observer?_addObserver (h : Hub) (o : Observer) (j : Nat) :
    (h.addObserver o).2.observer? j =
      (h.observer? j).or (if j = h.nextId then some o else none) := by
  simp only [addObserver, observer?, List.lookup_append, lookup_cons_eq_ite, List.lookup_nil]

/-- A new observer has the next identity. -/
@[simp] lemma addObserver_fst (h : Hub) (o : Observer) : (h.addObserver o).1 = h.nextId := rfl

/-- A new observer takes up one identity. -/
@[simp] lemma nextId_addObserver (h : Hub) (o : Observer) :
    (h.addObserver o).2.nextId = h.nextId + 1 := rfl

/-- A new observer closes nothing. -/
@[simp] lemma closings_addObserver (h : Hub) (o : Observer) :
    (h.addObserver o).2.closings = h.closings := rfl

/-- Sending leaves every observer alone. -/
@[simp] lemma observer?_send (h : Hub) (e : Published) (j : Nat) :
    (h.send e).observer? j = h.observer? j := by
  unfold send
  split <;> rfl

/-! ## Channels and flag -/

/-- An event is sent over the channel of its class, and the other is left alone. -/
lemma channel_send (h : Hub) (e : Published) (c : EventClass) :
    (h.send e).channel c = if e.eventClass = c then (h.channel c).send e else h.channel c := by
  unfold send channel
  cases eq : e.eventClass <;> cases c <;> rfl

/-- Channels do not depend on observers. -/
lemma channel_observers (h : Hub) (observers : List (Nat × Observer)) (c : EventClass) :
    channel { h with observers } c = h.channel c := by
  cases c <;> rfl

/-- A new observer leaves the channels alone. -/
@[simp] lemma channel_addObserver (h : Hub) (o : Observer) (c : EventClass) :
    (h.addObserver o).2.channel c = h.channel c := by
  cases c <;> rfl

/-- A step sends to a channel what its entry publishes there, and nothing else. -/
lemma channel_step (h : Hub) (o : Operation) (c : EventClass) :
    (h.step o).2.channel c =
      (published c [(o, (h.step o).1)]).foldl Channel.send (h.channel c) := by
  have steps := step_steps h o
  generalize (h.step o).1 = a, (h.step o).2 = h' at steps ⊢
  cases steps with
  | @publish i e =>
    by_cases eq : e.eventClass = c <;> simp [channel_send, published, Entry.published?, eq]
  | refused | dropNothing => cases o <;> rfl
  | _ => cases c <;> rfl

/-- The flag is set once an entry closes the hub. -/
lemma isClosed_step (h : Hub) (o : Operation) :
    (h.step o).2.isClosed = (h.isClosed || Entry.closes (o, (h.step o).1)) := by
  have steps := step_steps h o
  generalize (h.step o).1 = a, (h.step o).2 = h' at steps ⊢
  cases steps with
  | close => simp [close, isClosed, Entry.closes]
  | @publish i e =>
    rw [show Entry.closes _ = false from rfl, Bool.or_false]
    unfold send
    split <;> rfl
  | refused | dropNothing => cases o <;> exact (Bool.or_false _).symm
  | _ => exact (Bool.or_false _).symm

/-- A handle that is left keeps the hub alive. -/
lemma isAlive_of_hasHandle {h : Hub} {i : Nat} (left : h.hasHandle i = true) :
    h.isAlive = true := by
  unfold hasHandle at left
  rw [List.getD_eq_getElem?_getD] at left
  cases eq : h.handles[i]? with
  | none => simp [eq] at left
  | some b =>
    rw [eq] at left
    exact List.any_eq_true.mpr ⟨b, List.mem_of_getElem? eq, left⟩

/-- A handle is left until it is dropped. -/
lemma hasHandle_step {h : Hub} {i : Nat} (left : h.hasHandle i = true) {o : Operation}
    (kept : o ≠ .dropHandle i) : (h.step o).2.hasHandle i = true := by
  have steps := step_steps h o
  generalize (h.step o).1 = a, (h.step o).2 = h' at steps ⊢
  cases steps with
  | clone =>
    rw [hasHandle, List.getD_eq_getElem?_getD] at left ⊢
    have old : i < h.handles.length := by
      by_contra new
      rw [List.getElem?_eq_none (Nat.le_of_not_lt new)] at left
      cases left
    rw [clone, List.getElem?_append_left old]
    exact left
  | @dropHandle j =>
    have ne : j ≠ i := fun e => kept (by rw [e])
    rw [hasHandle, List.getD_eq_getElem?_getD] at left ⊢
    rw [dropHandle, List.getElem?_set_ne ne]
    exact left
  | publish =>
    unfold send
    split <;> exact left
  | _ => exact left

/-- A handle closes the hub if it is left. -/
lemma isClosed_step_close {h : Hub} {i : Nat} (left : h.hasHandle i = true) :
    (h.step (.close i)).2.isClosed = true := by
  simp [step, throughHandle, left, close, isClosed]

/-- Once all handles are dropped no handle comes back and nothing is published any more. -/
lemma step_of_gone {h : Hub} (gone : h.isAlive = false) (o : Operation) :
    (h.step o).2.isAlive = false ∧ ∀ c, published c [(o, (h.step o).1)] = [] := by
  have noHandle {i : Nat} (left : h.hasHandle i = true) : False :=
    Bool.false_ne_true (gone.symm.trans (isAlive_of_hasHandle left))
  have steps := step_steps h o
  generalize (h.step o).1 = a, (h.step o).2 = h' at steps ⊢
  cases steps with
  | refused => exact ⟨gone, fun c => published_refused c o⟩
  | clone left | openStream left | subscribe left | watch left | publish left | close left =>
    exact (noHandle left).elim
  | @dropHandle i =>
    refine ⟨List.any_eq_false.mpr fun b mem => ?_, fun _ => rfl⟩
    rcases List.mem_or_eq_of_mem_set mem with mem | rfl
    · exact List.any_eq_false.mp gone b mem
    · exact Bool.false_ne_true
  | dropNothing drop =>
    refine ⟨gone, fun c => ?_⟩
    cases o with
    | dropStream | dropReceiver => rfl
    | _ => cases drop
  | _ => exact ⟨gone, fun _ => rfl⟩

/-! ## Observers over a step -/

/-- What has become of an observer that is there after a step: it was left alone, it was opened by
the step, or it has moved by an operation of its own. -/
inductive Moves (h : Hub) (o : Operation) (id : Nat) : Observer → Prop where
  | stays {ob} :
    h.observer? id = some ob →
    Entry.heard? id (o, (h.step o).1) = none →
    Moves h o id ob
  | opens {ob} :
    id = h.nextId →
    (h.step o).1 = .opened id →
    ob.IsNew h →
    Moves h o id ob
  | polls {c place first} :
    o = .poll id →
    h.observer? id = some (.stream c place first false) →
    (h.step o).1 = .polled (h.pollStream c place first).1 (h.pollStream c place first).2.1 →
    Moves h o id (h.pollStream c place first).2.2
  | rests {c place first} :
    o = .poll id →
    h.observer? id = some (.stream c place first true) →
    (h.step o).1 = .polled 0 .ended →
    Moves h o id (.stream c place first true)
  | receives {c place} :
    o = .receive id →
    h.observer? id = some (.receiver c place) →
    (h.step o).1 = .received (h.receive c place).1 →
    Moves h o id (.receiver c (h.receive c place).2)
  | looks {seen} :
    o = .look id →
    h.observer? id = some (.watcher seen) →
    (h.step o).1 = .looked (h.look seen).1 (h.look seen).2 →
    Moves h o id (.watcher h.closings)

/-- An observer that is there after one was added was there before or has the next id. -/
lemma of_observer?_addObserver {h : Hub} {new ob : Observer} {id : Nat}
    (there : (h.addObserver new).2.observer? id = some ob) :
    h.observer? id = some ob ∨ id = h.nextId ∧ ob = new := by
  rw [observer?_addObserver, Option.or_eq_some_iff] at there
  rcases there with there | ⟨-, there⟩
  · exact .inl there
  · split at there
    case isTrue e => cases there; exact .inr ⟨e, rfl⟩
    case isFalse => cases there

/-- An observer that is there after one was set is another one or the one that was set. -/
lemma of_observer?_setObserver {h : Hub} {new ob : Observer} {id j : Nat}
    (there : (h.setObserver j new).observer? id = some ob) :
    id ≠ j ∧ h.observer? id = some ob ∨ id = j ∧ ob = new := by
  rw [observer?_setObserver] at there
  split at there
  case isTrue e =>
    obtain ⟨_, -, rfl⟩ := Option.map_eq_some_iff.mp there
    exact .inr ⟨e, rfl⟩
  case isFalse ne => exact .inl ⟨ne, there⟩

/-- An observer that is there after one was dropped was there before. -/
lemma of_observer?_dropObserver {h : Hub} {ob : Observer} {id j : Nat}
    (there : (h.dropObserver j).observer? id = some ob) : h.observer? id = some ob := by
  rw [observer?_dropObserver] at there
  split at there
  case isTrue => cases there
  case isFalse => exact there

/-- Others hear nothing of an observer's operation. -/
private lemma heard?_of_ne {id j : Nat} (ne : id ≠ j) (a : Answer) :
    Entry.heard? id (.poll j, a) = none ∧ Entry.heard? id (.receive j, a) = none ∧
      Entry.heard? id (.look j, a) = none := by
  simp [Entry.heard?, ne.symm]

/-- Only its own operation moves an observer. -/
lemma step_moves {h : Hub} {o : Operation} {id : Nat} {ob : Observer}
    (there : (h.step o).2.observer? id = some ob) : Moves h o id ob := by
  have steps := step_steps h o
  generalize answer : (h.step o).1 = a, (h.step o).2 = h' at steps there
  cases steps with
  | openStream =>
    rcases of_observer?_addObserver there with there | ⟨rfl, rfl⟩
    · exact .stays there rfl
    · exact .opens rfl answer ⟨rfl, rfl, rfl⟩
  | subscribe | watch =>
    rcases of_observer?_addObserver there with there | ⟨rfl, rfl⟩
    · exact .stays there rfl
    · exact .opens rfl answer rfl
  | @poll j c place first was =>
    rcases of_observer?_setObserver there with ⟨ne, there⟩ | ⟨rfl, rfl⟩
    · exact .stays there (heard?_of_ne ne _).1
    · exact .polls rfl was answer
  | @pollEnded j c place first was =>
    by_cases e : id = j
    · subst e
      obtain rfl := Option.some.inj (was.symm.trans there)
      exact .rests rfl was answer
    · exact .stays there (heard?_of_ne e _).1
  | @receive j c place was =>
    rcases of_observer?_setObserver there with ⟨ne, there⟩ | ⟨rfl, rfl⟩
    · exact .stays there (heard?_of_ne ne _).2.1
    · exact .receives rfl was answer
  | @look j seen was =>
    rcases of_observer?_setObserver there with ⟨ne, there⟩ | ⟨rfl, rfl⟩
    · exact .stays there (heard?_of_ne ne _).2.2
    · exact .looks rfl was answer
  | dropStream | dropReceiver => exact .stays (of_observer?_dropObserver there) rfl
  | publish => exact .stays (by simpa using there) rfl
  | refused => exact .stays there (by rw [answer]; cases o <;> simp [Entry.heard?])
  | dropNothing drop =>
    refine .stays there ?_
    cases o with
    | dropStream | dropReceiver => rfl
    | _ => cases drop
  | _ => exact .stays there rfl

/-- An observer that is there after a step was there before, or was opened by it. -/
lemma Moves.before {h : Hub} {o : Operation} {id : Nat} {ob : Observer} (moves : Moves h o id ob) :
    (∃ was, h.observer? id = some was) ∨ id = h.nextId ∧ (h.step o).1 = .opened id := by
  cases moves with
  | stays was | polls _ was | rests _ was | receives _ was | looks _ was => exact .inl ⟨_, was⟩
  | opens next answer => exact .inr ⟨next, answer⟩

/-- An operation leaves all observers alone but its own, and puts a new one under the next id. -/
lemma observer?_step_of_ne {h : Hub} {o : Operation} {id : Nat} (other : o.observer? ≠ some id)
    (old : id < h.nextId) : (h.step o).2.observer? id = h.observer? id := by
  have steps := step_steps h o
  generalize (h.step o).1 = a, (h.step o).2 = h' at steps ⊢
  cases steps with
  | openStream | subscribe | watch =>
    rw [observer?_addObserver, if_neg old.ne, Option.or_none]
  | publish => exact observer?_send _ _ _
  | poll | receive | look =>
    rw [observer?_setObserver, if_neg]
    exact fun e => other (congrArg some e.symm)
  | dropStream | dropReceiver =>
    rw [observer?_dropObserver, if_neg]
    exact fun e => other (congrArg some e.symm)
  | _ => rfl

/-- What an observer may hear by an operation of its own. -/
inductive Hears (h : Hub) (id : Nat) : Operation → Answer → Prop where
  | poll {c place first} :
    h.observer? id = some (.stream c place first false) →
    Hears h id (.poll id)
      (.polled (h.pollStream c place first).1 (h.pollStream c place first).2.1)
  | pollEnded {c place first} :
    h.observer? id = some (.stream c place first true) →
    Hears h id (.poll id) (.polled 0 .ended)
  | receive {c place} :
    h.observer? id = some (.receiver c place) →
    Hears h id (.receive id) (.received (h.receive c place).1)
  | look {seen} :
    h.observer? id = some (.watcher seen) →
    Hears h id (.look id) (.looked (h.look seen).1 (h.look seen).2)

/-- An observer hears what its own operation answers. -/
lemma hears_of_heard {h : Hub} {o : Operation} {id : Nat} {a : Answer}
    (heard : Entry.heard? id (o, (h.step o).1) = some a) : Hears h id o a := by
  have steps := step_steps h o
  generalize (h.step o).1 = answer, (h.step o).2 = h' at steps heard
  have own {j : Nat} {b : Answer}
      (heard : (if j = id ∧ b ≠ .refused then some b else none) = some a) : j = id ∧ b = a := by
    split at heard
    case isTrue e => exact ⟨e.1, Option.some.inj heard⟩
    case isFalse => cases heard
  cases steps with
  | poll there => obtain ⟨rfl, rfl⟩ := own heard; exact .poll there
  | pollEnded there => obtain ⟨rfl, rfl⟩ := own heard; exact .pollEnded there
  | receive there => obtain ⟨rfl, rfl⟩ := own heard; exact .receive there
  | look there => obtain ⟨rfl, rfl⟩ := own heard; exact .look there
  | refused => cases o <;> simp [Entry.heard?] at heard
  | dropNothing drop =>
    cases o with
    | dropStream | dropReceiver => cases heard
    | _ => cases drop
  | _ => cases heard

/-- Only an observer that is there hears anything. -/
lemma Hears.exists_observer {h : Hub} {o : Operation} {id : Nat} {a : Answer}
    (hears : Hears h id o a) : ∃ ob, h.observer? id = some ob := by
  cases hears with
  | poll there | pollEnded there | receive there | look there => exact ⟨_, there⟩

/-- The next id never goes back, and an opened observer takes it. -/
lemma nextId_step (h : Hub) (o : Operation) :
    h.nextId ≤ (h.step o).2.nextId ∧
      ∀ id, (h.step o).1 = .opened id → id = h.nextId ∧ h.nextId < (h.step o).2.nextId := by
  have steps := step_steps h o
  generalize (h.step o).1 = answer, (h.step o).2 = h' at steps
  cases steps with
  | openStream | subscribe | watch =>
    refine ⟨Nat.le_succ _, fun id e => ?_⟩
    cases e
    exact ⟨rfl, Nat.lt_succ_self _⟩
  | publish =>
    refine ⟨le_of_eq ?_, nofun⟩
    unfold send
    split <;> rfl
  | _ => exact ⟨le_rfl, nofun⟩

/-- Nobody is under an id that is yet to be given out. -/
lemma vacant_step {h : Hub} (vacant : ∀ id, h.nextId ≤ id → h.observer? id = none) (o : Operation)
    {id : Nat} (le : (h.step o).2.nextId ≤ id) : (h.step o).2.observer? id = none := by
  obtain ⟨grows, next⟩ := nextId_step h o
  rw [Option.eq_none_iff_forall_ne_some]
  intro ob there
  rcases (step_moves there).before with ⟨was, there⟩ | ⟨-, answer⟩
  · rw [vacant id (grows.trans le)] at there
    cases there
  · obtain ⟨rfl, lt⟩ := next id answer
    omega

end WalletNotify.Hub
