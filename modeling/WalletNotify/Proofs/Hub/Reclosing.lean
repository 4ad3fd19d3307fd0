import WalletNotify.Proofs.Hub.Ending

/-!
# Closing again

Closing a hub that is closed is meant to do nothing. It leaves the flag, and all that streams,
receivers and handles are answered, but watchers take it for news: `reclosed` is the hub that a run
would have led to, had the hub been closed once more on the way. Main statement:
`reclosing_noticed_iff`, when exactly an answer tells of it.
-/

namespace WalletNotify.Hub

open Event (EventClass Published)

/-- An observer that has seen one closing more. -/
def Observer.notified : Observer → Observer
  | watcher seen => watcher (seen + 1)
  | o => o

/-- Whether an observer has not seen yet that the hub was closed again: it has one of the ids that
were given out then, the ones below `first`, and has not looked in the operations since. -/
def Behind (first : Nat) (past : List Operation) (id : Nat) : Prop :=
  id < first ∧ .look id ∉ past

instance (first : Nat) (past : List Operation) (id : Nat) : Decidable (Behind first past id) :=
  inferInstanceAs (Decidable (_ ∧ _))

/-- An observer as it would be, had the hub been closed again. -/
def Observer.again (first : Nat) (past : List Operation) (id : Nat) (o : Observer) : Observer :=
  if Behind first past id then o else o.notified

/-- The hub as it would be, had it been closed again before the operations of `past`. -/
def reclosed (first : Nat) (past : List Operation) (h : Hub) : Hub :=
  { h with
    closings := h.closings + 1
    observers := h.observers.map fun p => (p.1, p.2.again first past p.1) }

/-- An answer that tells a watcher that the flag was set, if it tells it anything of that. -/
def Answer.news : Answer → Answer
  | looked (some _) isSet => looked (some true) isSet
  | a => a

/-- What an operation would answer instead, had the hub been closed again. -/
def Operation.answerAgain (first : Nat) (past : List Operation) : Operation → Answer → Answer
  | look id, a => if Behind first past id then a.news else a
  | _, a => a

/-! ## Orderly hubs -/

/-- Every observer is found under its id, the ids from the next one on are vacant, and no watcher
has seen more closings than there were. -/
structure Orderly (h : Hub) : Prop where
  found : ∀ p ∈ h.observers, h.observer? p.1 = some p.2
  vacant : ∀ id, h.nextId ≤ id → h.observer? id = none
  seen : ∀ id seen, h.observer? id = some (.watcher seen) → seen ≤ h.closings

variable {h : Hub} {id : Nat}

/-- No closing is taken back. -/
lemma closings_step_ge (h : Hub) (o : Operation) : h.closings ≤ (h.step o).2.closings := by
  have steps := step_steps h o
  generalize (h.step o).1 = a, (h.step o).2 = h' at steps ⊢
  cases steps with
  | close => exact Nat.le_succ _
  | publish => exact (closings_send h _).ge
  | _ => exact le_rfl

namespace Orderly

/-- A new hub is orderly. -/
lemma new (capacity : Nat) : Orderly (new capacity) where
  found := nofun
  vacant _ _ := rfl
  seen := nofun

/-- With one observer more, every entry is still the one that is found. -/
lemma found_addObserver (orderly : Orderly h) (new : Observer) :
    ∀ p ∈ (h.addObserver new).2.observers, (h.addObserver new).2.observer? p.1 = some p.2 := by
  intro p mem
  rw [observer?_addObserver]
  rcases List.mem_append.mp mem with old | new
  · rw [orderly.found p old, Option.some_or]
  · rw [List.mem_singleton.mp new, orderly.vacant _ le_rfl, Option.none_or, if_pos rfl]

/-- With one observer changed, every entry is still the one that is found. -/
lemma found_setObserver (orderly : Orderly h) (j : Nat) (new : Observer) :
    ∀ p ∈ (h.setObserver j new).observers, (h.setObserver j new).observer? p.1 = some p.2 := by
  intro p mem
  rw [observer?_setObserver]
  obtain ⟨q, was, rfl⟩ := List.mem_map.mp mem
  have found := orderly.found q was
  by_cases same : q.1 = j
  · subst same
    simp [found]
  · simp [same, found]

/-- With one observer dropped, every entry is still the one that is found. -/
lemma found_dropObserver (orderly : Orderly h) (j : Nat) :
    ∀ p ∈ (h.dropObserver j).observers, (h.dropObserver j).observer? p.1 = some p.2 := by
  intro p mem
  obtain ⟨was, other⟩ := List.mem_filter.mp mem
  rw [observer?_dropObserver, if_neg (by simpa using other)]
  exact orderly.found p was

/-- After every step, every entry is still the one that is found. -/
lemma found_step (orderly : Orderly h) (o : Operation) :
    ∀ p ∈ (h.step o).2.observers, (h.step o).2.observer? p.1 = some p.2 := by
  have steps := step_steps h o
  generalize (h.step o).1 = a, (h.step o).2 = h' at steps ⊢
  cases steps with
  | openStream | subscribe | watch => exact orderly.found_addObserver _
  | poll | receive | look => exact orderly.found_setObserver _ _
  | dropStream | dropReceiver => exact orderly.found_dropObserver _
  | @publish i e =>
    have same : (h.send e).observers = h.observers := by
      unfold send
      split <;> rfl
    simp only [observer?_send, same]
    exact orderly.found
  | _ => exact orderly.found

/-- No watcher has seen more closings than there were. -/
lemma seen_step (orderly : Orderly h) {o : Operation} {seen : Nat}
    (there : (h.step o).2.observer? id = some (.watcher seen)) :
    seen ≤ (h.step o).2.closings := by
  have grows := closings_step_ge h o
  generalize eq : Observer.watcher seen = ob at there
  cases step_moves there with
  | stays was =>
    subst eq
    exact (orderly.seen id seen was).trans grows
  | opens _ _ new =>
    subst eq
    exact (show seen = h.closings from new) ▸ grows
  | @polls c place first =>
    obtain ⟨place', ended', moved, -⟩ := pollStream_turn h c place first
    rw [moved] at eq
    cases eq
  | rests | receives => cases eq
  | looks =>
    cases eq
    exact grows

/-- Every step leaves an orderly hub orderly. -/
lemma step (orderly : Orderly h) (o : Operation) : Orderly (h.step o).2 where
  found := orderly.found_step o
  vacant _ le := vacant_step orderly.vacant o le
  seen _ _ there := orderly.seen_step there

end Orderly

/-- After every run the hub is orderly. -/
lemma orderly (capacity : Nat) (ops : List Operation) : Orderly ((new capacity).after ops) :=
  isRun.induction (I := fun _ h => Orderly h) (.new capacity) (fun _ _ o orderly => orderly.step o)
    ops

/-! ## What a hub that was closed again has in common -/

variable {first : Nat} {past : List Operation}

/-- Closing again changes no observer's class. -/
@[simp] lemma eventClass?_again (o : Observer) :
    (o.again first past id).eventClass? = o.eventClass? := by
  unfold Observer.again
  split
  · rfl
  · cases o <;> rfl

/-- What is not a watcher does not see closings. -/
lemma again_of_ne_watcher {o : Observer} (other : ∀ seen, o ≠ .watcher seen) :
    o.again first past id = o := by
  unfold Observer.again
  split
  · rfl
  · cases o with
    | watcher seen => exact absurd rfl (other seen)
    | _ => rfl

/-- Closing again does nothing to a stream. -/
lemma again_stream {c : EventClass} {place : Nat} {turn ended : Bool} :
    (Observer.stream c place turn ended).again first past id = .stream c place turn ended :=
  again_of_ne_watcher nofun

/-- Closing again does nothing to a receiver. -/
lemma again_receiver {c : EventClass} {place : Nat} :
    (Observer.receiver c place).again first past id = .receiver c place :=
  again_of_ne_watcher nofun

/-- A hub that is closed again is closed. -/
lemma isClosed_reclosed : (h.reclosed first past).isClosed = true := by
  simp [reclosed, isClosed]

/-- Closing again does nothing to a channel. -/
lemma channel_reclosed (c : EventClass) : (h.reclosed first past).channel c = h.channel c := by
  cases c <;> rfl

/-- Closing again changes no number of subscribers. -/
lemma subscribers_reclosed (c : EventClass) :
    (h.reclosed first past).subscribers c = h.subscribers c := by
  simp only [subscribers, reclosed, List.countP_map, Function.comp_def, eventClass?_again]

/-- The observers of the hub that is closed again are those of the hub, each with the second
closing. -/
lemma observer?_reclosed (h : Hub) (first : Nat) (past : List Operation) (id : Nat) :
    (h.reclosed first past).observer? id = (h.observer? id).map (·.again first past id) := by
  unfold observer? reclosed
  induction h.observers with
  | nil => rfl
  | cons p rest ih =>
    rw [List.map_cons, List.lookup_cons, List.lookup_cons, ih]
    by_cases same : id = p.1
    · simp [same]
    · simp [beq_eq_false_iff_ne.mpr same]

/-- Readers are found as they were, and watchers where they were. -/
lemma observer?_reclosed_cases (h : Hub) (first : Nat) (past : List Operation) (id : Nat) :
    ((h.reclosed first past).observer? id = h.observer? id ∧
      ∀ seen, h.observer? id ≠ some (.watcher seen)) ∨
    ∃ seen seen', h.observer? id = some (.watcher seen) ∧
      (h.reclosed first past).observer? id = some (.watcher seen') := by
  rw [observer?_reclosed]
  cases there : h.observer? id with
  | none => exact .inl ⟨rfl, nofun⟩
  | some o =>
    cases o with
    | watcher seen =>
      refine .inr ⟨seen, if Behind first past id then seen else seen + 1, rfl, ?_⟩
      rw [Option.map_some, Observer.again]
      split <;> rfl
    | _ => exact .inl ⟨congrArg some (again_of_ne_watcher nofun), nofun⟩

/-- A stream of a closed hub finds the same if the hub is closed again. -/
lemma pollStream_reclosed (closed : h.isClosed = true) (c : EventClass) (place : Nat)
    (turn : Bool) :
    (h.reclosed first past).pollStream c place turn = h.pollStream c place turn := by
  unfold pollStream pollEvents
  rw [isClosed_reclosed, closed, channel_reclosed]
  rfl

/-- A receiver finds the same if the hub is closed again. -/
lemma receive_reclosed (c : EventClass) (place : Nat) :
    (h.reclosed first past).receive c place = h.receive c place := by
  unfold Hub.receive
  rw [channel_reclosed]
  rfl

/-- A watcher of the hub that is closed again finds one closing more. -/
lemma look_reclosed (seen : Nat) : (h.reclosed first past).look seen =
    (if h.isAlive then some (h.closings + 1 != seen) else none, true) := by
  rw [look, isClosed_reclosed]
  rfl

/-- To send and to close again is the same in either order. -/
lemma send_reclosed (e : Published) :
    (h.reclosed first past).send e = (h.send e).reclosed first past := by
  unfold send
  split <;> rfl

/-- An observer that opens has not missed the second closing, in either order. -/
lemma addObserver_reclosed (le : first ≤ h.nextId) (o : Observer) :
    ((h.reclosed first past).addObserver o.notified).2 =
      (h.addObserver o).2.reclosed first past := by
  have ahead : ¬ Behind first past h.nextId := fun behind => absurd behind.1 (by omega)
  simp [addObserver, reclosed, Observer.again, ahead]

/-- An observer can be changed before the hub is closed again or after, if nobody else looks. -/
lemma setObserver_reclosed {past' : List Operation} {o o' : Observer}
    (own : o' = o.again first past' id)
    (others : ∀ j, j ≠ id → (Behind first past j ↔ Behind first past' j)) :
    (h.reclosed first past).setObserver id o' = (h.setObserver id o).reclosed first past' := by
  simp only [setObserver, reclosed, List.map_map, Hub.mk.injEq, true_and, and_true]
  refine List.map_congr_left fun p _ => ?_
  simp only [Function.comp_apply]
  by_cases same : p.1 = id
  · simp [same, own]
  · simp [same, Observer.again, others p.1 same]

/-- To drop an observer and to close again is the same in either order. -/
lemma dropObserver_reclosed (id : Nat) :
    (h.reclosed first past).dropObserver id = (h.dropObserver id).reclosed first past := by
  simp only [dropObserver, reclosed, List.filter_map, Function.comp_def]

/-- The hub is the same after both pasts if they are the same to each of its observers. -/
lemma reclosed_congr {past' : List Operation}
    (same : ∀ p ∈ h.observers, p.2.again first past p.1 = p.2.again first past' p.1) :
    h.reclosed first past = h.reclosed first past' := by
  simp only [reclosed, Hub.mk.injEq, true_and, and_true]
  exact List.map_congr_left fun p mem => by rw [same p mem]

/-- Only its own look lets a watcher be behind no more. -/
lemma behind_concat {o : Operation} (other : o ≠ .look id) :
    Behind first (past ++ [o]) id ↔ Behind first past id := by
  simp [Behind, Ne.symm other]

/-- What is not a look leaves everybody as far behind as before. -/
lemma reclosed_concat {o : Operation} (other : ∀ id, o ≠ .look id) :
    h.reclosed first (past ++ [o]) = h.reclosed first past :=
  reclosed_congr fun p _ => by simp only [Observer.again, behind_concat (other p.1)]

/-! ## Steps -/

/-- A look leaves the other observers as far behind as before. -/
lemma behind_look {j : Nat} (ne : j ≠ id) :
    Behind first (past ++ [.look id]) j ↔ Behind first past j :=
  behind_concat fun e => ne (Operation.look.inj e).symm

/-- A watcher that is behind is told that the flag was set, and is behind no more. -/
lemma step_look_reclosed_of_watcher (orderly : Orderly h) (closed : h.isClosed = true) {seen : Nat}
    (there : h.observer? id = some (.watcher seen)) :
    (h.reclosed first past).step (.look id) =
      ((Operation.look id).answerAgain first past (h.step (.look id)).1,
        (h.step (.look id)).2.reclosed first (past ++ [.look id])) := by
  have looked : ¬ Behind first (past ++ [.look id]) id := fun behind => behind.2 (by simp)
  have own : Observer.watcher (h.closings + 1) =
      (Observer.watcher h.closings).again first (past ++ [.look id]) id := (if_neg looked).symm
  have there' := observer?_reclosed h first past id
  rw [there, Option.map_some, Observer.again] at there'
  rw [step_look there, ← setObserver_reclosed own fun _ ne => (behind_look ne).symm]
  by_cases behind : Behind first past id
  · -- No watcher is ahead of the flag, so the closing is one that this one has not seen.
    have le := orderly.seen id seen there
    have news : (h.closings + 1 != seen) = true := by
      rw [bne_iff_ne]
      omega
    rw [if_pos behind] at there'
    rw [step_look there', Operation.answerAgain, if_pos behind]
    refine Prod.ext ?_ rfl
    rw [look_reclosed, look, news]
    cases h.isAlive <;> simp [Answer.news, closed]
  · have same : (h.closings + 1 != seen + 1) = (h.closings != seen) := by simp [bne]
    rw [if_neg behind] at there'
    rw [step_look there', Operation.answerAgain, if_neg behind]
    refine Prod.ext ?_ rfl
    rw [look_reclosed, look, same, closed]

/-- A look of somebody who is not a watcher is refused. -/
lemma step_look_of_nobody (nobody : ∀ seen, h.observer? id ≠ some (.watcher seen)) :
    h.step (.look id) = (.refused, h) := by
  simp only [step]

/-- A look at the hub that is closed again answers as the second closing has it, and catches up. -/
lemma step_look_reclosed (orderly : Orderly h) (closed : h.isClosed = true) (id : Nat) :
    (h.reclosed first past).step (.look id) =
      ((Operation.look id).answerAgain first past (h.step (.look id)).1,
        (h.step (.look id)).2.reclosed first (past ++ [.look id])) := by
  rcases observer?_reclosed_cases h first past id with ⟨same, nobody⟩ | ⟨seen, _, there, -⟩
  · -- Nobody looks: what is under the id is the same whether or not it is behind.
    rw [step_look_of_nobody nobody, step_look_of_nobody (same ▸ nobody)]
    refine Prod.ext ?_ (reclosed_congr fun p mem => ?_)
    · simp only [Operation.answerAgain, Answer.news, ite_self]
    · by_cases own : p.1 = id
      · have other (seen : Nat) : p.2 ≠ .watcher seen := by
          intro watches
          exact nobody seen (by rw [← own, orderly.found p mem, watches])
        rw [again_of_ne_watcher other, again_of_ne_watcher other]
      · simp only [Observer.again, behind_look own]
  · exact step_look_reclosed_of_watcher orderly closed there

/-- What is done through a handle is the same at both hubs, if it is the same with the handle left.
-/
lemma throughHandle_reclosed {i : Nat} {answer answer' : Answer × Hub}
    (same : answer'.1 = answer.1) (after : answer'.2 = answer.2.reclosed first past) :
    (h.reclosed first past).throughHandle i answer' =
      ((h.throughHandle i answer).1, (h.throughHandle i answer).2.reclosed first past) := by
  change (if h.hasHandle i then answer' else (.refused, h.reclosed first past)) = _
  unfold throughHandle
  split
  · exact Prod.ext same after
  · rfl

/-- All but looks is answered as if the hub had not been closed again. -/
lemma step_reclosed_of_ne (closed : h.isClosed = true) (le : first ≤ h.nextId) {o : Operation}
    (other : ∀ id, o ≠ .look id) :
    (h.reclosed first past).step o = ((h.step o).1, (h.step o).2.reclosed first past) := by
  cases o with
  | look id => exact absurd rfl (other id)
  | clone i => exact throughHandle_reclosed rfl rfl
  | dropHandle i => rfl
  | openStream i c =>
    refine throughHandle_reclosed rfl ?_
    rw [openStream, channel_reclosed]
    exact addObserver_reclosed le (.stream c (h.channel c).sent true false)
  | subscribe i c =>
    refine throughHandle_reclosed rfl ?_
    rw [subscribe, channel_reclosed]
    exact addObserver_reclosed le (.receiver c (h.channel c).sent)
  | watch i => exact throughHandle_reclosed rfl (addObserver_reclosed le (.watcher h.closings))
  | publish i e =>
    exact throughHandle_reclosed (congrArg Answer.reached (subscribers_reclosed _))
      (send_reclosed e)
  | close i =>
    refine throughHandle_reclosed ?_ rfl
    rw [close, close, isClosed_reclosed, closed]
  | isClosed i =>
    exact throughHandle_reclosed (by rw [isClosed_reclosed, closed]) rfl
  | count i =>
    exact throughHandle_reclosed (by rw [subscribers_reclosed, subscribers_reclosed]) rfl
  | poll id =>
    rcases observer?_reclosed_cases h first past id with ⟨same, -⟩ | ⟨_, _, there, there'⟩
    · simp only [step, same]
      split
      case h_1 c place turn _ =>
        obtain ⟨place', ended, moved, -⟩ := pollStream_turn h c place turn
        rw [pollStream_reclosed closed, moved]
        exact Prod.ext rfl (setObserver_reclosed again_stream.symm fun _ _ => Iff.rfl)
      case h_2 => rfl
      case h_3 => rfl
    · simp only [step, there, there']
  | receive id =>
    rcases observer?_reclosed_cases h first past id with ⟨same, -⟩ | ⟨_, _, there, there'⟩
    · simp only [step, same]
      split
      case h_1 c place _ =>
        rw [receive_reclosed]
        exact Prod.ext rfl (setObserver_reclosed again_receiver.symm fun _ _ => Iff.rfl)
      case h_2 => rfl
    · simp only [step, there, there']
  | dropStream id | dropReceiver id =>
    rcases observer?_reclosed_cases h first past id with ⟨same, -⟩ | ⟨_, _, there, there'⟩
    · simp only [step, same]
      split
      · exact Prod.ext rfl (dropObserver_reclosed id)
      · rfl
    · simp only [step, there, there']

/-- A step of a hub that was closed again does the same, and answers the same but to those
behind. -/
lemma step_reclosed (orderly : Orderly h) (closed : h.isClosed = true) (le : first ≤ h.nextId)
    (o : Operation) :
    (h.reclosed first past).step o =
      (o.answerAgain first past (h.step o).1, (h.step o).2.reclosed first (past ++ [o])) := by
  by_cases looks : ∃ id, o = .look id
  · obtain ⟨id, rfl⟩ := looks
    exact step_look_reclosed orderly closed id
  · have other : ∀ id, o ≠ .look id := not_exists.mp looks
    rw [step_reclosed_of_ne closed le other, reclosed_concat other]
    refine Prod.ext ?_ rfl
    cases o with
    | look id => exact absurd rfl (other id)
    | _ => rfl

/-- A closed hub that is closed again has all its observers behind. -/
lemma step_close_of_closed (orderly : Orderly h) (closed : h.isClosed = true) {i : Nat}
    (left : h.hasHandle i = true) :
    h.step (.close i) = (.closed false, h.reclosed h.nextId []) := by
  have behind (p : Nat × Observer) (mem : p ∈ h.observers) : Behind h.nextId [] p.1 := by
    refine ⟨?_, List.not_mem_nil⟩
    by_contra new
    cases (orderly.found p mem).symm.trans (orderly.vacant p.1 (Nat.le_of_not_lt new))
  have same : h.observers.map (fun p => (p.1, p.2.again h.nextId [] p.1)) = h.observers := by
    rw [← List.map_id' h.observers, List.map_map]
    exact List.map_congr_left fun p mem => Prod.ext rfl (if_pos (behind p mem))
  simp only [step, throughHandle, left, close, closed, reclosed, same]
  rfl

/-- A run of a hub that was closed again leads to what the run of the hub does. -/
lemma after_reclosed (orderly : Orderly h) (closed : h.isClosed = true) (le : first ≤ h.nextId)
    (later : List Operation) :
    (h.reclosed first past).after later = (h.after later).reclosed first (past ++ later) := by
  -- Every step keeps what it takes for the next: the order, the flag, and the ids given out.
  induction later generalizing h past with
  | nil => rw [List.append_nil]; rfl
  | cons o rest ih =>
    change ((h.reclosed first past).step o).2.after rest =
      ((h.step o).2.after rest).reclosed first (past ++ o :: rest)
    rw [step_reclosed orderly closed le, ih (orderly.step o) (isClosed_step_of_closed closed o)
      (le.trans (nextId_step h o).1), List.append_assoc, List.singleton_append]

/-- The answer is another one where a watcher that is behind would be told of no change. -/
lemma ne_answerAgain_iff {o : Operation} {a : Answer} :
    a ≠ o.answerAgain first past a ↔
      ∃ id, o = .look id ∧ Behind first past id ∧ ∃ isSet, a = .looked (some false) isSet := by
  have news : a ≠ a.news ↔ ∃ isSet, a = .looked (some false) isSet := by
    unfold Answer.news
    split
    case h_1 changed isSet => cases changed <;> simp
    case h_2 other => simpa using fun isSet e => other false isSet e
  cases o with
  | look id =>
    simp only [Operation.answerAgain, Operation.look.injEq, exists_eq_left']
    by_cases behind : Behind first past id
    · simp only [behind, ↓reduceIte, true_and, news]
    · simp [behind]
  | _ => simp [Operation.answerAgain]

/-! ## Runs -/

/-- Whoever looks at a closed hub sees the flag set. -/
lemma looked_of_closed (closed : h.isClosed = true) {o : Operation} {changed : Option Bool}
    {isSet : Bool} (looked : (h.step o).1 = .looked changed isSet) : isSet = true := by
  have steps := step_steps h o
  generalize (h.step o).1 = a, (h.step o).2 = h' at steps looked
  cases steps with
  | look => cases looked; exact closed
  | _ => cases looked

/-- Closing a closed hub is not logged. -/
lemma not_logged_of_closed (closed : h.isClosed = true) (i : Nat) :
    (h.step (.close i)).1 ≠ .closed true := by
  simp only [step, throughHandle, close, closed]
  intro logged
  split at logged <;> cases logged

/-- The flag stays set, and ids that were given out stay so. -/
lemma after_of_closed (closed : h.isClosed = true) (later : List Operation) :
    (h.after later).isClosed = true ∧ h.nextId ≤ (h.after later).nextId :=
  isRun.induction (I := fun _ l => l.isClosed = true ∧ h.nextId ≤ l.nextId) ⟨closed, le_rfl⟩
    (fun _ l o ⟨closed, le⟩ =>
      ⟨isClosed_step_of_closed closed o, le.trans (nextId_step l o).1⟩) later

/-- A hub that is closed already is closed again, and the same is done with it as would be without.
The flag stays set and no closing is logged any more. An answer differs exactly if it is the first
one since to a watcher that had seen all closings before, while a handle is left: it tells of a
change where it would have told of none. -/
theorem reclosing_noticed_iff (capacity : Nat) (ops : List Operation) {i : Nat}
    (closed : ((new capacity).after ops).isClosed = true)
    (left : ((new capacity).after ops).hasHandle i = true) (later : List Operation)
    (o : Operation) :
    let h := (new capacity).after ops
    let l := (h.step (.close i)).2
    let a := ((h.after later).step o).1
    let b := ((l.after later).step o).1
    (h.step (.close i)).1 = .closed false ∧
      (∀ j, ((l.after later).step (.close j)).1 ≠ .closed true) ∧
      (h.after later).isClosed = true ∧ (l.after later).isClosed = true ∧
      (a ≠ b ↔ ∃ id < h.nextId, o = .look id ∧ .look id ∉ later ∧ a = .looked (some false) true) ∧
      (a ≠ b → b = .looked (some true) true) := by
  intro h l a b
  have order : Orderly h := orderly capacity ops
  have again : h.step (.close i) = (.closed false, h.reclosed h.nextId []) :=
    step_close_of_closed order closed left
  obtain ⟨stays, grows⟩ := after_of_closed closed later
  have order' : Orderly (h.after later) := by
    have orderly := orderly capacity (ops ++ later)
    rwa [after, isRun.append] at orderly
  have after_eq : l.after later = (h.after later).reclosed h.nextId later := by
    change (h.step (.close i)).2.after later = _
    rw [again, after_reclosed order closed le_rfl, List.nil_append]
  have b_eq : b = o.answerAgain h.nextId later a := by
    change ((l.after later).step o).1 = _
    rw [after_eq, step_reclosed order' stays grows]
  have stays' : (l.after later).isClosed = true := after_eq ▸ isClosed_reclosed
  refine ⟨congrArg Prod.fst again, not_logged_of_closed stays', stays, stays', ?_, ?_⟩
  · rw [b_eq, ne_answerAgain_iff]
    constructor
    · rintro ⟨id, rfl, ⟨old, unseen⟩, isSet, looked⟩
      exact ⟨id, old, rfl, unseen, looked_of_closed stays looked ▸ looked⟩
    · rintro ⟨id, old, rfl, unseen, looked⟩
      exact ⟨id, rfl, ⟨old, unseen⟩, true, looked⟩
  · intro ne
    rw [b_eq, ne_answerAgain_iff] at ne
    obtain ⟨id, rfl, behind, isSet, looked⟩ := ne
    rw [b_eq, Operation.answerAgain, if_pos behind, looked, looked_of_closed stays looked]
    rfl

/-- A watcher that looked after the first closing is told of a change by the second, also after a
stream was opened and an event published. -/
theorem reclosing_noticed_by_watcher :
    let ops : List Operation := [.watch 0, .close 0, .look 1]
    let later : List Operation := [.openStream 0 .unspents, .publish 0 (.unspents ⟨none, []⟩)]
    let h := (new 1).after ops
    let l := (h.step (.close 0)).2
    h.isClosed = true ∧ h.hasHandle 0 = true ∧
      ((h.after later).step (.look 1)).1 = .looked (some false) true ∧
      ((l.after later).step (.look 1)).1 = .looked (some true) true := by
  intro ops later h l
  have closed : h.isClosed = true := by decide
  have left : h.hasHandle 0 = true := by decide
  have quiet : ((h.after later).step (.look 1)).1 = .looked (some false) true := by decide
  obtain ⟨-, -, -, -, differs, noticed⟩ := reclosing_noticed_iff 1 ops closed left later (.look 1)
  exact ⟨closed, left, quiet, noticed (differs.mpr ⟨1, by decide, rfl, by decide, quiet⟩)⟩

/-- To close a hub again is not without effect. -/
theorem reclosing_is_noticed :
    ¬ ∀ (capacity : Nat) (ops : List Operation) (i : Nat) (later : List Operation) (o : Operation),
      ((new capacity).after ops).isClosed = true →
      ((new capacity).after ops).hasHandle i = true →
      (((((new capacity).after ops).step (.close i)).2.after later).step o).1 =
        ((((new capacity).after ops).after later).step o).1 := by
  intro same
  have same := same 1 [.watch 0, .close 0, .look 1] 0 [] (.look 1) (by decide) (by decide)
  revert same
  decide

end WalletNotify.Hub
