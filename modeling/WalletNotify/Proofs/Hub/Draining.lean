import WalletNotify.Proofs.Hub.Promise

/-!
# Draining

A hub whose last handle is dropped, and that was never closed, loses nothing: its readers are given
all that its channels keep for them, and only then told that nothing will come any more. Main
statement: `abandoned_hub_drains`.
-/

namespace WalletNotify.Hub

open Event (EventClass Published)

variable {h : Hub} {id : Nat} {c : EventClass}

/-! ## Abandoned hubs -/

/-- A hub that was never closed and that nobody can close or publish to any more. -/
structure Abandoned (h : Hub) : Prop where
  unclosed : h.isClosed = false
  gone : h.isAlive = false

namespace Abandoned

/-- Whatever is done, an abandoned hub stays so, and its channels stay as they are. -/
lemma step (abandoned : h.Abandoned) (o : Operation) :
    (h.step o).2.Abandoned ∧ ∀ c, (h.step o).2.channel c = h.channel c := by
  obtain ⟨gone, silent⟩ := step_of_gone abandoned.gone o
  have unclosed : Entry.closes (o, (h.step o).1) = false := by
    cases o with
    | close i =>
      have dropped : h.hasHandle i = false := by
        by_contra left
        have alive := isAlive_of_hasHandle (Bool.eq_true_of_not_eq_false left)
        exact Bool.false_ne_true (abandoned.gone.symm.trans alive)
      simp [Hub.step, throughHandle, dropped, Entry.closes]
    | _ => rfl
  refine ⟨⟨?_, gone⟩, fun c => ?_⟩
  · rw [isClosed_step, abandoned.unclosed, unclosed, Bool.or_false]
  · rw [channel_step, silent c, List.foldl_nil]

end Abandoned

/-- As long as the hub is not closed, a stream has ended only where nothing can be published any
more and all that was published is read. -/
def EndsRead (h : Hub) : Prop :=
  h.isClosed = false → ∀ id c place first, h.observer? id = some (.stream c place first true) →
    h.isAlive = false ∧ place = (h.channel c).sent

/-- Every step keeps that streams have ended only where all is read. -/
lemma EndsRead.step {capacity : Nat} {entries : List Entry} (record : Recorded capacity entries h)
    (endsRead : h.EndsRead) (o : Operation) : (h.step o).2.EndsRead := by
  intro unclosed id c place first there
  rw [isClosed_step, Bool.or_eq_false_iff] at unclosed
  have before : h.isAlive = false ∧ place = (h.channel c).sent := by
    generalize eq : Observer.stream c place first true = ob at there
    cases step_moves there with
    | stays was => subst eq; exact endsRead unclosed.1 id c place first was
    | opens _ _ new => subst eq; cases new.2.2
    | @polls c₀ place₀ first₀ _ was =>
      have accounts := record.accounts id _ c₀ place₀ was rfl
      rcases pollStream_cases (record.holds c₀) accounts.place_le first₀ with ⟨flag, -⟩ |
        ⟨a, -, -, -, -, polled⟩ | ⟨a, -, -, -, polled⟩ | ⟨-, atEnd, polled⟩
      · exact absurd (unclosed.1.symm.trans flag) Bool.false_ne_true
      · rw [polled] at eq; cases eq
      · rw [polled] at eq; cases eq
      · rw [polled, unclosed.1, Bool.false_or] at eq
        obtain ⟨rfl, rfl, -, alive⟩ := Observer.stream.inj eq
        exact ⟨by simpa using alive.symm, atEnd.trans (record.holds c).sent_eq.symm⟩
    | rests _ was => cases eq; exact endsRead unclosed.1 id c place first was
    | receives | looks => cases eq
  obtain ⟨stays, channels⟩ := Abandoned.step ⟨unclosed.1, before.1⟩ o
  exact ⟨stays.gone, by rw [channels, before.2]⟩

/-- After every run, streams have ended only where all is read. -/
lemma endsRead_after (capacity : Nat) (ops : List Operation) :
    ((new capacity).after ops).EndsRead :=
  (isRun.induction (I := fun entries h => Recorded capacity entries h ∧ h.EndsRead)
    ⟨.new capacity, fun _ _ _ _ _ => nofun⟩
    (fun _ _ o ⟨record, endsRead⟩ => ⟨record.step o, endsRead.step record o⟩) ops).2

/-! ## What readers have yet to read -/

/-- The events of a class that a reader was neither given nor told it lost, by what a history tells
of it. -/
def unreadEvents (id : Nat) (c : EventClass) (entries : List Entry) : List Published :=
  (published c (sinceOpened id entries)).drop (passed (notices id entries))

/-- A reader has yet to read what it was neither given nor told it lost. -/
lemma Recorded.unread {capacity : Nat} {entries : List Entry} (record : Recorded capacity entries h)
    {ob : Observer} {place : Nat} (there : h.observer? id = some ob)
    (reads : ob.reading? = some (c, place)) :
    (h.channel c).Unread place (unreadEvents id c entries) := by
  have accounts := record.accounts id ob c place there reads
  have whole := published_until_append_since c id entries
  refine ⟨(published c entries).take place, ?_, List.length_take_of_le accounts.place_le⟩
  have rest : unreadEvents id c entries = (published c entries).drop place := by
    rw [unreadEvents, ← whole, accounts.place_eq, List.drop_length_add_append]
  rw [rest, List.take_append_drop]
  exact record.holds c

/-! ## Streams -/

/-- The answers that give a stream these events, the first one after a skip. -/
def drainOfStream (skipped : Nat) : List Published → List Answer
  | [] => []
  | e :: rest => .polled skipped (.item e) :: rest.map fun e => .polled 0 (.item e)

/-- The rest of the events is given without a skip. -/
lemma tail_drainOfStream (skipped : Nat) (e : Published) (rest : List Published) :
    (drainOfStream skipped (e :: rest)).tail = drainOfStream 0 rest := by
  cases rest <;> rfl

/-- What is due to a stream of an abandoned hub: the events that are retained for it. -/
structure StreamDue (id : Nat) (c : EventClass) (due : List Answer) (h : Hub) : Prop where
  abandoned : h.Abandoned
  old : id < h.nextId
  stream : ∃ place first ended skipped retained,
    h.observer? id = some (.stream c place first ended) ∧
    (h.channel c).Retains place skipped retained ∧ (ended = true → retained = []) ∧
    due = drainOfStream skipped retained

namespace Abandoned

variable {place skipped : Nat} {retained : List Published} {e : Published}

/-- Where nothing is retained, a stream ends, whatever has its turn. -/
lemma pollStream_nil (abandoned : h.Abandoned) (retains : (h.channel c).Retains place 0 [])
    (first : Bool) :
    h.pollStream c place first = (0, .ended, .stream c place (!first) true) := by
  simp [pollStream, pollEvents, abandoned.unclosed, abandoned.gone, retains.readOver_nil]

/-- A stream is given the first event that is retained, whatever has its turn. -/
lemma pollStream_cons (abandoned : h.Abandoned)
    (retains : (h.channel c).Retains place skipped (e :: retained)) (first : Bool) :
    h.pollStream c place first =
      (skipped, .item e, .stream c (place + skipped + 1) (!first) false) := by
  simp [pollStream, pollEvents, abandoned.unclosed, retains.readOver_cons]

end Abandoned

/-- A poll gives a stream the first of what is due to it, and the rest stays due. -/
lemma StreamDue.poll {due : List Answer} (holds : StreamDue id c due h) :
    Entry.heard? id (.poll id, (h.step (.poll id)).1) = some (due.headD (.polled 0 .ended)) ∧
      StreamDue id c due.tail (h.step (.poll id)).2 := by
  obtain ⟨abandoned, old, place, first, ended, skipped, retained, there, retains, read, rfl⟩ :=
    holds
  obtain ⟨abandoned', channels⟩ := abandoned.step (.poll id)
  have old' := old.trans_le (nextId_step h (.poll id)).1
  cases retained with
  | nil =>
    obtain rfl := retains.skipped_eq_zero
    cases ended with
    | true =>
      rw [step_poll_ended there]
      exact ⟨heard?_poll id 0 .ended, abandoned, old, place, first, true, 0, [], there, retains,
        read, rfl⟩
    | false =>
      have stepped := step_poll there
      rw [abandoned.pollStream_nil retains] at stepped
      rw [← channels] at retains
      rw [stepped] at retains abandoned' old' ⊢
      exact ⟨heard?_poll id 0 .ended, abandoned', old', place, !first, true, 0, [],
        observer?_setObserver_self there _, retains, fun _ => rfl, rfl⟩
  | cons e rest =>
    obtain rfl : ended = false := by
      cases ended with
      | true => cases read rfl
      | false => rfl
    have stepped := step_poll there
    rw [abandoned.pollStream_cons retains] at stepped
    rw [← channels] at retains
    rw [stepped] at retains abandoned' old' ⊢
    exact ⟨heard?_poll id skipped (.item e), abandoned', old', place + skipped + 1, !first, false,
      0, rest, observer?_setObserver_self there _, retains.behind.next, nofun,
      tail_drainOfStream skipped e rest⟩

/-- Polls of a stream of an abandoned hub give it what is due, and then tell its end. -/
lemma promise_stream (id : Nat) (c : EventClass) :
    Promise id (.poll id) (some (.dropStream id)) (.polled 0 .ended) (StreamDue id c) where
  answered := StreamDue.poll
  others {due h o} holds unpolled kept := by
    obtain ⟨abandoned, old, place, first, ended, skipped, retained, there, retains, read⟩ := holds
    obtain ⟨stays, silent⟩ := left_alone there old unpolled kept
    obtain ⟨abandoned', channels⟩ := abandoned.step o
    rw [← channels] at retains
    exact ⟨silent, abandoned', old.trans_le (nextId_step h o).1, place, first, ended, skipped,
      retained, stays, retains, read⟩

/-! ## Receivers -/

/-- The answers that give a receiver these events, behind the report of a skip. -/
def drainOfReceiver (skipped : Nat) (retained : List Published) : List Answer :=
  (if skipped = 0 then [] else [.received (.lagged skipped)]) ++
    retained.map fun e => .received (.item e)

/-- What is due to a receiver of an abandoned hub: the report of what it lost, and the events that
are retained for it. -/
structure ReceiverDue (id : Nat) (c : EventClass) (due : List Answer) (h : Hub) : Prop where
  abandoned : h.Abandoned
  old : id < h.nextId
  receiver : ∃ place skipped retained, h.observer? id = some (.receiver c place) ∧
    (h.channel c).Retains place skipped retained ∧ due = drainOfReceiver skipped retained

/-- A receiver is answered the first of what is due to it, and the rest stays due. -/
lemma ReceiverDue.receive {due : List Answer} (holds : ReceiverDue id c due h) :
    Entry.heard? id (.receive id, (h.step (.receive id)).1) = some (due.headD (.received .closed)) ∧
      ReceiverDue id c due.tail (h.step (.receive id)).2 := by
  obtain ⟨abandoned, old, place, skipped, retained, there, retains, rfl⟩ := holds
  obtain ⟨abandoned', channels⟩ := abandoned.step (.receive id)
  have old' := old.trans_le (nextId_step h (.receive id)).1
  have stepped := step_receive there
  rw [← channels] at retains
  rw [Hub.receive, ← channels] at stepped
  by_cases gap : skipped = 0
  · subst gap
    cases retained with
    | nil =>
      rw [retains.read_nil, abandoned.gone] at stepped
      rw [stepped] at retains abandoned' old' ⊢
      exact ⟨heard?_receive id .closed, abandoned', old', place, 0, [],
        observer?_setObserver_self there _, retains, rfl⟩
    | cons e rest =>
      rw [retains.read_cons] at stepped
      rw [stepped] at retains abandoned' old' ⊢
      exact ⟨heard?_receive id (.item e), abandoned', old', place + 1, 0, rest,
        observer?_setObserver_self there _, retains.next, rfl⟩
  · rw [retains.read_gap gap] at stepped
    rw [stepped] at retains abandoned' old' ⊢
    rw [drainOfReceiver, if_neg gap]
    exact ⟨heard?_receive id (.lagged skipped), abandoned', old', place + skipped, 0, retained,
      observer?_setObserver_self there _, retains.behind, rfl⟩

/-- A receiver of an abandoned hub is answered what is due, and then that nothing will come. -/
lemma promise_receiver (id : Nat) (c : EventClass) :
    Promise id (.receive id) (some (.dropReceiver id)) (.received .closed) (ReceiverDue id c) where
  answered := ReceiverDue.receive
  others {due h o} holds unread kept := by
    obtain ⟨abandoned, old, place, skipped, retained, there, retains, due_eq⟩ := holds
    obtain ⟨stays, silent⟩ := left_alone there old unread kept
    obtain ⟨abandoned', channels⟩ := abandoned.step o
    rw [← channels] at retains
    exact ⟨silent, abandoned', old.trans_le (nextId_step h o).1, place, skipped, retained, stays,
      retains, due_eq⟩

/-! ## Watchers -/

/-- A watcher of an abandoned hub finds the flag as it is, and that nobody can set it. -/
lemma promise_watcher (id : Nat) :
    Promise id (.look id) none (.looked none false) fun due h =>
      h.Abandoned ∧ id < h.nextId ∧ (∃ seen, h.observer? id = some (.watcher seen)) ∧ due = [] where
  answered {due h} holds := by
    obtain ⟨abandoned, old, ⟨seen, there⟩, rfl⟩ := holds
    have old' := old.trans_le (nextId_step h (.look id)).1
    have stepped := step_look there
    have looked : h.look seen = (none, false) := by
      simp [look, abandoned.gone, abandoned.unclosed]
    have abandoned' := (abandoned.step (.look id)).1
    rw [looked] at stepped
    rw [stepped] at abandoned' old' ⊢
    exact ⟨by simp [Entry.heard?], abandoned', old', ⟨_, observer?_setObserver_self there _⟩, rfl⟩
  others {due h o} holds unseen kept := by
    obtain ⟨abandoned, old, ⟨seen, there⟩, due_eq⟩ := holds
    obtain ⟨stays, silent⟩ := left_alone there old unseen kept
    exact ⟨silent, (abandoned.step o).1, old.trans_le (nextId_step h o).1, ⟨seen, stays⟩, due_eq⟩

/-! ## All observers -/

/-- Whatever is done with a hub that was never closed and has no handle left, every stream that is
kept is given, one at every poll, the events that its channel keeps of those it has not read, the
first one after a skip if others were lost, and then told its end; every receiver that is kept is
told how many it lost, if any, and given those that are kept, and then told that nothing will come;
and every watcher finds that the flag is not set. -/
theorem abandoned_hub_drains (capacity : Nat) (ops later : List Operation)
    (unclosed : ((new capacity).after ops).isClosed = false)
    (gone : ((new capacity).after ops).isAlive = false) {id : Nat} {ob : Observer}
    (there : ((new capacity).after ops).observer? id = some ob)
    (kept : ∀ o ∈ later, ob.drop? id ≠ some o) :
    let unread (c : EventClass) := unreadEvents id c ((new capacity).history ops)
    let skipped (c : EventClass) := (unread c).length - slotsFor capacity
    let retained (c : EventClass) := (unread c).drop (skipped c)
    let heard := answers id (((new capacity).after ops).history later)
    match ob with
    | .stream c .. =>
      heard = dueThenLast (drainOfStream (skipped c) (retained c)) (.polled 0 .ended)
        (later.count (.poll id))
    | .receiver c _ =>
      heard = dueThenLast (drainOfReceiver (skipped c) (retained c)) (.received .closed)
        (later.count (.receive id))
    | .watcher _ => heard = List.replicate (later.count (.look id)) (.looked none false) := by
  intro unread skipped retained heard
  have record := recorded capacity ops
  have abandoned : ((new capacity).after ops).Abandoned := ⟨unclosed, gone⟩
  have old : id < ((new capacity).after ops).nextId := by
    by_contra new
    cases there.symm.trans (record.vacant id (Nat.le_of_not_lt new))
  have unreads {c : EventClass} {place : Nat} (reads : ob.reading? = some (c, place)) :
      (((new capacity).after ops).channel c).Unread place (unread c) := record.unread there reads
  have retains {c : EventClass} {place : Nat} (reads : ob.reading? = some (c, place)) :
      (((new capacity).after ops).channel c).Retains place (skipped c) (retained c) := by
    have retains := (unreads reads).retains
    rwa [record.slots] at retains
  cases ob with
  | stream c place first ended =>
    refine (promise_stream id c).answers_eq ⟨abandoned, old, place, first, ended, _, _, there,
      retains rfl, ?_, rfl⟩ kept
    -- A stream that has ended has read all.
    rintro rfl
    have sent := (unreads rfl).sent_eq
    rw [← (endsRead_after capacity ops unclosed id c place first there).2, Nat.left_eq_add] at sent
    exact List.drop_eq_nil_of_le (by omega)
  | receiver c place =>
    exact (promise_receiver id c).answers_eq ⟨abandoned, old, place, _, _, there, retains rfl, rfl⟩
      kept
  | watcher seen =>
    have told := (promise_watcher id).answers_eq ⟨abandoned, old, ⟨seen, there⟩, rfl⟩ kept
    rwa [dueThenLast_nil] at told

/-- A stream with two slots that three events were published to is given the last two of them, the
first after a skip, and ends. -/
theorem abandoned_hub_drains_after_lag :
    let e (kind : Option Event.UtxoKind) : Published := .unspents ⟨kind, []⟩
    let ops : List Operation :=
      [.openStream 0 .unspents, .publish 0 (e none), .publish 0 (e (some .unlocked)),
        .publish 0 (e (some .locked)), .dropHandle 0]
    let later : List Operation :=
      [.poll 1, .openStream 0 .unspents, .poll 1, .publish 0 (e none), .poll 1, .close 0, .poll 1]
    ((new 2).after ops).isClosed = false ∧ ((new 2).after ops).isAlive = false ∧
      ((new 2).after ops).observer? 1 = some (.stream .unspents 0 true false) ∧
      Operation.dropStream 1 ∉ later ∧
      answers 1 (((new 2).after ops).history later) =
        [.polled 1 (.item (e (some .unlocked))), .polled 0 (.item (e (some .locked))),
          .polled 0 .ended, .polled 0 .ended] := by
  intro e ops later
  have unclosed : ((new 2).after ops).isClosed = false := by decide
  have gone : ((new 2).after ops).isAlive = false := by decide
  have there : ((new 2).after ops).observer? 1 = some (.stream .unspents 0 true false) := by decide
  have heard := abandoned_hub_drains 2 ops later unclosed gone there (by decide)
  exact ⟨unclosed, gone, there, by decide, heard.trans (by decide)⟩

end WalletNotify.Hub
