import WalletNotify.Proofs.Hub.Promise

/-!
# The end of streams

Closing a hub ends its streams whatever they have yet to read: a stream that has its turn for the
events may be given one of them, and after that it is the flag's turn. Main statement:
`closed_stream_ends`.
-/

namespace WalletNotify.Hub

open Event (EventClass Published)

variable {h : Hub} {id : Nat} {c : EventClass} {place : Nat} {first ended : Bool}

/-! ## Polls of a closed hub -/

/-- A closed hub stays closed. -/
lemma isClosed_step_of_closed (closed : h.isClosed = true) (o : Operation) :
    (h.step o).2.isClosed = true := by
  rw [isClosed_step, closed, Bool.true_or]

/-- The flag ends a stream that has its turn for the flag. -/
lemma pollStream_at_flag (closed : h.isClosed = true) (c : EventClass) (place : Nat) :
    h.pollStream c place false = (0, .ended, .stream c place true true) := by
  simp [pollStream, closed]

/-- A stream of a closed hub does not wait for events: where it is given none, it ends. -/
lemma pollStream_at_events (closed : h.isClosed = true) (c : EventClass) (place : Nat) :
    ∃ n given place' ended, given ≠ .pending ∧
      h.pollStream c place true = (n, given, .stream c place' false ended) := by
  unfold pollStream
  rw [if_neg (by simp)]
  split
  case h_1 n e place' _ => exact ⟨n, .item e, place', false, nofun, rfl⟩
  case h_2 n place' _ =>
    rw [if_pos closed]
    exact ⟨n, .ended, place', true, nofun, rfl⟩
  case h_3 n place' _ => exact ⟨n, .ended, place', true, nofun, rfl⟩

/-! ## Streams about to end -/

/-- A stream that the next poll ends, if the hub is closed: it has its turn for the flag, or it has
ended before. -/
def AboutToEnd (h : Hub) (id : Nat) : Prop :=
  ∃ c place first ended, h.observer? id = some (.stream c place first ended) ∧
    (first = false ∨ ended = true)

/-- A poll ends a stream that is about to end, and the stream then has ended. -/
lemma AboutToEnd.poll (about : h.AboutToEnd id) (closed : h.isClosed = true) :
    (h.step (.poll id)).1 = .polled 0 .ended ∧ (h.step (.poll id)).2.AboutToEnd id := by
  obtain ⟨c, place, first, ended, there, turn⟩ := about
  cases ended with
  | true =>
    rw [step_poll_ended there]
    exact ⟨rfl, c, place, first, true, there, .inr rfl⟩
  | false =>
    obtain rfl : first = false := by simpa using turn
    rw [step_poll there, pollStream_at_flag closed]
    exact ⟨rfl, c, place, true, true, observer?_setObserver_self there _, .inr rfl⟩

/-- A stream that is about to end hears of its end at every poll. -/
lemma promise_aboutToEnd (id : Nat) :
    Promise id (.poll id) (some (.dropStream id)) (.polled 0 .ended) fun due h =>
      h.isClosed = true ∧ id < h.nextId ∧ h.AboutToEnd id ∧ due = [] where
  answered {due h} holds := by
    obtain ⟨closed, old, about, rfl⟩ := holds
    obtain ⟨answer, about⟩ := about.poll closed
    refine ⟨?_, isClosed_step_of_closed closed _, old.trans_le (nextId_step h _).1, about, rfl⟩
    rw [answer]
    exact heard?_poll id 0 .ended
  others {due h o} holds unpolled kept := by
    obtain ⟨closed, old, ⟨c, place, first, ended, there, turn⟩, due_eq⟩ := holds
    obtain ⟨stays, silent⟩ := left_alone there old unpolled kept
    exact ⟨silent, isClosed_step_of_closed closed o, old.trans_le (nextId_step h o).1,
      ⟨c, place, first, ended, stays, turn⟩, due_eq⟩

/-- The first poll of a stream of a closed hub is not pending, and the stream is about to end
then. -/
lemma poll_of_closed (closed : h.isClosed = true)
    (there : h.observer? id = some (.stream c place first ended)) :
    ∃ n given, given ≠ .pending ∧ (h.step (.poll id)).1 = .polled n given ∧
      (h.step (.poll id)).2.AboutToEnd id := by
  by_cases turn : first = false ∨ ended = true
  · obtain ⟨answer, about⟩ := AboutToEnd.poll ⟨c, place, first, ended, there, turn⟩ closed
    exact ⟨0, .ended, nofun, answer, about⟩
  · obtain ⟨rfl, rfl⟩ : first = true ∧ ended = false := by simpa using turn
    obtain ⟨n, given, place', ended, waits, polled⟩ := pollStream_at_events closed c place
    rw [step_poll there, polled]
    exact ⟨n, given, waits, rfl, c, place', false, ended, observer?_setObserver_self there _,
      .inl rfl⟩

/-- All that a stream of a closed hub hears: an answer that is not pending, and its end at every
later poll. -/
lemma answers_of_closed (closed : h.isClosed = true)
    (there : h.observer? id = some (.stream c place first ended)) (old : id < h.nextId)
    {later : List Operation} (kept : .dropStream id ∉ later) :
    ∃ n given, given ≠ .pending ∧ answers id (h.history later) =
      (.polled n given :: List.replicate (later.count (.poll id)) (.polled 0 .ended)).take
        (later.count (.poll id)) := by
  induction later generalizing h with
  | nil => exact ⟨0, .ended, nofun, rfl⟩
  | cons o rest ih =>
    obtain ⟨stays, keeps⟩ := not_or.mp (mt List.mem_cons.mpr kept)
    have closed' := isClosed_step_of_closed closed o
    have old' := old.trans_le (nextId_step h o).1
    rw [answers_cons]
    by_cases poll : o = .poll id
    · subst poll
      obtain ⟨n, given, waits, answer, about⟩ := poll_of_closed closed there
      have keeps : ∀ o ∈ rest, some (.dropStream id) ≠ some o := by
        rintro o mem e
        exact keeps (Option.some.inj e ▸ mem)
      refine ⟨n, given, waits, ?_⟩
      rw [(promise_aboutToEnd id).answers_eq ⟨closed', old', about, rfl⟩ keeps, dueThenLast_nil,
        answer, heard?_poll, List.count_cons_self, List.take_succ_cons, List.take_replicate,
        Nat.min_eq_left (Nat.le_succ _)]
      rfl
    · obtain ⟨there, silent⟩ := left_alone there old poll fun e => stays (Option.some.inj e)
      obtain ⟨n, given, waits, heard⟩ := ih closed' there old' keeps
      refine ⟨n, given, waits, ?_⟩
      rw [silent, heard, List.count_cons_of_ne poll]
      rfl

/-- Answers that tell of the end give no event. -/
lemma notices_replicate_ended (k : Nat) :
    (List.replicate k (Answer.polled 0 .ended)).flatMap Answer.notices = [] := by
  rw [List.flatMap_eq_nil_iff]
  intro a mem
  rw [List.eq_of_mem_replicate mem]
  rfl

/-- One answer gives one event at most. -/
lemma length_given_notices_le (a : Answer) : (given a.notices).length ≤ 1 := by
  have none (n : Nat) : (skips n).filterMap Notice.event? = ([] : List Published) := by
    cases n <;> rfl
  unfold Answer.notices given
  split
  case h_1 n e =>
    rw [List.filterMap_append, none]
    exact le_rfl
  case h_2 n _ _ =>
    rw [none]
    exact Nat.zero_le 1
  all_goals simp [Notice.event?, List.filterMap_cons]

/-- Whatever is done with a closed hub from some moment on, every poll of a stream is answered, and
none is pending; from the second poll on all of them tell that the stream has ended, and it is given
one more event at most. -/
theorem closed_stream_ends (capacity : Nat) (ops later : List Operation) {id : Nat} {c : EventClass}
    {place : Nat} {first ended : Bool} (closed : ((new capacity).after ops).isClosed = true)
    (there : ((new capacity).after ops).observer? id = some (.stream c place first ended))
    (kept : .dropStream id ∉ later) :
    let entries := ((new capacity).after ops).history later
    let heard := answers id entries
    heard.length = later.count (.poll id) ∧
      (∀ a ∈ heard, ∃ n given, a = .polled n given ∧ given ≠ .pending) ∧
      (∀ a ∈ heard.tail, a = .polled 0 .ended) ∧
      (given (notices id entries)).length ≤ 1 := by
  intro entries heard
  have record := recorded capacity ops
  have old : id < ((new capacity).after ops).nextId := by
    by_contra new
    cases there.symm.trans (record.vacant id (Nat.le_of_not_lt new))
  obtain ⟨n, given', waits, eq⟩ := answers_of_closed closed there old kept
  have heard_eq : heard = _ := eq
  have told : notices id entries = heard.flatMap Answer.notices := rfl
  rw [told, heard_eq]
  cases polls : later.count (.poll id) with
  | zero => exact ⟨rfl, nofun, nofun, Nat.zero_le 1⟩
  | succ k =>
    rw [List.take_succ_cons, List.take_replicate, Nat.min_eq_left (Nat.le_succ k)]
    refine ⟨by simp, ?_, ?_, ?_⟩
    · intro a mem
      rcases List.mem_cons.mp mem with rfl | mem
      · exact ⟨n, given', rfl, waits⟩
      · exact ⟨0, .ended, List.eq_of_mem_replicate mem, nofun⟩
    · intro a mem
      exact List.eq_of_mem_replicate mem
    · rw [List.flatMap_cons, notices_replicate_ended, List.append_nil]
      exact length_given_notices_le _

/-- A stream with a backlog, which is polled between what others do: it is given one event and ends,
though one more was published. -/
theorem closed_stream_ends_with_backlog :
    let e : Published := .unspents ⟨none, []⟩
    let ops : List Operation :=
      [.openStream 0 .unspents, .publish 0 e, .publish 0 e, .publish 0 e, .close 0]
    let later : List Operation :=
      [.publish 0 e, .poll 1, .dropHandle 0, .openStream 0 .unspents, .poll 1, .poll 1]
    ((new 2).after ops).isClosed = true ∧
      ((new 2).after ops).observer? 1 = some (.stream .unspents 0 true false) ∧
      Operation.dropStream 1 ∉ later ∧
      answers 1 (((new 2).after ops).history later) =
        [.polled 2 (.item e), .polled 0 .ended, .polled 0 .ended] ∧
      (given (notices 1 (((new 2).after ops).history later))).length ≤ 1 := by
  intro e ops later
  have closed : ((new 2).after ops).isClosed = true := by decide
  have there : ((new 2).after ops).observer? 1 = some (.stream .unspents 0 true false) := by decide
  have kept : Operation.dropStream 1 ∉ later := by decide
  exact ⟨closed, there, kept, by decide, (closed_stream_ends 2 ops later closed there kept).2.2.2⟩

end WalletNotify.Hub
