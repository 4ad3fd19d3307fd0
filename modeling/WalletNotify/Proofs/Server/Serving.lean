import WalletNotify.Proofs.Server.Closing
import WalletNotify.Server.Serve

/-!
# Ends of served services

A server takes it for a failure if a task ends while the hub is open. No task does: the dispatcher
stops only at a closed hub, since the server keeps a handle, and the API ends only after the signal
has closed it. Main statement: `no_task_exits_early`.
-/

namespace WalletNotify.Server

/-- Of what happens, the API finishes only after the signal has been dealt with: its transport goes
on serving until it is told to shut down. -/
def ServesUntilSignal (s : Server) : List Happening → Prop
  | [] => True
  | h :: rest => (h = .apiFinishes → s.api ≠ .serving) ∧ (s.step h).ServesUntilSignal rest

instance instDecidableServesUntilSignal :
    (s : Server) → (happenings : List Happening) → Decidable (s.ServesUntilSignal happenings)
  | _, [] => isTrue trivial
  | s, h :: rest =>
    have := instDecidableServesUntilSignal (s.step h) rest
    inferInstanceAs (Decidable ((h = .apiFinishes → s.api ≠ .serving) ∧ _))

/-- What holds of a server all along. -/
structure Sound (s : Server) : Prop where
  keeps : s.hub.hasHandle ownHandle = true
  attentive : s.faults.lookup .dispatcher = none → s.service.Attentive
  broken : s.faults.lookup .dispatcher ≠ none →
    s.service.service.dispatcher.phase = .stopped ∧ s.service.next = .wait
  shut : s.api ≠ .serving → s.faults.lookup .api = none → s.hub.isClosed = true
  joined : ∀ t, t ∉ s.unjoined → s.hasEnded t = true
  result_ok : s.result = some (.ok ()) → s.unjoined = []
  pending : s.result = none → s.unjoined ≠ []
  failed : ∀ e, s.result = some (.error e) → s.faults ≠ [] ∧ ∀ t, e ≠ .taskExited t

variable {s : Server}

/-- The task of the dispatcher has ended exactly if the dispatcher has stopped. -/
lemma hasEnded_dispatcher :
    s.hasEnded .dispatcher = true ↔ s.service.service.dispatcher.phase = .stopped :=
  beq_iff_eq

/-- The task of the API has ended exactly if it is finished. -/
lemma hasEnded_api : s.hasEnded .api = true ↔ s.api = .finished := beq_iff_eq

/-- A task ends well exactly if it has ended without a fault. -/
lemma outcome?_eq_ok {t : Task} :
    s.outcome? t = some (.ok ()) ↔ s.hasEnded t = true ∧ s.faults.lookup t = none := by
  unfold outcome?
  cases s.hasEnded t <;> cases s.faults.lookup t <;> simp

/-- A task that ends badly has the fault that was recorded for it. -/
lemma outcome?_eq_error {t : Task} {fault : Fault} (failed : s.outcome? t = some (.error fault)) :
    s.faults.lookup t = some fault := by
  unfold outcome? at failed
  split at failed
  · split at failed
    case h_1 found => cases failed; exact found
    case h_2 => cases failed
  · cases failed

/-- A fault is that of its task, and the others are not forgotten. -/
lemma lookup_concat_eq_none {faults : List (Task × Fault)} {t u : Task} {fault : Fault} :
    (faults ++ [(u, fault)]).lookup t = none ↔ faults.lookup t = none ∧ t ≠ u := by
  rw [List.lookup_append, Option.or_eq_none_iff, List.lookup_cons]
  by_cases same : t = u
  · simp [same]
  · simp [same, beq_eq_false_iff_ne.mpr same]

namespace Sound

/-- A server that starts to serve is sound. -/
lemma serve (capacity : Nat) : Sound (serve (.new capacity)) where
  keeps := rfl
  attentive _ := Paced.attentive capacity [] .empty []
  broken failed := absurd rfl failed
  shut past := absurd rfl past
  joined t gone := by
    cases t with
    | dispatcher | api => exact absurd (by simp [Server.serve]) gone
  result_ok := nofun
  pending _ := nofun
  failed := nofun

/-- A task that has ended without fault has left a closed hub. -/
lemma isClosed_of_done (sound : Sound s) {t : Task} (done : s.outcome? t = some (.ok ())) :
    s.hub.isClosed = true := by
  obtain ⟨ended, faultless⟩ := outcome?_eq_ok.mp done
  cases t with
  | dispatcher =>
    rcases (sound.attentive faultless).ended (hasEnded_dispatcher.mp ended) with closed | gone
    · exact closed
    · -- The server's own handle is left.
      cases gone.symm.trans (Hub.isAlive_of_hasHandle sound.keeps)
  | api =>
    have finished := hasEnded_api.mp ended
    exact sound.shut (by simp [finished]) faultless

/-! ## Steps -/

/-- A dispatcher that has stopped is not in the middle of a turn. -/
lemma waits (sound : Sound s) (stopped : s.service.service.dispatcher.phase = .stopped) :
    s.service.next = .wait := by
  by_cases faultless : s.faults.lookup .dispatcher = none
  · exact (sound.attentive faultless).waits stopped
  · exact (sound.broken faultless).2

/-- Moves of the service keep what holds, but for the drop of the server's handle. -/
lemma move (sound : Sound s) {m : Move} (kept : m ≠ .operation (.hub (.dropHandle ownHandle))) :
    Sound { s with service := (s.service.step m).2 } where
  keeps := Paced.hasHandle_step sound.keeps kept
  attentive faultless := (sound.attentive faultless).step m
  broken failed := by
    obtain ⟨stopped, waits⟩ := sound.broken failed
    obtain ⟨stays, waits, -⟩ := Paced.step_of_stopped stopped waits m
    exact ⟨stays, waits⟩
  shut past faultless := Paced.isClosed_step (sound.shut past faultless) m
  joined t gone := by
    have ended := sound.joined t gone
    cases t with
    | dispatcher =>
      have stopped := hasEnded_dispatcher.mp ended
      exact hasEnded_dispatcher.mpr (Paced.step_of_stopped stopped (sound.waits stopped) m).1
    | api => exact ended
  result_ok := sound.result_ok
  pending := sound.pending
  failed := sound.failed

/-- The signal to stop closes the hub and keeps a server sound. -/
lemma signal (sound : Sound s) (serving : s.api = .serving) :
    Sound { s with
      service := (s.service.step (.operation (.hub (.close ownHandle)))).2
      api := .shuttingDown } := by
  have closed : (s.service.step (.operation (.hub (.close ownHandle)))).2.service.hub.isClosed =
      true := by
    change (s.hub.step (.close ownHandle)).2.isClosed = true
    exact Hub.isClosed_step_close sound.keeps
  have moved := sound.move (m := .operation (.hub (.close ownHandle))) nofun
  exact { moved with
    shut := fun _ _ => closed
    joined := fun t gone => by
      have ended := moved.joined t gone
      cases t with
      | dispatcher => exact ended
      | api => cases serving.symm.trans (hasEnded_api.mp ended) }

/-- A server stays sound when its API finishes after the signal. -/
lemma apiFinishes (sound : Sound s) (past : s.api ≠ .serving) :
    Sound { s with api := .finished } :=
  { sound with
    shut := fun _ faultless => sound.shut past faultless
    joined := fun t gone => by
      cases t with
      | dispatcher => exact sound.joined .dispatcher gone
      | api => rfl }

/-- A server stays sound when a task fails. -/
lemma failTask (sound : Sound s) (t : Task) (fault : Fault) : Sound (s.failTask t fault) := by
  unfold Server.failTask
  split
  case isTrue => exact sound
  case isFalse going =>
    -- The fault answers for its own task, and for the other nothing has changed.
    cases t with
    | dispatcher =>
      exact {
        keeps := sound.keeps
        attentive := fun faultless => absurd rfl (lookup_concat_eq_none.mp faultless).2
        broken := fun _ => ⟨rfl, rfl⟩
        shut := fun past faultless => sound.shut past (lookup_concat_eq_none.mp faultless).1
        joined := fun t gone => by
          cases t with
          | dispatcher => rfl
          | api => exact sound.joined .api gone
        result_ok := sound.result_ok
        pending := sound.pending
        failed := fun e failed => ⟨List.concat_ne_nil _ _, (sound.failed e failed).2⟩ }
    | api =>
      exact {
        keeps := sound.keeps
        attentive := fun faultless => sound.attentive (lookup_concat_eq_none.mp faultless).1
        broken := fun failed => sound.broken fun faultless =>
          failed (lookup_concat_eq_none.mpr ⟨faultless, nofun⟩)
        shut := fun _ faultless => absurd rfl (lookup_concat_eq_none.mp faultless).2
        joined := fun t gone => by
          cases t with
          | dispatcher => exact sound.joined .dispatcher gone
          | api => rfl
        result_ok := sound.result_ok
        pending := sound.pending
        failed := fun e failed => ⟨List.concat_ne_nil _ _, (sound.failed e failed).2⟩ }

/-- A server stays sound when a task is joined. -/
lemma joinTask (sound : Sound s) (t : Task) : Sound (s.joinTask t) := by
  unfold Server.joinTask
  split
  case isTrue => exact sound
  case isFalse due =>
    split
    case h_1 => exact sound
    case h_2 fault failed =>
      exact { sound with
        result_ok := nofun
        pending := nofun
        failed := fun e same => by
          cases same
          have found := outcome?_eq_error failed
          refine ⟨fun none => ?_, fun t => ?_⟩
          · rw [none] at found
            cases found
          · cases fault <;> nofun }
    case h_3 done =>
      rw [if_pos (sound.isClosed_of_done done)]
      have joined (u : Task) (gone : u ∉ s.unjoined.filter (· != t)) : s.hasEnded u = true := by
        by_cases same : u = t
        · exact same ▸ (outcome?_eq_ok.mp done).1
        · exact sound.joined u fun left => gone (List.mem_filter.mpr ⟨left, by simpa using same⟩)
      cases rest : s.unjoined.filter (· != t) with
      | nil =>
        exact { sound with
          joined := fun u _ => joined u (by rw [rest]; exact List.not_mem_nil)
          result_ok := fun _ => rfl
          pending := nofun
          failed := nofun }
      | cons u us =>
        exact { sound with
          joined := fun v gone => joined v (by rw [rest]; exact gone)
          result_ok := nofun
          pending := fun _ => List.cons_ne_nil u us
          failed := nofun }

/-- Every step keeps what holds, as long as the API finishes only after the signal. -/
lemma step (sound : Sound s) {h : Happening} (served : h = .apiFinishes → s.api ≠ .serving) :
    Sound (s.step h) := by
  unfold Server.step
  split
  case h_1 i =>
    split
    case isTrue => exact sound
    case isFalse other =>
      refine sound.move fun e => other ?_
      cases e
      rfl
  case h_2 m other => exact sound.move (other _)
  case h_3 =>
    split
    case isTrue serving => exact sound.signal serving
    case isFalse => exact sound
  case h_4 => exact sound.apiFinishes (served rfl)
  case h_5 causes => exact sound.failTask .api _
  case h_6 t report => exact sound.failTask t _
  case h_7 t => exact sound.joinTask t

/-- A server stays sound whatever happens, as long as the API serves until the signal. -/
lemma run (sound : Sound s) {happenings : List Happening}
    (served : s.ServesUntilSignal happenings) : Sound (s.run happenings) := by
  induction happenings generalizing s with
  | nil => exact sound
  | cons h rest ih =>
    obtain ⟨first, later⟩ := served
    exact ih (sound.step first) later

/-! ## Results -/

/-- Where no task failed, neither does the server. -/
lemma result_of_faultless (sound : Sound s) (faultless : s.faults = []) :
    s.result = none ∨ s.result = some (.ok ()) := by
  cases result : s.result with
  | none => exact .inl rfl
  | some r =>
    cases r with
    | error e => exact absurd faultless (sound.failed e result).1
    | ok => exact .inr rfl

/-- The server returns only after all tasks have ended. -/
lemma hasEnded_of_ok (sound : Sound s) (returned : s.result = some (.ok ())) (t : Task) :
    s.hasEnded t = true := by
  refine sound.joined t ?_
  rw [sound.result_ok returned]
  exact List.not_mem_nil

/-- To join a task that has ended without fault takes it off the others, if it was not joined
before. -/
lemma joinTask_of_ended (sound : Sound s) (faultless : s.faults = []) (waiting : s.result = none)
    {t : Task} (ended : s.hasEnded t = true) :
    s.joinTask t = { s with
      unjoined := s.unjoined.filter (· != t)
      result := if (s.unjoined.filter (· != t)).isEmpty then some (.ok ()) else none } := by
  have done : s.outcome? t = some (.ok ()) := outcome?_eq_ok.mpr ⟨ended, by rw [faultless]; rfl⟩
  unfold Server.joinTask
  by_cases left : t ∈ s.unjoined
  · simp [waiting, left, done, sound.isClosed_of_done done]
  · have same : s.unjoined.filter (· != t) = s.unjoined := by
      rw [List.filter_eq_self]
      intro u mem
      have ne : u ≠ t := fun e => left (e ▸ mem)
      simpa using ne
    have more : s.unjoined.isEmpty = false := by simpa using sound.pending waiting
    simp [left, same, more, ← waiting]

end Sound

/-- To join a task changes what is left to join and the result, and nothing else. -/
lemma joinTask_keeps (s : Server) (t : Task) :
    ∃ unjoined result, s.joinTask t = { s with unjoined, result } := by
  unfold joinTask
  split
  · exact ⟨_, _, rfl⟩
  · split
    · exact ⟨_, _, rfl⟩
    · exact ⟨_, _, rfl⟩
    · split <;> exact ⟨_, _, rfl⟩

/-- A server that has returned joins no task any more. -/
lemma joinTask_of_result (t : Task) {r : Except ServerError Unit} (returned : s.result = some r) :
    s.joinTask t = s := by
  simp [joinTask, returned]

/-- Whichever task is joined first, joining both makes the server return, if they have ended. -/
lemma result_join_join (sound : Sound s) (faultless : s.faults = []) {a b : Task} (ne : a ≠ b) :
    (s.run [.join a, .join b]).result = some (.ok ()) ↔ ∀ t, s.hasEnded t = true := by
  change ((s.joinTask a).joinTask b).result = _ ↔ _
  constructor
  · intro returned t
    have ended := ((sound.joinTask a).joinTask b).hasEnded_of_ok returned t
    obtain ⟨unjoined, result, eq⟩ := joinTask_keeps (s.joinTask a) b
    obtain ⟨unjoined', result', eq'⟩ := joinTask_keeps s a
    rw [eq, eq'] at ended
    cases t <;> exact ended
  · intro ended
    rcases sound.result_of_faultless faultless with waiting | returned
    · have first := sound.joinTask_of_ended faultless waiting (ended a)
      have faultless' : (s.joinTask a).faults = [] := by rw [first]; exact faultless
      rcases (sound.joinTask a).result_of_faultless faultless' with waiting' | returned
      · have ended' : (s.joinTask a).hasEnded b = true := by
          rw [first]
          have ended := ended b
          cases b <;> exact ended
        have none_left : (s.joinTask a).unjoined.filter (· != b) = [] := by
          rw [first, List.filter_filter, List.filter_eq_nil_iff]
          intro t _
          -- There is no third task.
          cases a <;> cases b <;> cases t <;> first | exact absurd rfl ne | decide
        rw [(sound.joinTask a).joinTask_of_ended faultless' waiting' ended', none_left]
        rfl
      · rw [joinTask_of_result b returned, returned]
    · rw [joinTask_of_result a returned, joinTask_of_result b returned, returned]

/-- Whatever is done through other handles and to the webhooks, also in the middle of a turn of the
dispatcher, and whenever the signal comes (it may not) and tasks end and are joined: a task that
ended without fault has left a closed hub, so that none is ever taken to have exited early. If no
task failed, neither did the server: it has returned only if both tasks have ended, and it returns
as soon as they have ended and are joined, in either order. -/
theorem no_task_exits_early (capacity : Nat) (happenings : List Happening)
    (served : (serve (.new capacity)).ServesUntilSignal happenings) :
    let s := (serve (.new capacity)).run happenings
    (∀ t, s.outcome? t = some (.ok ()) → s.hub.isClosed = true) ∧
      (∀ name, s.result ≠ some (.error (.taskExited name))) ∧
      (s.faults = [] →
        (s.result = none ∨ s.result = some (.ok ()) ∧ ∀ t, s.hasEnded t = true) ∧
        ∀ a b, a ≠ b →
          ((s.run [.join a, .join b]).result = some (.ok ()) ↔ ∀ t, s.hasEnded t = true)) := by
  intro s
  have sound : Sound s := (Sound.serve capacity).run served
  refine ⟨fun t => sound.isClosed_of_done, fun name failed => ?_, fun faultless => ⟨?_, ?_⟩⟩
  · exact (sound.failed _ failed).2 name rfl
  · exact (sound.result_of_faultless faultless).imp_right fun returned =>
      ⟨returned, sound.hasEnded_of_ok returned⟩
  · exact fun a b ne => result_join_join sound faultless ne

/-- An API that stops serving unasked is taken to have exited. -/
example : ((serve (.new 1)).run [.apiFinishes, .join .api]).result =
    some (.error (.taskExited "rpc")) := by
  rfl

/-- The program closes the hub before the dispatcher starts, and drops its handle; the dispatcher
ends before the signal comes, and the API after it. -/
theorem no_task_exits_early_after_close :
    let happenings : List Happening := [.service (.operation (.hub (.clone 0))),
      .service (.operation (.hub (.close 1))), .service (.operation .start), .join .dispatcher,
      .service (.operation (.hub (.dropHandle 1))), .signal, .apiFinishes]
    let s := (serve (.new 4)).run happenings
    (serve (.new 4)).ServesUntilSignal happenings ∧
      s.outcome? .api = some (.ok ()) ∧ s.hub.isClosed = true ∧
      s.result = none ∧ (s.run [.join .api, .join .dispatcher]).result = some (.ok ()) := by
  intro happenings s
  have served : (serve (.new 4)).ServesUntilSignal happenings := by decide
  obtain ⟨closed, -, returns⟩ := no_task_exits_early 4 happenings served
  have done : s.outcome? .api = some (.ok ()) := by decide
  have ended : ∀ t, s.hasEnded t = true := by
    intro t
    cases t <;> decide
  have api_first := (returns (by decide)).2 .api .dispatcher (by decide)
  exact ⟨served, done, closed .api done, by decide, api_first.mpr ended⟩

end WalletNotify.Server
