import WalletNotify.Proofs.Hub.Ending
import WalletNotify.Proofs.Server.Interleaving

/-!
# Stopping on close

A dispatcher stops once the hub is closed, wherever in a turn the closing finds it. Main statement:
`dispatcher_stops_on_close`. From the closing on it does one thing more at most, it is never more
than three steps from its stop, and the next of them can be taken; an open hub with a handle left
does not stop it.
-/

namespace WalletNotify.Webhook.Dispatcher

variable {d : Dispatcher} {h : Hub} {b : Branch}

/-! ## Steps at a closed hub -/

/-- Entering the loop of a closed hub is to stop. -/
lemma phase_enter_of_closed (closed : h.isClosed = true) : (d.enter h).1.phase = .stopped := by
  rw [enter, if_pos closed]
  rfl

/-- Of the hub, a dispatcher moves observers only. -/
lemma enter_keeps (d : Dispatcher) (h : Hub) :
    (d.enter h).2 = { h with observers := (d.enter h).2.observers } := by
  rw [enter_snd]

/-- Of the hub, the first step of a turn moves observers only. -/
lemma Wakes.keeps {actions : List Action} {next : Next} {s : Dispatcher × Hub}
    (wakes : Wakes d h b actions next s) : s.2 = { h with observers := s.2.observers } := by
  cases wakes <;> rfl

end WalletNotify.Webhook.Dispatcher

namespace WalletNotify.Server

open Webhook (Action Dispatcher Next Phase Registry)

namespace Paced

variable {p : Paced}

/-! ## Closed hubs -/

/-- How many steps a dispatcher is from its stop at most, if the hub is closed. -/
def stepsLeft : Phase × Next → Nat
  | (.notStarted, _) => 1
  | (.running, .wait) => 3
  | (.running, .hand _) => 2
  | (.running, .look) => 1
  | (.stopped, _) => 0

/-- How many things a dispatcher does before its stop at most, if the hub is closed. -/
def actionsLeft : Phase × Next → Nat
  | (.running, .wait) => 1
  | (.running, .hand _) => 1
  | _ => 0

/-- A dispatcher is three steps from its stop at most. -/
lemma stepsLeft_le (stage : Phase × Next) : stepsLeft stage ≤ 3 := by
  unfold stepsLeft
  split <;> omega

/-- A dispatcher does one thing more at most. -/
lemma actionsLeft_le (stage : Phase × Next) : actionsLeft stage ≤ 1 := by
  unfold actionsLeft
  split <;> omega

/-- A step does something to the hub, or it moves observers of the dispatcher only. -/
lemma Paces.hub_cases {m : Move} {actions : List Action} {d : Dispatcher} {h : Hub} {next : Next}
    (paces : Paces p m actions d h next) :
    (∃ o, m = .operation (.hub o) ∧ h = (p.service.hub.step o).2) ∨
      ∃ observers, h = { p.service.hub with observers } := by
  cases paces with
  | idle | hands => exact .inr ⟨_, rfl⟩
  | @others o => exact .inl ⟨o, rfl, rfl⟩
  | starts | looks => exact .inr ⟨_, Dispatcher.enter_keeps _ _⟩
  | wakes _ wakes => exact .inr ⟨_, wakes.keeps⟩

/-- A closed hub stays closed. -/
lemma isClosed_step (closed : p.service.hub.isClosed = true) (m : Move) :
    (p.step m).2.service.hub.isClosed = true := by
  refine step_keeps (I := fun p => p.service.hub.isClosed = true) closed fun p m' mem closed => ?_
  rcases (p.step_paces mem).hub_cases with ⟨o, -, eq⟩ | ⟨observers, eq⟩
  · rw [eq]
    exact Hub.isClosed_step_of_closed closed o
  · rw [eq]
    exact closed

/-- A handle that is kept is left after every move. -/
lemma hasHandle_step {i : Nat} (left : p.service.hub.hasHandle i = true) {m : Move}
    (kept : m ≠ .operation (.hub (.dropHandle i))) :
    (p.step m).2.service.hub.hasHandle i = true := by
  refine step_keeps (I := fun p => p.service.hub.hasHandle i = true) left fun p m' mem left => ?_
  rcases (p.step_paces mem).hub_cases with ⟨o, rfl, eq⟩ | ⟨observers, eq⟩
  · rw [eq]
    refine Hub.hasHandle_step left ?_
    rintro rfl
    exact kept (Move.eq_of_operation_mem_steps mem)
  · rw [eq]
    exact left

/-- A closed hub stays closed whatever is done. -/
lemma isClosed_after (closed : p.service.hub.isClosed = true) (later : List Move) :
    (p.after later).service.hub.isClosed = true :=
  run_keeps (I := fun p => p.service.hub.isClosed = true) closed fun _ m _ closed =>
    isClosed_step closed m

/-- The dispatcher is where it was and has done nothing, or it is nearer to its stop. What it has
done on the way counts. -/
def Nears (p : Paced) (actions : List Action) (stage : Phase × Next) : Prop :=
  stage = p.stage ∧ actions = [] ∨
    stepsLeft stage < stepsLeft p.stage ∧
      actions.length + actionsLeft stage ≤ actionsLeft p.stage

/-- To come nearer twice is to come nearer. -/
lemma Nears.trans {q : Paced} {first second : List Action} {stage : Phase × Next}
    (here : p.Nears first q.stage) (there : q.Nears second stage) :
    p.Nears (first ++ second) stage := by
  rcases here with ⟨same, rfl⟩ | ⟨nearer, fewer⟩
  · rw [Nears, same] at there
    exact there
  · refine .inr ?_
    rw [List.length_append]
    rcases there with ⟨same, rfl⟩ | ⟨nearer', fewer'⟩
    · rw [same]
      exact ⟨nearer, by simpa using fewer⟩
    · exact ⟨nearer'.trans nearer, by omega⟩

/-- A step at a closed hub leaves the dispatcher where it is or brings it nearer to its stop. -/
lemma Paces.nears {m : Move} {actions : List Action} {d : Dispatcher} {h : Hub} {next : Next}
    (paces : Paces p m actions d h next) (attentive : p.Attentive)
    (closed : p.service.hub.isClosed = true) : p.Nears actions (d.phase, next) := by
  have running (busy : p.next ≠ .wait) : p.service.dispatcher.phase = .running :=
    attentive.busy busy
  unfold Nears stage
  cases paces with
  | idle | others => exact .inl ⟨rfl, rfl⟩
  | starts resting =>
    rw [Dispatcher.phase_enter_of_closed closed, resting]
    exact .inr ⟨Nat.one_pos, Nat.zero_le _⟩
  | wakes waits wakes =>
    rw [waits]
    cases wakes with
    | idle => exact .inl ⟨rfl, rfl⟩
    | given running =>
      rw [running]
      exact .inr ⟨Nat.lt_succ_self 2, le_rfl⟩
    | lags running =>
      rw [running]
      exact .inr ⟨Nat.lt_add_of_pos_left Nat.two_pos, le_rfl⟩
    | changed running =>
      rw [running]
      exact .inr ⟨Nat.lt_add_of_pos_left Nat.two_pos, Nat.zero_le 1⟩
    | ends running =>
      rw [running]
      exact .inr ⟨Nat.succ_pos 2, Nat.zero_le 1⟩
  | hands holds =>
    rw [running (by simp [holds]), holds]
    exact .inr ⟨Nat.lt_succ_self 1, le_rfl⟩
  | looks due =>
    rw [Dispatcher.phase_enter_of_closed closed, running (by simp [due]), due]
    exact .inr ⟨Nat.one_pos, le_rfl⟩

/-- A move at a closed hub leaves the dispatcher where it is or brings it nearer to its stop. -/
lemma step_of_closed (attentive : p.Attentive) (closed : p.service.hub.isClosed = true) (m : Move) :
    p.Nears (p.step m).1.actions (p.step m).2.stage := by
  -- What comes before the next step is kept along, as it is needed there.
  refine (step_induction
    (motive := fun p actions q => p.Attentive ∧ p.service.hub.isClosed = true →
      (q.Attentive ∧ q.service.hub.isClosed = true) ∧ p.Nears actions q.stage)
    (fun p start => ⟨start, .inl ⟨rfl, rfl⟩⟩) ?_ ?_ p ⟨attentive, closed⟩).2
  · intro p q r first second here there start
    obtain ⟨amid, near⟩ := here start
    obtain ⟨after, nearer⟩ := there amid
    exact ⟨after, near.trans nearer⟩
  · intro p m' mem start
    obtain ⟨attentive, closed⟩ := start
    exact ⟨⟨attentive.step m', isClosed_step closed m'⟩,
      (p.step_paces mem).nears attentive closed⟩

/-- From the closing on every step of the dispatcher and all it does come off what is left. -/
lemma run_of_closed (attentive : p.Attentive) (closed : p.service.hub.isClosed = true)
    (later : List Move) :
    p.advances later + stepsLeft (p.after later).stage ≤ stepsLeft p.stage ∧
      (p.actions later).length + actionsLeft (p.after later).stage ≤ actionsLeft p.stage := by
  induction later generalizing p with
  | nil =>
    exact ⟨(Nat.zero_add _).le, (Nat.zero_add _).le⟩
  | cons m rest ih =>
    obtain ⟨steps, actions⟩ := ih (attentive.step m) (isClosed_step closed m)
    rw [after_cons, actions_cons, advances, List.length_append]
    rcases step_of_closed attentive closed m with ⟨same, idle⟩ | ⟨nearer, fewer⟩
    · rw [if_pos same, idle, ← same, List.length_nil]
      exact ⟨by omega, by omega⟩
    · have moved : (p.step m).2.stage ≠ p.stage := fun same => by
        rw [same] at nearer
        exact lt_irrefl _ nearer
      rw [if_neg moved]
      exact ⟨by omega, by omega⟩

/-- A dispatcher that has not stopped at a closed hub can take its next step. -/
lemma can_advance (attentive : p.Attentive) (closed : p.service.hub.isClosed = true)
    (going : p.service.dispatcher.phase ≠ .stopped) :
    ∃ m ∈ [Move.operation .start, .wake .flag, .hand, .look], (p.step m).2.stage ≠ p.stage := by
  have stops (q : Paced) (stopped : q.service.dispatcher.phase = .stopped) : q.stage ≠ p.stage :=
    fun same => going ((congrArg Prod.fst same).symm.trans stopped)
  cases next : p.next with
  | wait =>
    cases phase : p.service.dispatcher.phase with
    | notStarted =>
      refine ⟨.operation .start, by simp, ?_⟩
      have started : (p.step (.operation .start)).2.service.dispatcher.phase = .stopped := by
        simp only [step, Service.step, Dispatcher.start, if_pos phase]
        exact Dispatcher.phase_enter_of_closed closed
      exact stops _ started
    | running =>
      -- The watcher has not seen the flag set, so the flag wakes the dispatcher.
      obtain ⟨seen, watches, unseen⟩ := attentive.watches going
      obtain rfl := unseen phase
      have set : (p.service.hub.closings != 0) = true := by
        simpa [Hub.isClosed, Nat.pos_iff_ne_zero] using closed
      refine ⟨.wake .flag, by simp, ?_⟩
      have woken : p.service.dispatcher.wake p.service.hub .flag =
          ([], .look, p.service.dispatcher, p.service.hub) := by
        simp [Dispatcher.wake, phase, Dispatcher.receiver, watches, set]
      simp only [step, next, woken, stage]
      intro same
      cases congrArg Prod.snd same
    | stopped => exact absurd phase going
  | hand e =>
    refine ⟨.hand, by simp, ?_⟩
    simp only [step, next, stage]
    intro same
    cases congrArg Prod.snd same
  | look =>
    refine ⟨.look, by simp, ?_⟩
    have looked : (p.step .look).2.service.dispatcher.phase = .stopped := by
      simp only [step, next]
      exact Dispatcher.phase_enter_of_closed closed
    exact stops _ looked

/-! ## Stopped dispatchers -/

/-- A dispatcher that has stopped, and not in the middle of a turn, has no step left to do. -/
lemma Paces.rests {m : Move} {actions : List Action} {d : Dispatcher} {h : Hub} {next : Next}
    (paces : Paces p m actions d h next) (stopped : p.service.dispatcher.phase = .stopped)
    (waits : p.next = .wait) : d.phase = .stopped ∧ next = .wait ∧ actions = [] := by
  cases paces with
  | idle | others => exact ⟨stopped, waits, rfl⟩
  | starts resting => cases stopped.symm.trans resting
  | wakes _ wakes =>
    cases wakes with
    | idle => exact ⟨stopped, rfl, rfl⟩
    | given running | lags running | changed running | ends running =>
      cases stopped.symm.trans running
  | hands holds => cases waits.symm.trans holds
  | looks due => cases waits.symm.trans due

/-- A dispatcher that has stopped, and not in the middle of a turn, does nothing more. -/
lemma step_of_stopped (stopped : p.service.dispatcher.phase = .stopped) (waits : p.next = .wait)
    (m : Move) :
    (p.step m).2.service.dispatcher.phase = .stopped ∧ (p.step m).2.next = .wait ∧
      (p.step m).1.actions = [] := by
  refine step_induction
    (motive := fun p actions q => p.service.dispatcher.phase = .stopped → p.next = .wait →
      q.service.dispatcher.phase = .stopped ∧ q.next = .wait ∧ actions = [])
    (fun _ stopped waits => ⟨stopped, waits, rfl⟩) ?_ ?_ p stopped waits
  · intro p q r first second here there stopped waits
    obtain ⟨stays, amid, rfl⟩ := here stopped waits
    exact there stays amid
  · intro p m' mem stopped waits
    exact (p.step_paces mem).rests stopped waits

/-- An attentive dispatcher does not stop in the middle of a turn. -/
lemma Attentive.waits (attentive : p.Attentive)
    (stopped : p.service.dispatcher.phase = .stopped) : p.next = .wait := by
  by_contra busy
  exact Phase.noConfusion (stopped.symm.trans (attentive.busy busy))

/-- A dispatcher that has stopped does nothing more. -/
lemma run_of_stopped (attentive : p.Attentive)
    (stopped : p.service.dispatcher.phase = .stopped) (later : List Move) :
    (p.after later).service.dispatcher.phase = .stopped ∧ p.actions later = [] := by
  induction later generalizing p with
  | nil => exact ⟨stopped, rfl⟩
  | cons m rest ih =>
    obtain ⟨stays, -, idle⟩ := step_of_stopped stopped (attentive.waits stopped) m
    obtain ⟨stays, rests⟩ := ih (attentive.step m) stays
    rw [after_cons, actions_cons, idle, rests]
    exact ⟨stays, rfl⟩

end Paced

/-- Whatever is done in whatever order, also between the steps of a turn: a dispatcher has stopped
only if the hub is closed or no handle is left, and does nothing more then. Once the hub is closed
it does one thing more at most, and takes three steps at most; until it has stopped it can take
one. -/
theorem dispatcher_stops_on_close (capacity : Nat) (before : List Hub.Operation) (r : Registry)
    (moves later : List Move) :
    let p := (Paced.of (.of ((Hub.new capacity).after before) r)).after moves
    let q := p.after later
    (p.service.dispatcher.phase = .stopped →
      (p.service.hub.isClosed = true ∨ p.service.hub.isAlive = false) ∧
        p.actions later = [] ∧ q.service.dispatcher.phase = .stopped) ∧
    (p.service.hub.isClosed = true →
      (p.actions later).length ≤ 1 ∧ p.advances later ≤ 3 ∧
        (q.service.dispatcher.phase ≠ .stopped →
          ∃ m ∈ [Move.operation .start, .wake .flag, .hand, .look],
            (q.step m).2.stage ≠ q.stage)) := by
  intro p q
  have attentive : p.Attentive := Paced.attentive capacity before r moves
  constructor
  · intro stopped
    obtain ⟨stays, idle⟩ := Paced.run_of_stopped attentive stopped later
    exact ⟨attentive.ended stopped, idle, stays⟩
  · intro closed
    obtain ⟨steps, actions⟩ := Paced.run_of_closed attentive closed later
    have fewSteps := Paced.stepsLeft_le p.stage
    have fewActions := Paced.actionsLeft_le p.stage
    refine ⟨by omega, by omega, fun going => ?_⟩
    exact Paced.can_advance (attentive.after later) (Paced.isClosed_after closed later) going

/-- The hub is closed, through another handle, while the dispatcher holds an event of one class and
has one of the other to read: it hands on the one it holds, and stops. -/
theorem dispatcher_stops_on_close_amid_turn :
    let t : Event.Published := .transaction ⟨none, "t", [], none⟩
    let u : Event.Published := .unspents ⟨none, []⟩
    let moves : List Move := [.operation (.hub (.clone 0)), .operation (.hub (.publish 0 t)),
      .operation (.hub (.publish 1 u)), .operation .start, .wake .unspents,
      .operation (.hub (.close 1))]
    let later : List Move := [.operation (.hub (.publish 0 u)), .hand, .wake .transactions, .look,
      .operation (.hub (.publish 0 t)), .operation (.turn .transactions)]
    let p := (Paced.of (.of ((Hub.new 4).after []) .empty)).after moves
    p.service.hub.isClosed = true ∧ p.actions later = [.dispatched u []] ∧
      (p.after later).service.dispatcher.phase = .stopped ∧
      (p.actions later).length ≤ 1 ∧ p.advances later ≤ 3 ∧
      (p.after later).actions later = [] := by
  intro t u moves later p
  have closed : p.service.hub.isClosed = true := by decide
  have stopped : (p.after later).service.dispatcher.phase = .stopped := by decide
  obtain ⟨few, near, -⟩ := (dispatcher_stops_on_close 4 [] .empty moves later).2 closed
  refine ⟨closed, by decide, stopped, few, near, ?_⟩
  exact ((dispatcher_stops_on_close 4 [] .empty (moves ++ later) later).1 stopped).2.1

end WalletNotify.Server
