import WalletNotify.Proofs.Hub.History
import WalletNotify.Proofs.Webhook.Dispatcher
import WalletNotify.Server.Interleaving

/-!
# Turns in steps

What the steps of a turn do, with others in between. Main statements: a turn is its steps in a row
(`steps_of_turn`), so that what its steps keep is kept by it (`step_induction`) and runs of a
service are among those in steps (`run_operations`), all that a step may do (`step_paces`), and that
a dispatcher which runs watches a flag that it has not seen set yet (`attentive`).
-/

namespace WalletNotify.Webhook

open Event (EventClass)

namespace Dispatcher

variable {d : Dispatcher} {r : Registry} {h : Hub} {b : Branch}

/-! ## The first step -/

/-- The rules of the first step of a turn. -/
inductive Wakes (d : Dispatcher) (h : Hub) (b : Branch) :
    List Action → Next → Dispatcher × Hub → Prop where
  | idle :
    d.phase ≠ .running ∨ d.ready h b = false →
    Wakes d h b [] .wait (d, h)
  | given {c place e} :
    d.phase = .running →
    h.observer? (d.receiver b) = some (.receiver c place) →
    (h.receive c place).1 = .item e →
    Wakes d h b [] (.hand e)
      (d, h.setObserver (d.receiver b) (.receiver c (h.receive c place).2))
  | lags {c place n} :
    d.phase = .running →
    h.observer? (d.receiver b) = some (.receiver c place) →
    (h.receive c place).1 = .lagged n →
    Wakes d h b [.lagged c n] .look
      (d, h.setObserver (d.receiver b) (.receiver c (h.receive c place).2))
  | changed {seen} :
    d.phase = .running →
    h.observer? (d.receiver b) = some (.watcher seen) →
    h.closings ≠ seen →
    Wakes d h b [] .look (d, h)
  | ends :
    d.phase = .running →
    h.isAlive = false →
    Wakes d h b [] .wait (d.stop h)

/-- A receiver finds its channel closed only if nobody can publish. -/
lemma isAlive_of_received_closed {c : EventClass} {place : Nat}
    (closed : (h.receive c place).1 = .closed) : h.isAlive = false := by
  unfold Hub.receive at closed
  split at closed
  · cases closed
  · cases closed
  · split at closed
    case isTrue => cases closed
    case isFalse gone => exact Bool.eq_false_of_not_eq_true gone

/-- The first step of every turn follows the rules. -/
lemma wake_wakes (d : Dispatcher) (h : Hub) (b : Branch) :
    Wakes d h b (d.wake h b).1 (d.wake h b).2.1 (d.wake h b).2.2 := by
  unfold wake
  split
  case isTrue resting => exact .idle (.inl resting)
  case isFalse running =>
    have running : d.phase = .running := by simpa using running
    split
    case h_1 c place there =>
      split
      case h_1 e place' received =>
        simpa [received] using Wakes.given running there (congrArg Prod.fst received)
      case h_2 n place' received =>
        simpa [received] using Wakes.lags running there (congrArg Prod.fst received)
      case h_3 received =>
        exact .ends running (isAlive_of_received_closed (congrArg Prod.fst received))
      case h_4 received => exact .idle (.inr (by simp [ready, there, received]))
    case h_2 seen there =>
      split
      case isTrue changed => exact .changed running there (by simpa using changed)
      case isFalse same =>
        split
        case isTrue gone => exact .ends running (by simpa using gone)
        case isFalse alive =>
          refine .idle (.inr ?_)
          have same : h.closings = seen := by simpa using same
          simpa [ready, there, same] using alive
    case h_3 unread unwatched =>
      refine .idle (.inr ?_)
      unfold ready
      split
      case h_1 there => exact absurd there (unread _ _)
      case h_2 there => exact absurd there (unwatched _)
      case h_3 => rfl

/-- A turn is its steps in a row. -/
lemma proceed_eq (d : Dispatcher) (r : Registry) (h : Hub) (b : Branch) :
    d.proceed r h b =
      match d.wake h b with
      | (actions, .wait, d, h) => (actions, d, h)
      | (actions, .hand e, d, h) =>
        (actions ++ [.dispatched e (deliveriesOf r e)], d.enter h)
      | (actions, .look, d, h) => (actions, d.enter h) := by
  unfold proceed wake
  by_cases running : d.phase ≠ .running
  · rw [if_pos running, if_pos running]
  · rw [if_neg running, if_neg running]
    cases h.observer? (d.receiver b) with
    | none => rfl
    | some ob =>
      cases ob with
      | stream => rfl
      | receiver c place =>
        dsimp only
        generalize h.receive c place = received
        obtain ⟨found, place'⟩ := received
        cases found <;> rfl
      | watcher seen =>
        dsimp only
        split
        · rfl
        · split <;> rfl

/-! ## Attentive dispatchers -/

/-- A dispatcher that has not stopped has its watcher, and if it runs, the watcher has not seen the
flag set. One that is in the middle of a turn runs, and one that has stopped had a reason to. -/
structure Attentive (d : Dispatcher) (h : Hub) (next : Next) : Prop where
  opened : d.Opened h.nextId
  watches : d.phase ≠ .stopped →
    ∃ seen, h.observer? d.watcher = some (.watcher seen) ∧ (d.phase = .running → seen = 0)
  busy : next ≠ .wait → d.phase = .running
  ended : d.phase = .stopped → h.isClosed = true ∨ h.isAlive = false

namespace Attentive

variable {next : Next}

/-- A dispatcher that stops has a reason to, if the hub is closed or has no handle. -/
lemma stop (attentive : d.Attentive h next) (reason : h.isClosed = true ∨ h.isAlive = false) :
    (d.stop h).1.Attentive (d.stop h).2 .wait where
  opened := ⟨attentive.opened.receivers, attentive.opened.watcher, attentive.opened.next⟩
  watches going := absurd rfl going
  busy waits := absurd rfl waits
  ended _ := reason

/-- A dispatcher that enters the loop looks at the flag and goes on only if it is not set. -/
lemma enter (attentive : d.Attentive h next) (going : d.phase ≠ .stopped) :
    (d.enter h).1.Attentive (d.enter h).2 .wait := by
  rcases enter_cases d h with ⟨closed, entered⟩ | ⟨opened, entered⟩
  · rw [entered]
    exact attentive.stop (.inl closed)
  · rw [entered]
    obtain ⟨seen, there, -⟩ := attentive.watches going
    have unset : h.closings = 0 := by simpa [Hub.isClosed] using opened
    refine ⟨⟨attentive.opened.receivers, attentive.opened.watcher, attentive.opened.next⟩,
      fun _ => ⟨h.closings, ?_, fun _ => unset⟩, fun waits => absurd rfl waits, ?_⟩
    · rw [Hub.observer?_setObserver, if_pos rfl, there]
      rfl
    · intro stopped
      cases stopped

/-- Reading moves a receiver on and leaves the watcher alone. -/
lemma read (attentive : d.Attentive h next) (running : d.phase = .running) {c : EventClass}
    {place : Nat} (there : h.observer? (d.receiver b) = some (.receiver c place)) (n : Nat)
    (next' : Next) : d.Attentive (h.setObserver (d.receiver b) (.receiver c n)) next' where
  opened := attentive.opened
  watches going := by
    obtain ⟨seen, watches, unseen⟩ := attentive.watches going
    refine ⟨seen, ?_, unseen⟩
    rw [Hub.observer?_setObserver, if_neg]
    · exact watches
    · intro same
      rw [← same] at there
      cases there.symm.trans watches
  busy _ := running
  ended stopped := Phase.noConfusion (running.symm.trans stopped)

/-- The first step of a turn keeps a dispatcher attentive. -/
lemma wakes (attentive : d.Attentive h .wait) {actions : List Action} {s : Dispatcher × Hub}
    (wakes : Wakes d h b actions next s) : s.1.Attentive s.2 next := by
  cases wakes with
  | idle => exact attentive
  | given running there => exact attentive.read running there _ _
  | lags running there => exact attentive.read running there _ _
  | changed running =>
    exact ⟨attentive.opened, attentive.watches, fun _ => running, attentive.ended⟩
  | ends _ gone => exact attentive.stop (.inr gone)

/-- What others do with the hub keeps a dispatcher attentive. -/
lemma hub (attentive : d.Attentive h next) {o : Hub.Operation}
    (others : o.observer?.any d.owns = false) : d.Attentive (h.step o).2 next where
  opened := ⟨attentive.opened.receivers, attentive.opened.watcher,
    attentive.opened.next.trans_le (Hub.nextId_step h o).1⟩
  watches going := by
    obtain ⟨seen, watches, unseen⟩ := attentive.watches going
    refine ⟨seen, ?_, unseen⟩
    rw [Hub.observer?_step_of_ne (fun own => ?_) attentive.opened.next]
    · exact watches
    · simp [own, d.owns_watcher] at others
  busy := attentive.busy
  ended stopped := by
    rcases attentive.ended stopped with closed | gone
    · exact .inl (by rw [Hub.isClosed_step, closed, Bool.true_or])
    · exact .inr (Hub.step_of_gone gone o).1

end Attentive

/-- A dispatcher that has just subscribed is attentive. -/
lemma attentive_new (vacant : ∀ id, h.nextId ≤ id → h.observer? id = none) :
    (new h).1.Attentive (new h).2 .wait where
  opened := opened_new h
  watches _ := by
    obtain ⟨seen, watches⟩ := (attached_new vacant).watcher
    exact ⟨seen, watches, nofun⟩
  busy waits := absurd rfl waits
  ended := nofun

end Dispatcher

end WalletNotify.Webhook

namespace WalletNotify.Server

open Webhook (Action Dispatcher Next deliveriesOf)

/-! ## Moves and their steps -/

/-- The steps that a move is made of: a turn has three, and all else is one. -/
def Move.steps : Move → List Move
  | .operation (.turn b) => [.wake b, .hand, .look]
  | m => [m]

/-- No turn is a step of a move. -/
lemma Move.ne_turn_of_mem_steps {m m' : Move} (mem : m' ∈ m.steps) (b : Webhook.Branch) :
    m' ≠ .operation (.turn b) := by
  rintro rfl
  unfold steps at mem
  split at mem
  case h_1 => simp at mem
  case h_2 single => exact single b (List.mem_singleton.mp mem).symm

/-- An operation is a step of itself only. -/
lemma Move.eq_of_operation_mem_steps {m : Move} {o : Operation} (mem : .operation o ∈ m.steps) :
    m = .operation o := by
  unfold steps at mem
  split at mem
  case h_1 => simp at mem
  case h_2 => exact (List.mem_singleton.mp mem).symm

namespace Paced

/-- The service after moves. -/
def after (p : Paced) (moves : List Move) : Paced := (p.run moves).2

/-- What the dispatcher does in the course of moves. -/
def actions (p : Paced) (moves : List Move) : List Action :=
  (p.run moves).1.flatMap Answer.actions

/-- Moves go on from where the first one leads. -/
lemma after_cons (p : Paced) (m : Move) (rest : List Move) :
    p.after (m :: rest) = (p.step m).2.after rest := rfl

/-- What the dispatcher does in the course of moves starts with what it does in the first. -/
lemma actions_cons (p : Paced) (m : Move) (rest : List Move) :
    p.actions (m :: rest) = (p.step m).1.actions ++ (p.step m).2.actions rest := rfl

variable {p : Paced}

/-- The steps of a turn in a row do what the turn does. -/
lemma steps_of_turn (waits : p.next = .wait) (b : Webhook.Branch) :
    p.actions (Move.operation (.turn b)).steps = (p.step (.operation (.turn b))).1.actions ∧
      p.after (Move.operation (.turn b)).steps = (p.step (.operation (.turn b))).2 := by
  obtain ⟨s, next⟩ := p
  obtain rfl : next = .wait := waits
  simp only [Move.steps, after_cons, actions_cons, step, Service.step, Dispatcher.proceed_eq]
  obtain ⟨actions, next, d, h⟩ := s.dispatcher.wake s.hub b
  cases next with
  | wait => exact ⟨List.append_nil _, rfl⟩
  | hand e => exact ⟨rfl, rfl⟩
  | look => exact ⟨List.append_nil _, rfl⟩

/-- What holds of doing nothing, and of one thing after another if it holds of both, holds of moves
if it holds of each of them. -/
lemma run_induction {motive : Paced → List Action → Paced → Prop} {moves : List Move}
    (stay : ∀ p, motive p [] p)
    (join : ∀ {p q r as bs}, motive p as q → motive q bs r → motive p (as ++ bs) r)
    (each : ∀ p, ∀ m ∈ moves, motive p (p.step m).1.actions (p.step m).2) (p : Paced) :
    motive p (p.actions moves) (p.after moves) := by
  induction moves generalizing p with
  | nil => exact stay p
  | cons m rest ih =>
    rw [actions_cons, after_cons]
    refine join (each p m List.mem_cons_self) (ih ?_ _)
    exact fun p m mem => each p m (List.mem_cons_of_mem _ mem)

/-- What holds of the steps of a move in this way holds of the move. -/
lemma step_induction {motive : Paced → List Action → Paced → Prop} {m : Move}
    (stay : ∀ p, motive p [] p)
    (join : ∀ {p q r as bs}, motive p as q → motive q bs r → motive p (as ++ bs) r)
    (each : ∀ p, ∀ m' ∈ m.steps, motive p (p.step m').1.actions (p.step m').2) (p : Paced) :
    motive p (p.step m).1.actions (p.step m).2 := by
  unfold Move.steps at each
  split at each
  case h_1 b =>
    by_cases waits : p.next = .wait
    · obtain ⟨actions, after⟩ := steps_of_turn waits b
      rw [← actions, ← after]
      exact run_induction stay join each p
    · -- In the middle of a turn no other one begins.
      have idle : p.step (.operation (.turn b)) = (.turned [], p) := by simp only [step]
      rw [idle]
      exact stay p
  case h_2 => exact each p m (List.mem_singleton_self m)

/-- What the steps of a move keep is kept by the move. -/
lemma step_keeps {I : Paced → Prop} {m : Move} (before : I p)
    (each : ∀ p, ∀ m' ∈ m.steps, I p → I (p.step m').2) : I (p.step m).2 :=
  step_induction (motive := fun p _ q => I p → I q) (fun _ => id)
    (fun first second => second ∘ first) each p before

/-- What moves keep is kept by one after another. -/
lemma run_keeps {I : Paced → Prop} {moves : List Move} (before : I p)
    (each : ∀ p, ∀ m ∈ moves, I p → I (p.step m).2) : I (p.after moves) :=
  run_induction (motive := fun p _ q => I p → I q) (fun _ => id)
    (fun first second => second ∘ first) each p before

/-! ## The rules of steps -/

/-- The rules of a step: what the dispatcher does, and what it and the hub are then. -/
inductive Paces (p : Paced) : Move → List Action → Dispatcher → Hub → Next → Prop where
  | idle {m} : Paces p m [] p.service.dispatcher p.service.hub p.next
  | others {o} :
    o.observer?.any p.service.dispatcher.owns = false →
    Paces p (.operation (.hub o)) [] p.service.dispatcher (p.service.hub.step o).2 p.next
  | starts :
    p.service.dispatcher.phase = .notStarted →
    Paces p (.operation .start) [] (p.service.dispatcher.enter p.service.hub).1
      (p.service.dispatcher.enter p.service.hub).2 p.next
  | wakes {b actions s next} :
    p.next = .wait →
    p.service.dispatcher.Wakes p.service.hub b actions next s →
    Paces p (.wake b) actions s.1 s.2 next
  | hands {e} :
    p.next = .hand e →
    Paces p .hand [.dispatched e (deliveriesOf p.service.registry e)] p.service.dispatcher
      p.service.hub .look
  | looks :
    p.next = .look →
    Paces p .look [] (p.service.dispatcher.enter p.service.hub).1
      (p.service.dispatcher.enter p.service.hub).2 .wait

/-- Every step of a move follows the rules. -/
lemma step_paces (p : Paced) {m m' : Move} (mem : m' ∈ m.steps) :
    Paces p m' (p.step m').1.actions (p.step m').2.service.dispatcher (p.step m').2.service.hub
      (p.step m').2.next := by
  cases m' with
  | operation o =>
    cases o with
    | hub o =>
      simp only [step, Service.step]
      split
      case isTrue => exact .idle
      case isFalse others => exact .others (Bool.eq_false_of_not_eq_true others)
    | add | remove =>
      simp only [step, Service.step]
      split <;> exact .idle
    | start =>
      simp only [step, Service.step, Dispatcher.start]
      split
      case isTrue resting => exact .starts resting
      case isFalse => exact .idle
    | turn b => exact absurd rfl (Move.ne_turn_of_mem_steps mem b)
  | wake b =>
    simp only [step]
    split
    case h_1 waits => exact .wakes waits (p.service.dispatcher.wake_wakes p.service.hub b)
    case h_2 => exact .idle
  | hand =>
    simp only [step]
    split
    case h_1 e holds => exact .hands holds
    case h_2 => exact .idle
  | look =>
    simp only [step]
    split
    case h_1 due => exact .looks due
    case h_2 => exact .idle

/-! ## Attentive services -/

/-- The dispatcher is attentive. -/
def Attentive (p : Paced) : Prop := p.service.dispatcher.Attentive p.service.hub p.next

/-- Every step keeps the dispatcher attentive. -/
lemma Attentive.paces (attentive : p.Attentive) {m : Move} {actions : List Action} {d : Dispatcher}
    {h : Hub} {next : Next} (paces : Paces p m actions d h next) : d.Attentive h next := by
  unfold Attentive at attentive
  cases paces with
  | idle => exact attentive
  | others others => exact attentive.hub others
  | starts resting =>
    have waits : p.next = .wait := by
      by_contra busy
      exact Webhook.Phase.noConfusion (resting.symm.trans (attentive.busy busy))
    rw [waits]
    exact attentive.enter (by simp [resting])
  | wakes waits wakes =>
    rw [waits] at attentive
    exact attentive.wakes wakes
  | hands holds =>
    exact ⟨attentive.opened, attentive.watches, fun _ => attentive.busy (by simp [holds]),
      attentive.ended⟩
  | looks due =>
    have running := attentive.busy (by simp [due])
    exact attentive.enter (by simp [running])

/-- Every move keeps the dispatcher attentive. -/
lemma Attentive.step (attentive : p.Attentive) (m : Move) : (p.step m).2.Attentive :=
  step_keeps attentive fun p _ mem attentive => attentive.paces (p.step_paces mem)

/-- Moves keep the dispatcher attentive. -/
lemma Attentive.after (attentive : p.Attentive) (moves : List Move) : (p.after moves).Attentive :=
  run_keeps attentive fun _ m _ attentive => attentive.step m

/-- After every run of a service around a hub the dispatcher is attentive. -/
lemma attentive (capacity : Nat) (before : List Hub.Operation) (r : Webhook.Registry)
    (moves : List Move) :
    ((of (.of ((Hub.new capacity).after before) r)).after moves).Attentive := by
  have start : (of (.of ((Hub.new capacity).after before) r)).Attentive :=
    Dispatcher.attentive_new (Hub.recorded capacity before).vacant
  exact start.after moves

end Paced

end WalletNotify.Server
