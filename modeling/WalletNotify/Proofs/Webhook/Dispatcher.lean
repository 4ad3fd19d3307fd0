import WalletNotify.Proofs.Hub.Poll
import WalletNotify.Webhook.Dispatcher

/-!
# What a turn does

The turns of a dispatcher. Main statements: all that a turn may do (`proceed_proceeds`), that it
enters the loop or leaves it (`enter_cases`).
-/

namespace WalletNotify.Webhook

open Event (EventClass Published)
open Hub (Notice Received)

/-- The branch for the events of a class. -/
def Branch.of : EventClass → Branch
  | .transaction => .transactions
  | .unspents => .unspents

/-- What an action tells of the events of a class: one was handed on, or some were lost. -/
def Action.notice? (c : EventClass) : Action → Option (Notice Published)
  | .dispatched e _ => if e.eventClass = c then some (.given e) else none
  | .lagged c' n => if c' = c then some (.skipped n) else none

namespace Dispatcher

variable {d : Dispatcher} {r : Registry} {h : Hub} {b : Branch}

/-! ## Rules -/

/-- The rules of a turn. -/
inductive Proceeds (d : Dispatcher) (r : Registry) (h : Hub) (b : Branch) :
    List Action → Dispatcher × Hub → Prop where
  | idle :
    d.phase ≠ .running ∨ d.ready h b = false →
    Proceeds d r h b [] (d, h)
  | hands {c place e} :
    d.phase = .running →
    h.observer? (d.receiver b) = some (.receiver c place) →
    (h.receive c place).1 = .item e →
    Proceeds d r h b [.dispatched e (deliveriesOf r e)]
      (d.enter (h.setObserver (d.receiver b) (.receiver c (h.receive c place).2)))
  | lags {c place n} :
    d.phase = .running →
    h.observer? (d.receiver b) = some (.receiver c place) →
    (h.receive c place).1 = .lagged n →
    Proceeds d r h b [.lagged c n]
      (d.enter (h.setObserver (d.receiver b) (.receiver c (h.receive c place).2)))
  | exhausted {c place} :
    d.phase = .running →
    h.observer? (d.receiver b) = some (.receiver c place) →
    (h.receive c place).1 = .closed →
    Proceeds d r h b [] (d.stop h)
  | changed {seen} :
    d.phase = .running →
    h.observer? (d.receiver b) = some (.watcher seen) →
    h.closings ≠ seen →
    Proceeds d r h b [] (d.enter h)
  | abandoned {seen} :
    d.phase = .running →
    h.observer? (d.receiver b) = some (.watcher seen) →
    h.closings = seen →
    h.isAlive = false →
    Proceeds d r h b [] (d.stop h)

/-- Every turn follows the rules. -/
lemma proceed_proceeds (d : Dispatcher) (r : Registry) (h : Hub) (b : Branch) :
    Proceeds d r h b (d.proceed r h b).1 (d.proceed r h b).2 := by
  unfold proceed
  split
  case isTrue resting => exact .idle (.inl resting)
  case isFalse running =>
    have running : d.phase = .running := by simpa using running
    split
    case h_1 c place there =>
      split
      case h_1 e place' received =>
        simpa [received] using Proceeds.hands (r := r) running there (congrArg Prod.fst received)
      case h_2 n place' received =>
        simpa [received] using Proceeds.lags (r := r) running there (congrArg Prod.fst received)
      case h_3 received => exact .exhausted running there (congrArg Prod.fst received)
      case h_4 received => exact .idle (.inr (by simp [ready, there, received]))
    case h_2 seen there =>
      split
      case isTrue changed => exact .changed running there (by simpa using changed)
      case isFalse same =>
        have same : h.closings = seen := by simpa using same
        split
        case isTrue gone => exact .abandoned running there same (by simpa using gone)
        case isFalse alive =>
          exact .idle (.inr (by simpa [ready, there, same] using alive))
    case h_3 unread unwatched =>
      refine .idle (.inr ?_)
      unfold ready
      split
      case h_1 there => exact absurd there (unread _ _)
      case h_2 there => exact absurd there (unwatched _)
      case h_3 => rfl

/-! ## What a turn leaves alone -/

/-- Entering the loop looks at the flag once more. -/
lemma enter_cases (d : Dispatcher) (h : Hub) :
    (h.isClosed = true ∧ d.enter h = d.stop h) ∨
    (h.isClosed = false ∧ d.enter h =
      ({ d with phase := .running }, h.setObserver d.watcher (.watcher h.closings))) := by
  unfold enter
  cases closed : h.isClosed with
  | true => exact .inl ⟨rfl, rfl⟩
  | false => exact .inr ⟨rfl, rfl⟩

/-- Entering changes nothing of the dispatcher but its phase. -/
lemma enter_fst (d : Dispatcher) (h : Hub) :
    (d.enter h).1 = { d with phase := (d.enter h).1.phase } := by
  unfold enter
  split <;> rfl

/-- Entering changes nothing of the hub but its observers. -/
lemma enter_snd (d : Dispatcher) (h : Hub) :
    (d.enter h).2 = { h with observers := (d.enter h).2.observers } := by
  unfold enter
  split <;> rfl

/-- A dispatcher stops on entering only if it finds the hub closed. -/
lemma enter_of_open (opened : (d.enter h).2.isClosed = false) : (d.enter h).1.phase ≠ .stopped := by
  rw [enter_snd] at opened
  rcases enter_cases d h with ⟨closed, -⟩ | ⟨-, entered⟩
  · exact absurd (closed.symm.trans opened) Bool.true_eq_false.mp
  · rw [entered]
    exact Phase.noConfusion

/-! ## Observers of a dispatcher -/

/-- The dispatcher's observers are three, and were opened before the next one. -/
structure Opened (d : Dispatcher) (next : Nat) : Prop where
  receivers : d.transactions < d.unspents
  watcher : d.unspents < d.watcher
  next : d.watcher < next

namespace Opened

variable {next : Nat}

/-- No receiver of a dispatcher is its watcher. -/
lemma receiver_ne_watcher (opened : Opened d next) (c : EventClass) :
    d.receiver (.of c) ≠ d.watcher := by
  obtain ⟨receivers, watcher, -⟩ := opened
  cases c with
  | transaction => exact (receivers.trans watcher).ne
  | unspents => exact watcher.ne

/-- A dispatcher has one receiver for each class. -/
lemma receiver_inj (opened : Opened d next) {c c' : EventClass} :
    d.receiver (.of c) = d.receiver (.of c') ↔ c = c' := by
  have receivers := opened.receivers
  cases c <;> cases c' <;> simp [receiver, Branch.of, receivers.ne, receivers.ne']

/-- The receivers of a dispatcher have ids that were given out. -/
lemma receiver_lt (opened : Opened d next) (c : EventClass) : d.receiver (.of c) < next := by
  obtain ⟨receivers, watcher, lt⟩ := opened
  cases c with
  | transaction => exact (receivers.trans watcher).trans lt
  | unspents => exact watcher.trans lt

end Opened

/-- A dispatcher owns its receivers. -/
lemma owns_receiver (d : Dispatcher) (c : EventClass) : d.owns (d.receiver (.of c)) = true := by
  cases c <;> simp [owns, receiver, Branch.of]

/-- A dispatcher owns its watcher. -/
lemma owns_watcher (d : Dispatcher) : d.owns d.watcher = true := by
  simp [owns]

/-- The dispatcher has its receivers, at these places, and its watcher. -/
structure Attached (d : Dispatcher) (h : Hub) (place : EventClass → Nat) : Prop where
  receiver : ∀ c, h.observer? (d.receiver (.of c)) = some (.receiver c (place c))
  watcher : ∃ seen, h.observer? d.watcher = some (.watcher seen)

namespace Attached

variable {place : EventClass → Nat} {next : Nat}

/-- Only the branch of a class reads events, and those of this class. -/
lemma of_receiver (attached : Attached d h place) {c : EventClass} {n : Nat}
    (there : h.observer? (d.receiver b) = some (.receiver c n)) : b = .of c ∧ n = place c := by
  cases b with
  | transactions =>
    cases there.symm.trans (attached.receiver .transaction)
    exact ⟨rfl, rfl⟩
  | unspents =>
    cases there.symm.trans (attached.receiver .unspents)
    exact ⟨rfl, rfl⟩
  | flag =>
    obtain ⟨seen, watches⟩ := attached.watcher
    cases there.symm.trans watches

/-- Reading moves a receiver on. -/
lemma read (attached : Attached d h place) (opened : Opened d next) (c : EventClass) (n : Nat) :
    Attached d (h.setObserver (d.receiver (.of c)) (.receiver c n))
      (Function.update place c n) where
  receiver c' := by
    rw [Hub.observer?_setObserver, attached.receiver c]
    by_cases same : c' = c
    · subst same
      rw [if_pos rfl, Function.update_self]
      rfl
    · rw [if_neg (mt opened.receiver_inj.mp same), attached.receiver c', Function.update_of_ne same]
  watcher := by
    rw [Hub.observer?_setObserver, if_neg (opened.receiver_ne_watcher c).symm]
    exact attached.watcher

/-- Looking at the flag moves the watcher only. -/
lemma look (attached : Attached d h place) (opened : Opened d next) (n : Nat) :
    Attached d (h.setObserver d.watcher (.watcher n)) place where
  receiver c := by
    rw [Hub.observer?_setObserver, if_neg (opened.receiver_ne_watcher c), attached.receiver c]
  watcher := by
    obtain ⟨seen, watches⟩ := attached.watcher
    rw [Hub.observer?_setObserver, if_pos rfl, watches]
    exact ⟨n, rfl⟩

/-- A dispatcher that enters the loop stays attached. -/
lemma enter (attached : Attached d h place) (opened : Opened d next)
    (going : (d.enter h).1.phase ≠ .stopped) : Attached d (d.enter h).2 place := by
  rcases enter_cases d h with ⟨-, entered⟩ | ⟨-, entered⟩
  · rw [entered] at going
    exact absurd rfl going
  · rw [entered]
    exact attached.look opened _

/-- Operations of others leave the dispatcher's observers alone. -/
lemma step (attached : Attached d h place) (opened : Opened d h.nextId) {o : Hub.Operation}
    (others : o.observer?.any d.owns = false) : Attached d (h.step o).2 place := by
  have other {id : Nat} (own : d.owns id = true) : o.observer? ≠ some id := by
    intro e
    simp [e, own] at others
  refine ⟨fun c => ?_, ?_⟩
  · rw [Hub.observer?_step_of_ne (other (d.owns_receiver c)) (opened.receiver_lt c)]
    exact attached.receiver c
  · rw [Hub.observer?_step_of_ne (other d.owns_watcher) opened.next]
    exact attached.watcher

end Attached

/-- Subscribing leaves the channels alone. -/
lemma channel_new (h : Hub) (c : EventClass) : (new h).2.channel c = h.channel c := by
  simp only [new, Hub.subscribe, Hub.watch, Hub.channel_addObserver]

/-- Subscribing takes the next three ids. -/
lemma opened_new (h : Hub) : (new h).1.Opened (new h).2.nextId :=
  ⟨Nat.lt_succ_self _, Nat.lt_succ_self _, Nat.lt_succ_self _⟩

/-- A dispatcher that has subscribed is attached where the channels end. -/
lemma attached_new (vacant : ∀ id, h.nextId ≤ id → h.observer? id = none) :
    (new h).1.Attached (new h).2 fun c => (h.channel c).sent := by
  have vacant₀ := vacant _ le_rfl
  have vacant₁ := vacant (h.nextId + 1) (Nat.le_add_right _ _)
  have vacant₂ := vacant (h.nextId + 1 + 1) (by omega)
  refine ⟨fun c => ?_, h.closings, ?_⟩
  · cases c with
    | transaction =>
      simp [new, receiver, Branch.of, Hub.subscribe, Hub.watch, Hub.observer?_addObserver, vacant₀]
    | unspents =>
      simp [new, receiver, Branch.of, Hub.subscribe, Hub.watch, Hub.observer?_addObserver, vacant₁]
  · have later : h.nextId + 1 + 1 ≠ h.nextId := by omega
    simp [new, Hub.subscribe, Hub.watch, Hub.observer?_addObserver, vacant₂, later]

end Dispatcher

end WalletNotify.Webhook
