import WalletNotify.Proofs.Hub.Accounting
import WalletNotify.Proofs.Webhook.Dispatcher
import WalletNotify.Server.Service

/-!
# Histories of a service

The history of a service is a history of its hub, of its registry and of its dispatcher. `Recorded`
relates it to the service that the run ends with: what the channels hold and what the dispatcher was
told. Main statement: every run of a service around a hub that was run before is recorded
(`recorded`).
-/

namespace WalletNotify.Server

open Event (EventClass Published)
open Hub (Accounts Notice passed slotsFor)
open Webhook (Action Branch Dispatcher Registry)

/-- An operation with its answer. -/
abbrev Entry := Operation × Answer

/-- What an entry is to the hub. -/
def Entry.hub? : Entry → Option Hub.Entry
  | (.hub o, .hub a) => some (o, a)
  | _ => none

/-- What the dispatcher does in an entry. -/
def Entry.actions : Entry → List Action
  | (_, .turned actions) => actions
  | _ => []

/-- The history of the hub. -/
def hubEntries (entries : List Entry) : List Hub.Entry := entries.filterMap Entry.hub?

/-- The events of a class that entries publish, in order. -/
def published (c : EventClass) (entries : List Entry) : List Published :=
  Hub.published c (hubEntries entries)

/-- What the dispatcher was told of the events of a class. -/
def notices (c : EventClass) (entries : List Entry) : List (Notice Published) :=
  (entries.flatMap Entry.actions).filterMap (Action.notice? c)

/-- One more entry adds what is done with the hub in it. -/
@[simp] lemma hubEntries_concat (entries : List Entry) (x : Entry) :
    hubEntries (entries ++ [x]) = hubEntries entries ++ x.hub?.toList := by
  simp only [hubEntries, List.filterMap_append, List.filterMap_cons, List.filterMap_nil]
  cases x.hub? <;> rfl

/-- One more entry adds what the dispatcher notices in it. -/
@[simp] lemma notices_concat (c : EventClass) (entries : List Entry) (x : Entry) :
    notices c (entries ++ [x]) = notices c entries ++ x.actions.filterMap (Action.notice? c) := by
  simp [notices]

namespace Service

/-- The service after a run. -/
def after (s : Service) (ops : List Operation) : Service := (s.run ops).2

/-- The operations of a run with their answers. -/
def history (s : Service) (ops : List Operation) : List Entry := ops.zip (s.run ops).1

/-- The runs of a service are runs. -/
lemma isRun : IsRun step run := ⟨fun _ => rfl, fun _ _ _ => rfl⟩

/-- One more operation is one more step. -/
lemma after_concat (s : Service) (ops : List Operation) (o : Operation) :
    s.after (ops ++ [o]) = ((s.after ops).step o).2 :=
  isRun.after_concat s ops o

/-- One more operation is one more entry. -/
lemma history_concat (s : Service) (ops : List Operation) (o : Operation) :
    s.history (ops ++ [o]) = s.history ops ++ [(o, ((s.after ops).step o).1)] :=
  isRun.history_concat s ops o

end Service

/-! ## Recorded runs -/

/-- What a history says of the service that its run ends with. The hub had a past before the
dispatcher subscribed. -/
structure Recorded (capacity : Nat) (past : List Hub.Entry) (entries : List Entry) (s : Service) :
    Prop where
  opened : s.dispatcher.Opened s.hub.nextId
  slots : ∀ c, (s.hub.channel c).slots = slotsFor capacity
  holds : ∀ c, (s.hub.channel c).Holds (Hub.published c (past ++ hubEntries entries))
  closed : s.hub.isClosed = (past ++ hubEntries entries).any Hub.Entry.closes
  accounts : ∃ place : EventClass → Nat,
    (s.dispatcher.phase ≠ .stopped → s.dispatcher.Attached s.hub place) ∧
    ∀ c, Accounts (slotsFor capacity) (Hub.published c (past ++ hubEntries entries))
      (Hub.published c past).length (place c) (notices c entries)

namespace Recorded

variable {capacity : Nat} {past : List Hub.Entry} {entries : List Entry} {s : Service}

/-- A service whose dispatcher has just subscribed has no history. -/
lemma of {h : Hub} (recorded : Hub.Recorded capacity past h) (r : Registry) :
    Recorded capacity past [] (.of h r) := by
  refine ⟨Dispatcher.opened_new h, fun c => ?_, fun c => ?_, ?_, fun c => (h.channel c).sent,
    fun _ => Dispatcher.attached_new recorded.vacant, fun c => ?_⟩
  · exact (congrArg Hub.Channel.slots (Dispatcher.channel_new h c)).trans (recorded.slots c)
  · rw [hubEntries, List.filterMap_nil, List.append_nil]
    exact (Dispatcher.channel_new h c).symm ▸ recorded.holds c
  · rw [hubEntries, List.filterMap_nil, List.append_nil]
    exact recorded.closed
  · simp only [hubEntries, List.filterMap_nil, List.append_nil, (recorded.holds c).sent_eq]
    exact Accounts.atEnd _ _

/-- An entry that changes nothing of the hub but its observers, and nothing of the dispatcher but
its phase, is recorded if it accounts for what the dispatcher is told. -/
lemma of_observers (recorded : Recorded capacity past entries s) {x : Entry} {registry : Registry}
    {d : Dispatcher} {h : Hub} (silent : x.hub? = none)
    (same : d = { s.dispatcher with phase := d.phase })
    (others : h = { s.hub with observers := h.observers })
    (accounts : ∃ place : EventClass → Nat,
      (d.phase ≠ .stopped → s.dispatcher.Attached h place) ∧
      ∀ c, Accounts (slotsFor capacity) (Hub.published c (past ++ hubEntries entries))
        (Hub.published c past).length (place c)
        (notices c entries ++ x.actions.filterMap (Action.notice? c))) :
    Recorded capacity past (entries ++ [x]) ⟨h, registry, d⟩ := by
  obtain ⟨opened, slots, holds, closed, -⟩ := recorded
  obtain ⟨place, attached, accounts⟩ := accounts
  have hub_eq : hubEntries (entries ++ [x]) = hubEntries entries := by simp [silent]
  rw [same, others]
  refine ⟨⟨opened.receivers, opened.watcher, opened.next⟩, fun c => ?_, fun c => ?_, ?_, place,
    fun going => ?_, fun c => ?_⟩
  · rw [Hub.channel_observers, slots]
  · rw [Hub.channel_observers, hub_eq]
    exact holds c
  · rw [hub_eq]
    exact closed
  · rw [← others]
    exact ⟨(attached going).receiver, (attached going).watcher⟩
  · rw [hub_eq, notices_concat]
    exact accounts c

/-- What a receiver is given keeps the accounts of both classes, if it is told as it is. -/
lemma accounts_receive (recorded : Recorded capacity past entries s) {place : EventClass → Nat}
    (accounts : ∀ c, Accounts (slotsFor capacity) (Hub.published c (past ++ hubEntries entries))
      (Hub.published c past).length (place c) (notices c entries)) {c : EventClass} {a : Action}
    (tells : (a.notice? c).toList = (Hub.Answer.received (s.hub.receive c (place c)).1).notices)
    (others : ∀ c', c' ≠ c → a.notice? c' = none) (c' : EventClass) :
    Accounts (slotsFor capacity) (Hub.published c' (past ++ hubEntries entries))
      (Hub.published c' past).length
      (Function.update place c (s.hub.receive c (place c)).2 c')
      (notices c' entries ++ [a].filterMap (Action.notice? c')) := by
  by_cases same : c' = c
  · subst same
    have told : [a].filterMap (Action.notice? c') = (a.notice? c').toList := by
      cases eq : a.notice? c' <;> simp [eq]
    have account := accounts c'
    rw [← recorded.slots c'] at account ⊢
    rw [Function.update_self, told, tells]
    exact account.receive (recorded.holds c')
  · rw [Function.update_of_ne same, List.filterMap_cons_none (others c' same), List.filterMap_nil,
      List.append_nil]
    exact accounts c'

/-- What a receiver is given is of its class. -/
lemma eventClass_of_received (recorded : Recorded capacity past entries s) {c : EventClass}
    {n : Nat} {e : Published} (le : n ≤ (Hub.published c (past ++ hubEntries entries)).length)
    (item : (s.hub.receive c n).1 = .item e) : e.eventClass = c := by
  rcases Hub.receive_cases (recorded.holds c) le with ⟨-, received⟩ | ⟨a, -, found, received⟩ |
    ⟨-, received⟩
  · rw [received] at item
    cases item
  · rw [received] at item
    cases item
    exact Hub.eventClass_of_mem_published (List.mem_of_getElem? found)
  · rw [received] at item
    split at item <;> cases item

/-- A turn of the dispatcher is recorded. -/
lemma turn (recorded : Recorded capacity past entries s) (b : Branch) :
    Recorded capacity past (entries ++ [(.turn b, (s.step (.turn b)).1)])
      (s.step (.turn b)).2 := by
  obtain ⟨place, attached, accounts⟩ := recorded.accounts
  have opened := recorded.opened
  have proceeds := s.dispatcher.proceed_proceeds s.registry s.hub b
  change Recorded capacity past
    (entries ++ [(.turn b, .turned (s.dispatcher.proceed s.registry s.hub b).1)])
    ⟨(s.dispatcher.proceed s.registry s.hub b).2.2, s.registry,
      (s.dispatcher.proceed s.registry s.hub b).2.1⟩
  generalize (s.dispatcher.proceed s.registry s.hub b).1 = actions,
    (s.dispatcher.proceed s.registry s.hub b).2 = next at proceeds ⊢
  cases proceeds with
  | idle =>
    exact recorded.of_observers rfl rfl rfl
      ⟨place, attached, by simpa [Entry.actions] using accounts⟩
  | @hands c n e running there item =>
    -- The receiver of the branch is the one of its class, at the place that the account tells.
    have attached := attached (by simp [running])
    obtain ⟨rfl, rfl⟩ := attached.of_receiver there
    have own : e.eventClass = c := recorded.eventClass_of_received (accounts c).place_le item
    refine recorded.of_observers rfl (Dispatcher.enter_fst _ _) (Dispatcher.enter_snd _ _)
      ⟨_, (attached.read opened _ _).enter opened, recorded.accounts_receive accounts ?_ ?_⟩
    · rw [item, Action.notice?, if_pos own]
      rfl
    · intro c' other
      rw [Action.notice?, if_neg fun same => other (same.symm.trans own)]
  | @lags c n k running there lagged =>
    have attached := attached (by simp [running])
    obtain ⟨rfl, rfl⟩ := attached.of_receiver there
    refine recorded.of_observers rfl (Dispatcher.enter_fst _ _) (Dispatcher.enter_snd _ _)
      ⟨_, (attached.read opened _ _).enter opened, recorded.accounts_receive accounts ?_ ?_⟩
    · rw [lagged, Action.notice?, if_pos rfl]
      rfl
    · intro c' other
      rw [Action.notice?, if_neg other.symm]
  | exhausted | abandoned =>
    exact recorded.of_observers rfl rfl rfl
      ⟨place, fun going => absurd rfl going, by simpa [Entry.actions] using accounts⟩
  | changed running =>
    have attached := attached (by simp [running])
    exact recorded.of_observers rfl (Dispatcher.enter_fst _ _) (Dispatcher.enter_snd _ _)
      ⟨place, attached.enter opened, by simpa [Entry.actions] using accounts⟩

/-- The start of the dispatcher is recorded. -/
lemma start (recorded : Recorded capacity past entries s) :
    Recorded capacity past (entries ++ [(.start, (s.step .start).1)]) (s.step .start).2 := by
  obtain ⟨place, attached, accounts⟩ := recorded.accounts
  change Recorded capacity past (entries ++ [(.start, .turned [])])
    ⟨(s.dispatcher.start s.hub).2, s.registry, (s.dispatcher.start s.hub).1⟩
  unfold Dispatcher.start
  split
  case isTrue resting =>
    have attached := attached (by simp [resting])
    exact recorded.of_observers rfl (Dispatcher.enter_fst _ _) (Dispatcher.enter_snd _ _)
      ⟨place, attached.enter recorded.opened, by simpa [Entry.actions] using accounts⟩
  case isFalse =>
    exact recorded.of_observers rfl rfl rfl
      ⟨place, attached, by simpa [Entry.actions] using accounts⟩

/-- What others do with the hub is recorded. -/
lemma hub (recorded : Recorded capacity past entries s) (o : Hub.Operation) :
    Recorded capacity past (entries ++ [(.hub o, (s.step (.hub o)).1)]) (s.step (.hub o)).2 := by
  obtain ⟨opened, slots, holds, closed, place, attached, accounts⟩ := recorded
  have more (a : Hub.Answer) : past ++ hubEntries (entries ++ [(.hub o, .hub a)]) =
      past ++ hubEntries entries ++ [(o, a)] := by
    rw [hubEntries_concat, List.append_assoc]
    rfl
  have told (c : EventClass) (a : Hub.Answer) :
      notices c (entries ++ [(.hub o, .hub a)]) = notices c entries := by
    simp [Entry.actions]
  simp only [Service.step]
  split
  case isTrue own =>
    -- Others have no hold of the dispatcher's observers: a refused entry changes nothing.
    have nothing (c : EventClass) : Hub.published c (past ++ hubEntries
        (entries ++ [(.hub o, .hub .refused)])) = Hub.published c (past ++ hubEntries entries) := by
      rw [more, Hub.published_append, Hub.published_refused, List.append_nil]
    refine ⟨opened, slots, fun c => ?_, ?_, place, attached, fun c => ?_⟩
    · rw [nothing]
      exact holds c
    · rw [more, List.any_append, closed]
      cases o <;> simp [Hub.Entry.closes]
    · rw [nothing, told]
      exact accounts c
  case isFalse others =>
    have others : o.observer?.any s.dispatcher.owns = false := Bool.eq_false_of_not_eq_true others
    refine ⟨⟨opened.receivers, opened.watcher, ?_⟩, fun c => ?_, fun c => ?_, ?_, place,
      fun going => ?_, fun c => ?_⟩
    · exact opened.next.trans_le (Hub.nextId_step s.hub o).1
    · rw [Hub.channel_step, Hub.Channel.slots_sendAll, slots]
    · rw [more, Hub.published_append, Hub.channel_step]
      exact (holds c).sendAll _
    · rw [more, List.any_append, Hub.isClosed_step, closed, List.any_cons, List.any_nil,
        Bool.or_false]
    · exact (attached going).step opened others
    · rw [more, Hub.published_append, told]
      exact (accounts c).sent _

/-- Registering and forgetting webhooks is recorded. -/
lemma of_registry (recorded : Recorded capacity past entries s) {x : Entry} (registry : Registry)
    (silent : x.hub? = none) (idle : x.actions = []) :
    Recorded capacity past (entries ++ [x]) { s with registry } := by
  obtain ⟨place, attached, accounts⟩ := recorded.accounts
  refine recorded.of_observers silent rfl rfl ⟨place, attached, fun c => ?_⟩
  rw [idle, List.filterMap_nil, List.append_nil]
  exact accounts c

/-- Every step is recorded. -/
lemma step (recorded : Recorded capacity past entries s) (o : Operation) :
    Recorded capacity past (entries ++ [(o, (s.step o).1)]) (s.step o).2 := by
  cases o with
  | hub o => exact recorded.hub o
  | start => exact recorded.start
  | turn b => exact recorded.turn b
  | add endpoint kind secret =>
    simp only [Service.step]
    split
    · exact recorded.of_registry _ rfl rfl
    · exact recorded.of_registry s.registry rfl rfl
  | remove id =>
    simp only [Service.step]
    split
    · exact recorded.of_registry _ rfl rfl
    · exact recorded.of_registry s.registry rfl rfl

/-- What a dispatcher that has not stopped has yet to read of a class. -/
lemma unread_eq (recorded : Recorded capacity past entries s)
    (going : s.dispatcher.phase ≠ .stopped) (c : EventClass) :
    s.hub.unread (s.dispatcher.receiver (.of c)) =
      (published c entries).length - passed (notices c entries) := by
  obtain ⟨place, attached, accounts⟩ := recorded.accounts
  have sent := (recorded.holds c).sent_eq
  have place_eq := (accounts c).place_eq
  rw [Hub.published_append, List.length_append] at sent
  rw [Hub.unread, (attached going).receiver c, Option.bind_some]
  simp only [Hub.Observer.reading?, sent, place_eq, published]
  omega

end Recorded

/-- Every run is recorded. -/
lemma recorded (capacity : Nat) (before : List Hub.Operation) (r : Registry)
    (ops : List Operation) :
    Recorded capacity ((Hub.new capacity).history before)
      ((Service.of ((Hub.new capacity).after before) r).history ops)
      ((Service.of ((Hub.new capacity).after before) r).after ops) :=
  Service.isRun.induction (.of (Hub.recorded capacity before) r)
    (fun _ _ o recorded => recorded.step o) ops

end WalletNotify.Server
