import WalletNotify.Hub.Run
import WalletNotify.Webhook.Delivery
import WalletNotify.Webhook.Payload
import WalletNotify.Webhook.Registry

/-!
# The dispatcher

The dispatcher reads every event of a hub and starts a delivery to each webhook that is registered
for its class. It waits for whatever comes first (an event of either class, or a change of the
flag), and stops once it finds the hub closed or nobody left to publish.
-/

namespace WalletNotify.Webhook

open Hub (Received)

/-- Whether the dispatcher runs. -/
inductive Phase where
  | notStarted
  | running
  | stopped
deriving DecidableEq, Repr

/-- A dispatcher: its two receivers, its watcher, and whether it runs. -/
structure Dispatcher where
  transactions : Nat
  unspents : Nat
  watcher : Nat
  phase : Phase
deriving DecidableEq, Repr

/-- What a waiting dispatcher goes on with. -/
inductive Branch where
  | transactions
  | unspents
  | flag
deriving DecidableEq, Repr

/-- What a dispatcher does. -/
inductive Action where
  | dispatched (event : Event.Published) (deliveries : List Delivery)
  | lagged (eventClass : Event.EventClass) (skipped : Nat)
deriving DecidableEq, Repr

/-- The body for an event of either class. -/
def bodyOf : Event.Published → String
  | .transaction e => Body.text (TransactionBody.ofEvent e)
  | .unspents e => Body.text (UtxosBody.ofEvent e)

/-- The deliveries of an event, one to each webhook of its class. -/
def deliveriesOf (r : Registry) (e : Event.Published) : List Delivery :=
  (r.forClass e.eventClass).map fun hook => ⟨hook, bodyOf e⟩

namespace Dispatcher

/-- A dispatcher that has subscribed to a hub. -/
def new (h : Hub) : Dispatcher × Hub :=
  let (transactions, h) := h.subscribe .transaction
  let (unspents, h) := h.subscribe .unspents
  let (watcher, h) := h.watch
  (⟨transactions, unspents, watcher, .notStarted⟩, h)

/-- Whether an observer of the hub is the dispatcher's. -/
def owns (d : Dispatcher) (id : Nat) : Bool :=
  id == d.transactions || id == d.unspents || id == d.watcher

/-- A dispatcher that has stopped and is no longer subscribed. -/
def stop (d : Dispatcher) (h : Hub) : Dispatcher × Hub :=
  ({ d with phase := .stopped },
    ((h.dropObserver d.transactions).dropObserver d.unspents).dropObserver d.watcher)

/-- Looks at the flag before waiting: stops if it is set. -/
def enter (d : Dispatcher) (h : Hub) : Dispatcher × Hub :=
  if h.isClosed then d.stop h
  else ({ d with phase := .running }, h.setObserver d.watcher (.watcher h.closings))

/-- Starts to run. -/
def start (d : Dispatcher) (h : Hub) : Dispatcher × Hub :=
  if d.phase = .notStarted then d.enter h else (d, h)

/-- The receiver of a branch for events. -/
def receiver (d : Dispatcher) : Branch → Nat
  | .transactions => d.transactions
  | .unspents => d.unspents
  | .flag => d.watcher

/-- Whether a branch has something to go on with. -/
def ready (d : Dispatcher) (h : Hub) (b : Branch) : Bool :=
  match h.observer? (d.receiver b) with
  | some (.receiver c place) => (h.receive c place).1 != .empty
  | some (.watcher seen) => h.closings != seen || !h.isAlive
  | _ => false

/-- Goes on with a branch. A branch with nothing to go on with changes nothing. -/
def proceed (d : Dispatcher) (r : Registry) (h : Hub) (b : Branch) :
    List Action × Dispatcher × Hub :=
  if d.phase ≠ .running then ([], d, h)
  else
    match h.observer? (d.receiver b) with
    | some (.receiver c place) =>
      match h.receive c place with
      | (.item e, place) =>
        let h := h.setObserver (d.receiver b) (.receiver c place)
        ([.dispatched e (deliveriesOf r e)], d.enter h)
      | (.lagged n, place) =>
        let h := h.setObserver (d.receiver b) (.receiver c place)
        ([.lagged c n], d.enter h)
      | (.closed, _) => ([], d.stop h)
      | (.empty, _) => ([], d, h)
    | some (.watcher seen) =>
      if h.closings != seen then ([], d.enter h)
      else if !h.isAlive then ([], d.stop h)
      else ([], d, h)
    | _ => ([], d, h)

/-- The first branch that has something to go on with, events first. -/
def firstReady? (d : Dispatcher) (h : Hub) : Option Branch :=
  [Branch.transactions, .unspents, .flag].find? (d.ready h)

/-- Goes on until there is nothing to go on with, at most `fuel` times. -/
def settle (r : Registry) : Nat → Dispatcher → Hub → List Action × Dispatcher × Hub
  | 0, d, h => ([], d, h)
  | fuel + 1, d, h =>
    if d.phase ≠ .running then ([], d, h)
    else
      match d.firstReady? h with
      | none => ([], d, h)
      | some b =>
        let (actions, d, h) := d.proceed r h b
        let (more, d, h) := settle r fuel d h
        (actions ++ more, d, h)

/-- Goes on until there is nothing to go on with: every event that was sent is read once at most,
and each class may lag once. -/
def drain (r : Registry) (d : Dispatcher) (h : Hub) : List Action × Dispatcher × Hub :=
  settle r (h.transactions.sent + h.unspents.sent + 4) d h

end Dispatcher

end WalletNotify.Webhook
