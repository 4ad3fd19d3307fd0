import WalletNotify.Hub.Poll

/-!
# Runs of a hub

The operations on a hub, through its handles and by its observers, with their answers. A run is a
list of operations; a handle or an observer that is gone is refused.
-/

namespace WalletNotify.Hub

open Event (EventClass Published)

/-- What may be done with a hub. -/
inductive Operation where
  | clone (handle : Nat)
  | dropHandle (handle : Nat)
  | openStream (handle : Nat) (eventClass : EventClass)
  | subscribe (handle : Nat) (eventClass : EventClass)
  | watch (handle : Nat)
  | publish (handle : Nat) (event : Published)
  | close (handle : Nat)
  | isClosed (handle : Nat)
  | count (handle : Nat)
  | poll (id : Nat)
  | receive (id : Nat)
  | look (id : Nat)
  | dropStream (id : Nat)
  | dropReceiver (id : Nat)
deriving DecidableEq, Repr

/-- The observer that an operation belongs to; the others belong to handles. -/
def Operation.observer? : Operation → Option Nat
  | poll id | receive id | look id | dropStream id | dropReceiver id => some id
  | _ => none

/-- What an operation answers. -/
inductive Answer where
  | handle (index : Nat)
  | dropped (wasThere : Bool)
  | opened (id : Nat)
  | reached (subscribers : Nat)
  | closed (logged : Bool)
  | flag (closed : Bool)
  | counts (transactions unspents : Nat)
  | polled (skipped : Nat) (given : Polled)
  | received (given : Received)
  | looked (changed : Option Bool) (closed : Bool)
  | refused
deriving DecidableEq, Repr

/-- An operation through a handle that is left. -/
def throughHandle (h : Hub) (handle : Nat) (answer : Answer × Hub) : Answer × Hub :=
  if h.hasHandle handle then answer else (.refused, h)

/-- Carries out an operation. Streams are not polled past their end: what is answered there (the end
once more) stands for nothing, as a stream that has ended promises no answer. -/
def step (h : Hub) : Operation → Answer × Hub
  | .clone i => h.throughHandle i (.handle h.clone.1, h.clone.2)
  | .dropHandle i => (.dropped (h.hasHandle i), h.dropHandle i)
  | .openStream i c => h.throughHandle i (.opened (h.openStream c).1, (h.openStream c).2)
  | .subscribe i c => h.throughHandle i (.opened (h.subscribe c).1, (h.subscribe c).2)
  | .watch i => h.throughHandle i (.opened h.watch.1, h.watch.2)
  | .publish i e => h.throughHandle i (.reached (h.subscribers e.eventClass), h.send e)
  | .close i => h.throughHandle i (.closed h.close.1, h.close.2)
  | .isClosed i => h.throughHandle i (.flag h.isClosed, h)
  | .count i =>
    h.throughHandle i (.counts (h.subscribers .transaction) (h.subscribers .unspents), h)
  | .poll id =>
    match h.observer? id with
    | some (.stream c place first false) =>
      let (skipped, given, o) := h.pollStream c place first
      (.polled skipped given, h.setObserver id o)
    | some (.stream _ _ _ true) => (.polled 0 .ended, h)
    | _ => (.refused, h)
  | .receive id =>
    match h.observer? id with
    | some (.receiver c place) =>
      let (given, place) := h.receive c place
      (.received given, h.setObserver id (.receiver c place))
    | _ => (.refused, h)
  | .look id =>
    match h.observer? id with
    | some (.watcher seen) =>
      let (changed, closed) := h.look seen
      (.looked changed closed, h.setObserver id (.watcher h.closings))
    | _ => (.refused, h)
  | .dropStream id =>
    match h.observer? id with
    | some (.stream ..) => (.dropped true, h.dropObserver id)
    | _ => (.dropped false, h)
  | .dropReceiver id =>
    match h.observer? id with
    | some (.receiver ..) => (.dropped true, h.dropObserver id)
    | _ => (.dropped false, h)

/-- Carries out operations in order. -/
def run (h : Hub) : List Operation → List Answer × Hub
  | [] => ([], h)
  | o :: rest =>
    let (answer, h) := h.step o
    let (answers, h) := run h rest
    (answer :: answers, h)

end WalletNotify.Hub
