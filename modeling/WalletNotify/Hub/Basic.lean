import WalletNotify.Event.Basic
import WalletNotify.Hub.Channel

/-!
# The event hub

A hub has a channel for each class of events, a flag that closes it for good, and any number of
handles and observers. Streams and receivers read events, watchers look at the flag.
-/

namespace WalletNotify.Hub

open Event (EventClass Published)

/-- One that reads events or looks at the flag. -/
inductive Observer where
  | stream (eventClass : EventClass) (place : Nat) (eventsFirst ended : Bool)
  | receiver (eventClass : EventClass) (place : Nat)
  | watcher (seen : Nat)
deriving DecidableEq, Repr

/-- The class of events that an observer reads. -/
def Observer.eventClass? : Observer → Option EventClass
  | stream c _ _ _ => some c
  | receiver c _ => some c
  | watcher _ => none

end WalletNotify.Hub

namespace WalletNotify

open Event (EventClass Published)
open Hub (Channel Observer)

/-- A hub with its handles, of which some may be dropped, and its observers by id. -/
structure Hub where
  transactions : Channel Published
  unspents : Channel Published
  closings : Nat
  handles : List Bool
  observers : List (Nat × Observer)
  nextId : Nat
deriving DecidableEq, Repr

namespace Hub

/-- A hub with one handle. -/
def new (capacity : Nat) : Hub := ⟨.new capacity, .new capacity, 0, [true], [], 1⟩

/-- Whether the hub is closed. -/
def isClosed (h : Hub) : Bool := 0 < h.closings

/-- Whether a handle is left. -/
def isAlive (h : Hub) : Bool := h.handles.any id

/-- Whether a handle is left to be used. -/
def hasHandle (h : Hub) (i : Nat) : Bool := h.handles.getD i false

/-- The channel of a class. -/
def channel (h : Hub) : EventClass → Channel Published
  | .transaction => h.transactions
  | .unspents => h.unspents

/-- The number of observers that read a class. -/
def subscribers (h : Hub) (c : EventClass) : Nat :=
  h.observers.countP fun o => o.2.eventClass? == some c

/-- The observer of an id. -/
def observer? (h : Hub) (id : Nat) : Option Observer := h.observers.lookup id

/-- Lets an observer be another. -/
def setObserver (h : Hub) (id : Nat) (o : Observer) : Hub :=
  { h with observers := h.observers.map fun p => if p.1 = id then (id, o) else p }

/-- Drops an observer. -/
def dropObserver (h : Hub) (id : Nat) : Hub :=
  { h with observers := h.observers.filter fun p => p.1 != id }

/-- Adds an observer under the next id. -/
def addObserver (h : Hub) (o : Observer) : Nat × Hub :=
  (h.nextId, { h with observers := h.observers ++ [(h.nextId, o)], nextId := h.nextId + 1 })

/-- Sends an event to the channel of its class. -/
def send (h : Hub) (e : Published) : Hub :=
  match e.eventClass with
  | .transaction => { h with transactions := h.transactions.send e }
  | .unspents => { h with unspents := h.unspents.send e }

/-- The stream of a class from now on. -/
def openStream (h : Hub) (c : EventClass) : Nat × Hub :=
  h.addObserver (.stream c (h.channel c).sent true false)

/-- A receiver of a class from now on. -/
def subscribe (h : Hub) (c : EventClass) : Nat × Hub :=
  h.addObserver (.receiver c (h.channel c).sent)

/-- A watcher that has seen the flag as it is. -/
def watch (h : Hub) : Nat × Hub := h.addObserver (.watcher h.closings)

/-- Closes the hub; tells whether it was open. -/
def close (h : Hub) : Bool × Hub := (!h.isClosed, { h with closings := h.closings + 1 })

/-- Adds a handle. -/
def clone (h : Hub) : Nat × Hub := (h.handles.length, { h with handles := h.handles ++ [true] })

/-- Drops a handle. -/
def dropHandle (h : Hub) (i : Nat) : Hub := { h with handles := h.handles.set i false }

end Hub

end WalletNotify
