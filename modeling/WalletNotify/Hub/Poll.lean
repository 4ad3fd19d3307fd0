import WalletNotify.Hub.Basic

/-!
# Polling

What observers are given. A stream looks at its events and at the flag in turns, every poll at the
other one first; it ends at the flag, or when nothing is left and nobody can publish. A receiver
takes no notice of the flag.
-/

namespace WalletNotify.Hub

open Event (EventClass Published)

/-- What a stream gives when it is polled. -/
inductive Polled where
  | item (event : Published)
  | pending
  | ended
deriving DecidableEq, Repr

/-- What a receiver gives. -/
inductive Received where
  | item (event : Published)
  | empty
  | closed
  | lagged (skipped : Nat)
deriving DecidableEq, Repr

/-- What becomes of the events of a stream at a place: the events skipped, what is given (nothing if
events are still to come), and where the stream goes on. -/
def pollEvents (h : Hub) (c : EventClass) (place : Nat) : Nat × Polled × Nat :=
  match (h.channel c).readOver place with
  | (skipped, .item e, place) => (skipped, .item e, place)
  | (skipped, _, place) => (skipped, if h.isAlive then .pending else .ended, place)

/-- Polls a stream that has not ended: the events skipped, what is given, and the stream then. -/
def pollStream (h : Hub) (c : EventClass) (place : Nat) (eventsFirst : Bool) :
    Nat × Polled × Observer :=
  if h.isClosed && !eventsFirst then (0, .ended, .stream c place (!eventsFirst) true)
  else
    match h.pollEvents c place with
    | (skipped, .item e, place) => (skipped, .item e, .stream c place (!eventsFirst) false)
    | (skipped, .pending, place) =>
      if h.isClosed then (skipped, .ended, .stream c place (!eventsFirst) true)
      else (skipped, .pending, .stream c place (!eventsFirst) false)
    | (skipped, .ended, place) => (skipped, .ended, .stream c place (!eventsFirst) true)

/-- What a receiver is given, and where it goes on. -/
def receive (h : Hub) (c : EventClass) (place : Nat) : Received × Nat :=
  match (h.channel c).read place with
  | (.item e, place) => (.item e, place)
  | (.lagged n, place) => (.lagged n, place)
  | (.nothing, place) => (if h.isAlive then .empty else .closed, place)

/-- What a watcher finds: whether the flag was set since it last looked, unless nobody can set it
any more, and the flag. -/
def look (h : Hub) (seen : Nat) : Option Bool × Bool :=
  (if h.isAlive then some (h.closings != seen) else none, h.isClosed)

end WalletNotify.Hub
