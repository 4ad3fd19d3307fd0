import WalletNotify.Power

/-!
# Bounded channels

A channel keeps the latest events for readers at any place in its history. A reader that falls
further behind than the channel keeps loses the events in between, and is told how many.
-/

namespace WalletNotify.Hub

/-- The number of events a channel keeps for a capacity that is asked for: the least power of two
that is neither below it nor zero. -/
def slotsFor (capacity : Nat) : Nat :=
  if capacity ≤ 1 then 1 else 2 ^ ((capacity - 1).log2 + 1)

/-- A channel: the number of events it keeps, the kept ones in order, and how many were sent. -/
structure Channel (α : Type) where
  slots : Nat
  kept : List α
  sent : Nat
deriving DecidableEq, Repr

/-- What a reader finds. -/
inductive Found (α : Type) where
  | item (event : α)
  | nothing
  | lagged (skipped : Nat)
deriving DecidableEq, Repr

namespace Channel

variable {α : Type}

/-- A channel that nothing was sent to. -/
def new (capacity : Nat) : Channel α := ⟨slotsFor capacity, [], 0⟩

/-- Sends an event; the oldest kept one makes room. -/
def send (c : Channel α) (a : α) : Channel α :=
  let kept := c.kept ++ [a]
  ⟨c.slots, kept.drop (kept.length - c.slots), c.sent + 1⟩

/-- The place of the oldest kept event. -/
def oldest (c : Channel α) : Nat := c.sent - c.kept.length

/-- What a reader at a place finds, and where it goes on. -/
def read (c : Channel α) (place : Nat) : Found α × Nat :=
  if place < c.oldest then (.lagged (c.oldest - place), c.oldest)
  else
    match c.kept[place - c.oldest]? with
    | some a => (.item a, place + 1)
    | none => (.nothing, place)

/-- Reads over a gap: the events skipped, and what is found behind them. -/
def readOver (c : Channel α) (place : Nat) : Nat × Found α × Nat :=
  match c.read place with
  | (.lagged n, place) => (n, c.read place)
  | found => (0, found)

end Channel

end WalletNotify.Hub
