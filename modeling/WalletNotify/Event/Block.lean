import WalletNotify.Schema.Stable

/-!
# Blocks

Where a transaction is in the chain.
-/

namespace WalletNotify.Event

/-- The block that holds a transaction; the timestamp counts seconds. -/
structure Block where
  hash : String
  height : UInt64
  timestamp : Int64
deriving DecidableEq, Repr

namespace Block

/-- The message of a block. -/
def toMessage (b : Block) : Schema.Stable.BlockDetails := ⟨b.hash, b.height, b.timestamp⟩

/-- The block of a message. -/
def ofMessage (m : Schema.Stable.BlockDetails) : Block := ⟨m.hash, m.height, m.timestamp⟩

/-- A block as people see it. -/
def display (b : Block) : String := "#" ++ toString b.height.toNat ++ " (" ++ b.hash ++ ")"

end Block

end WalletNotify.Event
