import WalletNotify.Event.Block
import WalletNotify.Event.Conversion

/-!
# Transaction outputs

Outputs of the wallet with the transactions that confirmed and spent them. A message holds the
script in hexadecimal, an output holds its bytes.
-/

namespace WalletNotify.Event

/-- Refers to an output of a transaction. -/
structure OutPoint where
  txid : String
  index : UInt32
deriving DecidableEq, Repr

namespace OutPoint

/-- An output as people see it. -/
def display (p : OutPoint) : String := p.txid ++ ":" ++ toString p.index.toNat

/-- Order by transaction, then by index. -/
def le (p q : OutPoint) : Bool :=
  decide (p.txid < q.txid) || (p.txid == q.txid && decide (p.index ≤ q.index))

/-- The outputs of a list in ascending order, each once. -/
def distinct (points : List OutPoint) : List OutPoint :=
  (points.mergeSort le).eraseReps

end OutPoint

/-- The transaction that confirmed or spent an output, and its block if it has one. -/
structure Status where
  txid : String
  block : Option Block
deriving DecidableEq, Repr

namespace Status

/-- The message of a status. -/
def toMessage (s : Status) : Schema.Stable.UtxoStatus := ⟨s.txid, s.block.map Block.toMessage⟩

/-- The status of a message. -/
def ofMessage (m : Schema.Stable.UtxoStatus) : Status := ⟨m.txid, m.blockInfo.map Block.ofMessage⟩

end Status

/-- An output of the wallet. -/
structure Utxo where
  outpoint : OutPoint
  asset : String
  value : UInt64
  script : List UInt8
  assetBlinder : String
  valueBlinder : String
  accountName : String
  spent : Option Status
  confirmed : Option Status
deriving DecidableEq, Repr

namespace Utxo

/-- Whether the output is spent. -/
def isSpent (u : Utxo) : Bool := u.spent.isSome

/-- Whether the output is confirmed. -/
def isConfirmed (u : Utxo) : Bool := u.confirmed.isSome

/-- The message of an output. -/
def toMessage (u : Utxo) : Schema.Stable.Utxo where
  txid := u.outpoint.txid
  index := u.outpoint.index
  asset := u.asset
  value := u.value
  script := Text.Hex.encode u.script
  assetBlinder := u.assetBlinder
  valueBlinder := u.valueBlinder
  accountName := u.accountName
  spentStatus := u.spent.map Status.toMessage
  confirmedStatus := u.confirmed.map Status.toMessage

/-- The output of a message whose script is hexadecimal. -/
def ofMessage (m : Schema.Stable.Utxo) : Except ConversionError Utxo := do
  let script ← (Text.Hex.decode m.script).mapError .badHex
  return {
    outpoint := ⟨m.txid, m.index⟩
    asset := m.asset
    value := m.value
    script := script
    assetBlinder := m.assetBlinder
    valueBlinder := m.valueBlinder
    accountName := m.accountName
    spent := m.spentStatus.map Status.ofMessage
    confirmed := m.confirmedStatus.map Status.ofMessage }

/-- The value of the outputs that are not spent. -/
def unspentTotal (utxos : List Utxo) : Nat :=
  (utxos.filter fun u => !u.isSpent).foldr (fun u total => u.value.toNat + total) 0

end Utxo

end WalletNotify.Event
