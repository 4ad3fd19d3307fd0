import WalletNotify.Event.Kind
import WalletNotify.Event.Utxo

/-!
# Events

What is published: a change of a transaction, or of unspent outputs. Events that their producer did
not classify have no kind.
-/

namespace WalletNotify.Event

/-- A change of a wallet transaction; only a confirmed one has a block. -/
structure TransactionEvent where
  kind : Option TransactionKind
  txid : String
  accountNames : List String
  block : Option Block
deriving DecidableEq, Repr

namespace TransactionEvent

/-- The message of an event. -/
def toMessage (e : TransactionEvent) : Schema.Stable.TransactionNotification where
  accountNames := e.accountNames
  txid := e.txid
  eventType := Kind.numberOf e.kind
  blockDetails := e.block.map Block.toMessage

/-- The event of a message with a known event type. -/
def ofMessage (m : Schema.Stable.TransactionNotification) :
    Except ConversionError TransactionEvent := do
  let kind ← Kind.ofNumber m.eventType
  return ⟨kind, m.txid, m.accountNames, m.blockDetails.map Block.ofMessage⟩

/-- The class of transaction events. -/
def eventClass (_ : TransactionEvent) : EventClass := .transaction

end TransactionEvent

/-- A change of unspent outputs. -/
structure UtxoEvent where
  kind : Option UtxoKind
  utxos : List Utxo
deriving DecidableEq, Repr

namespace UtxoEvent

/-- The message of an event. -/
def toMessage (e : UtxoEvent) : Schema.Stable.UtxosNotification where
  utxos := e.utxos.map Utxo.toMessage
  eventType := Kind.numberOf e.kind

/-- The event of a message with a known event type and hexadecimal scripts. The event type is
looked at first, then the outputs in order. -/
def ofMessage (m : Schema.Stable.UtxosNotification) : Except ConversionError UtxoEvent := do
  let kind ← Kind.ofNumber m.eventType
  let utxos ← m.utxos.mapM Utxo.ofMessage
  return ⟨kind, utxos⟩

/-- The class of utxo events. -/
def eventClass (_ : UtxoEvent) : EventClass := .unspents

end UtxoEvent

/-- An event of either class. -/
inductive Published where
  | transaction (event : TransactionEvent)
  | unspents (event : UtxoEvent)
deriving DecidableEq, Repr

/-- The class of an event. -/
def Published.eventClass : Published → EventClass
  | transaction e => e.eventClass
  | unspents e => e.eventClass

end WalletNotify.Event
