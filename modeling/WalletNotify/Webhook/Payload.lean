import WalletNotify.Event.Basic
import WalletNotify.Json.Read
import WalletNotify.Json.Write

/-!
# Webhook bodies

The JSON text that webhooks are sent for an event. Event types are told by name; an event without a
kind has the unspecified one.
-/

namespace WalletNotify.Webhook

open Event (Block Kind Status TransactionEvent TransactionKind UtxoEvent UtxoKind)
open Json (Scalar)
open Record (Shape)

/-- A structure that is written as a JSON object. -/
class Body (α : Type) where
  shape : Shape Scalar
  fields : α → shape.Value
  ofFields : shape.Value → α

namespace Body

variable {α : Type} [Body α]

/-- The text of a body. -/
def text (a : α) : String := String.ofList (Json.write (shape α) (fields a))

/-- The body that a text holds. -/
def read (s : String) : Except Json.Fault α := do
  let v ← Json.read (shape α) s.toList
  return ofFields v

end Body

/-- A block in a body. -/
structure BlockBody where
  hash : String
  height : UInt64
  timestamp : Int64
deriving DecidableEq, Repr

instance : Body BlockBody where
  shape := .scalar ⟨1, "hash"⟩ .text <| .scalar ⟨2, "height"⟩ .word64 <|
    .scalar ⟨3, "timestamp"⟩ .signed64 .nil
  fields b := (b.hash, b.height, b.timestamp, ())
  ofFields v := ⟨v.1, v.2.1, v.2.2.1⟩

/-- The transaction that confirmed or spent an output, in a body. -/
structure StatusBody where
  txid : String
  block : Option BlockBody
deriving DecidableEq, Repr

instance : Body StatusBody where
  shape := .scalar ⟨1, "txid"⟩ .text <|
    .record ⟨2, "block_info"⟩ "block" (Body.shape BlockBody) .nil
  fields s := (s.txid, s.block.map Body.fields, ())
  ofFields v := ⟨v.1, v.2.1.map Body.ofFields⟩

/-- An output in a body; its script is in hexadecimal. -/
structure UtxoBody where
  txid : String
  index : UInt32
  asset : String
  value : UInt64
  script : String
  assetBlinder : String
  valueBlinder : String
  accountName : String
  spent : Option StatusBody
  confirmed : Option StatusBody
deriving DecidableEq, Repr

instance : Body UtxoBody where
  shape := .scalar ⟨1, "txid"⟩ .text <| .scalar ⟨2, "index"⟩ .word32 <|
    .scalar ⟨3, "asset"⟩ .text <| .scalar ⟨4, "value"⟩ .word64 <|
    .scalar ⟨5, "script"⟩ .text <| .scalar ⟨6, "asset_blinder"⟩ .text <|
    .scalar ⟨7, "value_blinder"⟩ .text <| .scalar ⟨8, "account_name"⟩ .text <|
    .record ⟨9, "spent_status"⟩ "status" (Body.shape StatusBody) <|
    .record ⟨10, "confirmed_status"⟩ "status" (Body.shape StatusBody) .nil
  fields u := (u.txid, u.index, u.asset, u.value, u.script, u.assetBlinder, u.valueBlinder,
    u.accountName, u.spent.map Body.fields, u.confirmed.map Body.fields, ())
  ofFields := fun (txid, index, asset, value, script, assetBlinder, valueBlinder, accountName,
      spent, confirmed, ()) =>
    ⟨txid, index, asset, value, script, assetBlinder, valueBlinder, accountName,
      spent.map Body.ofFields, confirmed.map Body.ofFields⟩

/-- The body for a transaction event. -/
structure TransactionBody where
  eventType : String
  txid : String
  accountNames : List String
  block : Option BlockBody
deriving DecidableEq, Repr

instance : Body TransactionBody where
  shape := .scalar ⟨1, "event_type"⟩ .text <| .scalar ⟨2, "txid"⟩ .text <|
    .texts ⟨3, "account_names"⟩ <|
    .record ⟨4, "block_details"⟩ "block" (Body.shape BlockBody) .nil
  fields t := (t.eventType, t.txid, t.accountNames, t.block.map Body.fields, ())
  ofFields v := ⟨v.1, v.2.1, v.2.2.1, v.2.2.2.1.map Body.ofFields⟩

/-- The body for a utxo event. -/
structure UtxosBody where
  eventType : String
  utxos : List UtxoBody
deriving DecidableEq, Repr

instance : Body UtxosBody where
  shape := .scalar ⟨1, "event_type"⟩ .text <|
    .records ⟨2, "utxos"⟩ "utxo" (Body.shape UtxoBody) .nil
  fields u := (u.eventType, u.utxos.map Body.fields, ())
  ofFields v := ⟨v.1, v.2.1.map Body.ofFields⟩

/-- A block as bodies tell it. -/
def BlockBody.ofBlock (b : Block) : BlockBody := ⟨b.hash, b.height, b.timestamp⟩

/-- A status as bodies tell it. -/
def StatusBody.ofStatus (s : Status) : StatusBody := ⟨s.txid, s.block.map BlockBody.ofBlock⟩

/-- An output as bodies tell it. -/
def UtxoBody.ofUtxo (u : Event.Utxo) : UtxoBody where
  txid := u.outpoint.txid
  index := u.outpoint.index
  asset := u.asset
  value := u.value
  script := Text.Hex.encode u.script
  assetBlinder := u.assetBlinder
  valueBlinder := u.valueBlinder
  accountName := u.accountName
  spent := u.spent.map StatusBody.ofStatus
  confirmed := u.confirmed.map StatusBody.ofStatus

/-- The body for a transaction event. -/
def TransactionBody.ofEvent (e : TransactionEvent) : TransactionBody where
  eventType := Kind.nameOf e.kind
  txid := e.txid
  accountNames := e.accountNames
  block := e.block.map BlockBody.ofBlock

/-- The body for a utxo event. -/
def UtxosBody.ofEvent (e : UtxoEvent) : UtxosBody where
  eventType := Kind.nameOf e.kind
  utxos := e.utxos.map UtxoBody.ofUtxo

end WalletNotify.Webhook
