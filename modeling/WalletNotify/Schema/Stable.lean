import WalletNotify.Schema.Message

/-!
# Messages of the service

The messages of package `v1`: blocks, outputs, notifications, and the requests and responses that
manage webhooks.
-/

namespace WalletNotify.Schema.Stable

open Record (Shape)
open Wire (Scalar)

/-- A block that holds a transaction; the timestamp counts seconds. -/
structure BlockDetails where
  hash : String
  height : UInt64
  timestamp : Int64
deriving DecidableEq, Repr

instance : Message BlockDetails where
  name := "BlockDetails"
  shape := .scalar ⟨1, "hash"⟩ .text <| .scalar ⟨2, "height"⟩ .word64 <|
    .scalar ⟨3, "timestamp"⟩ .signed64 .nil
  fields b := (b.hash, b.height, b.timestamp, ())
  ofFields v := ⟨v.1, v.2.1, v.2.2.1⟩

/-- The transaction that confirmed or spent an output. -/
structure UtxoStatus where
  txid : String
  blockInfo : Option BlockDetails
deriving DecidableEq, Repr

instance : Message UtxoStatus where
  name := "UtxoStatus"
  shape := .scalar ⟨1, "txid"⟩ .text <|
    .record ⟨2, "block_info"⟩ "BlockDetails" (Message.shape BlockDetails) .nil
  fields s := (s.txid, s.blockInfo.map Message.fields, ())
  ofFields v := ⟨v.1, v.2.1.map Message.ofFields⟩

/-- A transaction output; its script is in hexadecimal. -/
structure Utxo where
  txid : String
  index : UInt32
  asset : String
  value : UInt64
  script : String
  assetBlinder : String
  valueBlinder : String
  accountName : String
  spentStatus : Option UtxoStatus
  confirmedStatus : Option UtxoStatus
deriving DecidableEq, Repr

instance : Message Utxo where
  name := "Utxo"
  shape := .scalar ⟨1, "txid"⟩ .text <| .scalar ⟨2, "index"⟩ .word32 <|
    .scalar ⟨3, "asset"⟩ .text <| .scalar ⟨4, "value"⟩ .word64 <|
    .scalar ⟨5, "script"⟩ .text <| .scalar ⟨6, "asset_blinder"⟩ .text <|
    .scalar ⟨7, "value_blinder"⟩ .text <| .scalar ⟨8, "account_name"⟩ .text <|
    .record ⟨9, "spent_status"⟩ "UtxoStatus" (Message.shape UtxoStatus) <|
    .record ⟨10, "confirmed_status"⟩ "UtxoStatus" (Message.shape UtxoStatus) .nil
  fields u := (u.txid, u.index, u.asset, u.value, u.script, u.assetBlinder, u.valueBlinder,
    u.accountName, u.spentStatus.map Message.fields, u.confirmedStatus.map Message.fields, ())
  ofFields := fun (txid, index, asset, value, script, assetBlinder, valueBlinder, accountName,
      spent, confirmed, ()) =>
    ⟨txid, index, asset, value, script, assetBlinder, valueBlinder, accountName,
      spent.map Message.ofFields, confirmed.map Message.ofFields⟩

/-- A transaction event as it is sent to subscribers. -/
structure TransactionNotification where
  accountNames : List String
  txid : String
  eventType : Int32
  blockDetails : Option BlockDetails
deriving DecidableEq, Repr

instance : Message TransactionNotification where
  name := "TransactionNotificationsResponse"
  shape := .texts ⟨1, "account_names"⟩ <| .scalar ⟨2, "txid"⟩ .text <|
    .scalar ⟨3, "event_type"⟩ .enumeration <|
    .record ⟨4, "block_details"⟩ "BlockDetails" (Message.shape BlockDetails) .nil
  fields n := (n.accountNames, n.txid, n.eventType, n.blockDetails.map Message.fields, ())
  ofFields v := ⟨v.1, v.2.1, v.2.2.1, v.2.2.2.1.map Message.ofFields⟩

/-- A utxo event as it is sent to subscribers. -/
structure UtxosNotification where
  utxos : List Utxo
  eventType : Int32
deriving DecidableEq, Repr

instance : Message UtxosNotification where
  name := "UtxosNotificationsResponse"
  shape := .records ⟨1, "utxos"⟩ "Utxo" (Message.shape Utxo) <|
    .scalar ⟨2, "event_type"⟩ .enumeration .nil
  fields n := (n.utxos.map Message.fields, n.eventType, ())
  ofFields v := ⟨v.1.map Message.ofFields, v.2.1⟩

/-- Asks for a webhook; the secret may be empty. -/
structure AddWebhookRequest where
  endpoint : String
  eventType : Int32
  secret : String
deriving DecidableEq, Repr

instance : Message AddWebhookRequest where
  name := "AddWebhookRequest"
  shape := .scalar ⟨1, "endpoint"⟩ .text <| .scalar ⟨2, "event_type"⟩ .enumeration <|
    .scalar ⟨3, "secret"⟩ .text .nil
  fields r := (r.endpoint, r.eventType, r.secret, ())
  ofFields v := ⟨v.1, v.2.1, v.2.2.1⟩

/-- Tells the id of a new webhook. -/
structure AddWebhookResponse where
  id : String
deriving DecidableEq, Repr

instance : Message AddWebhookResponse where
  name := "AddWebhookResponse"
  shape := .scalar ⟨1, "id"⟩ .text .nil
  fields r := (r.id, ())
  ofFields v := ⟨v.1⟩

/-- Asks to forget a webhook. -/
structure RemoveWebhookRequest where
  id : String
deriving DecidableEq, Repr

instance : Message RemoveWebhookRequest where
  name := "RemoveWebhookRequest"
  shape := .scalar ⟨1, "id"⟩ .text .nil
  fields r := (r.id, ())
  ofFields v := ⟨v.1⟩

/-- Tells that a webhook is forgotten. -/
structure RemoveWebhookResponse where
deriving DecidableEq, Repr

instance : Message RemoveWebhookResponse where
  name := "RemoveWebhookResponse"
  shape := .nil
  fields _ := ()
  ofFields _ := {}

/-- Asks for the webhooks of an event type, or for all of them if it is unspecified. -/
structure ListWebhooksRequest where
  eventType : Int32
deriving DecidableEq, Repr

instance : Message ListWebhooksRequest where
  name := "ListWebhooksRequest"
  shape := .scalar ⟨1, "event_type"⟩ .enumeration .nil
  fields r := (r.eventType, ())
  ofFields v := ⟨v.1⟩

/-- What is told of a webhook; never its secret. -/
structure WebhookInfo where
  id : String
  endpoint : String
  isSecured : Bool
deriving DecidableEq, Repr

instance : Message WebhookInfo where
  name := "WebhookInfo"
  shape := .scalar ⟨1, "id"⟩ .text <| .scalar ⟨2, "endpoint"⟩ .text <|
    .scalar ⟨3, "is_secured"⟩ .flag .nil
  fields i := (i.id, i.endpoint, i.isSecured, ())
  ofFields v := ⟨v.1, v.2.1, v.2.2.1⟩

/-- Lists webhooks. -/
structure ListWebhooksResponse where
  webhookInfo : List WebhookInfo
deriving DecidableEq, Repr

instance : Message ListWebhooksResponse where
  name := "ListWebhooksResponse"
  shape := .records ⟨1, "webhook_info"⟩ "WebhookInfo" (Message.shape WebhookInfo) .nil
  fields r := (r.webhookInfo.map Message.fields, ())
  ofFields v := ⟨v.1.map Message.ofFields⟩

/-- The message types of the package. -/
def declarations : List Declaration :=
  [⟨"v1", "TransactionNotificationsRequest", .nil⟩, .of "v1" TransactionNotification,
   ⟨"v1", "UtxosNotificationsRequest", .nil⟩, .of "v1" UtxosNotification,
   .of "v1" AddWebhookRequest, .of "v1" AddWebhookResponse, .of "v1" RemoveWebhookRequest,
   .of "v1" RemoveWebhookResponse, .of "v1" ListWebhooksRequest, .of "v1" ListWebhooksResponse,
   .of "v1" WebhookInfo, .of "v1" BlockDetails, .of "v1" UtxoStatus, .of "v1" Utxo]

end WalletNotify.Schema.Stable
