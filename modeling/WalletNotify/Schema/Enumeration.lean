/-!
# Enumerations

The enumerations of the messages number their names from zero on. A message keeps numbers that its
enumeration does not know.
-/

namespace WalletNotify.Schema

/-- An enumeration: its name and the names of its numbers, from zero on. -/
structure Enumeration where
  entity : String
  unspecified : String
  members : List String

namespace Enumeration

/-- The names in the order of their numbers. -/
def names (e : Enumeration) : List String := e.unspecified :: e.members

/-- The name of a number, if it is known. -/
def name? (e : Enumeration) (n : Int32) : Option String :=
  if n < 0 then none else e.names[n.toInt.toNat]?

/-- The name of a number; unknown numbers are unspecified. -/
def name (e : Enumeration) (n : Int32) : String := (e.name? n).getD e.unspecified

/-- The number of a name. -/
def number? (e : Enumeration) (name : String) : Option Int32 :=
  (e.names.findIdx? (· == name)).map Int32.ofNat

end Enumeration

/-- States of a transaction. -/
def txEventType : Enumeration where
  entity := "TxEventType"
  unspecified := "TX_EVENT_TYPE_UNSPECIFIED"
  members := ["TX_EVENT_TYPE_BROADCASTED", "TX_EVENT_TYPE_UNCONFIRMED", "TX_EVENT_TYPE_CONFIRMED"]

/-- What happens to unspent outputs. -/
def utxoEventType : Enumeration where
  entity := "UtxoEventType"
  unspecified := "UTXO_EVENT_TYPE_UNSPECIFIED"
  members := ["UTXO_EVENT_TYPE_LOCKED", "UTXO_EVENT_TYPE_UNLOCKED", "UTXO_EVENT_TYPE_SPENT"]

/-- Classes of events that webhooks are registered for. -/
def webhookEventType : Enumeration where
  entity := "WebhookEventType"
  unspecified := "WEBHOOK_EVENT_TYPE_UNSPECIFIED"
  members := ["WEBHOOK_EVENT_TYPE_TRANSACTION", "WEBHOOK_EVENT_TYPE_UNSPENTS"]

/-- Formats of output script templates. -/
def templateFormat : Enumeration where
  entity := "Format"
  unspecified := "FORMAT_UNSPECIFIED"
  members := ["FORMAT_DESCRIPTOR", "FORMAT_MINISCRIPT", "FORMAT_IONIO", "FORMAT_RAW"]

/-- The enumerations of both packages under their qualified names. -/
def enumerations : List (String × Enumeration) :=
  [("v1.TxEventType", txEventType), ("v1.UtxoEventType", utxoEventType),
   ("v1.WebhookEventType", webhookEventType), ("v1alpha.TxEventType", txEventType),
   ("v1alpha.UtxoEventType", utxoEventType), ("v1alpha.WebhookEventType", webhookEventType),
   ("v1alpha.Template.Format", templateFormat)]

/-- The wording for a number that an enumeration does not know. -/
def unknownNumber (n : Int32) : String :=
  "unknown enumeration value " ++ toString n.toInt

end WalletNotify.Schema
