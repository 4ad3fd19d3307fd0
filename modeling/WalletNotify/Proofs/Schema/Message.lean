import WalletNotify.Proofs.Wire.Encode
import WalletNotify.Schema.Stable

/-!
# Messages and their bytes

A message is the values of its fields, so that what holds of the wire holds of messages. Main
statement: a message is decoded from its bytes.
-/

namespace WalletNotify.Schema

open Wire (maxDepth)

/-- A message type whose messages are made of the values of well-numbered fields. -/
class LawfulMessage (α : Type) [Message α] : Prop where
  ofFields_fields : ∀ a : α, Message.ofFields (Message.fields a) = a
  numbered : (Message.shape α).WellNumbered := by decide
  deep : (Message.shape α).height ≤ maxDepth := by decide

namespace Message

variable {α : Type} [Message α] [LawfulMessage α]

/-- A message is made of its own fields. -/
lemma ofFields_comp_fields : (ofFields : _ → α) ∘ fields = id :=
  funext LawfulMessage.ofFields_fields

/-- A nested message that may be missing is made of its own fields. -/
lemma option_map_ofFields (nested : Option α) : (nested.map fields).map ofFields = nested := by
  rw [Option.map_map, ofFields_comp_fields, Option.map_id, id]

/-- Nested messages are made of their own fields. -/
lemma list_map_ofFields (nested : List α) : (nested.map fields).map ofFields = nested := by
  rw [List.map_map, ofFields_comp_fields, List.map_id]

/-- A message is decoded from its bytes. -/
theorem decode_encode {a : α} (fits : (encode a).length < 2 ^ 64) : decode (encode a) = .ok a := by
  have told := Wire.decode_encode LawfulMessage.numbered LawfulMessage.deep (name α) fits
  rw [decode, encode, told]
  exact congrArg Except.ok (LawfulMessage.ofFields_fields a)

end Message

namespace Stable

instance : LawfulMessage BlockDetails where
  ofFields_fields _ := rfl

instance : LawfulMessage UtxoStatus where
  ofFields_fields s := congrArg (UtxoStatus.mk s.txid) (Message.option_map_ofFields s.blockInfo)

instance : LawfulMessage Utxo where
  ofFields_fields u := by
    change { u with spentStatus := _, confirmedStatus := _ } = u
    rw [Message.option_map_ofFields, Message.option_map_ofFields]

instance : LawfulMessage TransactionNotification where
  ofFields_fields n :=
    congrArg (TransactionNotification.mk n.accountNames n.txid n.eventType)
      (Message.option_map_ofFields n.blockDetails)

instance : LawfulMessage UtxosNotification where
  ofFields_fields n :=
    congrArg (UtxosNotification.mk · n.eventType) (Message.list_map_ofFields n.utxos)

end Stable

end WalletNotify.Schema
