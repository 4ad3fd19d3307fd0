import WalletNotify.Schema.Message

/-!
# Messages of the wallet

The messages of package `v1alpha`: accounts, balances, inputs and outputs, and script templates.
-/

namespace WalletNotify.Schema.Preview

open Record (Shape)
open Wire (Scalar)

/-- Identifies a wallet account. -/
structure AccountKey where
  id : UInt64
  name : String
deriving DecidableEq, Repr

instance : Message AccountKey where
  name := "AccountKey"
  shape := .scalar ⟨1, "id"⟩ .word64 <| .scalar ⟨2, "name"⟩ .text .nil
  fields k := (k.id, k.name, ())
  ofFields v := ⟨v.1, v.2.1⟩

/-- The balance of an account and its two parts. -/
structure BalanceInfo where
  total : UInt64
  confirmed : UInt64
  unconfirmed : UInt64
deriving DecidableEq, Repr

instance : Message BalanceInfo where
  name := "BalanceInfo"
  shape := .scalar ⟨1, "total_balance"⟩ .word64 <| .scalar ⟨2, "confirmed_balance"⟩ .word64 <|
    .scalar ⟨3, "unconfirmed_balance"⟩ .word64 .nil
  fields b := (b.total, b.confirmed, b.unconfirmed, ())
  ofFields v := ⟨v.1, v.2.1, v.2.2.1⟩

/-- A template of output scripts in one of several formats. -/
structure Template where
  format : Int32
  value : String
deriving DecidableEq, Repr

instance : Message Template where
  name := "Template"
  shape := .scalar ⟨1, "format"⟩ .enumeration <| .scalar ⟨2, "value"⟩ .text .nil
  fields t := (t.format, t.value, ())
  ofFields v := ⟨v.1, v.2.1⟩

/-- An account with its place in the wallet. -/
def accountInfo : Shape Scalar :=
  .record ⟨1, "account_key"⟩ "AccountKey" (Message.shape AccountKey) <|
    .scalar ⟨2, "derivation_path"⟩ .text <| .scalar ⟨3, "xpub"⟩ .text .nil

/-- A transaction input. -/
def input : Shape Scalar :=
  .scalar ⟨1, "txid"⟩ .text <| .scalar ⟨2, "index"⟩ .signed64 .nil

/-- A transaction output that is asked for. -/
def output : Shape Scalar :=
  .scalar ⟨1, "asset"⟩ .text <| .scalar ⟨2, "amount"⟩ .signed64 <|
    .scalar ⟨3, "address"⟩ .text .nil

/-- A transaction output of the wallet, with binary fields. -/
def utxo : Shape Scalar :=
  .scalar ⟨1, "txid"⟩ .text <| .scalar ⟨2, "index"⟩ .signed64 <|
    .scalar ⟨3, "asset"⟩ .blob <| .scalar ⟨4, "value"⟩ .blob <|
    .scalar ⟨5, "script"⟩ .blob <| .scalar ⟨6, "is_confirmed"⟩ .flag <|
    .scalar ⟨7, "is_locked"⟩ .flag .nil

/-- The outputs of an account. -/
def utxos : Shape Scalar :=
  .record ⟨1, "account_key"⟩ "AccountKey" (Message.shape AccountKey) <|
    .records ⟨2, "utxos"⟩ "Utxo" utxo .nil

/-- An output with what happened to it. -/
def utxoWithEvent : Shape Scalar :=
  .record ⟨1, "account_key"⟩ "AccountKey" (Message.shape AccountKey) <|
    .record ⟨2, "utxo"⟩ "Utxo" utxo <| .scalar ⟨3, "event_type"⟩ .enumeration .nil

/-- The message types of the package. -/
def declarations : List Declaration :=
  [.of "v1alpha" AccountKey, ⟨"v1alpha", "AccountInfo", accountInfo⟩, .of "v1alpha" BalanceInfo,
   ⟨"v1alpha", "Input", input⟩, ⟨"v1alpha", "Output", output⟩, ⟨"v1alpha", "Utxos", utxos⟩,
   ⟨"v1alpha", "UtxoWithEvent", utxoWithEvent⟩, ⟨"v1alpha", "Utxo", utxo⟩,
   .of "v1alpha" Template]

end WalletNotify.Schema.Preview
