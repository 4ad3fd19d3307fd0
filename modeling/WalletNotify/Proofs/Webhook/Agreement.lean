import Mathlib.Data.List.Forall2
import WalletNotify.Proofs.Event.Acceptance
import WalletNotify.Proofs.Webhook.Payload
import WalletNotify.Webhook.Dispatcher

/-!
# Bodies and messages

Webhooks are sent a body for an event, subscribers its message. Both are made from the event, apart
from each other. Main statement: `bodies_tell_messages`, by which they agree in every field, and a
body's text is that of one event of its class.
-/

namespace WalletNotify.Schema.Enumeration

/-- Numbers with one name are one, if no name stands twice. -/
lemma eq_of_name? {e : Enumeration} (once : e.names.Nodup) {m n : Int32} {name : String}
    (first : e.name? m = some name) (second : e.name? n = some name) : m = n := by
  unfold name? at first second
  split at first
  case isTrue => cases first
  case isFalse above =>
    split at second
    case isTrue => cases second
    case isFalse above' =>
      obtain ⟨bound, -⟩ := List.getElem?_eq_some_iff.mp first
      have place := (List.getElem?_inj bound once).mp (first.trans second.symm)
      rw [Int32.lt_iff_toInt_lt, Int32.toInt_zero] at above above'
      apply Int32.toInt_inj.mp
      omega

end WalletNotify.Schema.Enumeration

namespace WalletNotify.Event

open Schema (txEventType utxoEventType)

/-- The number of a kind of transaction event is named as the kind is. -/
lemma TransactionKind.name?_numberOf (kind : Option TransactionKind) :
    txEventType.name? (Kind.numberOf kind) = some (Kind.nameOf kind) := by
  cases kind with
  | none => rfl
  | some k => cases k <;> rfl

/-- The number of a kind of utxo event is named as the kind is. -/
lemma UtxoKind.name?_numberOf (kind : Option UtxoKind) :
    utxoEventType.name? (Kind.numberOf kind) = some (Kind.nameOf kind) := by
  cases kind with
  | none => rfl
  | some k => cases k <;> rfl

/-- The unspecified name is that of no kind only. -/
lemma Kind.nameOf_eq_unspecified {κ : Type} [Kind κ] [LawfulKind κ] {kind : Option κ}
    (once : (enumeration κ).names.Nodup)
    (named : (enumeration κ).name? (numberOf kind) = some (nameOf kind)) :
    nameOf kind = (enumeration κ).unspecified ↔ kind = none := by
  constructor
  · intro unspecified
    rw [unspecified] at named
    exact Kind.eq_none_iff.mpr (Schema.Enumeration.eq_of_name? once named rfl)
  · rintro rfl
    rfl

end WalletNotify.Event

namespace WalletNotify.Webhook

open Event (Block Kind Published Status TransactionEvent TransactionKind UtxoEvent UtxoKind)
open Relator (RightUnique)
open Schema (txEventType utxoEventType)

/-! ## What bodies tell -/

/-- A block is told in a body as in a message. -/
structure BlockBody.Tells (b : BlockBody) (m : Schema.Stable.BlockDetails) : Prop where
  hash : b.hash = m.hash
  height : b.height = m.height
  timestamp : b.timestamp = m.timestamp

/-- A status is told in a body as in a message. -/
structure StatusBody.Tells (s : StatusBody) (m : Schema.Stable.UtxoStatus) : Prop where
  txid : s.txid = m.txid
  block : Option.Rel BlockBody.Tells s.block m.blockInfo

/-- An output is told in a body as in a message. -/
structure UtxoBody.Tells (u : UtxoBody) (m : Schema.Stable.Utxo) : Prop where
  txid : u.txid = m.txid
  index : u.index = m.index
  asset : u.asset = m.asset
  value : u.value = m.value
  script : u.script = m.script
  assetBlinder : u.assetBlinder = m.assetBlinder
  valueBlinder : u.valueBlinder = m.valueBlinder
  accountName : u.accountName = m.accountName
  spent : Option.Rel StatusBody.Tells u.spent m.spentStatus
  confirmed : Option.Rel StatusBody.Tells u.confirmed m.confirmedStatus

/-- A transaction event is told in a body as in a message, its event type by the name of its
number. -/
structure TransactionBody.Tells (t : TransactionBody) (m : Schema.Stable.TransactionNotification) :
    Prop where
  eventType : txEventType.name? m.eventType = some t.eventType
  txid : t.txid = m.txid
  accountNames : t.accountNames = m.accountNames
  block : Option.Rel BlockBody.Tells t.block m.blockDetails

/-- A utxo event is told in a body as in a message, its event type by the name of its number and its
outputs one by one. -/
structure UtxosBody.Tells (b : UtxosBody) (m : Schema.Stable.UtxosNotification) : Prop where
  eventType : utxoEventType.name? m.eventType = some b.eventType
  utxos : List.Forall₂ UtxoBody.Tells b.utxos m.utxos

section Options

variable {α β γ : Type} {r : β → γ → Prop}

/-- What is related of everything is related of what may be missing. -/
lemma rel_map {f : α → β} {g : α → γ} (each : ∀ a, r (f a) (g a)) (x : Option α) :
    Option.Rel r (x.map f) (x.map g) := by
  cases x with
  | none => exact .none
  | some a => exact .some (each a)

/-- What tells one thing only tells one thing only of what may be missing. -/
lemma rightUnique_rel (unique : RightUnique r) : RightUnique (Option.Rel r) := by
  intro x y z first second
  cases first with
  | none =>
    cases second
    rfl
  | some here =>
    cases second with
    | some here' => rw [unique here here']

end Options

/-! ## Bodies and messages of events -/

/-- The body of a block tells what its message tells. -/
lemma BlockBody.tells_ofBlock (b : Block) : (ofBlock b).Tells b.toMessage := ⟨rfl, rfl, rfl⟩

/-- The body of a status tells what its message tells. -/
lemma StatusBody.tells_ofStatus (s : Status) : (ofStatus s).Tells s.toMessage :=
  ⟨rfl, rel_map BlockBody.tells_ofBlock s.block⟩

/-- The body of an output tells what its message tells. -/
lemma UtxoBody.tells_ofUtxo (u : Event.Utxo) : (ofUtxo u).Tells u.toMessage where
  txid := rfl
  index := rfl
  asset := rfl
  value := rfl
  script := rfl
  assetBlinder := rfl
  valueBlinder := rfl
  accountName := rfl
  spent := rel_map StatusBody.tells_ofStatus u.spent
  confirmed := rel_map StatusBody.tells_ofStatus u.confirmed

/-- The body of a transaction event tells what its message tells. -/
lemma TransactionBody.tells_ofEvent (e : TransactionEvent) : (ofEvent e).Tells e.toMessage where
  eventType := TransactionKind.name?_numberOf e.kind
  txid := rfl
  accountNames := rfl
  block := rel_map BlockBody.tells_ofBlock e.block

/-- The body of a utxo event tells what its message tells. -/
lemma UtxosBody.tells_ofEvent (e : UtxoEvent) : (ofEvent e).Tells e.toMessage where
  eventType := UtxoKind.name?_numberOf e.kind
  utxos := by
    apply List.forall₂_map_left_iff.mpr
    apply List.forall₂_map_right_iff.mpr
    exact List.forall₂_same.mpr fun u _ => UtxoBody.tells_ofUtxo u

/-! ## A body tells one message -/

/-- The body of a block tells one message. -/
lemma BlockBody.tells_unique : RightUnique BlockBody.Tells := by
  intro b m m' first second
  cases m
  cases m'
  rw [Schema.Stable.BlockDetails.mk.injEq]
  exact ⟨first.hash.symm.trans second.hash, first.height.symm.trans second.height,
    first.timestamp.symm.trans second.timestamp⟩

/-- The body of a status tells one message. -/
lemma StatusBody.tells_unique : RightUnique StatusBody.Tells := by
  intro s m m' first second
  cases m
  cases m'
  rw [Schema.Stable.UtxoStatus.mk.injEq]
  exact ⟨first.txid.symm.trans second.txid,
    rightUnique_rel BlockBody.tells_unique first.block second.block⟩

/-- The body of an output tells one message. -/
lemma UtxoBody.tells_unique : RightUnique UtxoBody.Tells := by
  intro u m m' first second
  have statuses := rightUnique_rel StatusBody.tells_unique
  cases m
  cases m'
  rw [Schema.Stable.Utxo.mk.injEq]
  exact ⟨first.txid.symm.trans second.txid, first.index.symm.trans second.index,
    first.asset.symm.trans second.asset, first.value.symm.trans second.value,
    first.script.symm.trans second.script, first.assetBlinder.symm.trans second.assetBlinder,
    first.valueBlinder.symm.trans second.valueBlinder,
    first.accountName.symm.trans second.accountName, statuses first.spent second.spent,
    statuses first.confirmed second.confirmed⟩

/-- The body of a transaction event tells one message. -/
lemma TransactionBody.tells_unique : RightUnique TransactionBody.Tells := by
  intro t m m' first second
  have once : txEventType.names.Nodup := by decide
  cases m
  cases m'
  rw [Schema.Stable.TransactionNotification.mk.injEq]
  exact ⟨first.accountNames.symm.trans second.accountNames, first.txid.symm.trans second.txid,
    Schema.Enumeration.eq_of_name? once first.eventType second.eventType,
    rightUnique_rel BlockBody.tells_unique first.block second.block⟩

/-- The body of a utxo event tells one message. -/
lemma UtxosBody.tells_unique : RightUnique UtxosBody.Tells := by
  intro b m m' first second
  have once : utxoEventType.names.Nodup := by decide
  cases m
  cases m'
  rw [Schema.Stable.UtxosNotification.mk.injEq]
  exact ⟨UtxoBody.tells_unique.forall₂ first.utxos second.utxos,
    Schema.Enumeration.eq_of_name? once first.eventType second.eventType⟩

/-! ## Events and their texts -/

/-- No two transaction events have one body. -/
lemma TransactionBody.ofEvent_injective {d e : TransactionEvent} (same : ofEvent d = ofEvent e) :
    d = e := by
  have told := tells_ofEvent d
  rw [same] at told
  have message := tells_unique told (tells_ofEvent e)
  have read := TransactionEvent.ofMessage_eq_ok.mpr message
  rw [TransactionEvent.ofMessage_eq_ok.mpr rfl] at read
  exact (Except.ok.inj read).symm

/-- No two utxo events have one body. -/
lemma UtxosBody.ofEvent_injective {d e : UtxoEvent} (same : ofEvent d = ofEvent e) : d = e := by
  have told := tells_ofEvent d
  rw [same] at told
  have message := tells_unique told (tells_ofEvent e)
  have read := d.ofMessage_toMessage
  rw [message, e.ofMessage_toMessage] at read
  exact (Except.ok.inj read).symm

/-- The body of an event tells what its message tells, field by field and output by output, and the
unspecified name is told of events without a kind only. The text of a body is that of one event of
its class. -/
theorem bodies_tell_messages :
    (∀ e : TransactionEvent, (TransactionBody.ofEvent e).Tells e.toMessage ∧
      ((TransactionBody.ofEvent e).eventType = txEventType.unspecified ↔ e.kind = none)) ∧
    (∀ e : UtxoEvent, (UtxosBody.ofEvent e).Tells e.toMessage ∧
      ((UtxosBody.ofEvent e).eventType = utxoEventType.unspecified ↔ e.kind = none)) ∧
    (∀ d e : TransactionEvent, bodyOf (.transaction d) = bodyOf (.transaction e) ↔ d = e) ∧
    ∀ d e : UtxoEvent, bodyOf (.unspents d) = bodyOf (.unspents e) ↔ d = e := by
  refine ⟨fun e => ⟨TransactionBody.tells_ofEvent e, ?_⟩, fun e => ⟨UtxosBody.tells_ofEvent e, ?_⟩,
    fun d e => ⟨fun same => ?_, ?_⟩, fun d e => ⟨fun same => ?_, ?_⟩⟩
  · exact Kind.nameOf_eq_unspecified (by decide) (TransactionKind.name?_numberOf e.kind)
  · exact Kind.nameOf_eq_unspecified (by decide) (UtxoKind.name?_numberOf e.kind)
  · exact TransactionBody.ofEvent_injective (Body.text_injective same)
  · rintro rfl
    rfl
  · exact UtxosBody.ofEvent_injective (Body.text_injective same)
  · rintro rfl
    rfl

end WalletNotify.Webhook
