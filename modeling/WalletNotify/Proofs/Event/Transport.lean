import WalletNotify.Event.Basic
import WalletNotify.Proofs.Event.Kind
import WalletNotify.Proofs.Result
import WalletNotify.Proofs.Schema.Message
import WalletNotify.Proofs.Text.Hex

/-!
# Events as they are sent

An event is sent as the bytes of its message. Main statement: `transport_lossless`, which says that
the receiver has the event again, and that a message which stands for an event is told by it.
-/

namespace WalletNotify.Event

open Schema (Message)

/-! ## Blocks and outputs -/

/-- A block that may be missing is read back from its message. -/
lemma Block.map_ofMessage_map_toMessage (b : Option Block) :
    (b.map Block.toMessage).map Block.ofMessage = b := by
  cases b <;> rfl

/-- The message of a block that may be missing is the one it was read from. -/
lemma Block.map_toMessage_map_ofMessage (m : Option Schema.Stable.BlockDetails) :
    (m.map Block.ofMessage).map Block.toMessage = m := by
  cases m <;> rfl

/-- A status is read back from its message. -/
lemma Status.ofMessage_toMessage (s : Status) : ofMessage s.toMessage = s :=
  congrArg (Status.mk s.txid) (Block.map_ofMessage_map_toMessage s.block)

/-- The message of a status that was read from a message is that message. -/
lemma Status.toMessage_ofMessage (m : Schema.Stable.UtxoStatus) : (ofMessage m).toMessage = m :=
  congrArg (Schema.Stable.UtxoStatus.mk m.txid) (Block.map_toMessage_map_ofMessage m.blockInfo)

/-- A status that may be missing is read back from its message. -/
lemma Status.map_ofMessage_map_toMessage (s : Option Status) :
    (s.map Status.toMessage).map Status.ofMessage = s := by
  cases s with
  | none => rfl
  | some s => exact congrArg some (ofMessage_toMessage s)

/-- The message of a status that may be missing is the one it was read from. -/
lemma Status.map_toMessage_map_ofMessage (m : Option Schema.Stable.UtxoStatus) :
    (m.map Status.ofMessage).map Status.toMessage = m := by
  cases m with
  | none => rfl
  | some m => exact congrArg some (toMessage_ofMessage m)

/-- An output is read back from its message. -/
lemma Utxo.ofMessage_toMessage (u : Utxo) : ofMessage u.toMessage = .ok u := by
  simp only [ofMessage, bind_eq_ok, mapError_eq_ok]
  refine ⟨u.script, Text.Hex.decode_encode u.script, ?_⟩
  simp only [toMessage, Status.map_ofMessage_map_toMessage]
  rfl

/-- An output that is read from a message has that message but for the case of the letters in the
script. -/
lemma Utxo.toMessage_of_ofMessage {m : Schema.Stable.Utxo} {u : Utxo} (read : ofMessage m = .ok u) :
    u.toMessage = { m with script := m.script.toLower } := by
  simp only [ofMessage, bind_eq_ok, mapError_eq_ok] at read
  obtain ⟨script, decoded, made⟩ := read
  cases made
  simp only [toMessage, Status.map_toMessage_map_ofMessage, Text.Hex.encode_of_decode decoded]

/-- The messages of outputs are those that they were read from, with their scripts in lower case. -/
lemma Utxo.map_toMessage_of_ofMessage {messages : List Schema.Stable.Utxo} {utxos : List Utxo}
    (each : List.Forall₂ (fun m u => ofMessage m = .ok u) messages utxos) :
    utxos.map toMessage = messages.map fun m => { m with script := m.script.toLower } := by
  induction each with
  | nil => rfl
  | cons first rest ih => rw [List.map_cons, List.map_cons, toMessage_of_ofMessage first, ih]

/-! ## Events -/

/-- An event is read from its message, and from no other. -/
lemma TransactionEvent.ofMessage_eq_ok {m : Schema.Stable.TransactionNotification}
    {e : TransactionEvent} : ofMessage m = .ok e ↔ e.toMessage = m := by
  simp only [ofMessage, bind_eq_ok, Kind.ofNumber_eq_ok]
  constructor
  · rintro ⟨kind, number, made⟩
    cases made
    simp only [toMessage, number, Block.map_toMessage_map_ofMessage]
  · rintro rfl
    refine ⟨e.kind, rfl, ?_⟩
    simp only [toMessage, Block.map_ofMessage_map_toMessage]
    rfl

/-- An event is read back from its message. -/
lemma UtxoEvent.ofMessage_toMessage (e : UtxoEvent) : ofMessage e.toMessage = .ok e := by
  simp only [ofMessage, bind_eq_ok, Kind.ofNumber_eq_ok, mapM_eq_ok]
  refine ⟨e.kind, rfl, e.utxos, ?_, rfl⟩
  rw [toMessage, List.forall₂_map_left_iff]
  exact List.forall₂_same.mpr fun u _ => Utxo.ofMessage_toMessage u

/-- An event that is read from a message has that message but for the case of the letters in the
scripts. -/
lemma UtxoEvent.toMessage_of_ofMessage {m : Schema.Stable.UtxosNotification} {e : UtxoEvent}
    (read : ofMessage m = .ok e) :
    e.toMessage =
      { m with utxos := m.utxos.map fun u => { u with script := u.script.toLower } } := by
  simp only [ofMessage, bind_eq_ok, Kind.ofNumber_eq_ok, mapM_eq_ok] at read
  obtain ⟨kind, number, utxos, each, made⟩ := read
  cases made
  simp only [toMessage, number, Utxo.map_toMessage_of_ofMessage each]

/-- The receiver of an event's bytes has the event. An event that is read from a message tells that
message, with the letters of scripts in lower case, and is read from what it tells. It has no kind
exactly if the message leaves its event type unspecified. -/
theorem transport_lossless :
    (∀ e : TransactionEvent, (Message.encode e.toMessage).length < 2 ^ 63 →
      (Message.decode (Message.encode e.toMessage)).map TransactionEvent.ofMessage = .ok (.ok e)) ∧
    (∀ e : UtxoEvent, (Message.encode e.toMessage).length < 2 ^ 63 →
      (Message.decode (Message.encode e.toMessage)).map UtxoEvent.ofMessage = .ok (.ok e)) ∧
    (∀ (m : Schema.Stable.TransactionNotification) (e : TransactionEvent),
      TransactionEvent.ofMessage m = .ok e →
      e.toMessage = m ∧ TransactionEvent.ofMessage e.toMessage = .ok e ∧
        (e.kind = none ↔ m.eventType = 0)) ∧
    (∀ (m : Schema.Stable.UtxosNotification) (e : UtxoEvent), UtxoEvent.ofMessage m = .ok e →
      e.toMessage = { m with utxos := m.utxos.map fun u => { u with script := u.script.toLower } } ∧
        UtxoEvent.ofMessage e.toMessage = .ok e ∧ (e.kind = none ↔ m.eventType = 0)) := by
  refine ⟨?_, ?_, ?_, ?_⟩
  · intro e short
    rw [Message.decode_encode (by omega)]
    exact congrArg Except.ok (TransactionEvent.ofMessage_eq_ok.mpr rfl)
  · intro e short
    rw [Message.decode_encode (by omega)]
    exact congrArg Except.ok e.ofMessage_toMessage
  · intro m e read
    cases TransactionEvent.ofMessage_eq_ok.mp read
    exact ⟨rfl, read, Kind.eq_none_iff⟩
  · intro m e read
    have told := UtxoEvent.toMessage_of_ofMessage read
    have eventType : Kind.numberOf e.kind = m.eventType :=
      congrArg Schema.Stable.UtxosNotification.eventType told
    exact ⟨told, e.ofMessage_toMessage, eventType ▸ Kind.eq_none_iff⟩

/-- A script with upper-case letters is sent on in lower case. -/
theorem transport_lossless_upper_case :
    let coin : Utxo := ⟨⟨"t", 1⟩, "lbtc", 7, [0xA1, 0xFF], "", "", "main", none,
      some ⟨"t", some ⟨"h", 5, -1⟩⟩⟩
    let e : UtxoEvent := ⟨none, [coin]⟩
    let m : Schema.Stable.UtxosNotification := ⟨[{ coin.toMessage with script := "A1fF" }], 0⟩
    UtxoEvent.ofMessage m = .ok e ∧
      (Message.decode (Message.encode e.toMessage)).map UtxoEvent.ofMessage = .ok (.ok e) ∧
      e.toMessage = ⟨[{ coin.toMessage with script := "a1ff" }], 0⟩ := by
  intro coin e m
  have read : UtxoEvent.ofMessage m = .ok e := by decide
  have back := transport_lossless.2.1 e (by decide)
  have lower : "A1fF".toLower = "a1ff" := by
    change "A1fF".map Char.toLower = "a1ff"
    rw [String.map_eq_internal]
    decide
  have told := (transport_lossless.2.2.2 m e read).1
  rw [List.map_singleton, lower] at told
  exact ⟨read, back, told⟩

end WalletNotify.Event
