import WalletNotify.Proofs.Event.Transport
import WalletNotify.Proofs.Text.HexFault

/-!
# Which messages stand for events

A message about unspent outputs stands for an event if its event type is a number of a kind or
unspecified and all its scripts are hexadecimal. Main statement: `conversion_tells_first_fault`,
which says what is wrong with any other message: its event type, whatever the outputs are, and
otherwise the script of the first output with a bad one.
-/

namespace WalletNotify.Event

open Text (utf8)
open Text.Hex (Faulty IsHex)

/-- An output is that of a message: it has the bytes that the message's script spells, and all else
that the message tells. -/
structure Utxo.IsOf (u : Utxo) (m : Schema.Stable.Utxo) : Prop where
  hex : IsHex m.script
  script : Text.Hex.encode u.script = m.script.toLower
  rest : u.toMessage = { m with script := Text.Hex.encode u.script }

/-- What is wrong with a message about outputs: its event type, and otherwise the script of the
first output whose script is not hexadecimal. -/
inductive UtxoEvent.FirstFault (m : Schema.Stable.UtxosNotification) : ConversionError → Prop where
  | eventType :
    m.eventType ∉ [0, 1, 2, 3] → FirstFault m (.unknownNumber "UtxoEventType" m.eventType)
  | script {before u after fault} :
    m.eventType ∈ [0, 1, 2, 3] → m.utxos = before ++ u :: after →
    (∀ v ∈ before, IsHex v.script) → Faulty u.script fault → FirstFault m (.badHex fault)

/-! ## Outputs -/

/-- Outputs with one message are one. -/
lemma Utxo.toMessage_injective {u v : Utxo} (same : u.toMessage = v.toMessage) : u = v := by
  have read := congrArg ofMessage same
  rw [ofMessage_toMessage, ofMessage_toMessage] at read
  exact Except.ok.inj read

/-- An output is accepted exactly if its script is hexadecimal. -/
lemma Utxo.exists_ofMessage_iff {m : Schema.Stable.Utxo} :
    (∃ u, ofMessage m = .ok u) ↔ IsHex m.script := by
  simp only [ofMessage, bind_eq_ok, mapError_eq_ok, Text.Hex.decode_eq_ok]
  constructor
  · rintro ⟨-, -, ⟨hex, -⟩, -⟩
    exact hex
  · intro hex
    cases decoded : Text.Hex.decode m.script with
    | error fault =>
      exact absurd hex (Text.Hex.exists_faulty_iff.mp ⟨fault, Text.Hex.decode_eq_error.mp decoded⟩)
    | ok bytes => exact ⟨_, bytes, Text.Hex.decode_eq_ok.mp decoded, rfl⟩

/-- A message is read as the output that it is of. -/
lemma Utxo.ofMessage_eq_ok {m : Schema.Stable.Utxo} {u : Utxo} :
    ofMessage m = .ok u ↔ u.IsOf m := by
  constructor
  · intro read
    have told := toMessage_of_ofMessage read
    have script : Text.Hex.encode u.script = m.script.toLower :=
      congrArg Schema.Stable.Utxo.script told
    exact ⟨exists_ofMessage_iff.mp ⟨u, read⟩, script, by rw [told, script]⟩
  · rintro ⟨hex, script, rest⟩
    obtain ⟨v, read⟩ := exists_ofMessage_iff.mpr hex
    have told := toMessage_of_ofMessage read
    rw [← script, ← rest] at told
    rw [read, toMessage_injective told]

/-- An output is refused exactly for a fault of its script. -/
lemma Utxo.ofMessage_eq_error {m : Schema.Stable.Utxo} {e : ConversionError} :
    ofMessage m = .error e ↔ ∃ fault, Faulty m.script fault ∧ e = .badHex fault := by
  simp only [ofMessage, bind_eq_error, mapError_eq_error, Text.Hex.decode_eq_error]
  constructor
  · rintro (⟨fault, faulty, rfl⟩ | ⟨_, _, ⟨⟩⟩)
    exact ⟨fault, faulty, rfl⟩
  · rintro ⟨fault, faulty, rfl⟩
    exact .inl ⟨fault, faulty, rfl⟩

/-! ## Events -/

/-- A message is read as the event with its event type and its outputs one by one. -/
lemma UtxoEvent.ofMessage_eq_ok {m : Schema.Stable.UtxosNotification} {e : UtxoEvent} :
    ofMessage m = .ok e ↔ Kind.numberOf e.kind = m.eventType ∧
      List.Forall₂ (fun (m : Schema.Stable.Utxo) u => u.IsOf m) m.utxos e.utxos := by
  simp only [ofMessage, bind_eq_ok, Kind.ofNumber_eq_ok, mapM_eq_ok, Utxo.ofMessage_eq_ok]
  constructor
  · rintro ⟨kind, number, utxos, each, made⟩
    cases made
    exact ⟨number, each⟩
  · rintro ⟨number, each⟩
    exact ⟨e.kind, number, e.utxos, each, rfl⟩

/-- A message is refused with its first fault. -/
lemma UtxoEvent.ofMessage_eq_error {m : Schema.Stable.UtxosNotification} {f : ConversionError} :
    ofMessage m = .error f ↔ FirstFault m f := by
  simp only [ofMessage, bind_eq_error, Kind.ofNumber_eq_error, Kind.ofNumber_eq_ok, mapM_eq_error,
    Utxo.ofMessage_eq_error, Utxo.exists_ofMessage_iff, UtxoKind.exists_numberOf_iff]
  constructor
  · rintro (⟨unknown, rfl⟩ | ⟨kind, number, ⟨before, u, after, parts, fine, fault, faulty, rfl⟩ |
      ⟨_, _, ⟨⟩⟩⟩)
    · exact .eventType unknown
    · exact .script (UtxoKind.exists_numberOf_iff.mp ⟨kind, number⟩) parts fine faulty
  · rintro (unknown | ⟨known, parts, fine, faulty⟩)
    · exact .inl ⟨unknown, rfl⟩
    · obtain ⟨kind, number⟩ := UtxoKind.exists_numberOf_iff.mpr known
      exact .inr ⟨kind, number, .inl ⟨_, _, _, parts, fine, _, faulty, rfl⟩⟩

/-- A message is accepted exactly if its event type is known and all scripts are hexadecimal. -/
lemma UtxoEvent.exists_ofMessage_iff {m : Schema.Stable.UtxosNotification} :
    (∃ e, ofMessage m = .ok e) ↔
      m.eventType ∈ [0, 1, 2, 3] ∧ ∀ u ∈ m.utxos, IsHex u.script := by
  rw [← UtxoKind.exists_numberOf_iff]
  simp only [← Utxo.exists_ofMessage_iff, ← exists_mapM_iff, ofMessage, bind_eq_ok,
    Kind.ofNumber_eq_ok]
  constructor
  · rintro ⟨-, kind, number, utxos, each, -⟩
    exact ⟨⟨kind, number⟩, utxos, each⟩
  · rintro ⟨⟨kind, number⟩, utxos, each⟩
    exact ⟨⟨kind, utxos⟩, kind, number, utxos, each, rfl⟩

/-- A message about outputs is read exactly if its event type is known and all its scripts are
hexadecimal, as the outputs of its messages in their order; otherwise its first fault is told. The
text of bytes is read as those bytes, and a text that is read is the text of its bytes but for the
case of its letters. -/
theorem conversion_tells_first_fault (m : Schema.Stable.UtxosNotification) :
    ((∃ e, UtxoEvent.ofMessage m = .ok e) ↔
      m.eventType ∈ [0, 1, 2, 3] ∧ ∀ u ∈ m.utxos, IsHex u.script) ∧
    (∀ e, UtxoEvent.ofMessage m = .ok e ↔ Kind.numberOf e.kind = m.eventType ∧
      List.Forall₂ (fun (m : Schema.Stable.Utxo) u => u.IsOf m) m.utxos e.utxos) ∧
    (∀ fault, UtxoEvent.ofMessage m = .error fault ↔ UtxoEvent.FirstFault m fault) ∧
    (∀ bytes, Text.Hex.decode (Text.Hex.encode bytes) = .ok bytes) ∧
    ∀ s bytes, Text.Hex.decode s = .ok bytes ↔ IsHex s ∧ Text.Hex.encode bytes = s.toLower := by
  refine ⟨UtxoEvent.exists_ofMessage_iff, fun e => ?_, fun fault => ?_, fun bytes => ?_,
    fun s bytes => ?_⟩
  · exact UtxoEvent.ofMessage_eq_ok
  · exact UtxoEvent.ofMessage_eq_error
  · exact Text.Hex.decode_encode bytes
  · exact Text.Hex.decode_eq_ok

/-- A script of an even number of bytes with a letter that is none of ASCII is refused at the first
byte of that letter, though an output behind it has a script of an odd length. -/
theorem conversion_tells_bad_letter :
    let output (script : String) : Schema.Stable.Utxo :=
      ⟨"t", 0, "lbtc", 7, script, "", "", "main", none, none⟩
    let m : Schema.Stable.UtxosNotification := ⟨[output "0aF0", output "1é2", output "abc"], 2⟩
    UtxoEvent.ofMessage m = .error (.badHex (.invalidCharacter 0xC3 1)) := by
  intro output m
  refine ((conversion_tells_first_fault m).2.2.1 _).mpr ?_
  have fine : IsHex "0aF0" := ⟨by decide, by simp [Text.Hex.IsDigit]⟩
  have bytes : Text.utf8 "1é2" = [0x31] ++ 0xC3 :: [0xA9, 0x32] := by decide +kernel
  have even : (Text.utf8 "1é2").length % 2 = 0 := by decide +kernel
  have bad : Faulty "1é2" (.invalidCharacter 0xC3 1) :=
    .character even bytes (List.forall_mem_singleton.mpr (by decide)) (by decide)
  have parts : m.utxos = [output "0aF0"] ++ output "1é2" :: [output "abc"] := rfl
  exact .script (by decide) parts (by simpa using fine) bad

end WalletNotify.Event
