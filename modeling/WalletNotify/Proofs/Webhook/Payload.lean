import WalletNotify.Proofs.Json.RoundTrip
import WalletNotify.Webhook.Payload

/-!
# Webhook bodies and their texts

A body is the values of its fields, so that what holds of JSON records holds of bodies. Main
statement: both kinds of bodies are read from their own texts (`payload_round_trip`), whatever
characters and numbers they hold.
-/

namespace WalletNotify.Webhook

open Json (Fault)

/-- A structure that is made of the values of fields with names of their own. -/
class LawfulBody (α : Type) [Body α] : Prop where
  ofFields_fields : ∀ a : α, Body.ofFields (Body.fields a) = a
  named : (Body.shape α).WellNamed := by decide

namespace Body

section Lawful

variable {α : Type} [Body α] [LawfulBody α]

/-- A body is made of its own fields. -/
lemma ofFields_comp_fields : (ofFields : _ → α) ∘ fields = id :=
  funext LawfulBody.ofFields_fields

/-- A nested body that may be missing is made of its own fields. -/
lemma option_map_ofFields (nested : Option α) : (nested.map fields).map ofFields = nested := by
  rw [Option.map_map, ofFields_comp_fields, Option.map_id, id]

/-- Nested bodies are made of their own fields. -/
lemma list_map_ofFields (nested : List α) : (nested.map fields).map ofFields = nested := by
  rw [List.map_map, ofFields_comp_fields, List.map_id]

/-- A body is read from its own text. -/
theorem read_text (body : α) : read (text body) = .ok body := by
  rw [read, text, String.toList_ofList, Json.read_write LawfulBody.named]
  exact congrArg Except.ok (LawfulBody.ofFields_fields body)

/-- No two bodies have one text. -/
theorem text_injective {body other : α} (same : text body = text other) : body = other := by
  have again := read_text body
  rw [same, read_text] at again
  exact (Except.ok.inj again).symm

end Lawful

variable (α : Type) [Body α]

/-- The text of the body that a text holds. -/
def rewritten (s : String) : Except Fault String := (read s : Except Fault α).map text

variable {α}

/-- A text is rewritten exactly if a body is read from it. -/
lemma rewritten_eq_ok {s written : String} :
    rewritten α s = .ok written ↔ ∃ body : α, read s = .ok body ∧ text body = written := by
  unfold rewritten
  cases (read s : Except Fault α) <;> simp [Except.map]

/-- The text that is written for the body of another text holds the same body, and writing it once
more changes nothing. -/
theorem rewritten_of_rewritten [LawfulBody α] {s written : String}
    (done : rewritten α s = .ok written) :
    (read written : Except Fault α) = read s ∧ rewritten α written = .ok written := by
  obtain ⟨body, held, rfl⟩ := rewritten_eq_ok.mp done
  constructor
  · rw [read_text, held]
  · exact rewritten_eq_ok.mpr ⟨body, read_text body, rfl⟩

end Body

instance : LawfulBody BlockBody where
  ofFields_fields _ := rfl

instance : LawfulBody StatusBody where
  ofFields_fields s := congrArg (StatusBody.mk s.txid) (Body.option_map_ofFields s.block)

instance : LawfulBody UtxoBody where
  ofFields_fields u := by
    change { u with spent := _, confirmed := _ } = u
    rw [Body.option_map_ofFields, Body.option_map_ofFields]

instance : LawfulBody TransactionBody where
  ofFields_fields t :=
    congrArg (TransactionBody.mk t.eventType t.txid t.accountNames)
      (Body.option_map_ofFields t.block)

instance : LawfulBody UtxosBody where
  ofFields_fields u := congrArg (UtxosBody.mk u.eventType) (Body.list_map_ofFields u.utxos)

/-- Every body is read from its own text. A text that is read at all, however it is laid out, is
written again as one that holds the same body and that does not change any more. -/
theorem payload_round_trip :
    (∀ body : TransactionBody, Body.read (Body.text body) = .ok body) ∧
    (∀ body : UtxosBody, Body.read (Body.text body) = .ok body) ∧
    (∀ s written : String, Body.rewritten TransactionBody s = .ok written →
      (Body.read written : Except Fault TransactionBody) = Body.read s ∧
        Body.rewritten TransactionBody written = .ok written) ∧
    (∀ s written : String, Body.rewritten UtxosBody s = .ok written →
      (Body.read written : Except Fault UtxosBody) = Body.read s ∧
        Body.rewritten UtxosBody written = .ok written) := by
  refine ⟨Body.read_text, Body.read_text, ?_, ?_⟩
  · intro s written done
    exact Body.rewritten_of_rewritten done
  · intro s written done
    exact Body.rewritten_of_rewritten done

/-- A text in another order, with blanks and a member of its own, and one of records as arrays. -/
theorem payload_round_trip_of_loose_texts :
    let transaction := "\x7b \"block_details\": \x7b\"timestamp\": -9223372036854775808, " ++
      "\"hash\": \"\\u0001\\\"\", \"height\": 18446744073709551615\x7d,\n" ++
      "\"extra\": [1.5, \x7b\x7d], \"account_names\": [\"\\u00e9\\\\\"], " ++
      "\"txid\": \"t\", \"event_type\": \"e\"\x7d"
    let utxos := "[\"e\", [[\"t\", 4294967295, \"a\", 1, \"s\", \"b\", \"v\", \"n\", null, " ++
      "[\"c\", null]]]]"
    (∃ written, Body.rewritten TransactionBody transaction = .ok written ∧
      (Body.read written : Except Fault TransactionBody) = Body.read transaction ∧
      Body.rewritten TransactionBody written = .ok written) ∧
    (∃ written, Body.rewritten UtxosBody utxos = .ok written ∧
      (Body.read written : Except Fault UtxosBody) = Body.read utxos ∧
      Body.rewritten UtxosBody written = .ok written) := by
  intro transaction utxos
  have first : Body.rewritten TransactionBody transaction = .ok
      ("\x7b\"event_type\":\"e\",\"txid\":\"t\",\"account_names\":[\"é\\\\\"]," ++
        "\"block_details\":\x7b\"hash\":\"\\u0001\\\"\",\"height\":18446744073709551615," ++
        "\"timestamp\":-9223372036854775808\x7d\x7d") := by
    decide +kernel
  have second : Body.rewritten UtxosBody utxos = .ok
      ("\x7b\"event_type\":\"e\",\"utxos\":[\x7b\"txid\":\"t\",\"index\":4294967295," ++
        "\"asset\":\"a\",\"value\":1,\"script\":\"s\",\"asset_blinder\":\"b\"," ++
        "\"value_blinder\":\"v\",\"account_name\":\"n\",\"spent_status\":null," ++
        "\"confirmed_status\":\x7b\"txid\":\"c\",\"block_info\":null\x7d\x7d]\x7d") := by
    decide +kernel
  exact ⟨⟨_, first, payload_round_trip.2.2.1 _ _ first⟩,
    ⟨_, second, payload_round_trip.2.2.2 _ _ second⟩⟩

end WalletNotify.Webhook
