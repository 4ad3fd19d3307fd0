import WalletNotify.Proofs.Schema.RoundTrip
import WalletNotify.Proofs.Wire.Truncation

/-!
# Messages that are cut

What is left of an encoding that was cut is decoded if the cut is between two fields, and then as
the message without the fields behind the cut. Main statement: `decode_truncated`.
-/

namespace WalletNotify.Schema

open Wire (Bytes FieldRecord Splits bytesOf encode truncate)

/-- An encoding splits into records of fields in one way. A front of it that ends with a record is
decoded as the message that has the fields of the records up to there only. Any other front is not
decoded: it ends inside a record, be it in its key, a number, a count, a text or a nested message,
and be that between two fields of the nested message. -/
theorem decode_truncated {d : Declaration} (known : d ∈ catalogue) (v : d.shape.Value)
    (fits : (encode d.shape v).length < 2 ^ 63) :
    (∃! records, Splits (encode d.shape v) records) ∧
    ∀ records, Splits (encode d.shape v) records →
      (∀ n, Wire.decode d.shape d.name (bytesOf (records.take n)) =
        .ok (truncate d.shape n v)) ∧
      ∀ part, part <+: encode d.shape v → (∀ n, part ≠ bytesOf (records.take n)) →
        ∃ e, Wire.decode d.shape d.name part = .error e := by
  obtain ⟨numbered, deep⟩ := catalogue_numbered d known
  obtain ⟨records, cuts⟩ := Wire.exists_cuts d.shape numbered v (by omega)
  refine ⟨⟨records, cuts.toSplits, fun others splits => splits.unique cuts.toSplits⟩, ?_⟩
  intro others splits
  obtain rfl := splits.unique cuts.toSplits
  constructor
  · intro n
    -- The first records are an encoding in their own right, and no longer than the whole one.
    have shorter : (encode d.shape (truncate d.shape n v)).length ≤ (encode d.shape v).length := by
      have parts := congrArg bytesOf (List.take_append_drop n others)
      rw [Wire.bytesOf_append, cuts.take, cuts.bytesOf_eq] at parts
      rw [← parts, List.length_append]
      exact Nat.le_add_right _ _
    rw [cuts.take]
    exact Wire.decode_encode numbered deep d.name (by omega)
  · intro part front between
    cases found : Wire.decode d.shape d.name part with
    | error e => exact ⟨e, rfl⟩
    | ok w =>
      obtain ⟨n, ends⟩ := splits.exists_take front found
      exact absurd ends (between n)

/-- A status that is cut behind its transaction is one without a block. One that is cut inside the
block is none, also where the hash of the block ends. -/
theorem decode_truncated_inside_block :
    let d := Declaration.of "v1" Stable.UtxoStatus
    let status : d.shape.Value := Message.fields (⟨"t", some ⟨"a", 7, 0⟩⟩ : Stable.UtxoStatus)
    let transaction : Bytes := [0x0A, 1, 0x74]
    let hash : Bytes := [0x12, 5, 0x0A, 1, 0x61]
    d ∈ catalogue ∧ (encode d.shape status).length < 2 ^ 63 ∧
      transaction ++ hash <+: encode d.shape status ∧
      Wire.decode d.shape d.name transaction =
        .ok (Message.fields (⟨"t", none⟩ : Stable.UtxoStatus)) ∧
      ∃ e, Wire.decode d.shape d.name (transaction ++ hash) = .error e := by
  intro d status transaction hash
  have known : d ∈ catalogue := by simp [d, catalogue, Stable.declarations]
  have fits : (encode d.shape status).length < 2 ^ 63 := by decide
  have front : transaction ++ hash <+: encode d.shape status := by decide
  let first := FieldRecord.of ⟨1, .delimited⟩ [1, 0x74] (by decide) (by decide)
  let block := FieldRecord.of ⟨2, .delimited⟩ [5, 0x0A, 1, 0x61, 0x10, 7] (by decide) (by decide)
  have splits : Splits (encode d.shape status) [first, block] := by
    refine ⟨by decide, fun r mem => ?_⟩
    simp only [List.mem_cons, List.not_mem_nil, or_false] at mem
    rcases mem with rfl | rfl
    · exact @Wire.IsPayload.delimited _ _ [1] [0x74] rfl
    · exact @Wire.IsPayload.delimited _ _ [5] [0x0A, 1, 0x61, 0x10, 7] rfl
  obtain ⟨between, inside⟩ := (decode_truncated known status fits).2 _ splits
  refine ⟨known, fits, front, between 1, inside _ front fun n => ?_⟩
  rcases n with _ | _ | n
  · decide
  · decide
  · rw [List.take_of_length_le (by simp)]
    decide

end WalletNotify.Schema
