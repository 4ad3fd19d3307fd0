import WalletNotify.Proofs.Schema.RoundTrip
import WalletNotify.Proofs.Wire.Nested

/-!
# Messages in messages

A message inside another is decoded as it is on its own, with one level of nesting less. Main
statement: `decode_nested`.
-/

namespace WalletNotify.Schema

open Record (Label NestedField Shape)
open Wire (Bytes delimitedRecord maxDepth mergeAll)

/-- Bytes that are not decoded on their own are not decoded as a nested message either, whatever
bytes are behind them. Bytes that are, are decoded as the same message, and what is behind them goes
on from a message that has it. -/
theorem decode_nested {d : Declaration} (known : d ∈ catalogue) {l : Label} {inner : String}
    {sub : Shape Wire.Scalar} (f : NestedField l inner sub d.shape) {bytes rest : Bytes}
    (fits : bytes.length + rest.length < 2 ^ 63) :
    (∀ e, mergeAll sub inner (maxDepth - 1) bytes sub.unset = .error e →
      ∃ e', Wire.decode d.shape d.name (delimitedRecord l.number bytes ++ rest) = .error e') ∧
    ∀ x, mergeAll sub inner (maxDepth - 1) bytes sub.unset = .ok x →
      Wire.decode d.shape d.name (delimitedRecord l.number bytes ++ rest) =
        mergeAll d.shape d.name maxDepth rest (f.put d.shape.unset x) := by
  obtain ⟨numbered, -⟩ := catalogue_numbered d known
  have fits : bytes.length < 2 ^ 64 := by omega
  rw [← f.start_unset]
  constructor
  · intro e failed
    exact Wire.mergeAll_nested_of_error f numbered fits d.name failed
  · intro x whole
    exact Wire.mergeAll_nested f numbered fits d.name whole

/-- A block ends before its hash does: that the bytes behind the block would complete the hash is of
no use. A block in front of a transaction and of another block has the fields of both blocks. -/
theorem decode_nested_of_block :
    let d := Declaration.of "v1" Stable.UtxoStatus
    let cut : Bytes := [0x0A, 2, 0x61]
    let block : Bytes := [0x10, 7]
    let rest : Bytes := [0x0A, 1, 0x74, 0x12, 3, 0x0A, 1, 0x62]
    let told : d.shape.Value := Message.fields (⟨"t", some ⟨"b", 7, 0⟩⟩ : Stable.UtxoStatus)
    d ∈ catalogue ∧ cut.length + rest.length < 2 ^ 63 ∧ block.length + rest.length < 2 ^ 63 ∧
      (∃ e, Wire.decode d.shape d.name (delimitedRecord 2 cut ++ rest) = .error e) ∧
      Wire.decode d.shape d.name (delimitedRecord 2 block ++ rest) = .ok told := by
  intro d cut block rest told
  have known : d ∈ catalogue := by simp [d, catalogue, Stable.declarations]
  let field : NestedField ⟨2, "block_info"⟩ "BlockDetails" (Message.shape Stable.BlockDetails)
      d.shape := .behindScalar .record
  have short : cut.length + rest.length < 2 ^ 63 := by decide
  have short' : block.length + rest.length < 2 ^ 63 := by decide
  refine ⟨known, short, short', ?_, ?_⟩
  · exact (decode_nested known field short).1 _ rfl
  · exact (decode_nested known field short').2 _ rfl

end WalletNotify.Schema
