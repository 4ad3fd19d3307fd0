import WalletNotify.Proofs.Schema.RoundTrip
import WalletNotify.Proofs.Wire.Rearrange

/-!
# Messages in other orders

An encoding of a message may hold its fields in any order, and fields of other versions of the
message among them. Main statement: `decode_rearranged`.
-/

namespace WalletNotify.Schema

open Wire (Bytes FieldRecord IsPayload Rearranges Splits bytesOf)

/-- What is left without the fields that are not declared is rearranged. -/
lemma rearranges_declared (numbers : List Nat) (records : List FieldRecord) :
    Rearranges numbers records (records.filter (·.key.number ∈ numbers)) where
  declared n mem := by
    have keeps (r : FieldRecord) :
        (decide (r.key.number = n) && decide (r.key.number ∈ numbers)) =
          decide (r.key.number = n) := by
      by_cases same : r.key.number = n
      · simp [same, mem]
      · simp [same]
    simp only [List.filter_filter, keeps]
  undeclared r mem free := by
    have known := (List.mem_filter.mp mem).2
    simp [free] at known

/-- Bytes that are decoded split into records of fields in one way. Records that hold the same ones
of each declared field, in the same order among each other, are decoded as the same value, whatever
whole records of other fields are among them, and so is what is left without such records. -/
theorem decode_rearranged {d : Declaration} (known : d ∈ catalogue) {bytes : Bytes}
    {v : d.shape.Value} (found : Wire.decode d.shape d.name bytes = .ok v) :
    (∃! records, Splits bytes records) ∧
    ∀ records, Splits bytes records →
      (∀ others, Rearranges d.shape.numbers records others →
        Wire.decode d.shape d.name (bytesOf others) = .ok v) ∧
      Wire.decode d.shape d.name
        (bytesOf (records.filter (·.key.number ∈ d.shape.numbers))) = .ok v := by
  obtain ⟨numbered, -⟩ := catalogue_numbered d known
  obtain ⟨records, splits, -⟩ := Wire.exists_splits found
  refine ⟨⟨records, splits, fun others splits' => splits'.unique splits⟩, ?_⟩
  intro records splits
  have rearranged (others : List FieldRecord)
      (rearranges : Rearranges d.shape.numbers records others) :
      Wire.decode d.shape d.name (bytesOf others) = .ok v :=
    Wire.decode_of_rearranges numbered found splits rearranges
  exact ⟨rearranged, rearranged _ (rearranges_declared _ _)⟩

/-- A block whose height is told twice: its hash may come first, and a group of an unknown field
with an empty group inside between the heights. -/
theorem decode_rearranged_around_group :
    let d := Declaration.of "v1" Stable.BlockDetails
    let hash := FieldRecord.of ⟨1, .delimited⟩ [1, 97] (by decide) (by decide)
    let height (n : UInt8) := FieldRecord.of ⟨2, .varint⟩ [n] (by decide) (by decide)
    let group := FieldRecord.of ⟨9, .groupStart⟩ [83, 84, 76] (by decide) (by decide)
    let records := [height 5, height 7, hash]
    let others := [hash, height 5, group, height 7]
    let told : d.shape.Value := Message.fields (⟨"a", 7, 0⟩ : Stable.BlockDetails)
    d ∈ catalogue ∧
      Wire.decode d.shape d.name (bytesOf records) = .ok told ∧
      Splits (bytesOf records) records ∧ Rearranges d.shape.numbers records others ∧
      Wire.decode d.shape d.name (bytesOf others) = .ok told := by
  intro d hash height group records others told
  have known : d ∈ catalogue := by simp [d, catalogue, Stable.declarations]
  have found : Wire.decode d.shape d.name (bytesOf records) = .ok told := by rfl
  have whole (n : UInt8) (small : n.toNat < 128) : (height n).IsWhole := by
    refine .varint (n := n.toNat) ?_
    simp [height, FieldRecord.of, Wire.Varint.decode, Wire.Varint.read, small]
  have wholeHash : IsPayload 100 ⟨1, .delimited⟩ ([1] ++ [97]) := .delimited rfl
  have wholeGroup : group.IsWhole := by
    let inner := FieldRecord.of ⟨10, .groupStart⟩ [84] (by decide) (by decide)
    have empty : IsPayload 99 ⟨10, .groupStart⟩ (bytesOf [] ++ [84]) :=
      .group (fun _ mem => absurd mem List.not_mem_nil) rfl
    have nested : IsPayload 100 ⟨9, .groupStart⟩ (bytesOf [inner] ++ [76]) := by
      refine .group (fun r mem => ?_) rfl
      rw [List.mem_singleton.mp mem]
      exact empty
    exact nested
  have splits : Splits (bytesOf records) records := by
    refine ⟨rfl, fun r mem => ?_⟩
    simp only [records, List.mem_cons, List.not_mem_nil, or_false] at mem
    rcases mem with rfl | rfl | rfl
    · exact whole 5 (by decide)
    · exact whole 7 (by decide)
    · exact wholeHash
  have rearranges : Rearranges d.shape.numbers records others := by
    refine ⟨fun n mem => ?_, fun r mem free => ?_⟩
    · have mem : n ∈ [1, 2, 3] := mem
      simp only [List.mem_cons, List.not_mem_nil, or_false] at mem
      rcases mem with rfl | rfl | rfl <;> rfl
    · simp only [others, List.mem_cons, List.not_mem_nil, or_false] at mem
      rcases mem with rfl | rfl | rfl | rfl
      · exact wholeHash
      · exact whole 5 (by decide)
      · exact wholeGroup
      · exact whole 7 (by decide)
  exact ⟨known, found, splits, rearranges,
    ((decode_rearranged known found).2 records splits).1 others rearranges⟩

end WalletNotify.Schema
