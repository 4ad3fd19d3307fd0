import WalletNotify.Proofs.Schema.RoundTrip

/-!
# Messages behind each other

Bytes of two messages behind each other are decoded as one message: `Wire.combine` is what the
fields of both make. Main statement: `decode_concatenation`.
-/

namespace WalletNotify.Wire

open Record (Shape)

/-- Two records in one. A scalar is that of the second record, unless it is unset there; lists go
behind each other, and a nested record that both have is combined of both. -/
def combine : (s : Shape Scalar) → s.Value → s.Value → s.Value
  | .nil, _, _ => ()
  | .scalar _ k rest, a, b =>
    (if b.1 = Record.Scalars.unset k then a.1 else b.1, combine rest a.2 b.2)
  | .texts _ rest, a, b => (a.1 ++ b.1, combine rest a.2 b.2)
  | .record _ _ sub rest, a, b => (Option.merge (combine sub) a.1 b.1, combine rest a.2 b.2)
  | .records _ _ _ rest, a, b => (a.1 ++ b.1, combine rest a.2 b.2)

/-- A nested record that only the second record has is laid over an unset one, which leaves it as it
is. -/
lemma overlay_eq_combine (s : Shape Scalar) (a b : s.Value) : overlay s a b = combine s a b := by
  induction s with
  | nil => rfl
  | scalar l k rest ih => exact Prod.ext rfl (ih a.2 b.2)
  | texts l rest ih => exact Prod.ext rfl (ih a.2 b.2)
  | record l name sub rest ihs ih =>
    obtain ⟨old, v⟩ := a
    obtain ⟨new, w⟩ := b
    refine Prod.ext ?_ (ih v w)
    cases new with
    | none => exact (Option.merge_none_right).symm
    | some y =>
      cases old with
      | none => exact congrArg some (overlay_unset sub y)
      | some x => exact congrArg some (ihs x y)
  | records l name sub rest ihs ih => exact Prod.ext rfl (ih a.2 b.2)

/-- Of three messages, it does not matter which two are combined first. -/
lemma combine_assoc (s : Shape Scalar) (a b c : s.Value) :
    combine s (combine s a b) c = combine s a (combine s b c) := by
  induction s with
  | nil => rfl
  | scalar l k rest ih =>
    refine Prod.ext ?_ (ih a.2 b.2 c.2)
    change (if c.1 = Record.Scalars.unset k then (if b.1 = _ then a.1 else b.1) else c.1) =
      if (if c.1 = Record.Scalars.unset k then b.1 else c.1) = _ then a.1
      else if c.1 = _ then b.1 else c.1
    by_cases unset : c.1 = Record.Scalars.unset k
    · simp only [if_pos unset]
    · simp only [if_neg unset]
  | texts l rest ih => exact Prod.ext (List.append_assoc _ _ _) (ih a.2 b.2 c.2)
  | record l name sub rest ihs ih =>
    have merges : Std.Associative (Option.merge (combine sub)) :=
      have : Std.Associative (combine sub) := ⟨ihs⟩
      inferInstance
    exact Prod.ext (merges.assoc a.1 b.1 c.1) (ih a.2 b.2 c.2)
  | records l name sub rest ihs ih =>
    exact Prod.ext (List.append_assoc _ _ _) (ih a.2 b.2 c.2)

/-- An empty message adds nothing in front. -/
lemma unset_combine (s : Shape Scalar) (v : s.Value) : combine s s.unset v = v :=
  (overlay_eq_combine s s.unset v).symm.trans (overlay_unset s v)

/-- An empty message adds nothing behind. -/
lemma combine_unset (s : Shape Scalar) (v : s.Value) : combine s v s.unset = v := by
  induction s with
  | nil => rfl
  | scalar l k rest ih => exact Prod.ext (if_pos rfl) (ih v.2)
  | texts l rest ih => exact Prod.ext (List.append_nil _) (ih v.2)
  | record l name sub rest ihs ih => exact Prod.ext Option.merge_none_right (ih v.2)
  | records l name sub rest ihs ih => exact Prod.ext (List.append_nil _) (ih v.2)

/-- Encodings behind each other are decoded as the values combined. -/
lemma decode_append {s : Shape Scalar} (numbered : s.WellNumbered) (deep : s.height ≤ maxDepth)
    (name : String) {a b : s.Value}
    (fits : (encode s a).length + (encode s b).length < 2 ^ 64) :
    decode s name (encode s a ++ encode s b) = .ok (combine s a b) := by
  have first := spells_encode s numbered name maxDepth deep s.unset a (by omega)
  have second := spells_encode s numbered name maxDepth deep a b (by omega)
  rw [overlay_unset] at first
  rw [decode, mergeAll, (first.append second).mergeUntil, overlay_eq_combine]
  rfl

end WalletNotify.Wire

namespace WalletNotify.Schema

open Wire (combine encode)

/-- Two encodings of one message type behind each other are decoded as their values combined. To
combine is associative, and the empty message is its unit. -/
theorem decode_concatenation {d : Declaration} (known : d ∈ catalogue) :
    (∀ a b : d.shape.Value, (encode d.shape a).length + (encode d.shape b).length < 2 ^ 63 →
      Wire.decode d.shape d.name (encode d.shape a ++ encode d.shape b) =
        .ok (combine d.shape a b)) ∧
    (∀ a b c : d.shape.Value,
      combine d.shape (combine d.shape a b) c = combine d.shape a (combine d.shape b c)) ∧
    ∀ a : d.shape.Value,
      combine d.shape d.shape.unset a = a ∧ combine d.shape a d.shape.unset = a := by
  obtain ⟨numbered, deep⟩ := catalogue_numbered d known
  refine ⟨fun a b fits => ?_, Wire.combine_assoc d.shape, fun a => ?_⟩
  · exact Wire.decode_append numbered deep d.name (by omega)
  · exact ⟨Wire.unset_combine d.shape a, Wire.combine_unset d.shape a⟩

/-- The block of a utxo's status is told half by one message and half by the next, which also
replaces the transaction. -/
theorem decode_concatenation_of_status :
    let d := Declaration.of "v1" Stable.UtxoStatus
    let first : d.shape.Value := Message.fields (⟨"s", some ⟨"a", 7, 0⟩⟩ : Stable.UtxoStatus)
    let second : d.shape.Value := Message.fields (⟨"t", some ⟨"", 8, 5⟩⟩ : Stable.UtxoStatus)
    d ∈ catalogue ∧ (encode d.shape first).length + (encode d.shape second).length < 2 ^ 63 ∧
      Wire.decode d.shape d.name (encode d.shape first ++ encode d.shape second) =
        .ok (Message.fields (⟨"t", some ⟨"a", 8, 5⟩⟩ : Stable.UtxoStatus)) := by
  intro d first second
  have known : d ∈ catalogue := by simp [d, catalogue, Stable.declarations]
  have short : (encode d.shape first).length + (encode d.shape second).length < 2 ^ 63 := by decide
  exact ⟨known, short, (decode_concatenation known).1 first second short⟩

end WalletNotify.Schema
