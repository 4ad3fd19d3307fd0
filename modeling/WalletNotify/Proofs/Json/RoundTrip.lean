import WalletNotify.Proofs.Json.Rearrangement

/-!
# Records and their texts

The text of a record is one of those that present it. Main statements: a record is read from all of
them (`read_of_presents`), its own among them (`read_write`), and no record is read from a flawed
document (`read_of_flawed`).
-/

namespace WalletNotify.Json

open Record (Shape)

variable {A F E : Type}

/-! ## Written documents -/

/-- The document that is written for a record. -/
def Document.of {s : Shape Scalar} (v : s.Value) : Document s := written s.names s v

/-- The first field of an object is written as a member, and the others behind it. -/
lemma map_tokens_or {name : String} {part : A → List Input} {w : Writing F} (a : A)
    (members : List F) :
    ((.inl (.typed a) :: members.map .inr).map (Writing.or name part w).tokens).map List.flatten
      = writeMember name (part a).flatten :: (members.map w.tokens).map List.flatten := by
  have first : ((Writing.or name part w).tokens (.inl (.typed a))).flatten
      = writeMember name (part a).flatten := rfl
  have others :
      (members.map Sum.inr).map (Writing.or name part w).tokens = members.map w.tokens := by
    rw [List.map_map]
    rfl
  rw [List.map_cons, List.map_cons, first, others]

/-- The members of a record that is written have the texts that are written for it. -/
lemma flatten_written (names : List String) (s : Shape Scalar) (v : s.Value) :
    ((written names s v).map (writing names s).tokens).map List.flatten = writeMembers s v := by
  induction s generalizing names with
  | nil => rfl
  | scalar l k rest ih =>
    refine (map_tokens_or v.1 (written names rest v.2)).trans ?_
    rw [ih, List.flatten_singleton]
    rfl
  | texts l rest ih =>
    refine (map_tokens_or v.1 (written names rest v.2)).trans ?_
    have single : (List.flatten ∘ fun t => [writeString t]) = writeString := by
      funext t
      exact List.flatten_singleton
    rw [ih, flatten_enclosed, List.map_map, single]
    rfl
  | record l name sub rest ihs ih =>
    obtain ⟨nested, vs⟩ := v
    refine (map_tokens_or (nested.map (written sub.names sub)) (written names rest vs)).trans ?_
    rw [ih]
    cases nested with
    | none => rfl
    | some v =>
      simp only [Option.map_some, objectTokens, flatten_enclosed, ihs]
      rfl
  | records l name sub rest ihs ih =>
    refine (map_tokens_or (v.1.map (written sub.names sub)) (written names rest v.2)).trans ?_
    have each : (List.flatten ∘ objectTokens (writing sub.names sub)) ∘ written sub.names sub
        = write sub := by
      funext r
      simp only [Function.comp_apply, objectTokens, flatten_enclosed, ihs]
      rfl
    rw [ih, flatten_enclosed, List.map_map, List.map_map, each]
    rfl

/-- The written document has the text of its record. -/
theorem flatten_tokens_of {s : Shape Scalar} (v : s.Value) :
    (Document.of v).tokens.flatten = write s v := by
  rw [Document.tokens, objectTokens, flatten_enclosed, Document.of, flatten_written]
  rfl

/-- Members that say the same as themselves are rearranged into themselves. -/
lemma Rearranged.of_same {alike : E → E → Prop} {mayLack mayAdd : E → Prop} {members : List E}
    (same : ∀ e ∈ members, alike e e) : Rearranged alike mayLack mayAdd members members := by
  induction members with
  | nil => exact .nil
  | cons e members ih =>
    obtain ⟨first, others⟩ := List.forall_mem_cons.mp same
    exact .keep first (ih others)

/-- What is written for a field says the same as itself, and so do the other members. -/
lemma forall_liftRel {alikeA : A → A → Prop} {alikeF : F → F → Prop} {a : A} {others : List F}
    (own : alikeA a a) (same : ∀ f ∈ others, alikeF f f) :
    ∀ e ∈ Sum.inl a :: others.map .inr, Sum.LiftRel alikeA alikeF e e := by
  rw [List.forall_mem_cons, List.forall_mem_map]
  exact ⟨.inl own, fun f member => .inr (same f member)⟩

/-- The members that are written for a record say the same as themselves. -/
lemma alike_written (names : List String) (s : Shape Scalar) (v : s.Value) :
    ∀ e ∈ written names s v, Alike names s e e := by
  induction s generalizing names with
  | nil => exact nofun
  | scalar l k rest ih
  | texts l rest ih => exact forall_liftRel (.typed rfl) (ih names v.2)
  | record l name sub rest ihs ih =>
    obtain ⟨nested, vs⟩ := v
    refine forall_liftRel (.typed ?_) (ih names vs)
    cases nested with
    | none => exact .none
    | some v => exact .some (.of_same (ihs sub.names v))
  | records l name sub rest ihs ih =>
    refine forall_liftRel (.typed ?_) (ih names v.2)
    rw [List.forall₂_same]
    intro d member
    obtain ⟨r, -, rfl⟩ := List.mem_map.mp member
    exact .of_same (ihs sub.names r)

/-- The written document is one of those that present its record. -/
theorem presents_of {s : Shape Scalar} (v : s.Value) : (Document.of v).Presents v :=
  .of_same (alike_written s.names s v)

/-! ## Reading -/

variable {s : Shape Scalar}

/-- A record is read from every document that presents it, however it is laid out. -/
theorem read_of_presents (named : s.WellNamed) {d : Document s} {v : s.Value}
    (presents : d.Presents v) {text : Input} (spaced : Spaced d.tokens text) :
    read s text = .ok v := by
  obtain ⟨made, orderly⟩ := recordOf_of_rearranged presents
  rw [read_document named orderly spaced, Document.value?, made]

/-- A document that presents a record is orderly, and none of its objects is flawed. -/
theorem orderly_of_presents {d : Document s} {v : s.Value} (presents : d.Presents v) :
    Orderly s.names s d ∧ ¬ Flawed s.names s d := by
  obtain ⟨made, orderly⟩ := recordOf_of_rearranged presents
  refine ⟨orderly, ?_⟩
  intro flawed
  rw [recordOf_of_flawed flawed] at made
  cases made

/-- No record is read from a flawed document. -/
theorem read_of_flawed (named : s.WellNamed) {d : Document s} (orderly : Orderly s.names s d)
    (flawed : Flawed s.names s d) {text : Input} (spaced : Spaced d.tokens text) :
    read s text = .error .unfit := by
  rw [read_document named orderly spaced, Document.value?, recordOf_of_flawed flawed]

/-- A text is read as the record it was written for. -/
theorem read_write (named : s.WellNamed) (v : s.Value) : read s (write s v) = .ok v := by
  apply read_of_presents named (presents_of v)
  refine ⟨[], ?_, blank_nil⟩
  have laid := Laid.flatten (Document.of v).tokens []
  rwa [flatten_tokens_of, List.append_nil] at laid

end WalletNotify.Json
