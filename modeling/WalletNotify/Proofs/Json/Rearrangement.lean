import Mathlib.Data.Sum.Basic
import WalletNotify.Proofs.Json.Document

/-!
# Rearranged objects

A record is written as one document, but is read from others as well: members may stand in any
order, with others between them, and those that are null may be left out. Main statements: such a
document makes the record (`recordOf_of_rearranged`), and one in which a field is told twice, or one
that must be told is not, makes none (`recordOf_of_flawed`).
-/

namespace WalletNotify.Json

open Record (Shape)

variable {A F E α β γ : Type}

/-! ## Fields apart from each other -/

/-- What members make of a record, some of them of the first field and some of the others. -/
lemma foldlM_takeOr {own : Option α → Told A → Option (Option α)} {others : β → F → Option β}
    (members : List (Told A ⊕ F)) (p : Option α × β) :
    members.foldlM (takeOr own others) p = do
      let a ← (lefts members).foldlM own p.1
      let q ← (rights members).foldlM others p.2
      return (a, q) := by
  induction members generalizing p with
  | nil => rfl
  | cons member members ih =>
    cases member with
    | inl t =>
      simp only [List.foldlM_cons, lefts_inl, rights_inl, takeOr]
      cases own p.1 t with
      | none => rfl
      | some a => exact ih (a, p.2)
    | inr f =>
      simp only [List.foldlM_cons, lefts_inr, rights_inr, takeOr]
      cases others p.2 f with
      | none => cases (lefts members).foldlM own p.1 <;> rfl
      | some q => exact ih (p.1, q)

/-- What a field is told once is its value. -/
lemma foldlM_once (value : A → Option α) (a : A) :
    [Told.typed a].foldlM (Told.take value) none = (value a).map some := by
  rw [List.foldlM_cons, Told.take]
  cases value a <;> rfl

/-- A field is not told again. -/
lemma foldlM_told (value : A → Option α) (a : α) {told : List (Told A)} (again : told ≠ []) :
    told.foldlM (Told.take value) (some a) = none := by
  cases told with
  | nil => exact absurd rfl again
  | cons t told => rfl

/-- A field that is told of twice has no value. -/
lemma foldlM_again (value : A → Option α) {told : List (Told A)} (again : 1 < told.length) :
    told.foldlM (Told.take value) none = none := by
  match told, again with
  | .loose .. :: _, _ => rfl
  | .typed a :: t :: told, _ =>
    rw [List.foldlM_cons, Told.take]
    cases value a with
    | none => rfl
    | some b => exact foldlM_told value b (by simp)

/-- The record that members make, apart from what they make of the first field. -/
lemma bind_takeOr {own : Option α → Told A → Option (Option α)} {others : β → F → Option β}
    (members : List (Told A ⊕ F)) (a : Option α) (q : β) (given : Option α → Option γ)
    (finish : β → Option E) :
    (members.foldlM (takeOr own others) (a, q) >>= fun p => do
        return (← given p.1, ← finish p.2)) = do
      let c ← (lefts members).foldlM own a >>= given
      let e ← (rights members).foldlM others q >>= finish
      return (c, e) := by
  rw [foldlM_takeOr]
  cases (lefts members).foldlM own a with
  | none => rfl
  | some b =>
    cases (rights members).foldlM others q with
    | none => cases h : given b <;> simp [h]
    | some q' => rfl

section

variable (names : List String) (l : Record.Label) (name : String) (sub rest : Shape Scalar)

/-- A record without fields is made of any members. -/
lemma recordOf_nil (members : List (Entry names .nil)) : recordOf names .nil members = some () := by
  induction members with
  | nil => rfl
  | cons e members ih => exact ih

/-- A record with a scalar is made of what is told of it and of the rest. -/
lemma recordOf_scalar (k : Scalar) (members : List (Entry names (.scalar l k rest))) :
    recordOf names (.scalar l k rest) members = do
      let v ← (lefts members).foldlM (Told.take some) none >>= id
      let vs ← recordOf names rest (rights members)
      return (v, vs) :=
  bind_takeOr members none (Partial.empty rest) id (Partial.finish rest)

/-- A record with texts is made of what is told of them and of the rest. -/
lemma recordOf_texts (members : List (Entry names (.texts l rest))) :
    recordOf names (.texts l rest) members = do
      let v ← (lefts members).foldlM (Told.take some) none >>= id
      let vs ← recordOf names rest (rights members)
      return (v, vs) :=
  bind_takeOr members none (Partial.empty rest) id (Partial.finish rest)

/-- A record with a nested one is made of what is told of it, which may be nothing, and of the rest.
-/
lemma recordOf_record (members : List (Entry names (.record l name sub rest))) :
    recordOf names (.record l name sub rest) members = do
      let v ← (lefts members).foldlM (Told.take (optional? (recordOf sub.names sub))) none >>=
        fun v => some (v.getD none)
      let vs ← recordOf names rest (rights members)
      return (v, vs) :=
  bind_takeOr members none (Partial.empty rest) (fun v => some (v.getD none)) (Partial.finish rest)

/-- A record with a list of nested ones is made of what is told of them and of the rest. -/
lemma recordOf_records (members : List (Entry names (.records l name sub rest))) :
    recordOf names (.records l name sub rest) members = do
      let v ← (lefts members).foldlM (Told.take (List.mapM (recordOf sub.names sub))) none >>= id
      let vs ← recordOf names rest (rights members)
      return (v, vs) :=
  bind_takeOr members none (Partial.empty rest) id (Partial.finish rest)

end

/-! ## Flawed documents -/

/-- An object in which a field is told again, or one that must be told is not; also an object inside
it. -/
def Flawed : (names : List String) → (s : Shape Scalar) → List (Entry names s) → Prop
  | _, .nil => fun _ => False
  | names, .scalar _ _ rest => fun d => (lefts d).length ≠ 1 ∨ Flawed names rest (rights d)
  | names, .texts _ rest => fun d => (lefts d).length ≠ 1 ∨ Flawed names rest (rights d)
  | names, .record _ _ sub rest => fun d =>
    1 < (lefts d).length ∨ (∃ d', .typed (some d') ∈ lefts d ∧ Flawed sub.names sub d') ∨
      Flawed names rest (rights d)
  | names, .records _ _ sub rest => fun d =>
    (lefts d).length ≠ 1 ∨
      (∃ items, .typed items ∈ lefts d ∧ ∃ d' ∈ items, Flawed sub.names sub d') ∨
      Flawed names rest (rights d)

/-- A field that must be told once and is not has no value. -/
lemma foldlM_of_length_ne_one (value : A → Option α) {told : List (Told A)}
    (flawed : told.length ≠ 1) : (told.foldlM (Told.take value) none >>= id) = none := by
  match told, flawed with
  | [], _ => rfl
  | t :: t' :: told, _ => rw [foldlM_again value (by simp)]; rfl

/-- A field that is told what makes no value has none. -/
lemma foldlM_of_mem (value : A → Option α) {told : List (Told A)} {a : A}
    (member : .typed a ∈ told) (flawed : value a = none) :
    told.foldlM (Told.take value) none = none := by
  match told, member with
  | [_], .head _ => rw [foldlM_once, flawed, Option.map_none]
  | t :: t' :: told, _ => exact foldlM_again value (by simp)

/-- A list has no value if one of its items has none. -/
lemma mapM_of_mem (value : A → Option α) {items : List A} {a : A} (member : a ∈ items)
    (flawed : value a = none) : items.mapM value = none := by
  induction items with
  | nil => cases member
  | cons b items ih =>
    rw [List.mapM_cons]
    cases member with
    | head => rw [flawed]; rfl
    | tail _ later => cases value b <;> simp [ih later]

/-- A pair has no value if its second part has none. -/
lemma bind_none (x : Option α) {y : Option β} (none : y = none) :
    (do let a ← x; let b ← y; return (a, b)) = Option.none := by
  cases x <;> simp [none]

/-- No record has a field that is not told once, or others that are not told as they must be. -/
lemma bind_of_flawed (value : A → Option α) {told : List (Told A)} {others : Option β}
    (flawed : told.length ≠ 1 ∨ others = none) :
    (do
      let v ← told.foldlM (Told.take value) none >>= id
      let vs ← others
      return (v, vs)) = none := by
  rcases flawed with own | others
  · rw [foldlM_of_length_ne_one value own]
    rfl
  · exact bind_none _ others

/-- A flawed document makes no record. -/
lemma recordOf_of_flawed {names : List String} {s : Shape Scalar} {members : List (Entry names s)}
    (flawed : Flawed names s members) : recordOf names s members = none := by
  induction s generalizing names with
  | nil => cases flawed
  | scalar l k rest ih =>
    rw [recordOf_scalar]
    exact bind_of_flawed _ (flawed.imp_right ih)
  | texts l rest ih =>
    rw [recordOf_texts]
    exact bind_of_flawed _ (flawed.imp_right ih)
  | record l name sub rest ihs ih =>
    rw [recordOf_record]
    rcases flawed with own | ⟨d, told, nested⟩ | others
    · rw [foldlM_again _ own]
      rfl
    · rw [foldlM_of_mem _ told (by rw [optional?, ihs nested, Option.map_none])]
      rfl
    · exact bind_none _ (ih others)
  | records l name sub rest ihs ih =>
    rw [recordOf_records]
    rcases flawed with own | ⟨items, told, d, member, nested⟩ | others
    · exact bind_of_flawed _ (.inl own)
    · rw [foldlM_of_mem _ told (mapM_of_mem _ member (ihs nested))]
      rfl
    · exact bind_of_flawed _ (.inr (ih others))

/-! ## Rearranged documents -/

/-- The members that are written for a record. -/
def written : (names : List String) → (s : Shape Scalar) → s.Value → List (Entry names s)
  | _, .nil, _ => []
  | names, .scalar _ _ rest, v => .inl (.typed v.1) :: (written names rest v.2).map .inr
  | names, .texts _ rest, v => .inl (.typed v.1) :: (written names rest v.2).map .inr
  | names, .record _ _ sub rest, v =>
    .inl (.typed (v.1.map (written sub.names sub))) :: (written names rest v.2).map .inr
  | names, .records _ _ sub rest, v =>
    .inl (.typed (v.1.map (written sub.names sub))) :: (written names rest v.2).map .inr

/-- Members in any order, some of them left out, and others among them. -/
inductive Rearranged (alike : E → E → Prop) (mayLack mayAdd : E → Prop) :
    List E → List E → Prop where
  | nil : Rearranged alike mayLack mayAdd [] []
  | keep {e e' : E} {old new : List E} (same : alike e e')
      (others : Rearranged alike mayLack mayAdd old new) :
      Rearranged alike mayLack mayAdd (e :: old) (e' :: new)
  | lack {e : E} {old new : List E} (may : mayLack e)
      (others : Rearranged alike mayLack mayAdd old new) :
      Rearranged alike mayLack mayAdd (e :: old) new
  | add {e : E} {old new : List E} (may : mayAdd e)
      (others : Rearranged alike mayLack mayAdd old new) :
      Rearranged alike mayLack mayAdd old (e :: new)
  | perm {old new new' : List E} (others : Rearranged alike mayLack mayAdd old new)
      (order : new.Perm new') : Rearranged alike mayLack mayAdd old new'

/-- What has the type of a field says the same. -/
inductive Told.Alike (same : A → A → Prop) : Told A → Told A → Prop where
  | typed {a b : A} (values : same a b) : Alike same (.typed a) (.typed b)

/-- A member that says `null`. -/
def SaysNull (names : List String) : (s : Shape Scalar) → Entry names s → Prop
  | .nil => fun _ => False
  | .scalar _ _ rest => Sum.elim (fun _ => False) (SaysNull names rest)
  | .texts _ rest => Sum.elim (fun _ => False) (SaysNull names rest)
  | .record _ _ _ rest => Sum.elim (fun t => t = .typed none) (SaysNull names rest)
  | .records _ _ _ rest => Sum.elim (fun _ => False) (SaysNull names rest)

/-- A member whose name is not declared. -/
def IsForeign (names : List String) : (s : Shape Scalar) → Entry names s → Prop
  | .nil => fun _ => True
  | .scalar _ _ rest => Sum.elim (fun _ => False) (IsForeign names rest)
  | .texts _ rest => Sum.elim (fun _ => False) (IsForeign names rest)
  | .record _ _ _ rest => Sum.elim (fun _ => False) (IsForeign names rest)
  | .records _ _ _ rest => Sum.elim (fun _ => False) (IsForeign names rest)

/-- Two members say the same, the objects in them up to rearrangement. -/
def Alike : (names : List String) → (s : Shape Scalar) → Entry names s → Entry names s → Prop
  | _, .nil => Eq
  | names, .scalar _ _ rest => Sum.LiftRel (Told.Alike Eq) (Alike names rest)
  | names, .texts _ rest => Sum.LiftRel (Told.Alike Eq) (Alike names rest)
  | names, .record _ _ sub rest =>
    Sum.LiftRel (Told.Alike (Option.Rel (Rearranged (Alike sub.names sub) (SaysNull sub.names sub)
      (IsForeign sub.names sub)))) (Alike names rest)
  | names, .records _ _ sub rest =>
    Sum.LiftRel (Told.Alike (List.Forall₂ (Rearranged (Alike sub.names sub)
      (SaysNull sub.names sub) (IsForeign sub.names sub)))) (Alike names rest)

/-- A document that comes from the written one by rearranging it: the members of each object are
permuted, members of undeclared names are added, and members that are null may be left out. -/
def Document.Presents {s : Shape Scalar} (d : Document s) (v : s.Value) : Prop :=
  Rearranged (Alike s.names s) (SaysNull s.names s) (IsForeign s.names s) (written s.names s v) d

section

variable {alikeA : A → A → Prop} {alikeF : F → F → Prop} {lackA : A → Prop}
  {lackF addF : F → Prop} {old new : List (A ⊕ F)} {a : A}

/-- Members of other fields say nothing of the first. -/
lemma lefts_map_inr (others : List F) : lefts (others.map (Sum.inr : F → A ⊕ F)) = [] := by
  induction others with
  | nil => rfl
  | cons f others ih => exact ih

/-- Members of other fields are all among the others. -/
lemma rights_map_inr (others : List F) : rights (others.map (Sum.inr : F → A ⊕ F)) = others := by
  induction others with
  | nil => rfl
  | cons f others ih => exact congrArg (f :: ·) ih

/-- A rearrangement of members is one of the members of a field, and one of the others. -/
lemma Rearranged.split
    (rearranged : Rearranged (Sum.LiftRel alikeA alikeF) (Sum.elim lackA lackF)
      (Sum.elim (fun _ => False) addF) old new) :
    Rearranged alikeA lackA (fun _ => False) (lefts old) (lefts new) ∧
      Rearranged alikeF lackF addF (rights old) (rights new) := by
  induction rearranged with
  | nil => exact ⟨.nil, .nil⟩
  | keep same _ ih =>
    obtain ⟨own, others⟩ := ih
    cases same with
    | inl same => exact ⟨.keep same own, others⟩
    | inr same => exact ⟨own, .keep same others⟩
  | @lack e _ _ may _ ih =>
    obtain ⟨own, others⟩ := ih
    cases e with
    | inl a => exact ⟨.lack may own, others⟩
    | inr f => exact ⟨own, .lack may others⟩
  | @add e _ _ may _ ih =>
    obtain ⟨own, others⟩ := ih
    cases e with
    | inl a => cases may
    | inr f => exact ⟨own, .add may others⟩
  | perm _ order ih =>
    obtain ⟨own, others⟩ := ih
    exact ⟨.perm own (order.filterMap _), .perm others (order.filterMap _)⟩

/-- Nothing comes from no members, if none may be added. -/
lemma Rearranged.eq_nil {new : List A}
    (rearranged : Rearranged alikeA lackA (fun _ => False) [] new) : new = [] := by
  generalize none : [] = old at rearranged
  induction rearranged with
  | nil => rfl
  | keep | lack => cases none
  | add may => cases may
  | perm _ order ih =>
    subst none
    rw [ih rfl] at order
    exact order.symm.eq_nil

/-- One member alone is kept or left out. -/
lemma Rearranged.single {new : List A}
    (rearranged : Rearranged alikeA lackA (fun _ => False) [a] new) :
    (lackA a ∧ new = []) ∨ ∃ b, alikeA a b ∧ new = [b] := by
  -- A permutation may stand anywhere among the rules, so the induction is on all of them.
  generalize one : [a] = old at rearranged
  induction rearranged with
  | nil => cases one
  | keep same others =>
    cases one
    exact .inr ⟨_, same, by rw [others.eq_nil]⟩
  | lack may others =>
    cases one
    exact .inl ⟨may, others.eq_nil⟩
  | add may => cases may
  | perm _ order ih =>
    rcases ih one with ⟨may, rfl⟩ | ⟨b, same, rfl⟩
    · exact .inl ⟨may, order.symm.eq_nil⟩
    · exact .inr ⟨b, same, List.perm_singleton.mp order.symm⟩

/-- The first member is kept or left out, and the others are rearranged among themselves. -/
lemma Rearranged.first {others : List F}
    (rearranged : Rearranged (Sum.LiftRel alikeA alikeF) (Sum.elim lackA lackF)
      (Sum.elim (fun _ => False) addF) (.inl a :: others.map .inr) new) :
    ((lackA a ∧ lefts new = []) ∨ ∃ b, alikeA a b ∧ lefts new = [b]) ∧
      Rearranged alikeF lackF addF others (rights new) := by
  obtain ⟨own, rearranged⟩ := rearranged.split
  rw [lefts_inl, lefts_map_inr] at own
  rw [rights_inl, rights_map_inr] at rearranged
  exact ⟨own.single, rearranged⟩

end

/-- Members that tell nothing tell nothing wrong. -/
lemma firstTyped_nil (good : A → Prop) : FirstTyped good ([] : List (Told A)) := ⟨nofun, nofun⟩

/-- One member that tells something good tells nothing wrong. -/
lemma firstTyped_single {good : A → Prop} {a : A} (own : good a) :
    FirstTyped good [Told.typed a] := by
  refine ⟨?_, ?_⟩
  · rintro t ⟨⟩
    exact ⟨a, rfl⟩
  · intro b member
    cases List.mem_singleton.mp member
    exact own

/-- Items that each say what they were written for make the list of it. -/
lemma mapM_of_forall₂ {same : A → A → Prop} {value : A → Option α} {write : α → A} {items : List α}
    {told : List A} (each : ∀ v b, same (write v) b → value b = some v)
    (alike : List.Forall₂ same (items.map write) told) : told.mapM value = some items := by
  induction items generalizing told with
  | nil =>
    cases alike
    rfl
  | cons v items ih =>
    cases alike with
    | cons first others =>
      rw [List.mapM_cons, each v _ first, ih others]
      rfl

/-- What holds of all that is like a written item holds in every list that is like the written one.
-/
lemma forall_mem_of_forall₂ {same : A → A → Prop} {P : A → Prop} {write : α → A} {items : List α}
    {told : List A} (each : ∀ v b, same (write v) b → P b)
    (alike : List.Forall₂ same (items.map write) told) : ∀ b ∈ told, P b := by
  induction items generalizing told with
  | nil =>
    cases alike
    exact nofun
  | cons v items ih =>
    cases alike with
    | cons first others => exact List.forall_mem_cons.mpr ⟨each v _ first, ih others⟩

/-- A rearranged document makes the record that it was written for. -/
lemma recordOf_of_rearranged {names : List String} {s : Shape Scalar} {v : s.Value}
    {members : List (Entry names s)}
    (rearranged : Rearranged (Alike names s) (SaysNull names s) (IsForeign names s)
      (written names s v) members) :
    recordOf names s members = some v ∧ Orderly names s members := by
  induction s generalizing names with
  | nil =>
    exact ⟨recordOf_nil names members, trivial⟩
  | scalar l k rest ih =>
    obtain ⟨⟨⟨⟩, -⟩ | ⟨_, ⟨rfl⟩, told⟩, others⟩ := Rearranged.first rearranged
    obtain ⟨made, orderly⟩ := ih others
    rw [recordOf_scalar, told, foldlM_once, made]
    exact ⟨rfl, told ▸ firstTyped_single trivial, orderly⟩
  | texts l rest ih =>
    obtain ⟨⟨⟨⟩, -⟩ | ⟨_, ⟨rfl⟩, told⟩, others⟩ := Rearranged.first rearranged
    obtain ⟨made, orderly⟩ := ih others
    rw [recordOf_texts, told, foldlM_once, made]
    exact ⟨rfl, told ▸ firstTyped_single trivial, orderly⟩
  | record l name sub rest ihs ih =>
    obtain ⟨nested, vs⟩ := v
    obtain ⟨own, others⟩ := Rearranged.first rearranged
    obtain ⟨made, orderly⟩ := ih others
    rw [recordOf_record, made]
    rcases own with ⟨null, told⟩ | ⟨_, ⟨same⟩, told⟩
    · cases nested with
      | some v => cases null
      | none =>
        rw [told]
        exact ⟨rfl, told ▸ firstTyped_nil _, orderly⟩
    · rw [told, foldlM_once]
      cases nested with
      | none =>
        cases same
        exact ⟨rfl, told ▸ firstTyped_single nofun, orderly⟩
      | some v =>
        cases same with
        | some same =>
          obtain ⟨inner, inOrder⟩ := ihs same
          rw [optional?, inner]
          refine ⟨rfl, told ▸ firstTyped_single ?_, orderly⟩
          rintro d ⟨⟩
          exact inOrder
  | records l name sub rest ihs ih =>
    obtain ⟨⟨⟨⟩, -⟩ | ⟨_, ⟨same⟩, told⟩, others⟩ := Rearranged.first rearranged
    obtain ⟨made, orderly⟩ := ih others
    rw [recordOf_records, told, foldlM_once, made,
      mapM_of_forall₂ (fun v d same => (ihs same).1) same]
    refine ⟨rfl, told ▸ firstTyped_single ?_, orderly⟩
    exact forall_mem_of_forall₂ (fun v d same => (ihs same).2) same

end WalletNotify.Json
