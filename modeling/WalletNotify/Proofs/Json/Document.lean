import WalletNotify.Proofs.Json.Reading
import WalletNotify.Proofs.Record.Names

/-!
# Documents

What an object of a shape says, member by member: values of its fields in any order, told once, more
than once or not at all, and members that the shape does not declare. Main statement: a document is
read as the record that its members make, however it is laid out (`yields_document`).
-/

namespace WalletNotify.Json

open Record (Shape)

/-! ## Members -/

/-- A member of a name that is not declared, with any value. Its name is a text: a token that spells
none, with half of a surrogate pair in it, is no name, and an object with such a member is refused.
-/
structure Foreign (names : List String) where
  name : String
  token : Input
  value : List Input
  undeclared : name ∉ names
  isName : IsName token name
  isValue : IsValue value

/-- What a member says of a field: a value of its type, or any value at all. -/
inductive Told (A : Type) where
  | typed (a : A)
  | loose (value : List Input) (isValue : IsValue value)

/-- A member of an object: one of the fields in the shape, or one whose name is not among
`names`. -/
def Entry (names : List String) : Shape Scalar → Type
  | .nil => Foreign names
  | .scalar _ k rest => Told k.Value ⊕ Entry names rest
  | .texts _ rest => Told (List String) ⊕ Entry names rest
  | .record _ _ sub rest => Told (Option (List (Entry sub.names sub))) ⊕ Entry names rest
  | .records _ _ sub rest => Told (List (List (Entry sub.names sub))) ⊕ Entry names rest

/-- The members of an object, in the order in which they are written. -/
abbrev Document (s : Shape Scalar) : Type := List (Entry s.names s)

/-! ## How members are written -/

section Fields

variable {A F α β : Type}

/-- The tokens of what is said of a field. -/
def Told.tokens (part : A → List Input) : Told A → List Input
  | .typed a => part a
  | .loose value _ => value

/-- How the members of a field and others are written. -/
def Writing.or (name : String) (part : A → List Input) (others : Writing F) :
    Writing (Told A ⊕ F) where
  name := Sum.elim (fun _ => name) others.name
  token := Sum.elim (fun _ => writeString name) others.token
  value := Sum.elim (Told.tokens part) others.value
  isName
    | .inl _ => isName_writeString name
    | .inr f => others.isName f

/-- The tokens of an object. -/
def objectTokens (w : Writing F) (members : List F) : List Input :=
  enclosed '\x7b' '\x7d' (members.map w.tokens)

/-- How the members of objects are written. -/
def writing : (names : List String) → (s : Shape Scalar) → Writing (Entry names s)
  | _, .nil => ⟨Foreign.name, Foreign.token, Foreign.value, Foreign.isName⟩
  | names, .scalar l k rest => .or l.name (fun v => [k.write v]) (writing names rest)
  | names, .texts l rest =>
    .or l.name (fun items => enclosed '[' ']' (items.map fun t => [writeString t]))
      (writing names rest)
  | names, .record l _ sub rest =>
    .or l.name (fun nested => match nested with
      | none => [['n', 'u', 'l', 'l']]
      | some d => objectTokens (writing sub.names sub) d) (writing names rest)
  | names, .records l _ sub rest =>
    .or l.name (fun items => enclosed '[' ']' (items.map (objectTokens (writing sub.names sub))))
      (writing names rest)

/-- The tokens of a document. -/
def Document.tokens {s : Shape Scalar} (d : Document s) : List Input :=
  objectTokens (writing s.names s) d

/-! ## What members make of a record -/

/-- A field takes the first value that it is told, and none after it. -/
def Told.take (value : A → Option α) : Option α → Told A → Option (Option α)
  | none, .typed a => (value a).map some
  | _, _ => none

/-- A member is taken by a field or by the others. -/
def takeOr (own : Option α → Told A → Option (Option α)) (others : β → F → Option β) :
    Option α × β → Told A ⊕ F → Option (Option α × β)
  | p, .inl t => (own p.1 t).map (·, p.2)
  | p, .inr f => (others p.2 f).map (p.1, ·)

/-- The value of what may be absent. -/
def optional? (value : A → Option α) : Option A → Option (Option α)
  | none => some none
  | some a => (value a).map some

/-- What a member makes of a record that is partly read. -/
def take : (names : List String) → (s : Shape Scalar) → Partial s → Entry names s →
    Option (Partial s)
  | _, .nil => fun p _ => some p
  | names, .scalar _ _ rest => takeOr (Told.take some) (take names rest)
  | names, .texts _ rest => takeOr (Told.take some) (take names rest)
  | names, .record _ _ sub rest =>
    takeOr (Told.take (optional? fun d =>
      d.foldlM (take sub.names sub) (Partial.empty sub) >>= Partial.finish sub)) (take names rest)
  | names, .records _ _ sub rest =>
    takeOr (Told.take (List.mapM fun d =>
      d.foldlM (take sub.names sub) (Partial.empty sub) >>= Partial.finish sub)) (take names rest)

/-- The record that members make, if they make one. -/
def recordOf (names : List String) (s : Shape Scalar) (members : List (Entry names s)) :
    Option s.Value :=
  members.foldlM (take names s) (Partial.empty s) >>= Partial.finish s

/-- The record that a document makes, if it makes one. -/
def Document.value? {s : Shape Scalar} (d : Document s) : Option s.Value := recordOf s.names s d

/-! ## Members that are told again -/

/-- What is said of a field, in the order of the members. -/
def lefts (members : List (A ⊕ F)) : List A := members.filterMap Sum.getLeft?

/-- The members that say nothing of a field. -/
def rights (members : List (A ⊕ F)) : List F := members.filterMap Sum.getRight?

section

variable (a : A) (f : F) (members : List (A ⊕ F))

/-- A member of the first field is among what is said of it. -/
@[simp] lemma lefts_inl : lefts (.inl a :: members) = a :: lefts members := rfl

/-- A member of another field is not among what is said of the first. -/
@[simp] lemma lefts_inr : lefts (.inr f :: members) = lefts members := rfl

/-- A member of the first field is not among the others. -/
@[simp] lemma rights_inl : rights (.inl a :: members) = rights members := rfl

/-- A member of another field is among the others. -/
@[simp] lemma rights_inr : rights (.inr f :: members) = f :: rights members := rfl

end

/-- The first of what is said of a field has its type, and all that has its type is in order. -/
structure FirstTyped (good : A → Prop) (told : List (Told A)) : Prop where
  first : ∀ t ∈ told.head?, ∃ a, t = .typed a
  each : ∀ a, .typed a ∈ told → good a

/-- What is said first of a field has its type, in all objects; what is said of it later need
not. -/
def Orderly : (names : List String) → (s : Shape Scalar) → List (Entry names s) → Prop
  | _, .nil => fun _ => True
  | names, .scalar _ _ rest => fun d =>
    FirstTyped (fun _ => True) (lefts d) ∧ Orderly names rest (rights d)
  | names, .texts _ rest => fun d =>
    FirstTyped (fun _ => True) (lefts d) ∧ Orderly names rest (rights d)
  | names, .record _ _ sub rest => fun d =>
    FirstTyped (fun nested => ∀ d' ∈ nested, Orderly sub.names sub d') (lefts d) ∧
      Orderly names rest (rights d)
  | names, .records _ _ sub rest => fun d =>
    FirstTyped (fun items => ∀ d' ∈ items, Orderly sub.names sub d') (lefts d) ∧
      Orderly names rest (rights d)

/-! ## Reading members -/

/-- A member of a field is fine if the field has been told or the member has its type. -/
def fineOr (good : A → Prop) (others : β → F → Prop) : Option α × β → Told A ⊕ F → Prop
  | p, .inl t => p.1.isSome ∨ ∃ a, t = .typed a ∧ good a
  | p, .inr f => others p.2 f

/-- A colon is read in whatever way it is laid out, and the value is left. -/
lemma exists_colon {value : List Input} {text rest : Input}
    (laid : Laid ([':'] :: value) text rest) :
    ∃ mid, colon text = .ok mid ∧ Laid value mid rest := by
  obtain ⟨mid, opened, laid⟩ := laid.first (by decide)
  refine ⟨mid, ?_, laid⟩
  rw [colon, opened]
  rfl

/-- A member of a field is taken by the field, and any other by the others. -/
lemma Law.or {name : String} {value : Input → Except Fault (α × Input)} {part : A → List Input}
    {result : A → Option α} {good : A → Prop} {w : Writing F} {others : MemberReader β}
    {fine : β → F → Prop} {take : β → F → Option β}
    (yields : ∀ a, good a → Yields value (part a) (result a)) (law : Law w others fine take)
    (other : ∀ f, w.name f ≠ name) :
    Law (.or name part w) (memberOr name value others) (fineOr good fine)
      (takeOr (Told.take result) take) := by
  rintro ⟨old, q⟩ (t | f) fine text rest laid ends
  · have same : (Writing.or name part w).name (.inl t) = name := rfl
    rw [memberOr, if_pos same]
    cases old with
    | some a => rfl
    | none =>
      obtain ⟨a, rfl, good⟩ := fine.resolve_left nofun
      obtain ⟨mid, colon, laid⟩ := exists_colon laid
      simp only [readOnce, colon, ok_bind, yields a good _ _ laid ends, takeOr, Told.take]
      cases result a <;> rfl
  · have taken := law q f fine text rest laid ends
    have ne : (Writing.or name part w).name (.inr f) ≠ name := other f
    rw [memberOr, if_neg ne]
    change (others (w.name f) text q >>= _) = _
    rw [taken, takeOr]
    cases take q f <;> rfl

/-- Members are fine one after the other if what is said first of a field has its type, and the
others are fine. -/
lemma allFine_or {result : A → Option α} {good : A → Prop} {fine : β → F → Prop}
    {take : β → F → Option β} {old : Option α} {q : β} {members : List (Told A ⊕ F)}
    (first : old.isSome ∨ ∀ t ∈ (lefts members).head?, ∃ a, t = .typed a)
    (each : ∀ a, .typed a ∈ lefts members → good a)
    (others : AllFine fine take q (rights members)) :
    AllFine (fineOr good fine) (takeOr (Told.take result) take) (old, q) members := by
  induction members generalizing old q with
  | nil => trivial
  | cons member members ih =>
    cases member with
    | inl t =>
      refine ⟨?_, ?_⟩
      · rcases first with told | typed
        · exact .inl told
        · obtain ⟨a, rfl⟩ := typed t rfl
          exact .inr ⟨a, rfl, each a List.mem_cons_self⟩
      · intro p taken
        obtain ⟨new, own, rfl⟩ := Option.map_eq_some_iff.mp taken
        -- The field has been told by now, so that it does not matter what it is told again.
        refine ih (.inl ?_) (fun a member => each a (List.mem_cons_of_mem _ member)) others
        cases old with
        | some => cases own
        | none =>
          cases t with
          | loose => cases own
          | typed a =>
            obtain ⟨b, -, rfl⟩ := Option.map_eq_some_iff.mp own
            rfl
    | inr f =>
      obtain ⟨fine, later⟩ := others
      refine ⟨fine, ?_⟩
      intro p taken
      obtain ⟨q', other, rfl⟩ := Option.map_eq_some_iff.mp taken
      exact ih first each (later q' other)

end Fields

/-- A member is fine for what has been read of a record. -/
def fine : (names : List String) → (s : Shape Scalar) → Partial s → Entry names s → Prop
  | _, .nil => fun _ _ => True
  | names, .scalar _ _ rest => fineOr (fun _ => True) (fine names rest)
  | names, .texts _ rest => fineOr (fun _ => True) (fine names rest)
  | names, .record _ _ sub rest =>
    fineOr (fun nested => ∀ d ∈ nested, Orderly sub.names sub d) (fine names rest)
  | names, .records _ _ sub rest =>
    fineOr (fun items => ∀ d ∈ items, Orderly sub.names sub d) (fine names rest)

variable {names : List String} {s : Shape Scalar}

/-- In an orderly document every member is fine. -/
lemma allFine_of_orderly {members : List (Entry names s)} (orderly : Orderly names s members)
    (p : Partial s) : AllFine (fine names s) (take names s) p members := by
  induction s with
  | nil =>
    induction members generalizing p with
    | nil => trivial
    | cons member members ih => exact ⟨trivial, fun q _ => ih trivial q⟩
  | scalar l k rest ih
  | texts l rest ih
  | record l _ sub rest _ ih
  | records l _ sub rest _ ih =>
    obtain ⟨own, others⟩ := orderly
    exact allFine_or (.inr own.first) own.each (ih others p.2)

/-- The name of a member is declared, or it is none of the names. -/
lemma name_of_entry (e : Entry names s) :
    (writing names s).name e ∈ s.names ∨ (writing names s).name e ∉ names := by
  induction s with
  | nil => exact .inr e.undeclared
  | scalar l k rest ih
  | texts l rest ih
  | record l _ sub rest _ ih
  | records l _ sub rest _ ih =>
    rcases e with t | f
    · exact .inl List.mem_cons_self
    · exact (ih f).imp_left (List.mem_cons_of_mem _)

/-- Other members have other names than a field. -/
lemma name_ne {name : String} (own : name ∈ names) (foreign : name ∉ s.names) (e : Entry names s) :
    (writing names s).name e ≠ name := by
  rintro rfl
  exact (name_of_entry e).elim foreign (absurd own)

/-- An array of strings is read as the texts. -/
lemma yields_texts (items : List String) :
    Yields (readArray readString) (enclosed '[' ']' (items.map fun t => [writeString t]))
      (some items) := by
  have all : items.mapM some = some items := by
    induction items with
    | nil => rfl
    | cons t items ih => rw [List.mapM_cons, ih]; rfl
  rw [← all]
  apply yields_array
  · exact fun t _ => Scalar.yields .text t
  · exact fun t _ => Scalar.write_begins .text t

/-- An object begins with its brace. -/
lemma objectTokens_begins {F : Type} (w : Writing F) (members : List F) :
    Begins (objectTokens w members) '\x7b' := ⟨[], _, rfl, by decide⟩

/-- Members of a record are taken as they say. -/
lemma law_fieldReader (named : s.WellNamed) (within : ∀ name ∈ s.names, name ∈ names) :
    Law (writing names s) (fieldReader s).member (fine names s) (take names s) := by
  induction s generalizing names with
  | nil =>
    intro p f _ text rest laid ends
    obtain ⟨mid, colon, laid⟩ := exists_colon laid
    simp only [fieldReader, skipMember, colon, ok_bind, skip_of_isValue f.isValue laid ends]
    rfl
  | scalar l k rest ih =>
    obtain ⟨foreign, named⟩ := named
    obtain ⟨own, within⟩ := List.forall_mem_cons.mp within
    exact (ih named within).or (fun v _ => k.yields v) (name_ne own foreign)
  | texts l rest ih =>
    obtain ⟨foreign, named⟩ := named
    obtain ⟨own, within⟩ := List.forall_mem_cons.mp within
    exact (ih named within).or (fun items _ => yields_texts items) (name_ne own foreign)
  | record l _ sub rest ihs ih =>
    obtain ⟨foreign, nested, named⟩ := named
    obtain ⟨own, within⟩ := List.forall_mem_cons.mp within
    refine (ih named within).or ?_ (name_ne own foreign)
    -- An absent record is `null`, which no object begins like.
    rintro (_ | d) orderly
    · exact yields_null _
    · have law := ihs nested fun _ => id
      have yields := law.yields_record (allFine_of_orderly (orderly d rfl) _)
      exact yields_some yields (objectTokens_begins _ d) (by decide)
  | records l _ sub rest ihs ih =>
    obtain ⟨foreign, nested, named⟩ := named
    obtain ⟨own, within⟩ := List.forall_mem_cons.mp within
    refine (ih named within).or ?_ (name_ne own foreign)
    intro items orderly
    have law := ihs nested fun _ => id
    apply yields_array
    · exact fun d member => law.yields_record (allFine_of_orderly (orderly d member) _)
    · exact fun d _ => ⟨_, objectTokens_begins _ d, by decide⟩

/-- A document is read as the record that its members make, however it is laid out. -/
theorem yields_document (named : s.WellNamed) {d : Document s} (orderly : Orderly s.names s d) :
    Yields (fieldReader s).record d.tokens d.value? :=
  (law_fieldReader named fun _ => id).yields_record (allFine_of_orderly orderly _)

/-- A text that spells a document, and nothing but blanks around it, is read as the record that its
members make; if they make none, something does not fit. -/
theorem read_document (named : s.WellNamed) {d : Document s} (orderly : Orderly s.names s d)
    {text : Input} (spaced : Spaced d.tokens text) :
    read s text = match d.value? with
      | some v => .ok v
      | none => .error .unfit := by
  obtain ⟨rest, laid, blank⟩ := spaced
  rw [read, yields_document named orderly _ _ laid (ends_of_blank blank)]
  cases d.value? with
  | none => rfl
  | some v =>
    simp only [outcome, ok_bind, blank.skipBlanks]
    rfl

end WalletNotify.Json
