import WalletNotify.Proofs.Webhook.Payload

/-!
# Webhook bodies in other layouts

Whoever reads a body need not find it as it was written. Main statement: a body is read from every
text that presents it, and none is read from a text with a flawed object (`payload_layout`).
-/

namespace WalletNotify.Webhook

open Json (Document Fault Flawed Foreign Orderly Spaced)

/-- Bodies that are read as well if their texts are laid out otherwise. -/
structure LayoutFree (α : Type) [Body α] : Prop where
  /-- The text of a body presents it: it is the tokens of the written document, with no blanks. -/
  own : ∀ body : α, (Document.of (Body.fields body)).Presents (Body.fields body) ∧
    (Document.of (Body.fields body)).tokens.flatten = (Body.text body).toList
  /-- What presents a body tells members with values of their types, and none of them again. -/
  orderly : ∀ (body : α) (d : Document (Body.shape α)), d.Presents (Body.fields body) →
    Orderly _ _ d ∧ ¬ Flawed _ _ d
  /-- A body is read from every text that comes from its own one by permuting the members of
  objects, adding members of undeclared names with any values, leaving out members that are null,
  and putting blanks between tokens. -/
  reads : ∀ (body : α) (d : Document (Body.shape α)) (s : String), d.Presents (Body.fields body) →
    Spaced d.tokens s.toList → Body.read s = .ok body
  /-- If an object has a declared member twice, whatever it says the second time, or lacks one that
  is no optional object, something does not fit. -/
  rejects : ∀ (d : Document (Body.shape α)) (s : String), Orderly _ _ d → Flawed _ _ d →
    Spaced d.tokens s.toList → (Body.read s : Except Fault α) = .error .unfit

/-- What is made of the values of its fields may be laid out otherwise. -/
lemma LawfulBody.layoutFree {α : Type} [Body α] [LawfulBody α] : LayoutFree α where
  own body := by
    refine ⟨Json.presents_of _, ?_⟩
    rw [Json.flatten_tokens_of, Body.text, String.toList_ofList]
  orderly _ _ := Json.orderly_of_presents
  reads body d s presents spaced := by
    rw [Body.read, Json.read_of_presents LawfulBody.named presents spaced]
    exact congrArg Except.ok (LawfulBody.ofFields_fields body)
  rejects d s orderly flawed spaced := by
    rw [Body.read, Json.read_of_flawed LawfulBody.named orderly flawed spaced]
    rfl

/-! ## Loose texts -/

/-- A member that bodies do not have, with a value that holds others. -/
def foreignMember (names : List String) (undeclared : "x" ∉ names) : Foreign names where
  name := "x"
  token := Json.writeString "x"
  value := Json.enclosed '\x7b' '\x7d' [Json.memberTokens (Json.writeString "y")
    (Json.enclosed '[' ']' [[['n', 'u', 'l', 'l']]])]
  undeclared := undeclared
  isName := Json.isName_writeString "x"
  isValue := by
    refine @Json.IsValue.object [(_, _)] ?_ ?_
    · exact List.forall_mem_singleton.mpr
        ⟨['y'], rfl, .plain (by decide) (by decide) (by decide) .nil⟩
    · exact List.forall_mem_singleton.mpr (.array (List.forall_mem_singleton.mpr .null))

/-- A block that is told backwards, behind it a member of another name. -/
def looseBlock : Document (Body.shape BlockBody) :=
  [.inr (.inr (.inl (.typed (-2 : Int64)))), .inr (.inl (.typed (1 : UInt64))), .inl (.typed "h"),
    .inr (.inr (.inr (foreignMember _ (by decide))))]

/-- A block with its members in another order, and one of its own, presents the block. -/
lemma looseBlock_presents : looseBlock.Presents (Body.fields (BlockBody.mk "h" 1 (-2))) := by
  have added : Json.IsForeign (Body.shape BlockBody).names (Body.shape BlockBody)
    (.inr (.inr (.inr (foreignMember _ (by decide))))) := trivial
  exact .perm (.add added (.of_same (Json.alike_written _ _ _))) (List.reverse_perm _).symm

/-- A transaction with this block, which is told before the accounts. -/
def looseTransaction : Document (Body.shape TransactionBody) :=
  [.inl (.typed "e"), .inr (.inl (.typed "t")),
    .inr (.inr (.inr (.inl (.typed (some looseBlock))))), .inr (.inr (.inl (.typed ["a"])))]

/-- A transaction body in another order presents the body. -/
lemma looseTransaction_presents : looseTransaction.Presents
    (Body.fields (TransactionBody.mk "e" "t" ["a"] (some ⟨"h", 1, -2⟩))) := by
  refine .keep (.inl (.typed rfl)) (.keep (.inr (.inl (.typed rfl))) ?_)
  have block := Json.Told.Alike.typed (Option.Rel.some looseBlock_presents)
  exact .perm
    (.keep (.inr (.inr (.inl (.typed rfl)))) (.keep (.inr (.inr (.inr (.inl block)))) .nil))
    (List.Perm.swap ..)

/-- Both kinds of bodies are read from every text that presents them, and none is read from a text
with a flawed object in it. -/
theorem payload_layout : LayoutFree TransactionBody ∧ LayoutFree UtxosBody :=
  ⟨LawfulBody.layoutFree, LawfulBody.layoutFree⟩

/-- The loose transaction, one whose absent block is left out, and outputs told first. A name is
told again, and a block is told nothing. -/
theorem payload_layout_of_loose_texts :
    let nested := "\x7b\"event_type\" :\"e\",\"txid\":\"t\",\"block_details\":\x7b\n" ++
      "\"timestamp\":-2,\"height\" : 1,\"hash\":\"h\",\"x\":\x7b\"y\":[ null]\x7d\x7d," ++
      "\"account_names\":[\"a\"]\x7d"
    let absent := "\x7b\"event_type\":\"e\",\"txid\":\"t\",\"account_names\":[\"a\"]\x7d"
    let outputs := "\n\x7b\"utxos\":[ ],\t\"event_type\":\"e\"\x7d"
    let twice := "\x7b\"event_type\":\"e\", \"event_type\":null\x7d"
    let lacking := "\x7b\"event_type\":\"e\",\"txid\":\"t\",\"account_names\":[]," ++
      "\"block_details\":\x7b \x7d\x7d"
    Body.read nested = .ok (TransactionBody.mk "e" "t" ["a"] (some ⟨"h", 1, -2⟩)) ∧
      Body.read absent = .ok (TransactionBody.mk "e" "t" ["a"] none) ∧
      Body.read outputs = .ok (UtxosBody.mk "e" []) ∧
      (Body.read twice : Except Fault UtxosBody) = .error .unfit ∧
      (Body.read lacking : Except Fault TransactionBody) = .error .unfit := by
  intro nested absent outputs twice lacking
  have laid (tokens : List (List Char)) (s : String)
      (found : Json.rest? tokens s.toList = some []) :
      Spaced tokens s.toList := ⟨[], Json.laid_of_rest? found, Json.blank_nil⟩
  obtain ⟨⟨-, -, readsTransaction, rejectsTransaction⟩, -, -, readsUtxos, rejectsUtxos⟩ :=
    payload_layout
  refine ⟨?_, ?_, ?_, ?_, ?_⟩
  · exact readsTransaction _ looseTransaction _ looseTransaction_presents
      (laid _ _ (by decide +kernel))
  · refine readsTransaction _ [.inl (.typed "e"), .inr (.inl (.typed "t")),
      .inr (.inr (.inl (.typed ["a"])))] _ ?_ (laid _ _ (by decide +kernel))
    exact .keep (.inl (.typed rfl)) (.keep (.inr (.inl (.typed rfl)))
      (.keep (.inr (.inr (.inl (.typed rfl)))) (.lack rfl .nil)))
  · refine readsUtxos _ [.inr (.inl (.typed [])), .inl (.typed "e")] _ ?_
      (laid _ _ (by decide +kernel))
    exact .perm (.of_same (Json.alike_written _ _ _)) (List.reverse_perm _).symm
  · refine rejectsUtxos [.inl (.typed "e"), .inl (.loose _ .null)] _ ?_ (.inl (by decide))
      (laid _ _ (by decide +kernel))
    refine ⟨⟨?_, fun _ _ => trivial⟩, Json.firstTyped_nil _, trivial⟩
    rintro _ ⟨⟩
    exact ⟨"e", rfl⟩
  · have none {A : Type} {good : A → Prop} : Json.FirstTyped good [] := Json.firstTyped_nil good
    have empty : Flawed (Body.shape BlockBody).names (Body.shape BlockBody) [] := .inl (by decide)
    refine rejectsTransaction [.inl (.typed "e"), .inr (.inl (.typed "t")),
      .inr (.inr (.inl (.typed []))), .inr (.inr (.inr (.inl (.typed (some [])))))] _ ?_ ?_
      (laid _ _ (by decide +kernel))
    · refine ⟨Json.firstTyped_single trivial, Json.firstTyped_single trivial,
        Json.firstTyped_single trivial, Json.firstTyped_single ?_, trivial⟩
      rintro _ ⟨⟩
      exact ⟨none, none, none, trivial⟩
    · exact .inr (.inr (.inr (.inr (.inl ⟨_, List.mem_cons_self, empty⟩))))

end WalletNotify.Webhook
