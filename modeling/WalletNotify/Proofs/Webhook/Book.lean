import Mathlib.Data.Finmap
import WalletNotify.Proofs.Result
import WalletNotify.Proofs.Text.Hex
import WalletNotify.Proofs.Webhook.Registry
import WalletNotify.Proofs.Webhook.Secret
import WalletNotify.Webhook.Sharing

/-!
# The registry as a book

A book maps pairs of a class and a normal endpoint to secrets, and knows nothing of digests. Main
statement: as long as no two of the pairs that were asked for have one digest, every reply of a
registry is the reply of the book that it stands for (`Represents.reply`).
-/

namespace WalletNotify.Webhook

open Event (EventClass Kind)
open Hash (Sha256.digest)
open Registry (Command Reply check)

/-! ## Pairs -/

/-- What a webhook is registered for: a class, and an endpoint in normal form. -/
structure Pair where
  kind : EventClass
  endpoint : String
deriving DecidableEq

namespace Pair

/-- The text that a pair is known by. -/
def text (p : Pair) : String := Kind.name p.kind ++ ":" ++ p.endpoint

def id (p : Pair) : Id := ⟨Text.Hex.encode (Sha256.digest (Text.utf8 p.text))⟩

/-- The name of a class has no colon, which ends it before an endpoint. -/
lemma name_no_colon (k : EventClass) : (Kind.name k).toList.all (· != ':') = true := by
  cases k <;> decide

/-- Classes are told apart by their names. -/
lemma name_injective {k l : EventClass} (same : Kind.name k = Kind.name l) : k = l := by
  revert same
  cases k <;> cases l <;> decide

/-- The name of a class ends at the first colon, so a text tells its pair. -/
lemma text_injective {p q : Pair} (same : p.text = q.text) : p = q := by
  obtain ⟨k, e⟩ := p
  obtain ⟨l, f⟩ := q
  have chars : (Kind.name k).toList ++ ':' :: e.toList = (Kind.name l).toList ++ ':' :: f.toList :=
    by simpa [text] using congrArg String.toList same
  have names := congrArg (List.takeWhile (· != ':')) chars
  rw [List.takeWhile_append_of_pos (List.all_eq_true.mp (name_no_colon k)),
    List.takeWhile_append_of_pos (List.all_eq_true.mp (name_no_colon l))] at names
  cases name_injective (String.toList_inj.mp (by simpa using names))
  have endpoints := (List.cons.inj (List.append_cancel_left chars)).2
  rw [String.toList_inj.mp endpoints]

/-- A digest has thirty-two bytes. -/
lemma length_digest (bytes : List UInt8) : (Sha256.digest bytes).length = 32 := by
  simp [Sha256.digest, Hash.Sha256.State.words, Hash.Sha256.wordBytes]

/-- An id has sixty-four digits. -/
lemma length_id (p : Pair) : p.id.text.length = 64 := by
  rw [id, Text.Hex.encode, String.length_ofList, Text.Hex.length_digits, length_digest]

/-- No id is empty. -/
lemma id_text_ne_empty (p : Pair) : p.id.text.isEmpty = false := by
  rw [← Bool.not_eq_true, String.isEmpty_iff]
  intro empty
  have length := p.length_id
  rw [empty] at length
  cases length

end Pair

/-- No two texts of pairs have one digest. -/
def CollisionFree (pairs : List Pair) : Prop :=
  ∀ p ∈ pairs, ∀ q ∈ pairs,
    Sha256.digest (Text.utf8 p.text) = Sha256.digest (Text.utf8 q.text) → p.text = q.text

instance (pairs : List Pair) : Decidable (CollisionFree pairs) :=
  inferInstanceAs (Decidable (∀ p ∈ pairs, ∀ q ∈ pairs, _ → _))

/-- Different pairs have different ids. -/
lemma CollisionFree.eq_of_id {pairs : List Pair} (free : CollisionFree pairs) {p q : Pair}
    (mem : p ∈ pairs) (mem' : q ∈ pairs) (same : p.id = q.id) : p = q := by
  apply Pair.text_injective
  apply free p mem q mem'
  exact Text.Hex.encode_injective (congrArg Id.text same)

/-- What a webhook is registered for. -/
def Hook.pair (h : Hook) : Pair := ⟨h.kind, h.endpoint.text⟩

/-! ## Books -/

/-- The registered pairs with their secrets. -/
abbrev Book := Finmap fun _ : Pair => Option String

/-- A valid command to register a pair: it has a class, a readable http endpoint and a secret that
may be sent, where an empty secret is none. -/
def Asks (endpoint : String) (kind : Option EventClass) (secret : String) (p : Pair)
    (kept : Option String) : Prop :=
  ∃ url, kind = some p.kind ∧ Url.read endpoint = .ok url ∧ p.endpoint = url.text ∧
    (url.scheme = "http" ∨ url.scheme = "https") ∧ isSecret secret = true ∧
    kept = if secret.isEmpty then none else some secret

namespace Book

/-- A webhook tells a pair of the book with its secret and its id. -/
structure Has (b : Book) (h : Hook) : Prop where
  lookup : b.lookup h.pair = some h.secret
  id : h.id = h.pair.id

/-- Webhooks tell the pairs of a class, or all, each once and in the order of their ids. -/
structure Lists (b : Book) (kind : Option EventClass) (hooks : List Hook) : Prop where
  ascending : hooks.Pairwise fun g h => g.id.text < h.id.text
  present : ∀ h ∈ hooks, b.Has h ∧ ∀ k ∈ kind, h.kind = k
  complete : ∀ p ∈ b, (∀ k ∈ kind, p.kind = k) → ∃ h ∈ hooks, h.pair = p

/-- What a book replies to a command, and the book from then on. -/
inductive Replies (b : Book) : Command → Reply → Book → Prop where
  | invalid {endpoint kind secret e} :
    (∀ p kept, ¬ Asks endpoint kind secret p kept) → check endpoint kind secret = .error e →
    e.code = .invalidArgument → Replies b (.add endpoint kind secret) (.refused e) b
  | taken {endpoint kind secret p kept} :
    Asks endpoint kind secret p kept → p ∈ b →
    Replies b (.add endpoint kind secret) (.refused (.alreadyExists p.id)) b
  | added {endpoint kind secret p kept h} :
    Asks endpoint kind secret p kept → p ∉ b → h.pair = p → Has (b.insert p kept) h →
    Replies b (.add endpoint kind secret) (.added h) (b.insert p kept)
  | removed {h} : b.Has h → Replies b (.remove h.id) (.removed h) (b.erase h.pair)
  | unknown {id} : (∀ p ∈ b, p.id ≠ id) →
    Replies b (.remove id) (.refused (if id.text.isEmpty then .emptyId else .notFound id)) b
  | listed {kind hooks} : b.Lists kind hooks → Replies b (.list kind) (.listed hooks) b
  | listedFor {kind hooks} :
    b.Lists (some kind) hooks → Replies b (.forClass kind) (.listed hooks) b
  | counted : Replies b .size (.counted b.keys.card) b
  | told : Replies b .isEmpty (.told (decide (b = ∅))) b

end Book

/-! ## Registries that stand for books -/

/-- The pair that a command to register tells, if it passes the checks. -/
def Registry.Command.pair? : Command → Option Pair
  | .add endpoint kind secret => (check endpoint kind secret).toOption.map Hook.pair
  | _ => none

/-- A command to register is valid if it passes the checks, and tells the pair of the webhook. -/
lemma asks_iff {endpoint secret : String} {kind : Option EventClass} {p : Pair}
    {kept : Option String} :
    Asks endpoint kind secret p kept ↔
      ∃ h, check endpoint kind secret = .ok h ∧ h.pair = p ∧ h.secret = kept := by
  simp only [Registry.check_eq_ok]
  constructor
  · rintro ⟨url, rfl, read, normal, scheme, valid, rfl⟩
    exact ⟨_, ⟨p.kind, url, rfl, read, scheme, valid, rfl⟩,
      by rw [Hook.pair, Hook.new, ← normal], rfl⟩
  · rintro ⟨h, ⟨k, url, rfl, read, scheme, valid, rfl⟩, rfl, rfl⟩
    exact ⟨url, rfl, read, rfl, scheme, valid, rfl⟩

/-- What fails the checks is an invalid argument, whatever is registered. -/
lemma Registry.check_code {endpoint secret : String} {kind : Option EventClass} {e : RegistryError}
    (failed : check endpoint kind secret = .error e) : e.code = .invalidArgument := by
  unfold check at failed
  cases kind with
  | none => cases failed; rfl
  | some k =>
    cases read : Url.read endpoint with
    | error fault => rw [read] at failed; cases failed; rfl
    | ok url =>
      rw [read] at failed
      simp only [Except.mapError, bind, Except.bind, pure, Except.pure, throw, throwThe,
        MonadExceptOf.throw] at failed
      split at failed
      case isTrue scheme => cases failed; rfl
      case isFalse scheme =>
        split at failed
        case isTrue invalid => cases failed; rfl
        case isFalse valid => cases failed

/-- A webhook that passes the checks has the id of its pair, and no empty secret. -/
lemma Registry.of_check {endpoint secret : String} {kind : Option EventClass} {h : Hook}
    (passed : check endpoint kind secret = .ok h) : h.id = h.pair.id ∧ h.secret ≠ some "" := by
  obtain ⟨k, url, -, -, -, -, rfl⟩ := Registry.check_eq_ok.mp passed
  refine ⟨rfl, fun empty => ?_⟩
  exact (Hook.secret_new_eq_some.mp empty).2 rfl

/-- A registry holds the webhooks of a book's pairs, all of which were asked for. -/
structure Represents (asked : List Pair) (r : Registry) (b : Book) : Prop where
  sorted : r.Sorted
  id : ∀ h ∈ r.hooks, h.id = h.pair.id
  asked : ∀ h ∈ r.hooks, h.pair ∈ asked
  secret : ∀ h ∈ r.hooks, h.secret ≠ some ""
  lookup : ∀ {p kept}, b.lookup p = some kept ↔ ∃ h ∈ r.hooks, h.pair = p ∧ h.secret = kept

namespace Represents

variable {asked : List Pair} {r : Registry} {b : Book}

/-- An empty registry is represented by an empty book. -/
lemma empty (asked : List Pair) : Represents asked .empty ∅ where
  sorted := .nil
  id _ mem := absurd mem List.not_mem_nil
  asked _ mem := absurd mem List.not_mem_nil
  secret _ mem := absurd mem List.not_mem_nil
  lookup := by simp [Registry.empty]

/-- The book has every webhook of the registry. -/
lemma has (rep : Represents asked r b) {h : Hook} (mem : h ∈ r.hooks) : b.Has h :=
  ⟨rep.lookup.mpr ⟨h, mem, rfl, rfl⟩, rep.id h mem⟩

/-- The pairs of the book are those of the registered webhooks. -/
lemma mem_iff (rep : Represents asked r b) {p : Pair} : p ∈ b ↔ ∃ h ∈ r.hooks, h.pair = p := by
  simp only [Finmap.mem_iff, rep.lookup]
  constructor
  · rintro ⟨_, h, mem, is, _⟩
    exact ⟨h, mem, is⟩
  · rintro ⟨h, mem, is⟩
    exact ⟨h.secret, h, mem, is, rfl⟩

/-- Every pair is registered once. -/
lemma eq_of_pair (rep : Represents asked r b) {g h : Hook} (mem : g ∈ r.hooks) (mem' : h ∈ r.hooks)
    (same : g.pair = h.pair) : g = h :=
  rep.sorted.eq_of_id mem mem' (by rw [rep.id g mem, rep.id h mem', same])

/-- A pair's id is taken exactly if the pair is registered. -/
lemma find?_eq_none_iff (free : CollisionFree asked) (rep : Represents asked r b) {p : Pair}
    (mem : p ∈ asked) : r.find? p.id = none ↔ p ∉ b := by
  rw [Registry.find?_eq_none, rep.mem_iff]
  constructor
  · rintro untaken ⟨h, present, rfl⟩
    exact untaken h present (rep.id h present)
  · intro absent h present same
    rw [rep.id h present] at same
    exact absent ⟨h, present, free.eq_of_id (rep.asked h present) mem same⟩

/-- A webhook that is new to the registry is new to the book. -/
lemma insert (rep : Represents asked r b) {h : Hook} (id : h.id = h.pair.id) (mem : h.pair ∈ asked)
    (secret : h.secret ≠ some "") (absent : h.pair ∉ b) (untaken : r.find? h.id = none) :
    Represents asked ⟨Registry.insertSorted h r.hooks⟩ (b.insert h.pair h.secret) where
  sorted := Registry.sorted_insertSorted rep.sorted (Registry.find?_eq_none.mp untaken)
  id := by simpa [id] using rep.id
  asked := by simpa [mem] using rep.asked
  secret := by simpa [secret] using rep.secret
  lookup {p kept} := by
    simp only [Registry.mem_insertSorted, exists_eq_or_imp]
    by_cases same : p = h.pair
    · subst same
      rw [Finmap.lookup_insert, Option.some.injEq]
      constructor
      · exact fun e => .inl ⟨rfl, e⟩
      · rintro (⟨-, e⟩ | ⟨g, there, is, -⟩)
        · exact e
        · exact absurd (rep.mem_iff.mpr ⟨g, there, is⟩) absent
    · rw [Finmap.lookup_insert_of_ne _ same, rep.lookup]
      simp [Ne.symm same]

/-- A webhook that is removed is erased from the book. -/
lemma erase (rep : Represents asked r b) {h : Hook} (mem : h ∈ r.hooks) :
    Represents asked ⟨r.hooks.filter fun g => g.id != h.id⟩ (b.erase h.pair) where
  sorted := List.Pairwise.sublist List.filter_sublist rep.sorted
  id g mem := rep.id g (List.mem_filter.mp mem).1
  asked g mem := rep.asked g (List.mem_filter.mp mem).1
  secret g mem := rep.secret g (List.mem_filter.mp mem).1
  lookup {p kept} := by
    simp only [List.mem_filter, bne_iff_ne]
    by_cases same : p = h.pair
    · subst same
      rw [Finmap.lookup_erase]
      apply iff_of_false nofun
      rintro ⟨g, ⟨there, other⟩, is, -⟩
      exact other (congrArg Hook.id (rep.eq_of_pair there mem is))
    · rw [Finmap.lookup_erase_ne same, rep.lookup]
      constructor
      · rintro ⟨g, there, is, holds⟩
        refine ⟨g, ⟨there, fun taken => same ?_⟩, is, holds⟩
        rw [← is, rep.sorted.eq_of_id there mem taken]
      · rintro ⟨g, ⟨there, -⟩, is, holds⟩
        exact ⟨g, there, is, holds⟩

/-- What the registry lists is what the book lists. -/
lemma lists (rep : Represents asked r b) (kind : Option EventClass) :
    b.Lists kind (r.list kind) := by
  cases kind with
  | none =>
    refine ⟨rep.sorted, fun h mem => ⟨rep.has mem, nofun⟩, fun p mem _ => rep.mem_iff.mp mem⟩
  | some k =>
    refine ⟨List.Pairwise.sublist List.filter_sublist rep.sorted, ?_, ?_⟩
    · intro h mem
      obtain ⟨there, is⟩ := Registry.mem_forClass.mp mem
      exact ⟨rep.has there, by simpa using is⟩
    · intro p mem is
      obtain ⟨h, there, rfl⟩ := rep.mem_iff.mp mem
      exact ⟨h, Registry.mem_forClass.mpr ⟨there, is k rfl⟩, rfl⟩

/-- The registry has as many webhooks as the book has pairs. -/
lemma size (rep : Represents asked r b) : r.size = b.keys.card := by
  have keys : b.keys = (r.hooks.map Hook.pair).toFinset := by
    ext p
    rw [Finmap.mem_keys, rep.mem_iff]
    simp
  have once : (r.hooks.map Hook.pair).Nodup :=
    List.Nodup.map_on (fun g there h there' => rep.eq_of_pair there there') rep.sorted.nodup
  rw [keys, List.toFinset_card_of_nodup once, List.length_map]
  rfl

/-- The registry is empty exactly if the book is. -/
lemma isEmpty (rep : Represents asked r b) : r.isEmpty = decide (b = ∅) := by
  rw [Registry.isEmpty, Bool.eq_iff_iff, List.isEmpty_iff, decide_eq_true_iff]
  constructor
  · intro none
    refine Finmap.ext_lookup fun p => ?_
    rw [Finmap.lookup_empty, Finmap.lookup_eq_none, rep.mem_iff]
    simp [none]
  · rintro rfl
    refine List.eq_nil_iff_forall_not_mem.mpr fun h mem => ?_
    exact Finmap.notMem_empty (rep.mem_iff.mpr ⟨h, mem, rfl⟩)

/-- A registry takes a webhook exactly if its book does. -/
lemma reply_add (free : CollisionFree asked) (rep : Represents asked r b) {endpoint secret : String}
    {kind : Option EventClass}
    (known : ∀ p ∈ (Command.add endpoint kind secret).pair?, p ∈ asked) :
    ∃ b', b.Replies (.add endpoint kind secret) (r.reply (.add endpoint kind secret)).1 b' ∧
      Represents asked (r.reply (.add endpoint kind secret)).2 b' := by
  simp only [Registry.reply, Registry.add]
  cases checked : check endpoint kind secret with
  | error e =>
    have unasked : ∀ p kept, ¬ Asks endpoint kind secret p kept := by
      intro p kept asks
      obtain ⟨h, passed, -⟩ := asks_iff.mp asks
      rw [checked] at passed
      cases passed
    exact ⟨b, .invalid unasked checked (Registry.check_code checked), rep⟩
  | ok h =>
    have asks := asks_iff.mpr ⟨h, checked, rfl, rfl⟩
    have mem : h.pair ∈ asked := known h.pair (by simp [Command.pair?, checked, Except.toOption])
    obtain ⟨id, secret⟩ := Registry.of_check checked
    have untaken := rep.find?_eq_none_iff free mem
    rw [← id] at untaken
    simp only [ok_bind]
    cases found : r.find? h.id with
    | some g =>
      refine ⟨b, ?_, rep⟩
      have present : h.pair ∈ b := by
        by_contra absent
        rw [untaken.mpr absent] at found
        cases found
      rw [id]
      exact .taken asks present
    | none =>
      have absent := untaken.mp found
      have changed := rep.insert id mem secret absent found
      exact ⟨_, .added asks absent rfl (changed.has (by simp)), changed⟩

/-- A registry gives up a webhook exactly if its book has the id. -/
lemma reply_remove (rep : Represents asked r b) (id : Id) :
    ∃ b', b.Replies (.remove id) (r.reply (.remove id)).1 b' ∧
      Represents asked (r.reply (.remove id)).2 b' := by
  simp only [Registry.reply, Registry.remove]
  by_cases empty : id.text.isEmpty = true
  · rw [if_pos empty]
    refine ⟨b, ?_, rep⟩
    have unknown : ∀ p ∈ b, p.id ≠ id := by
      rintro p - rfl
      rw [p.id_text_ne_empty] at empty
      cases empty
    simpa [empty] using Book.Replies.unknown unknown
  · rw [if_neg empty]
    cases found : r.find? id with
    | none =>
      refine ⟨b, ?_, rep⟩
      have unknown : ∀ p ∈ b, p.id ≠ id := by
        rintro p mem rfl
        obtain ⟨h, there, rfl⟩ := rep.mem_iff.mp mem
        exact Registry.find?_eq_none.mp found h there (rep.id h there)
      simpa [empty] using Book.Replies.unknown unknown
    | some h =>
      obtain ⟨there, rfl⟩ := rep.sorted.find?_eq_some.mp found
      exact ⟨b.erase h.pair, .removed (rep.has there), rep.erase there⟩

/-- A registry replies what its book does, and stands for the changed book then. -/
theorem reply (free : CollisionFree asked) (rep : Represents asked r b) (command : Command)
    (known : ∀ p ∈ command.pair?, p ∈ asked) :
    ∃ b', b.Replies command (r.reply command).1 b' ∧ Represents asked (r.reply command).2 b' := by
  cases command with
  | add endpoint kind secret => exact rep.reply_add free known
  | remove id => exact rep.reply_remove id
  | list kind => exact ⟨b, .listed (rep.lists kind), rep⟩
  | forClass kind => exact ⟨b, .listedFor (rep.lists (some kind)), rep⟩
  | size =>
    refine ⟨b, ?_, rep⟩
    rw [Registry.reply, rep.size]
    exact .counted
  | isEmpty =>
    refine ⟨b, ?_, rep⟩
    rw [Registry.reply, rep.isEmpty]
    exact .told

end Represents

end WalletNotify.Webhook
