import WalletNotify.Config.Load
import WalletNotify.Proofs.Config.Overlay

/-!
# Leaves of configurations

A configuration has a leaf for each setting that holds no others. Main statement: if what is set has
the right types, every leaf of the configuration that is read has the value that is set for it or,
if none is set, its default (`leaf_of_ofSettings`), and no configuration is read just if a setting
of webhooks has an unknown key (`known_of_ofSettings`, `unknown_of_ofSettings`).
-/

namespace WalletNotify.Config

open Text (Keyed)
open Text.Keyed (Ordered foldlM_get)
open Webhook (RetryPolicy)

/-! ## Leaves and their values -/

namespace PolicyField

/-- The bound of a field's numbers. -/
def limit : PolicyField → Nat
  | timeout => 2 ^ 64
  | maxAttempts => 2 ^ 32
  | backoff => 2 ^ 64

/-- The number of a field. -/
def get : PolicyField → RetryPolicy → Nat
  | timeout, p => p.timeoutMillis.toNat
  | maxAttempts, p => p.maxAttempts.toNat
  | backoff, p => p.backoffMillis.toNat

end PolicyField

/-- A setting of a configuration that holds no others. -/
inductive Leaf where
  | endpoint
  | subscriberBuffer
  | policy (field : PolicyField)
deriving DecidableEq

/-- What a leaf may hold. -/
inductive LeafValue where
  | url (u : Url)
  | number (n : Nat)
deriving DecidableEq

/-- The URL that a setting is. -/
def url? : Setting → Option Url
  | .plain _ (.text t) => (Url.read t).toOption
  | _ => none

/-- The number below a bound that a setting is. -/
def number? (limit : Nat) : Setting → Option Nat
  | .plain _ (.unsigned n) => if n < limit then some n else none
  | .plain _ (.signed i) => if 0 ≤ i ∧ i < limit then some i.toNat else none
  | _ => none

namespace Leaf

/-- The keys that lead to a leaf. -/
def path : Leaf → List String
  | endpoint => ["endpoint"]
  | subscriberBuffer => ["subscriber_buffer"]
  | policy f => ["webhook", f.key]

/-- The value of a leaf. -/
def get : Leaf → Config → LeafValue
  | endpoint, c => .url c.endpoint
  | subscriberBuffer, c => .number c.subscriberBuffer.toNat
  | policy f, c => .number (f.get c.webhook)

/-- The value that a setting is for a leaf, if its type is right. -/
def value? : Leaf → Setting → Option LeafValue
  | endpoint, s => (url? s).map .url
  | subscriberBuffer, s => (number? (2 ^ 64) s).map .number
  | policy f, s => (number? f.limit s).map .number

end Leaf

/-- The setting at the end of a path of keys. -/
def setting? : List String → Settings → Option Setting
  | [], _ => none
  | [key], settings => Keyed.get? key settings
  | key :: next :: path, settings => setting? (next :: path) (tableAt key settings)

/-- The keys that a configuration has settings under. -/
def declaredKeys : List String := ["endpoint", "subscriber_buffer", "webhook"]

/-- A key that no setting of webhooks has. -/
def IsUnknown (key : String) : Prop := ∀ f : PolicyField, f.key ≠ key

/-- Something is set for webhooks under an unknown key. -/
def SetsUnknown (settings : Settings) : Prop :=
  ∃ key, IsUnknown key ∧ (setting? ["webhook", key] settings).isSome

/-- What is set under declared keys has the right types. -/
structure WellTyped (settings : Settings) : Prop where
  webhook : ∀ s, Keyed.get? "webhook" settings = some s → ∃ layer entries, s = .table layer entries
  leaf : ∀ (l : Leaf) s, setting? l.path settings = some s → ∃ v, l.value? s = some v

/-- Settings of the right types, in the order of their keys. -/
structure Sound (settings : Settings) : Prop where
  ordered : Ordered settings
  branch : IsBranch "webhook" settings
  leaf : ∀ (l : Leaf) s, setting? l.path settings = some s → ∃ v, l.value? s = some v

/-! ## Reading values -/

section

variable {s : Setting} {f : PolicyField} {p p' : RetryPolicy} {c c' : Config} {key : String}
  {limit n : Nat} {expected : String} {settings entries : Settings} {layer : Layer}

/-- A setting is read as a URL exactly if it holds one. -/
lemma readUrl_eq_ok {u : Url} : readUrl s = .ok u ↔ url? s = some u := by
  unfold readUrl url?
  split
  next text =>
    simp only [mapError_eq_ok]
    cases Url.read text <;> simp [Except.toOption]
  next => simp [wrongType]

/-- A setting is read as a number exactly if it holds one within the limit. -/
lemma readNumber_eq_ok : readNumber limit expected s = .ok n ↔ number? limit s = some n := by
  unfold readNumber number?
  split
  · simp only
    split <;> simp
  · simp only [Int.natCast_nonneg, Int.ofNat_lt, true_and, Int.toNat_natCast]
    split <;> simp
  · simp [wrongType]

/-- A number that is read is below its bound. -/
lemma number?_lt (found : number? limit s = some n) : n < limit := by
  unfold number? at found
  split at found
  · split_ifs at found with small
    exact Option.some.inj found ▸ small
  · split_ifs at found with small
    cases found
    omega
  · cases found

/-- A field of the policy is set exactly if the setting holds a number within its limit. -/
lemma putField_eq_ok :
    putField p s f = .ok p' ↔ ∃ n, number? f.limit s = some n ∧
      p' = match f with
        | .timeout => { p with timeoutMillis := .ofNat n }
        | .maxAttempts => { p with maxAttempts := .ofNat n }
        | .backoff => { p with backoffMillis := .ofNat n } := by
  cases f <;> simp only [putField, bind_eq_ok, readNumber_eq_ok, PolicyField.limit] <;>
    exact exists_congr fun n => and_congr_right fun _ => ⟨fun made => (Except.ok.inj made).symm,
      fun made => made ▸ rfl⟩

/-- A field that is put has the number that its setting is. -/
lemma get_of_putField (done : putField p s f = .ok p') : number? f.limit s = some (f.get p') := by
  obtain ⟨n, found, rfl⟩ := putField_eq_ok.mp done
  have small := number?_lt found
  rw [found]
  cases f with
  | timeout | backoff => exact congrArg some (UInt64.toNat_ofNat_of_lt' small).symm
  | maxAttempts => exact congrArg some (UInt32.toNat_ofNat_of_lt' small).symm

/-- Setting a field of the policy leaves the others alone. -/
lemma get_of_putField_of_ne {g : PolicyField} (ne : f ≠ g) (done : putField p s f = .ok p') :
    g.get p' = g.get p := by
  obtain ⟨n, -, rfl⟩ := putField_eq_ok.mp done
  cases f <;> cases g <;> first | exact absurd rfl ne | rfl

/-- A number within the limit of a field can be set. -/
lemma exists_putField (p : RetryPolicy) (found : number? f.limit s = some n) :
    ∃ p', putField p s f = .ok p' := ⟨_, putField_eq_ok.mpr ⟨n, found, rfl⟩⟩

/-! ## Reading policies -/

/-- A field is found by its own key. -/
lemma ofKey?_eq_some : PolicyField.ofKey? key = some f ↔ f.key = key := by
  constructor
  · intro found
    simpa using List.find?_some found
  · rintro rfl
    cases f <;> rfl

/-- A key is unknown exactly if no field is found by it. -/
lemma ofKey?_eq_none : PolicyField.ofKey? key = none ↔ IsUnknown key := by
  simp only [Option.eq_none_iff_forall_ne_some, ne_eq, ofKey?_eq_some, IsUnknown]

/-- A key of the webhook table is read exactly if it is a field's and the field can be set. -/
lemma putKey_eq_ok :
    putKey layer p key s = .ok p' ↔ ∃ f : PolicyField, f.key = key ∧ putField p s f = .ok p' := by
  unfold putKey
  rw [mapError_eq_ok]
  cases field : PolicyField.ofKey? key with
  | none =>
    have unknown := ofKey?_eq_none.mp field
    exact ⟨nofun, fun ⟨f, same, _⟩ => absurd same (unknown f)⟩
  | some f =>
    have same := ofKey?_eq_some.mp field
    refine ⟨fun done => ⟨f, same, done⟩, ?_⟩
    rintro ⟨g, rfl, done⟩
    rw [ofKey?_eq_some.mpr rfl] at field
    cases field
    exact done

/-- A key of the right type is refused only if it is unknown. -/
lemma unknown_of_putKey {e : Error}
    (typed : ∀ f : PolicyField, f.key = key → ∃ n, number? f.limit s = some n)
    (failed : putKey layer p key s = .error e) : IsUnknown key ∧ e.problem = .unknownField key := by
  obtain ⟨inner, cause, rfl⟩ := mapError_eq_error.mp failed
  cases field : PolicyField.ofKey? key with
  | none =>
    rw [field] at cause
    exact ⟨ofKey?_eq_none.mp field, Except.error.inj cause ▸ rfl⟩
  | some f =>
    obtain ⟨n, found⟩ := typed f (ofKey?_eq_some.mp field)
    obtain ⟨p', done⟩ := exists_putField p found
    rw [field] at cause
    cases done.symm.trans cause

/-- Each field of a policy that is read has the number that is set for it, or keeps its default. -/
lemma get_of_readPolicy (ordered : Ordered entries)
    (done : readPolicy (.table layer entries) = .ok p) (f : PolicyField) :
    (∀ s, Keyed.get? f.key entries = some s → number? f.limit s = some (f.get p)) ∧
      (Keyed.get? f.key entries = none → f.get p = f.get defaultPolicy) := by
  apply foldlM_get f.key f.get (fun s n => number? f.limit s = some n) ?_ ?_ ordered done
  · intro p s p' put
    obtain ⟨g, same, put⟩ := putKey_eq_ok.mp put
    cases Option.some.inj ((ofKey?_eq_some.mpr same).symm.trans (ofKey?_eq_some.mpr rfl))
    exact get_of_putField put
  · intro p entry p' ne put
    obtain ⟨g, same, put⟩ := putKey_eq_ok.mp put
    refine get_of_putField_of_ne ?_ put
    rintro rfl
    exact ne same.symm

/-- A policy that is read has no setting under an unknown key. -/
lemma known_of_readPolicy (done : readPolicy (.table layer entries) = .ok p) :
    ∀ entry ∈ entries, ¬ IsUnknown entry.1 := by
  intro entry member unknown
  obtain ⟨_, _, put⟩ := exists_step_of_foldlM done entry member
  obtain ⟨f, same, -⟩ := putKey_eq_ok.mp put
  exact unknown f same

/-- A policy whose settings have the right types is refused only for an unknown key. -/
lemma unknown_of_readPolicy {e : Error} (ordered : Ordered entries)
    (typed : ∀ (f : PolicyField) s, Keyed.get? f.key entries = some s →
      ∃ n, number? f.limit s = some n)
    (failed : readPolicy (.table layer entries) = .error e) :
    ∃ entry ∈ entries, IsUnknown entry.1 ∧ e.problem = .unknownField entry.1 := by
  obtain ⟨entry, member, _, refused⟩ := exists_step_of_foldlM_error failed
  refine ⟨entry, member, unknown_of_putKey ?_ refused⟩
  intro f same
  exact typed f entry.2 (same ▸ ordered.get?_eq_some.mpr member)

/-! ## Reading configurations -/

/-- What a setting that is put changes. -/
inductive Puts (key : String) (s : Setting) (c : Config) : Config → Prop where
  | endpoint {u : Url} (own : key = "endpoint") (read : url? s = some u) :
      Puts key s c { c with endpoint := u }
  | subscriberBuffer {n : Nat} (own : key = "subscriber_buffer")
      (read : number? (2 ^ 64) s = some n) : Puts key s c { c with subscriberBuffer := .ofNat n }
  | webhook {p : RetryPolicy} (own : key = "webhook") (read : readPolicy s = .ok p) :
      Puts key s c { c with webhook := p }
  | nothing (undeclared : key ∉ declaredKeys) : Puts key s c c

/-- A top-level key is read exactly by the rules. -/
lemma put_eq_ok : c.put key s = .ok c' ↔ Puts key s c c' := by
  unfold put
  rw [mapError_eq_ok]
  constructor
  · intro done
    split_ifs at done with h₁ h₂ h₃
    · obtain ⟨u, read, made⟩ := bind_eq_ok.mp done
      cases made
      exact .endpoint h₁ (readUrl_eq_ok.mp read)
    · obtain ⟨n, read, made⟩ := bind_eq_ok.mp done
      cases made
      exact .subscriberBuffer h₂ (readNumber_eq_ok.mp read)
    · obtain ⟨p, read, made⟩ := bind_eq_ok.mp done
      cases made
      exact .webhook h₃ read
    · cases done
      exact .nothing (by simp [declaredKeys, h₁, h₂, h₃])
  · intro puts
    cases puts with
    | endpoint own read =>
      rw [if_pos own, readUrl_eq_ok.mpr read]
      rfl
    | subscriberBuffer own read =>
      rw [if_neg (by simp [own]), if_pos own, readNumber_eq_ok.mpr read]
      rfl
    | webhook own read =>
      rw [if_neg (by simp [own]), if_neg (by simp [own]), if_pos own, read]
      rfl
    | nothing undeclared =>
      simp only [declaredKeys, List.mem_cons, List.not_mem_nil, or_false, not_or] at undeclared
      rw [if_neg undeclared.1, if_neg undeclared.2.1, if_neg undeclared.2.2]

/-- A leaf of the right type is set to a number below its bound. -/
lemma number?_of_value? {v : LeafValue} (typed : (Leaf.policy f).value? s = some v) :
    ∃ n, number? f.limit s = some n := by
  obtain ⟨n, found, -⟩ := Option.map_eq_some_iff.mp typed
  exact ⟨n, found⟩

/-- A field of the policy is set where the webhook table has its key. -/
lemma setting?_policy (webhook : Keyed.get? "webhook" settings = some (.table layer entries))
    (f : PolicyField) : setting? (Leaf.policy f).path settings = Keyed.get? f.key entries := by
  rw [Leaf.path, setting?, setting?, tableAt_of_some webhook]

/-- What stands under a key inside webhooks stands there in a table. -/
lemma Sound.exists_webhook (sound : Sound settings)
    (found : setting? ["webhook", key] settings = some s) :
    ∃ layer entries, Keyed.get? "webhook" settings = some (.table layer entries) ∧
      Keyed.get? key entries = some s := by
  rw [setting?, setting?] at found
  cases webhook : Keyed.get? "webhook" settings with
  | none =>
    rw [tableAt_of_none webhook] at found
    cases found
  | some t =>
    obtain ⟨layer, entries, rfl, -⟩ := sound.branch t webhook
    rw [tableAt_of_some webhook] at found
    exact ⟨layer, entries, rfl, found⟩

/-- The policy of a configuration that is read is read from what is set for webhooks. -/
lemma webhook_of_ofSettings (ordered : Ordered settings) (done : ofSettings settings = .ok c) :
    (∀ s, Keyed.get? "webhook" settings = some s → readPolicy s = .ok c.webhook) ∧
      (Keyed.get? "webhook" settings = none → c.webhook = default.webhook) := by
  apply foldlM_get "webhook" Config.webhook (fun s p => readPolicy s = .ok p) ?_ ?_ ordered done
  · intro c s c' put
    cases put_eq_ok.mp put with
    | webhook _ read => exact read
    | endpoint own | subscriberBuffer own => simp at own
    | nothing undeclared => simp [declaredKeys] at undeclared
  · intro c entry c' ne put
    cases put_eq_ok.mp put with
    | webhook own => exact absurd own ne
    | endpoint | subscriberBuffer | nothing => rfl

/-- Every leaf of a configuration that is read has the value that is set for it, or its default. -/
lemma leaf_of_ofSettings (sound : Sound settings) (done : ofSettings settings = .ok c) (l : Leaf) :
    (∀ s, setting? l.path settings = some s → l.value? s = some (l.get c)) ∧
      (setting? l.path settings = none → l.get c = l.get default) := by
  cases l with
  | endpoint =>
    apply foldlM_get "endpoint" Leaf.endpoint.get (fun s v => Leaf.endpoint.value? s = some v) ?_ ?_
      sound.ordered done
    · intro c s c' put
      cases put_eq_ok.mp put with
      | endpoint _ read => exact congrArg (Option.map LeafValue.url) read
      | subscriberBuffer own | webhook own => simp at own
      | nothing undeclared => simp [declaredKeys] at undeclared
    · intro c entry c' ne put
      cases put_eq_ok.mp put with
      | endpoint own => exact absurd own ne
      | subscriberBuffer | webhook | nothing => rfl
  | subscriberBuffer =>
    apply foldlM_get "subscriber_buffer" Leaf.subscriberBuffer.get
      (fun s v => Leaf.subscriberBuffer.value? s = some v) ?_ ?_ sound.ordered done
    · intro c s c' put
      cases put_eq_ok.mp put with
      | subscriberBuffer _ read =>
        have kept := UInt64.toNat_ofNat_of_lt' (number?_lt read)
        simp only [Leaf.value?, Leaf.get, read, kept, Option.map_some]
      | endpoint own | webhook own => simp at own
      | nothing undeclared => simp [declaredKeys] at undeclared
    · intro c entry c' ne put
      cases put_eq_ok.mp put with
      | subscriberBuffer own => exact absurd own ne
      | endpoint | webhook | nothing => rfl
  | policy f =>
    obtain ⟨found, missing⟩ := webhook_of_ofSettings sound.ordered done
    cases webhook : Keyed.get? "webhook" settings with
    | none =>
      rw [Leaf.path, setting?, setting?, tableAt_of_none webhook]
      refine ⟨nofun, fun _ => ?_⟩
      rw [Leaf.get, missing webhook, Leaf.get]
    | some t =>
      obtain ⟨layer, entries, rfl, ordered⟩ := sound.branch t webhook
      obtain ⟨set, unset⟩ := get_of_readPolicy ordered (found _ webhook) f
      rw [setting?_policy webhook]
      refine ⟨?_, ?_⟩
      · intro s here
        rw [Leaf.value?, set s here]
        rfl
      · intro none
        rw [Leaf.get, unset none]
        rfl

/-- A configuration that is read has no setting of webhooks under an unknown key. -/
lemma known_of_ofSettings (sound : Sound settings) (done : ofSettings settings = .ok c) :
    ¬ SetsUnknown settings := by
  rintro ⟨key, unknown, set⟩
  obtain ⟨s, found⟩ := Option.isSome_iff_exists.mp set
  obtain ⟨layer, entries, webhook, here⟩ := sound.exists_webhook found
  obtain ⟨_, _, put⟩ := exists_step_of_foldlM done _ (Text.Keyed.mem_of_get? webhook)
  cases put_eq_ok.mp put with
  | webhook _ read => exact known_of_readPolicy read _ (Text.Keyed.mem_of_get? here) unknown
  | endpoint own | subscriberBuffer own => simp at own
  | nothing undeclared => simp [declaredKeys] at undeclared

/-- Settings of the right types are refused only for an unknown key among those of webhooks. -/
lemma unknown_of_ofSettings {e : Error} (sound : Sound settings)
    (failed : ofSettings settings = .error e) :
    ∃ key, IsUnknown key ∧ (setting? ["webhook", key] settings).isSome ∧
      e.problem = .unknownField key := by
  obtain ⟨⟨key, s⟩, member, c, refused⟩ := exists_step_of_foldlM_error failed
  have here := sound.ordered.get?_eq_some.mpr member
  obtain ⟨inner, cause, rfl⟩ := mapError_eq_error.mp refused
  split_ifs at cause with h₁ h₂ h₃
  · subst h₁
    obtain ⟨v, typed⟩ := sound.leaf .endpoint s here
    obtain ⟨u, read, -⟩ := Option.map_eq_some_iff.mp typed
    rw [readUrl_eq_ok.mpr read] at cause
    cases cause
  · subst h₂
    obtain ⟨v, typed⟩ := sound.leaf .subscriberBuffer s here
    obtain ⟨n, read, -⟩ := Option.map_eq_some_iff.mp typed
    rw [readNumber_eq_ok.mpr read] at cause
    cases cause
  · subst h₃
    obtain ⟨layer, entries, rfl, ordered⟩ := sound.branch s here
    rcases bind_eq_error.mp cause with failed | ⟨_, _, ⟨⟩⟩
    have typed (f : PolicyField) (s : Setting) (set : Keyed.get? f.key entries = some s) :
        ∃ n, number? f.limit s = some n := by
      obtain ⟨v, typed⟩ := sound.leaf (.policy f) s ((setting?_policy here f).trans set)
      exact number?_of_value? typed
    obtain ⟨entry, member, unknown, problem⟩ := unknown_of_readPolicy ordered typed failed
    refine ⟨entry.1, unknown, ?_, problem⟩
    rw [setting?, setting?, tableAt_of_some here, ordered.get?_eq_some.mpr member]
    rfl

/-- A configuration is told by its leaves. -/
lemma eq_of_leaves (same : ∀ l : Leaf, l.get c = l.get c') : c = c' := by
  have endpoint := LeafValue.url.inj (same .endpoint)
  have buffer := LeafValue.number.inj (same .subscriberBuffer)
  have timeout := LeafValue.number.inj (same (.policy .timeout))
  have attempts := LeafValue.number.inj (same (.policy .maxAttempts))
  have backoff := LeafValue.number.inj (same (.policy .backoff))
  obtain ⟨_, _, _, _, _⟩ := c
  obtain ⟨_, _, _, _, _⟩ := c'
  simp only [PolicyField.get, UInt64.toNat_inj, UInt32.toNat_inj] at *
  simp only [endpoint, buffer, timeout, attempts, backoff]

end

end WalletNotify.Config
