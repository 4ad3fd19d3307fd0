import Mathlib.Data.List.Forall2
import WalletNotify.Proofs.Result
import WalletNotify.Proofs.Webhook.Registry
import WalletNotify.Server.Requests

/-!
# Secrecy

What clients are told depends on a secret only through its class: whether there is one, and whether
it may be sent. Every secret may be masked, that is, replaced by one that stands for its class, and
masking commutes with all that is done to a registry (`respond_masked`). Main statement:
`secrets_do_not_leak`.
-/

namespace WalletNotify.Webhook

open Event (EventClass)

/-! ## Classes of secrets -/

/-- What clients may learn of a secret. -/
inductive SecretClass where
  | none
  | valid
  | invalid
deriving DecidableEq, Repr

/-- The class of a secret. -/
def SecretClass.of (secret : String) : SecretClass :=
  if secret.isEmpty then .none else if isSecret secret then .valid else .invalid

/-- A secret that stands for its class. -/
def SecretClass.standIn : SecretClass → String
  | none => ""
  | valid => "s"
  | invalid => "\n"

/-- The stand-in of a secret. -/
def maskSecret (secret : String) : String := (SecretClass.of secret).standIn

/-- A masked secret is allowed exactly if the secret is. -/
lemma isSecret_maskSecret (secret : String) : isSecret (maskSecret secret) = isSecret secret := by
  unfold maskSecret SecretClass.of
  split
  case isTrue empty =>
    rw [String.isEmpty_iff.mp empty]
    rfl
  case isFalse =>
    split
    case isTrue valid =>
      rw [valid]
      decide
    case isFalse invalid =>
      rw [eq_false_of_ne_true invalid]
      decide

/-- A webhook with the stand-in for its secret, if it is secured. -/
def Hook.masked (h : Hook) : Hook := { h with secret := h.secret.map fun _ => "s" }

/-- Clients are told the same of a masked webhook. -/
lemma Hook.info_masked (h : Hook) : h.masked.info = h.info := by
  cases h with | mk id endpoint kind secret => cases secret <;> rfl

/-- The same is logged of a masked webhook. -/
lemma Hook.debug_masked (h : Hook) : h.masked.debug = h.debug := by
  cases h with | mk id endpoint kind secret => cases secret <;> rfl

/-- A webhook with a valid secret is masked by masking the secret. -/
lemma Hook.masked_new {secret : String} (valid : isSecret secret = true) (id : Id)
    (endpoint : Url) (kind : EventClass) :
    (Hook.new id endpoint kind secret).masked = Hook.new id endpoint kind (maskSecret secret) := by
  unfold Hook.new Hook.masked maskSecret SecretClass.of
  cases secret.isEmpty with
  | true => rfl
  | false =>
    rw [if_pos valid]
    rfl

namespace Registry

variable {r r' : Registry} {hook : Hook} {id : Id} {endpoint secret : String}
  {kind : Option EventClass}

/-! ## Masked registries -/

/-- A registry with the stand-ins of its secrets. -/
def masked (r : Registry) : Registry := ⟨r.hooks.map Hook.masked⟩

/-- A masked webhook is found where the webhook is. -/
lemma find?_masked (r : Registry) (id : Id) : r.masked.find? id = (r.find? id).map Hook.masked :=
  List.find?_map

/-- A masked webhook is inserted where the webhook is. -/
lemma insertSorted_masked (hook : Hook) (hooks : List Hook) :
    insertSorted hook.masked (hooks.map Hook.masked) =
      (insertSorted hook hooks).map Hook.masked := by
  induction hooks with
  | nil => rfl
  | cons h rest ih =>
    simp only [List.map_cons, insertSorted, ih]
    change (if hook.id.text < h.id.text then _ else _) = _
    split <;> rfl

/-- A masked registry lists the masked webhooks. -/
lemma list_masked (r : Registry) (kind : Option EventClass) :
    r.masked.list kind = (r.list kind).map Hook.masked := by
  cases kind with
  | none => rfl
  | some k => exact List.filter_map

/-- What the checks say of a masked secret. -/
lemma check_masked (endpoint : String) (kind : Option EventClass) (secret : String) :
    check endpoint kind (maskSecret secret) = (check endpoint kind secret).map Hook.masked := by
  unfold check
  cases kind with
  | none => rfl
  | some k =>
    cases Url.read endpoint with
    | error fault => rfl
    | ok url =>
      simp only [Except.mapError, ok_bind, isSecret_maskSecret]
      by_cases scheme : url.scheme ≠ "http" ∧ url.scheme ≠ "https"
      · rw [if_pos scheme, if_pos scheme]
        rfl
      · rw [if_neg scheme, if_neg scheme]
        by_cases valid : isSecret secret = true
        · have passes : ¬ ¬ isSecret secret = true := not_not.mpr valid
          rw [if_neg passes, if_neg passes]
          exact congrArg Except.ok (Hook.masked_new valid _ _ _).symm
        · rw [if_pos valid, if_pos valid]
          rfl

/-- A masked webhook is registered with a masked registry as it is with the registry. -/
lemma add_masked (r : Registry) (endpoint : String) (kind : Option EventClass) (secret : String) :
    r.masked.add endpoint kind (maskSecret secret) =
      (r.add endpoint kind secret).map fun p => (p.1.masked, p.2.masked) := by
  unfold add
  rw [check_masked]
  cases check endpoint kind secret with
  | error e => rfl
  | ok hook =>
    have known : r.masked.find? hook.masked.id = (r.find? hook.id).map Hook.masked :=
      find?_masked r hook.id
    simp only [Except.map, ok_bind, known]
    cases r.find? hook.id with
    | some _ => rfl
    | none =>
      change Except.ok (hook.masked, (⟨insertSorted hook.masked r.masked.hooks⟩ : Registry)) = _
      rw [masked, insertSorted_masked]
      rfl

/-- A masked webhook is forgotten as the webhook is. -/
lemma remove_masked (r : Registry) (id : Id) :
    r.masked.remove id = (r.remove id).map fun p => (p.1.masked, p.2.masked) := by
  unfold remove
  rw [find?_masked]
  split
  · rfl
  · cases r.find? id with
    | none => rfl
    | some hook =>
      change Except.ok (hook.masked, (⟨(r.hooks.map Hook.masked).filter _⟩ : Registry)) = _
      rw [List.filter_map]
      rfl

end Registry

end WalletNotify.Webhook

namespace WalletNotify.Server

open Webhook (Hook Registry SecretClass maskSecret)

/-! ## Masked requests -/

/-- A request with the stand-in for its secret. -/
def ApiRequest.masked : ApiRequest → ApiRequest
  | .add request => .add { request with secret := maskSecret request.secret }
  | q => q

/-- Requests that are the same but for a secret, the other one being of the same class. -/
inductive ApiRequest.SameButSecret : ApiRequest → ApiRequest → Prop where
  | add {endpoint eventType secret secret'} :
    SecretClass.of secret = SecretClass.of secret' →
    SameButSecret (.add ⟨endpoint, eventType, secret⟩) (.add ⟨endpoint, eventType, secret'⟩)
  | refl {q} : SameButSecret q q

/-- Requests that differ in nothing but the secret are masked to one request. -/
lemma ApiRequest.SameButSecret.masked_eq {q q' : ApiRequest} (same : SameButSecret q q') :
    q.masked = q'.masked := by
  cases same with
  | add same => simp only [masked, maskSecret, same]
  | refl => rfl

/-- To add a webhook is answered in the same way with all secrets masked. -/
lemma addWebhook_masked (r : Registry) (endpoint : String) (eventType : Int32) (secret : String) :
    addWebhook r.masked ⟨endpoint, eventType, maskSecret secret⟩ =
      (addWebhook r ⟨endpoint, eventType, secret⟩).map fun p => (p.1, p.2.masked) := by
  simp only [addWebhook, Registry.add_masked]
  cases readEventType eventType with
  | error e => rfl
  | ok kind =>
    simp only [ok_bind]
    cases r.add endpoint kind secret <;> rfl

/-- To remove a webhook is answered in the same way with all secrets masked. -/
lemma removeWebhook_masked (r : Registry) (id : String) :
    removeWebhook r.masked ⟨id⟩ = (removeWebhook r ⟨id⟩).map fun p => (p.1, p.2.masked) := by
  simp only [removeWebhook, Registry.remove_masked]
  cases r.remove ⟨id⟩ <;> rfl

/-- A listing is the same with all secrets masked. -/
lemma listWebhooks_masked (r : Registry) (eventType : Int32) :
    listWebhooks r.masked ⟨eventType⟩ = listWebhooks r ⟨eventType⟩ := by
  simp only [listWebhooks, Registry.list_masked, List.map_map]
  rw [show Hook.info ∘ Hook.masked = Hook.info from funext Hook.info_masked]

/-- A masked request to a masked registry is answered as the request is. -/
lemma respond_masked (r : Registry) (q : ApiRequest) :
    respond r.masked q.masked = ((respond r q).1, (respond r q).2.masked) := by
  cases q with
  | add request =>
    obtain ⟨endpoint, eventType, secret⟩ := request
    simp only [ApiRequest.masked, respond, addWebhook_masked]
    cases addWebhook r ⟨endpoint, eventType, secret⟩ <;> rfl
  | remove request =>
    obtain ⟨id⟩ := request
    simp only [ApiRequest.masked, respond, removeWebhook_masked]
    cases removeWebhook r ⟨id⟩ <;> rfl
  | list request =>
    obtain ⟨eventType⟩ := request
    simp only [ApiRequest.masked, respond, listWebhooks_masked]
    cases listWebhooks r ⟨eventType⟩ <;> rfl

/-- Masked requests are answered as the requests are. -/
lemma respondAll_masked (r : Registry) (qs : List ApiRequest) :
    respondAll r.masked (qs.map ApiRequest.masked) =
      ((respondAll r qs).1, (respondAll r qs).2.masked) := by
  induction qs generalizing r with
  | nil => rfl
  | cons q rest ih =>
    simp only [List.map_cons, respondAll, respond_masked, ih]

/-- Two sequences of requests that differ in secrets only, each secret being of the class of the
other, are answered with the same ids, listings, codes and messages, and leave webhooks that are
logged as the same texts. -/
theorem secrets_do_not_leak (r : Registry) {qs qs' : List ApiRequest}
    (same : List.Forall₂ ApiRequest.SameButSecret qs qs') :
    (respondAll r qs).1 = (respondAll r qs').1 ∧
      (respondAll r qs).2.hooks.map Hook.debug = (respondAll r qs').2.hooks.map Hook.debug := by
  have requests : qs.map ApiRequest.masked = qs'.map ApiRequest.masked := by
    induction same with
    | nil => rfl
    | cons head _ ih => rw [List.map_cons, List.map_cons, head.masked_eq, ih]
  have logged (t : Registry) : t.hooks.map Hook.debug = t.masked.hooks.map Hook.debug := by
    rw [Registry.masked, List.map_map]
    exact congrArg (List.map · t.hooks) (funext Hook.debug_masked).symm
  have run := respondAll_masked r qs
  rw [requests, respondAll_masked r qs'] at run
  obtain ⟨responses, registries⟩ := Prod.mk.inj run
  refine ⟨responses.symm, ?_⟩
  rw [logged, logged (respondAll r qs').2, registries]

/-- A secured webhook that is added twice and listed, and one whose secret breaks a line. -/
theorem secrets_do_not_leak_when_listed :
    let qs (a b c : String) : List ApiRequest :=
      [.add ⟨"http://[::1]/", 1, a⟩, .add ⟨"http://[::1]:80", 1, b⟩, .add ⟨"http://[::1]/", 2, c⟩,
        .list ⟨0⟩]
    List.Forall₂ ApiRequest.SameButSecret (qs "key" "" "a\nb") (qs "other" "" "\x00") ∧
      (respondAll .empty (qs "key" "" "a\nb")).1 =
        (respondAll .empty (qs "other" "" "\x00")).1 ∧
      (respondAll .empty (qs "key" "" "a\nb")).2.hooks.map Hook.isSecured = [true] := by
  intro qs
  have same : List.Forall₂ ApiRequest.SameButSecret (qs "key" "" "a\nb") (qs "other" "" "\x00") :=
    .cons (.add (by decide)) (.cons .refl (.cons (.add (by decide)) (.cons .refl .nil)))
  exact ⟨same, (secrets_do_not_leak .empty same).1, by decide +kernel⟩

end WalletNotify.Server
