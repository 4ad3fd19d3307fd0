import WalletNotify.Proofs.Webhook.Secret
import WalletNotify.Proofs.Webhook.Sharing
import WalletNotify.Webhook.Dispatcher

/-!
# Listed webhooks can be told of events

What is checked of a webhook before it is registered still holds when it is listed and told of an
event, whatever has been done to its registry through whichever handles. Main statement:
`listed_deliverable`. Secrets are the exception to what the checks are written to ensure: they may
have characters beyond ASCII, which are sent all the same.
-/

namespace WalletNotify.Webhook

open Event (EventClass Kind)
open Hash (Sha256.digest)

/-! ## Headers -/

/-- Whether the header with the secret, if there is one, is a valid value. -/
def Request.isValid (q : Request) : Bool :=
  q.authorization.all fun value => (Text.utf8 value).all isHeaderByte

/-- What becomes of a post, given what the endpoint makes of it. A request with an invalid header is
not sent, which counts as unanswered. -/
def Request.post (answer : Request → Outcome) (q : Request) : Outcome :=
  if q.isValid then answer q else .unanswered

/-- A secret may be sent exactly if it may be sent behind the name of the scheme. -/
lemma isSecret_bearer (secret : String) : isSecret ("Bearer " ++ secret) = isSecret secret := by
  have scheme : "Bearer ".toList.all isSendable = true := by decide
  rw [isSecret_eq, isSecret_eq, String.toList_append, List.all_append, scheme, Bool.true_and]

/-! ## Webhooks -/

/-- A webhook of a registry that can be told of events: it is found by its id, which is the digest
of its class and its http endpoint, and its secret is made of allowed characters and makes a valid
header. -/
structure Hook.Deliverable (mayHold : Char → Bool) (r : Registry) (h : Hook) : Prop where
  scheme : h.endpoint.scheme = "http" ∨ h.endpoint.scheme = "https"
  found : r.find? h.id = some h
  id : h.id.text =
    Text.Hex.encode (Sha256.digest (Text.utf8 (Kind.name h.kind ++ ":" ++ h.endpoint.text)))
  digits : h.id.text.length = 64 ∧ ∀ c ∈ h.id.text.toList, c ∈ "0123456789abcdef".toList
  secret : ∀ s ∈ h.secret, s ≠ "" ∧ ∀ c ∈ s.toList, mayHold c = true
  header : ∀ body, (Delivery.request ⟨h, body⟩).isValid = true
  secured : ∀ body, h.isSecured = (Delivery.request ⟨h, body⟩).authorization.isSome

variable {r : Registry} {h : Hook}

/-- The characters that are let pass are the allowed ones exactly if they are ASCII. -/
lemma Hook.Deliverable.printable_iff (deliverable : h.Deliverable isSendable r) :
    h.Deliverable isPrintable r ↔ ∀ s ∈ h.secret, ∀ c ∈ s.toList, c.toNat < 128 := by
  constructor
  · intro printable s own c mem
    exact (isPrintable_iff.mp ((printable.secret s own).2 c mem)).2
  · intro ascii
    refine { deliverable with secret := fun s own => ?_ }
    obtain ⟨filled, sendable⟩ := deliverable.secret s own
    exact ⟨filled, fun c mem => isPrintable_iff.mpr ⟨sendable c mem, ascii s own c mem⟩⟩

/-- What has passed the checks can be told of events where it is registered. -/
lemma Registry.deliverable_of_check {endpoint secret : String} {kind : Option EventClass}
    (passed : check endpoint kind secret = .ok h) (found : r.find? h.id = some h) :
    h.Deliverable isSendable r := by
  obtain ⟨id, -⟩ := of_check passed
  obtain ⟨k, url, -, -, scheme, valid, rfl⟩ := check_eq_ok.mp passed
  constructor
  case scheme => exact scheme
  case found => exact found
  case id => rfl
  case digits =>
    rw [id]
    refine ⟨Pair.length_id _, ?_⟩
    rw [Pair.id, Text.Hex.encode, String.toList_ofList]
    exact Text.Hex.digits_lower _
  case secret =>
    intro s own
    obtain ⟨rfl, filled⟩ := Hook.secret_new_eq_some.mp own
    rw [isSecret_eq, List.all_eq_true] at valid
    exact ⟨filled, valid⟩
  case header =>
    intro body
    rw [Request.isValid, Option.all_eq_true]
    intro value sent
    obtain ⟨s, own, rfl⟩ := Option.map_eq_some_iff.mp sent
    obtain ⟨rfl, -⟩ := Hook.secret_new_eq_some.mp own
    exact (isSecret_bearer secret).trans valid
  case secured =>
    intro body
    exact (Option.isSome_map ..).symm

/-- Every webhook of a reachable registry can be told of events. -/
lemma Registry.Reachable.deliverable (reachable : r.Reachable) (mem : h ∈ r.hooks) :
    h.Deliverable isSendable r := by
  obtain ⟨endpoint, kind, secret, passed⟩ := reachable.checked mem
  exact deliverable_of_check passed (reachable.sorted.find?_eq_some.mpr ⟨mem, rfl⟩)

/-- A valid request is posted in every attempt, and its header is no reason to fail. -/
lemma deliver_post {d : Delivery} (valid : d.request.isValid = true) (p : RetryPolicy)
    (answer : Nat → Request → Outcome) :
    deliver p d (fun n => d.request.post (answer n)) = deliver p d fun n => answer n d.request := by
  simp only [Request.post, if_pos valid]

namespace Registries

/-- After every run, whatever a registry lists is of the class that is asked for and can be told of
events; its secret is printable ASCII exactly if it is ASCII. What is delivered of an event goes to
such webhooks, and no delivery fails for its header. -/
theorem listed_deliverable (ops : List Operation) (i : Nat) :
    let r := (start.after ops).registry i
    (∀ kind, ∀ h ∈ r.list kind, (∀ k ∈ kind, h.kind = k) ∧ h.Deliverable isSendable r ∧
      (h.Deliverable isPrintable r ↔ ∀ s ∈ h.secret, ∀ c ∈ s.toList, c.toNat < 128)) ∧
    ∀ e, ∀ d ∈ deliveriesOf r e, d.hook ∈ r.forClass e.eventClass ∧
      ∀ (p : RetryPolicy) (answer : Nat → Request → Outcome),
        deliver p d (fun n => d.request.post (answer n)) =
          deliver p d fun n => answer n d.request := by
  intro r
  have reachable : r.Reachable := reachable_registry ops i
  constructor
  · intro kind h mem
    obtain ⟨there, is⟩ := Registry.mem_list.mp mem
    have deliverable := reachable.deliverable there
    exact ⟨is, deliverable, deliverable.printable_iff⟩
  · intro e d mem
    obtain ⟨h, listed, rfl⟩ := List.mem_map.mp mem
    have deliverable := reachable.deliverable (Registry.mem_forClass.mp listed).1
    exact ⟨listed, deliver_post (deliverable.header _)⟩

/-- A webhook is listed with a secret that is not printable ASCII. -/
theorem listed_beyond_ascii :
    ¬ ∀ (ops : List Operation) (i : Nat), ∀ h ∈ ((start.after ops).registry i).list none,
      h.Deliverable isPrintable ((start.after ops).registry i) := by
  intro always
  let ops : List Operation := [.command 0 (.add "http://[::1]/" (some .transaction) "é")]
  have listed : ∃ h ∈ ((start.after ops).registry 0).list none, h.secret = some "é" := by
    decide +kernel
  obtain ⟨h, mem, own⟩ := listed
  have printable := ((always ops 0 h mem).secret "é" own).2 'é' (by decide)
  exact absurd printable (by decide)

end Registries

end WalletNotify.Webhook
