import WalletNotify.Proofs.Webhook.Schedule

/-!
# Deliveries

What a delivery posts. Every request takes its body to its webhook (`Request.Carries`). Main
statement: whatever becomes of its attempts, it posts one request, once at least and as often as
there are attempts at most (`posts_eq_replicate`).
-/

namespace WalletNotify.Webhook

/-- A request takes the body of a delivery to its webhook as JSON, with the secret of the webhook
exactly if it is secured. -/
structure Request.Carries (q : Request) (d : Delivery) : Prop where
  endpoint : q.endpoint = d.hook.endpoint
  contentType : q.contentType = "application/json"
  body : q.body = d.body
  secured : q.authorization.isSome = d.hook.isSecured
  secret : ∀ secret, d.hook.secret = some secret → q.authorization = some ("Bearer " ++ secret)

/-- A request that takes a body to a webhook is authorized by its secret, if there is one. -/
lemma Request.Carries.authorization_eq {q : Request} {d : Delivery} (carries : q.Carries d) :
    q.authorization = d.hook.secret.map ("Bearer " ++ ·) := by
  have secured := carries.secured
  cases own : d.hook.secret with
  | none => exact Option.isNone_iff_eq_none.mp (by simpa [Hook.isSecured, own] using secured)
  | some secret => exact carries.secret secret own

/-- The request that a report tells of. -/
def Report.request? : Report → Option Request
  | .posted _ q => some q
  | _ => none

/-- The requests that were posted, in order. -/
def requests (reports : List Report) : List Request := reports.filterMap Report.request?

/-- The requests that a delivery posts. -/
def Delivery.posts (d : Delivery) (p : RetryPolicy) (outcome : Nat → Outcome) : List Request :=
  requests (deliver p d outcome)

/-- The request of a delivery takes its body to its webhook. -/
lemma Delivery.carries_request (d : Delivery) : d.request.Carries d where
  endpoint := rfl
  contentType := rfl
  body := rfl
  secured := Option.isSome_map ..
  secret _ own := congrArg (Option.map ("Bearer " ++ ·)) own

/-- Every attempt posts the request once. -/
lemma requests_schedule {p : RetryPolicy} {outcome : Nat → Outcome} {k : Nat} (pos : 1 ≤ k)
    (d : Delivery) : requests (schedule p d outcome k) = List.replicate k d.request := by
  have each (n : Nat) : (followed d p.wait outcome n).filterMap Report.request? = [d.request] := by
    unfold followed
    cases (outcome n).error? <;> rfl
  have last : (concluded d outcome k).filterMap Report.request? = [d.request] := by
    unfold concluded
    cases (outcome k).error? <;> rfl
  have before : (List.range' 1 (k - 1)).flatMap (fun _ => [d.request]) =
      List.replicate (k - 1) d.request := by
    rw [← List.map_eq_flatMap, List.map_const', List.length_range']
  rw [requests, schedule, List.filterMap_append, List.filterMap_flatMap, last]
  simp only [each]
  rw [before, ← List.replicate_succ', Nat.sub_add_cancel pos]

/-- A delivery posts one request over and over, once at least. -/
lemma Delivery.posts_eq_replicate (d : Delivery) (p : RetryPolicy) (outcome : Nat → Outcome) :
    ∃ k, 1 ≤ k ∧ k ≤ p.attempts ∧ d.posts p outcome = List.replicate k d.request := by
  obtain ⟨k, last⟩ := exists_endsWith p outcome
  refine ⟨k, last.1.1, last.2 ⟨Nat.le_max_right _ _, .inr rfl⟩, ?_⟩
  rw [posts, deliver_eq last, requests_schedule last.1.1]

/-- A delivery posts, and every request that it posts takes its body to its webhook. -/
lemma Delivery.carries_of_mem_posts (d : Delivery) (p : RetryPolicy) (outcome : Nat → Outcome) :
    d.posts p outcome ≠ [] ∧ ∀ q ∈ d.posts p outcome, q.Carries d := by
  obtain ⟨k, pos, -, posts⟩ := d.posts_eq_replicate p outcome
  rw [posts]
  constructor
  · exact List.ne_nil_of_length_pos (by rwa [List.length_replicate])
  · intro q mem
    rw [List.eq_of_mem_replicate mem]
    exact d.carries_request

end WalletNotify.Webhook
