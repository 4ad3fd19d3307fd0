import WalletNotify.Time.Duration
import WalletNotify.Webhook.Basic

/-!
# Deliveries

A delivery posts a body to a webhook until it is accepted or the attempts are used up. Between two
attempts it waits, every time twice as long as before.
-/

namespace WalletNotify.Webhook

open Time (Duration)

/-- How deliveries are attempted. -/
structure RetryPolicy where
  timeoutMillis : UInt64
  maxAttempts : UInt32
  backoffMillis : UInt64
deriving DecidableEq, Repr

namespace RetryPolicy

/-- The number of attempts, at least one. -/
def attempts (p : RetryPolicy) : Nat := max p.maxAttempts.toNat 1

/-- How long the first wait is. -/
def backoff (p : RetryPolicy) : Duration := .ofMillis p.backoffMillis

/-- How long an attempt may take. -/
def timeout (p : RetryPolicy) : Duration := .ofMillis p.timeoutMillis

end RetryPolicy

/-- What becomes of an attempt. -/
inductive Outcome where
  | responded (status : UInt16)
  | unanswered
deriving DecidableEq, Repr

/-- Why an attempt failed. -/
inductive DeliveryError where
  | rejected (status : UInt16)
  | transport (cause : String)
deriving DecidableEq, Repr

/-- The wording of a failed attempt. -/
def DeliveryError.message : DeliveryError → String
  | rejected status => "endpoint responded with status " ++ toString status.toNat
  | transport cause => "http request failed" ++ (if cause.isEmpty then "" else ": " ++ cause)

/-- Whether a status tells of success. -/
def isSuccess (status : UInt16) : Bool := 200 ≤ status && status < 300

/-- Why an outcome is a failure, if it is one. -/
def Outcome.error? : Outcome → Option DeliveryError
  | responded status => if isSuccess status then none else some (.rejected status)
  | unanswered => some (.transport "")

/-- A body on its way to a webhook. -/
structure Delivery where
  hook : Hook
  body : String
deriving DecidableEq, Repr

/-- A request that is posted. -/
structure Request where
  endpoint : Url
  contentType : String
  authorization : Option String
  body : String
deriving DecidableEq, Repr

/-- The request of an attempt; a webhook without a secret is sent no authorization. -/
def Delivery.request (d : Delivery) : Request where
  endpoint := d.hook.endpoint
  contentType := "application/json"
  authorization := d.hook.secret.map ("Bearer " ++ ·)
  body := d.body

/-- What happens in a delivery. Behind a failed attempt it waits for so long before the next one. -/
inductive Report where
  | posted (attempt : Nat) (request : Request)
  | notified (attempt : Nat)
  | failed (attempt : Nat) (error : DeliveryError) (retryIn : Duration)
  | gaveUp (attempts : Nat) (error : DeliveryError)
deriving DecidableEq, Repr

/-- Attempts from `attempt` on, with `left` more after it, and the wait before the next. -/
def attempt (d : Delivery) (outcome : Nat → Outcome) : (left attempt : Nat) → Duration → List Report
  | left, n, backoff =>
    .posted n d.request ::
      match (outcome n).error?, left with
      | none, _ => [.notified n]
      | some e, 0 => [.gaveUp n e]
      | some e, left + 1 => .failed n e backoff :: attempt d outcome left (n + 1) backoff.double

/-- All that happens in a delivery, given what becomes of each attempt. -/
def deliver (p : RetryPolicy) (d : Delivery) (outcome : Nat → Outcome) : List Report :=
  attempt d outcome (p.attempts - 1) 1 p.backoff

end WalletNotify.Webhook
