import WalletNotify.Webhook.Delivery

/-!
# Deliveries under way

A delivery goes on by itself, leg by leg: it posts an attempt, hears what became of it, and rests
before the next one. Between its legs anything else may happen.
-/

namespace WalletNotify.Webhook

open Time (Duration)

/-- Where a delivery stands. An attempt is due or was posted, with so many more after it and a wait
before the next; or it has failed and the delivery rests for that wait; or the delivery has
ended. -/
inductive Stage where
  | due (left attempt : Nat) (backoff : Duration)
  | posted (left attempt : Nat) (backoff : Duration)
  | resting (left attempt : Nat) (backoff : Duration)
  | ended
deriving DecidableEq, Repr

/-- A delivery under way, which has the webhook as it was when it started. -/
structure Flight where
  delivery : Delivery
  stage : Stage
deriving DecidableEq, Repr

/-- How a delivery goes on: it posts, it hears of what it posted, or it has rested. -/
inductive Leg where
  | post
  | hear (outcome : Outcome)
  | wake
deriving DecidableEq, Repr

namespace Flight

/-- A delivery that starts. -/
def start (p : RetryPolicy) (d : Delivery) : Flight := ⟨d, .due (p.attempts - 1) 1 p.backoff⟩

/-- What is reported when an attempt is heard of, and where the delivery stands then. -/
def settle (outcome : Outcome) (left n : Nat) (backoff : Duration) : List Report × Stage :=
  match outcome.error?, left with
  | none, _ => ([.notified n], .ended)
  | some e, 0 => ([.gaveUp n e], .ended)
  | some e, left + 1 => ([.failed n e backoff], .resting left n backoff)

/-- Goes on with a delivery; a leg that it is not up to changes nothing. -/
def step (f : Flight) : Leg → List Report × Flight
  | .post =>
    match f.stage with
    | .due left n backoff =>
      ([.posted n f.delivery.request], { f with stage := .posted left n backoff })
    | _ => ([], f)
  | .hear outcome =>
    match f.stage with
    | .posted left n backoff =>
      let (reports, stage) := settle outcome left n backoff
      (reports, { f with stage })
    | _ => ([], f)
  | .wake =>
    match f.stage with
    | .resting left n backoff => ([], { f with stage := .due left (n + 1) backoff.double })
    | _ => ([], f)

/-- Goes on with a delivery leg by leg. -/
def run (f : Flight) : List Leg → List Report × Flight
  | [] => ([], f)
  | leg :: rest =>
    let (reports, f) := f.step leg
    let (more, f) := run f rest
    (reports ++ more, f)

end Flight

end WalletNotify.Webhook
