import WalletNotify.Server.Interleaving
import WalletNotify.Webhook.Flight

/-!
# Deliveries beside a service

Every delivery that the dispatcher starts goes its own way from then on, beside the service and the
other deliveries.
-/

namespace WalletNotify.Server

open Webhook (Action Delivery Flight Leg Report RetryPolicy)

/-- A service with the deliveries that were started, in the order of their start. -/
structure Fleet where
  service : Paced
  policy : RetryPolicy
  flights : List Flight

/-- What may happen: a move of the service, or a leg of a delivery. -/
inductive Occurrence where
  | move (move : Move)
  | leg (index : Nat) (leg : Leg)
deriving DecidableEq, Repr

/-- What comes of it. -/
inductive Result where
  | moved (answer : Answer)
  | reported (reports : List Report)

/-- The deliveries that an action starts. -/
def started : Action → List Delivery
  | .dispatched _ deliveries => deliveries
  | .lagged _ _ => []

namespace Fleet

/-- A service that has no delivery under way. -/
def of (service : Paced) (policy : RetryPolicy) : Fleet := ⟨service, policy, []⟩

/-- Lets something happen. -/
def step (fleet : Fleet) : Occurrence → Result × Fleet
  | .move m =>
    let (answer, service) := fleet.service.step m
    let new := (answer.actions.flatMap started).map (Flight.start fleet.policy)
    (.moved answer, { fleet with service, flights := fleet.flights ++ new })
  | .leg j l =>
    match fleet.flights[j]? with
    | some flight =>
      let (reports, flight) := flight.step l
      (.reported reports, { fleet with flights := fleet.flights.set j flight })
    | none => (.reported [], fleet)

/-- Lets things happen in order. -/
def run (fleet : Fleet) : List Occurrence → List Result × Fleet
  | [] => ([], fleet)
  | o :: rest =>
    let (result, fleet) := fleet.step o
    let (results, fleet) := run fleet rest
    (result :: results, fleet)

end Fleet

end WalletNotify.Server
