import WalletNotify.Server.Api
import WalletNotify.Webhook.Dispatcher

/-!
# The service

A hub, a registry and a dispatcher together. A run is a list of operations: what is done with the
hub and the registry, and the turns of the dispatcher, with the branch it takes each time.
-/

namespace WalletNotify.Server

open Event (EventClass)
open Webhook (Action Branch Dispatcher Registry RegistryError Hook Id)

/-- A hub, a registry and a dispatcher. -/
structure Service where
  hub : Hub
  registry : Registry
  dispatcher : Dispatcher

/-- What may be done with a service. -/
inductive Operation where
  | hub (operation : Hub.Operation)
  | add (endpoint : String) (kind : Option EventClass) (secret : String)
  | remove (id : Id)
  | start
  | turn (branch : Branch)
deriving DecidableEq, Repr

/-- What an operation answers. -/
inductive Answer where
  | hub (answer : Hub.Answer)
  | added (result : Except RegistryError Hook)
  | removed (result : Except RegistryError Hook)
  | turned (actions : List Action)

namespace Service

/-- A service around a hub and a registry; its dispatcher has subscribed and does not run yet. -/
def of (h : Hub) (r : Registry) : Service :=
  let (dispatcher, hub) := Dispatcher.new h
  ⟨hub, r, dispatcher⟩

/-- A service around a new hub and an empty registry. -/
def new (capacity : Nat) : Service := of (Hub.new capacity) .empty

/-- Carries out an operation. Nobody else has hold of the dispatcher's observers. -/
def step (s : Service) : Operation → Answer × Service
  | .hub o =>
    if o.observer?.any s.dispatcher.owns then (.hub .refused, s)
    else
      let (answer, hub) := s.hub.step o
      (.hub answer, { s with hub })
  | .add endpoint kind secret =>
    match s.registry.add endpoint kind secret with
    | .ok (hook, registry) => (.added (.ok hook), { s with registry })
    | .error e => (.added (.error e), s)
  | .remove id =>
    match s.registry.remove id with
    | .ok (hook, registry) => (.removed (.ok hook), { s with registry })
    | .error e => (.removed (.error e), s)
  | .start =>
    let (dispatcher, hub) := s.dispatcher.start s.hub
    (.turned [], { s with dispatcher, hub })
  | .turn b =>
    let (actions, dispatcher, hub) := s.dispatcher.proceed s.registry s.hub b
    (.turned actions, { s with dispatcher, hub })

/-- Carries out operations in order. -/
def run (s : Service) : List Operation → List Answer × Service
  | [] => ([], s)
  | o :: rest =>
    let (answer, s) := s.step o
    let (answers, s) := run s rest
    (answer :: answers, s)

/-- Lets the dispatcher go on until it has nothing to go on with. -/
def drain (s : Service) : List Action × Service :=
  let (actions, dispatcher, hub) := s.dispatcher.drain s.registry s.hub
  (actions, { s with dispatcher, hub })

end Service

end WalletNotify.Server
