import WalletNotify.Server.Service

/-!
# Turns in steps

A turn of the dispatcher has up to three steps: it goes on with a branch, it hands on the event that
it was given there, and it looks at the flag. Between the steps others may use the hub and the
registry.
-/

namespace WalletNotify.Webhook

/-- What a dispatcher does next: it waits, it hands on an event, or it looks at the flag. -/
inductive Next where
  | wait
  | hand (event : Event.Published)
  | look
deriving DecidableEq, Repr

/-- Goes on with a branch, up to what is to be done with what was found there. -/
def Dispatcher.wake (d : Dispatcher) (h : Hub) (b : Branch) :
    List Action × Next × Dispatcher × Hub :=
  if d.phase ≠ .running then ([], .wait, d, h)
  else
    match h.observer? (d.receiver b) with
    | some (.receiver c place) =>
      match h.receive c place with
      | (.item e, place) => ([], .hand e, d, h.setObserver (d.receiver b) (.receiver c place))
      | (.lagged n, place) =>
        ([.lagged c n], .look, d, h.setObserver (d.receiver b) (.receiver c place))
      | (.closed, _) => ([], .wait, d.stop h)
      | (.empty, _) => ([], .wait, d, h)
    | some (.watcher seen) =>
      if h.closings != seen then ([], .look, d, h)
      else if !h.isAlive then ([], .wait, d.stop h)
      else ([], .wait, d, h)
    | _ => ([], .wait, d, h)

end WalletNotify.Webhook

namespace WalletNotify.Server

open Webhook (Action Branch Next Phase deliveriesOf)

/-- A service whose dispatcher may be in the middle of a turn. -/
structure Paced where
  service : Service
  next : Next

/-- What may be done with a service between the steps of a turn, and the steps. -/
inductive Move where
  | operation (operation : Operation)
  | wake (branch : Branch)
  | hand
  | look
deriving DecidableEq, Repr

/-- What the dispatcher does in an answer. -/
def Answer.actions : Answer → List Action
  | .turned actions => actions
  | _ => []

namespace Paced

/-- A service whose dispatcher waits. -/
def of (s : Service) : Paced := ⟨s, .wait⟩

/-- Carries out a move. In the middle of a turn no other turn begins, and a step that is not due
changes nothing. -/
def step (p : Paced) : Move → Answer × Paced
  | .operation (.turn b) =>
    match p.next with
    | .wait =>
      let (answer, service) := p.service.step (.turn b)
      (answer, { p with service })
    | _ => (.turned [], p)
  | .operation o =>
    let (answer, service) := p.service.step o
    (answer, { p with service })
  | .wake b =>
    match p.next with
    | .wait =>
      let (actions, next, dispatcher, hub) := p.service.dispatcher.wake p.service.hub b
      (.turned actions, ⟨{ p.service with dispatcher, hub }, next⟩)
    | _ => (.turned [], p)
  | .hand =>
    match p.next with
    | .hand e =>
      (.turned [.dispatched e (deliveriesOf p.service.registry e)], { p with next := .look })
    | _ => (.turned [], p)
  | .look =>
    match p.next with
    | .look =>
      let (dispatcher, hub) := p.service.dispatcher.enter p.service.hub
      (.turned [], ⟨{ p.service with dispatcher, hub }, .wait⟩)
    | _ => (.turned [], p)

/-- Carries out moves in order. -/
def run (p : Paced) : List Move → List Answer × Paced
  | [] => ([], p)
  | m :: rest =>
    let (answer, p) := p.step m
    let (answers, p) := p.run rest
    (answer :: answers, p)

/-- How far the dispatcher has come: whether it runs, and what it does next. -/
def stage (p : Paced) : Phase × Next := (p.service.dispatcher.phase, p.next)

/-- How often the dispatcher comes further in the course of moves. -/
def advances (p : Paced) : List Move → Nat
  | [] => 0
  | m :: rest =>
    (if (p.step m).2.stage = p.stage then 0 else 1) + (p.step m).2.advances rest

end Paced

end WalletNotify.Server
