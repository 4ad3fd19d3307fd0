import WalletNotify.Hub.Run
import WalletNotify.Webhook.Registry

/-!
# The service's API

The requests that manage webhooks, as clients send them.
-/

namespace WalletNotify.Server

open Event (EventClass Kind)
open Schema
open Webhook (Id Registry RegistryError)

/-- The class of events that a number asks for. -/
def readEventType (n : Int32) : Except RegistryError (Option EventClass) :=
  (Kind.ofNumber n).mapError .unknownEventType

/-- Adds a webhook. -/
def addWebhook (r : Registry) (request : Stable.AddWebhookRequest) :
    Except RegistryError (Stable.AddWebhookResponse × Registry) := do
  let kind ← readEventType request.eventType
  let (hook, r) ← r.add request.endpoint kind request.secret
  return (⟨hook.id.text⟩, r)

/-- Removes a webhook. -/
def removeWebhook (r : Registry) (request : Stable.RemoveWebhookRequest) :
    Except RegistryError (Stable.RemoveWebhookResponse × Registry) := do
  let (_, r) ← r.remove ⟨request.id⟩
  return ({}, r)

/-- Lists webhooks. -/
def listWebhooks (r : Registry) (request : Stable.ListWebhooksRequest) :
    Except RegistryError Stable.ListWebhooksResponse := do
  let kind ← readEventType request.eventType
  return ⟨(r.list kind).map Webhook.Hook.info⟩

end WalletNotify.Server
