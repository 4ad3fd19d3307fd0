import WalletNotify.Server.Api

/-!
# Sequences of requests

The requests that manage webhooks, one after another, with all that clients are told.
-/

namespace WalletNotify.Server

open Schema
open Webhook (Registry RegistryError StatusCode)

/-- What a client asks for. -/
inductive ApiRequest where
  | add (request : Stable.AddWebhookRequest)
  | remove (request : Stable.RemoveWebhookRequest)
  | list (request : Stable.ListWebhooksRequest)
deriving DecidableEq, Repr

/-- How a failed request is told. -/
structure Status where
  code : StatusCode
  message : String
deriving DecidableEq, Repr

/-- The status of an error. -/
def Status.of (e : RegistryError) : Status := ⟨e.code, e.message⟩

/-- What a client is told. -/
inductive Response where
  | added (response : Stable.AddWebhookResponse)
  | removed (response : Stable.RemoveWebhookResponse)
  | listed (response : Stable.ListWebhooksResponse)
  | failed (status : Status)
deriving DecidableEq, Repr

/-- Answers a request. A request that fails leaves the registry as it is. -/
def respond (r : Registry) : ApiRequest → Response × Registry
  | .add request =>
    match addWebhook r request with
    | .ok (response, r) => (.added response, r)
    | .error e => (.failed (.of e), r)
  | .remove request =>
    match removeWebhook r request with
    | .ok (response, r) => (.removed response, r)
    | .error e => (.failed (.of e), r)
  | .list request =>
    match listWebhooks r request with
    | .ok response => (.listed response, r)
    | .error e => (.failed (.of e), r)

/-- Answers requests in order. -/
def respondAll (r : Registry) : List ApiRequest → List Response × Registry
  | [] => ([], r)
  | q :: rest =>
    let (response, r) := respond r q
    let (responses, r) := respondAll r rest
    (response :: responses, r)

end WalletNotify.Server
