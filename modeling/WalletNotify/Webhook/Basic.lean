import WalletNotify.Event.Kind
import WalletNotify.Schema.Stable
import WalletNotify.Text.Quoted
import WalletNotify.Url.Read

/-!
# Webhooks

An endpoint that is told of every event of a class. Its secret is sent along with every event, and
shown to nobody.
-/

namespace WalletNotify.Webhook

open Event (EventClass Kind)

/-- Identifies a webhook. -/
structure Id where
  text : String
deriving DecidableEq, Repr

/-- An id as it is logged. -/
def Id.debug (id : Id) : String := "WebhookId(" ++ Text.Quoted.text id.text ++ ")"

/-- A webhook; the secret of a secured one is not empty. -/
structure Hook where
  id : Id
  endpoint : Url
  kind : EventClass
  secret : Option String
deriving DecidableEq, Repr

namespace Hook

/-- A webhook with a secret, which may be empty for none. -/
def new (id : Id) (endpoint : Url) (kind : EventClass) (secret : String) : Hook :=
  ⟨id, endpoint, kind, if secret.isEmpty then none else some secret⟩

/-- Whether a secret is sent along. -/
def isSecured (h : Hook) : Bool := h.secret.isSome

/-- A webhook as it is logged, without its secret. -/
def debug (h : Hook) : String :=
  "Webhook \x7b id: " ++ h.id.debug ++ ", endpoint: " ++ Text.Quoted.text h.endpoint.text
    ++ ", kind: " ++ Kind.title h.kind ++ ", is_secured: "
    ++ (if h.isSecured then "true" else "false") ++ " \x7d"

/-- What clients are told of a webhook. -/
def info (h : Hook) : Schema.Stable.WebhookInfo := ⟨h.id.text, h.endpoint.text, h.isSecured⟩

end Hook

end WalletNotify.Webhook
