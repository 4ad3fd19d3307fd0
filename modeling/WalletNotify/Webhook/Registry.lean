import WalletNotify.Hash.Sha256
import WalletNotify.Webhook.Basic

/-!
# The webhook registry

The registered webhooks in the order of their ids. An id is the digest of the class and the endpoint
of a webhook, so each pair is registered once.
-/

namespace WalletNotify.Webhook

open Event (ConversionError EventClass Kind)

/-- Why a webhook is not added or removed. -/
inductive RegistryError where
  | badEndpoint (fault : Url.Fault)
  | unsupportedScheme (scheme : String)
  | unknownEventType (fault : ConversionError)
  | unspecifiedEventType
  | badSecret
  | emptyId
  | alreadyExists (id : Id)
  | notFound (id : Id)
deriving DecidableEq, Repr

/-- What clients are told of the nature of an error. -/
inductive StatusCode where
  | invalidArgument
  | alreadyExists
  | notFound
deriving DecidableEq, Repr

/-- The name of a status code. -/
def StatusCode.name : StatusCode → String
  | invalidArgument => "InvalidArgument"
  | alreadyExists => "AlreadyExists"
  | notFound => "NotFound"

namespace RegistryError

/-- The wording of an error. -/
def message : RegistryError → String
  | badEndpoint fault => "invalid webhook endpoint: " ++ fault.message
  | unsupportedScheme scheme =>
    "unsupported webhook endpoint scheme \x60" ++ scheme ++ "\x60, expected http or https"
  | unknownEventType fault => "invalid webhook event type: " ++ fault.message
  | unspecifiedEventType => "webhook event type must be specified"
  | badSecret => "webhook secret must be printable ascii without line breaks"
  | emptyId => "webhook id must not be empty"
  | alreadyExists id => "webhook " ++ id.text ++ " already exists"
  | notFound id => "webhook " ++ id.text ++ " not found"

/-- The status code of an error. -/
def code : RegistryError → StatusCode
  | alreadyExists _ => .alreadyExists
  | notFound _ => .notFound
  | _ => .invalidArgument

end RegistryError

/-- Whether a byte may stand in a header: no control but the tab. -/
def isHeaderByte (b : UInt8) : Bool := (32 ≤ b && b != 127) || b == 9

/-- Whether a secret may be sent in a header. -/
def isSecret (secret : String) : Bool := (Text.utf8 secret).all isHeaderByte

/-- The id of a class and an endpoint. -/
def Id.of (kind : EventClass) (endpoint : Url) : Id :=
  ⟨Text.Hex.encode (Hash.Sha256.digest (Text.utf8 (Kind.name kind ++ ":" ++ endpoint.text)))⟩

/-- The registered webhooks, ids ascending. -/
structure Registry where
  hooks : List Hook
deriving DecidableEq, Repr

namespace Registry

/-- No webhooks. -/
def empty : Registry := ⟨[]⟩

/-- The webhook of an id. -/
def find? (r : Registry) (id : Id) : Option Hook := r.hooks.find? fun h => h.id == id

/-- A list of webhooks with one more in its place. -/
def insertSorted (hook : Hook) : List Hook → List Hook
  | [] => [hook]
  | h :: rest => if hook.id.text < h.id.text then hook :: h :: rest else h :: insertSorted hook rest

/-- Checks what a webhook is made of: the class, the endpoint, its scheme and the secret, in this
order. -/
def check (endpoint : String) (kind : Option EventClass) (secret : String) :
    Except RegistryError Hook := do
  let some kind := kind | throw .unspecifiedEventType
  let url ← (Url.read endpoint).mapError .badEndpoint
  if url.scheme ≠ "http" ∧ url.scheme ≠ "https" then throw (.unsupportedScheme url.scheme)
  if ¬ isSecret secret then throw .badSecret
  return Hook.new (Id.of kind url) url kind secret

/-- Registers an endpoint for events of a class; an empty secret is none. -/
def add (r : Registry) (endpoint : String) (kind : Option EventClass) (secret : String) :
    Except RegistryError (Hook × Registry) := do
  let hook ← check endpoint kind secret
  match r.find? hook.id with
  | some _ => throw (.alreadyExists hook.id)
  | none => return (hook, ⟨insertSorted hook r.hooks⟩)

/-- Forgets a webhook and returns it. -/
def remove (r : Registry) (id : Id) : Except RegistryError (Hook × Registry) :=
  if id.text.isEmpty then .error .emptyId
  else
    match r.find? id with
    | none => .error (.notFound id)
    | some hook => .ok (hook, ⟨r.hooks.filter fun h => h.id != id⟩)

/-- The webhooks of a class, or all of them, in the order of their ids. -/
def list (r : Registry) (kind : Option EventClass) : List Hook :=
  match kind with
  | none => r.hooks
  | some k => r.hooks.filter fun h => h.kind == k

/-- The webhooks that are told of an event of a class. -/
def forClass (r : Registry) (kind : EventClass) : List Hook := r.list (some kind)

/-- How many webhooks are registered. -/
def size (r : Registry) : Nat := r.hooks.length

/-- Whether no webhook is registered. -/
def isEmpty (r : Registry) : Bool := r.hooks.isEmpty

end Registry

end WalletNotify.Webhook
