import WalletNotify.Toml.Write
import WalletNotify.Webhook.Delivery

/-!
# Configurations

Where the service listens, how many events it keeps for a subscriber, and how it delivers to
webhooks.
-/

namespace WalletNotify

open Webhook (RetryPolicy)

/-- A configuration of the service. -/
structure Config where
  endpoint : Url
  subscriberBuffer : UInt64
  webhook : RetryPolicy
deriving DecidableEq, Repr

namespace Config

/-- The endpoint where none is set. -/
def defaultEndpoint : Url :=
  ⟨"http", "", "", some (.ipv4 0x7F000001), some 18000, .rooted [""], none, none⟩

/-- How deliveries are attempted where nothing is set. -/
def defaultPolicy : RetryPolicy := ⟨5000, 3, 500⟩

/-- The configuration where nothing is set. -/
def default : Config := ⟨defaultEndpoint, 256, defaultPolicy⟩

/-- A retry policy on one line. -/
def policyText (p : RetryPolicy) : String :=
  "\x7b timeout_ms: " ++ toString p.timeoutMillis.toNat
    ++ ", max_attempts: " ++ toString p.maxAttempts.toNat
    ++ ", retry_backoff_ms: " ++ toString p.backoffMillis.toNat ++ " \x7d"

/-- A configuration on one line. -/
def text (c : Config) : String :=
  "\x7b endpoint: \"" ++ c.endpoint.text
    ++ "\", subscriber_buffer: " ++ toString c.subscriberBuffer.toNat
    ++ ", webhook: " ++ policyText c.webhook ++ " \x7d"

/-- A configuration as a TOML document; numbers must fit there. -/
def toToml? (c : Config) : Option String := do
  let buffer ← Toml.numberText? c.subscriberBuffer.toNat
  let timeout ← Toml.numberText? c.webhook.timeoutMillis.toNat
  let attempts ← Toml.numberText? c.webhook.maxAttempts.toNat
  let backoff ← Toml.numberText? c.webhook.backoffMillis.toNat
  return "endpoint = " ++ Toml.quoted c.endpoint.text ++ "\n"
    ++ "subscriber_buffer = " ++ buffer ++ "\n"
    ++ "\n[webhook]\n"
    ++ "timeout_ms = " ++ timeout ++ "\n"
    ++ "max_attempts = " ++ attempts ++ "\n"
    ++ "retry_backoff_ms = " ++ backoff ++ "\n"

/-- The wording for a number that does not fit. -/
def unwritable : String := "out-of-range value for u64 type"

/-- A configuration as a TOML document, or why it is none. -/
def tomlText (c : Config) : String := c.toToml?.getD unwritable

end Config

end WalletNotify
