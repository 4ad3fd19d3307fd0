import WalletNotify.Config.Basic
import WalletNotify.Config.Environment

/-!
# Reading configurations

A configuration is read from settings. What is not set keeps its default. Settings that are not
known are left out, but among those of webhooks they are refused.
-/

namespace WalletNotify.Config

open Webhook (RetryPolicy)

/-- Why a setting does not fit. -/
inductive Problem where
  | wrongType (found : String) (expected : String)
  | wrongValue (found : String) (expected : String)
  | unknownField (name : String)
  | badUrl (fault : Url.Fault) (text : String)
deriving DecidableEq, Repr

/-- A problem, the keys that lead to it, and the layer that it comes from. -/
structure Error where
  problem : Problem
  path : List String
  layer : Layer
deriving DecidableEq, Repr

/-- The settings of a retry policy. -/
inductive PolicyField where
  | timeout
  | maxAttempts
  | backoff
deriving DecidableEq, Repr

namespace PolicyField

/-- All settings of a retry policy, in order. -/
def all : List PolicyField := [timeout, maxAttempts, backoff]

/-- The key of a setting. -/
def key : PolicyField → String
  | timeout => "timeout_ms"
  | maxAttempts => "max_attempts"
  | backoff => "retry_backoff_ms"

/-- The setting of a key. -/
def ofKey? (key : String) : Option PolicyField := all.find? (·.key = key)

end PolicyField

/-- The wording of a problem. -/
def Problem.message : Problem → String
  | wrongType found expected => "invalid type: found " ++ found ++ ", expected " ++ expected
  | wrongValue found expected => "invalid value " ++ found ++ ", expected " ++ expected
  | unknownField name =>
    "unknown field: found \x60" ++ name ++ "\x60, expected \x60one of "
      ++ ", ".intercalate (PolicyField.all.map fun f => "\x60" ++ f.key ++ "\x60") ++ "\x60"
  | badUrl fault text => fault.message ++ ": " ++ Text.Quoted.text text

namespace Error

/-- An error that lies under a key. Dots in the key part it, and empty parts are left out. -/
def under (key : String) (e : Error) : Error :=
  { e with path :=
      (((key.toList.splitOn '.').filter (!·.isEmpty)).map String.ofList) ++ e.path }

/-- The key that an error is told under. -/
def keyText (e : Error) : String :=
  match e.layer with
  | .file => ".".intercalate ("default" :: e.path)
  | .environment => ".".intercalate (e.path.map fun k => String.ofList (k.toList.map Char.toUpper))

/-- The source that an error is told of. -/
def source (file : String) : Layer → String
  | .file => file ++ " TOML file"
  | .environment => "\x60" ++ variableStart ++ "\x60 environment variable(s)"

/-- The wording of an error, given the name of the file. -/
def message (file : String) (e : Error) : String :=
  e.problem.message
    ++ (if e.path.isEmpty then "" else " for key " ++ Text.Quoted.text e.keyText)
    ++ " in " ++ source file e.layer

end Error

/-- A setting of another type than the one asked for. -/
def wrongType {α : Type} (s : Setting) (expected : String) : Except Error α :=
  .error ⟨.wrongType s.description expected, [], s.layer⟩

/-- Reads a number below `limit`. -/
def readNumber (limit : Nat) (expected : String) (s : Setting) : Except Error Nat :=
  let check := fun (i : Int) =>
    if 0 ≤ i ∧ i < limit then .ok i.toNat
    else .error ⟨.wrongValue s.description expected, [], s.layer⟩
  match s with
  | .plain _ (.signed i) => check i
  | .plain _ (.unsigned n) => check n
  | s => wrongType s expected

/-- Reads a URL. -/
def readUrl (s : Setting) : Except Error Url :=
  match s with
  | .plain layer (.text text) =>
    (Url.read text).mapError fun fault => ⟨.badUrl fault text, [], layer⟩
  | s => wrongType s "a string representing an URL"

/-- Puts a setting into a retry policy. -/
def putField (p : RetryPolicy) (s : Setting) : PolicyField → Except Error RetryPolicy
  | .timeout => do return { p with timeoutMillis := .ofNat (← readNumber (2 ^ 64) "u64" s) }
  | .maxAttempts => do return { p with maxAttempts := .ofNat (← readNumber (2 ^ 32) "u32" s) }
  | .backoff => do return { p with backoffMillis := .ofNat (← readNumber (2 ^ 64) "u64" s) }

/-- Puts the setting of a key into a retry policy. -/
def putKey (layer : Layer) (p : RetryPolicy) (key : String) (s : Setting) :
    Except Error RetryPolicy :=
  Except.mapError (Error.under key) <|
    match PolicyField.ofKey? key with
    | some f => putField p s f
    | none => .error ⟨.unknownField key, [], layer⟩

/-- Puts the settings of a list into a retry policy, one for each field from `index` on; what is
more in the list is left out. -/
def putItems (p : RetryPolicy) (index : Nat) : List PolicyField → List Setting →
    Except Error RetryPolicy
  | f :: fields, s :: rest => do
    let p ← (putField p s f).mapError (Error.under (toString index))
    putItems p (index + 1) fields rest
  | _, _ => .ok p

/-- Reads a retry policy, from a table or from a list of its fields. -/
def readPolicy : Setting → Except Error RetryPolicy
  | .table layer entries =>
    entries.foldlM (fun p (key, s) => putKey layer p key s) defaultPolicy
  | .list _ items => putItems defaultPolicy 0 PolicyField.all items
  | s => wrongType s "struct WebhookConfig"

/-- Puts the setting of a key into a configuration. -/
def put (c : Config) (key : String) (s : Setting) : Except Error Config :=
  Except.mapError (Error.under key) <|
    if key = "endpoint" then do return { c with endpoint := ← readUrl s }
    else if key = "subscriber_buffer" then do
      return { c with subscriberBuffer := .ofNat (← readNumber (2 ^ 64) "usize" s) }
    else if key = "webhook" then do return { c with webhook := ← readPolicy s }
    else .ok c

/-- Reads a configuration. -/
def ofSettings (settings : Settings) : Except Error Config :=
  settings.foldlM (fun c (key, s) => c.put key s) default

end WalletNotify.Config
