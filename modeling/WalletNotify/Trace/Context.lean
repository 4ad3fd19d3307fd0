import WalletNotify.Power
import WalletNotify.Text.Hex
import WalletNotify.Text.Utf8

/-!
# Trace contexts

Where a request comes from, as the headers `traceparent` and `tracestate` tell it. A parent that is
not well formed is none; a state that is not well formed is empty.
-/

namespace WalletNotify.Trace

/-- Headers in order; names are compared without regard to case. -/
abbrev Headers := List (String × String)

/-- A place in a trace that spans may belong to. -/
structure Context where
  traceId : Nat
  spanId : Nat
  sampled : Bool
  state : List (String × String)
deriving DecidableEq, Repr

/-- Whether a character may stand in a header that is read as text. -/
def isVisible (c : Char) : Bool := (32 ≤ c.toNat && c.toNat < 127) || c = '\t'

/-- The value of the first header of a name, if it is text. -/
def header? (headers : Headers) (name : String) : Option String := do
  let (_, value) ← headers.find? fun h => h.1.toLower == name
  if value.toList.all isVisible then some value else none

/-- The parts of a text between separators; nothing behind the last separator is no part. -/
def splitTerminated (separator : Char) (cs : List Char) : List (List Char) :=
  let parts := cs.splitOn separator
  if parts.getLast? = some [] then parts.dropLast else parts

/-- The value of hexadecimal digits, which a plus sign may precede, below a bound. -/
def hexBelow? (bound : Nat) (cs : List Char) : Option Nat :=
  let digits := match cs with
    | '+' :: rest => rest
    | all => all
  if digits.isEmpty then none
  else
    let value := digits.foldlM (fun n c => (Text.Hex.digitValue? c).map (16 * n + ·)) 0
    value.bind fun n => if n < bound then some n else none

/-- Blanks around a header. -/
def trim (cs : List Char) : List Char :=
  ((cs.dropWhile Char.isWhitespace).reverse.dropWhile Char.isWhitespace).reverse

/-- An id in lower-case digits; zero is none. -/
def id? (bound : Nat) (cs : List Char) : Option Nat :=
  if cs.any Char.isUpper then none
  else (hexBelow? bound cs).bind fun n => if n = 0 then none else some n

/-- The ids and the flags of a parent. The first version has four parts and knows two flags; later
ones may have more. -/
def parent? (cs : List Char) : Option (Nat × Nat × Nat) :=
  match splitTerminated '-' (trim cs) with
  | version :: trace :: span :: flags :: more => do
    let version ← hexBelow? 255 version
    let trace ← id? (2 ^ 128) trace
    let span ← id? (2 ^ 64) span
    let flags ← hexBelow? 256 flags
    if version = 0 ∧ (!more.isEmpty ∨ 2 < flags) then none else some (trace, span, flags)
  | _ => none

/-- Characters of keys. -/
def isKeyStart (c : Char) : Bool := c.isLower || c.isDigit

/-- Whether a key is well formed: a name, and behind one sign `@` at most a short vendor. -/
def isKey (cs : List Char) : Bool :=
  cs.length ≤ 256
    && cs.all (fun c => isKeyStart c || ['_', '-', '*', '/', '@'].contains c)
    && (match cs with
      | [] => true
      | c :: _ => isKeyStart c)
    && (match cs.dropWhile (· != '@') with
      | [] => true
      | _ :: vendor => vendor.length ≤ 13 && !vendor.contains '@' && (vendor.head?.all isKeyStart))

/-- Whether a value is well formed. -/
def isValue (cs : List Char) : Bool :=
  (Text.utf8 (String.ofList cs)).length ≤ 256 && !cs.contains ',' && !cs.contains '='

/-- A member of a state: a key, an equals sign or more, and a value. -/
def member? (cs : List Char) : Option (String × String) :=
  let key := cs.takeWhile (· != '=')
  match cs.dropWhile (· != '=') with
  | [] => none
  | rest =>
    let value := rest.dropWhile (· = '=')
    if isKey key && isValue value then some (String.ofList key, String.ofList value) else none

/-- The members of a state, or none if one is not well formed. -/
def readState (cs : List Char) : List (String × String) :=
  ((splitTerminated ',' cs).mapM member?).getD []

/-- The context that headers tell. -/
def Context.ofHeaders? (headers : Headers) : Option Context := do
  let (trace, span, flags) ← parent? ((header? headers "traceparent").getD "").toList
  return ⟨trace, span, flags % 2 = 1,
    match header? headers "tracestate" with
    | some s => readState s.toList
    | none => []⟩

/-- A number in a fixed number of hexadecimal digits. -/
def fixedHex (digits n : Nat) : String :=
  let ds := Nat.toDigits 16 n
  String.ofList (List.replicate (digits - ds.length) '0' ++ ds)

/-- The text of the trace's id. -/
def Context.traceIdText (c : Context) : String := fixedHex 32 c.traceId

/-- The text of the span's id. -/
def Context.spanIdText (c : Context) : String := fixedHex 16 c.spanId

/-- The text of the state. -/
def Context.stateText (c : Context) : String :=
  ",".intercalate (c.state.map fun m => m.1 ++ "=" ++ m.2)

end WalletNotify.Trace
