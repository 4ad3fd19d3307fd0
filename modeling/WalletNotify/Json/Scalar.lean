import WalletNotify.Json.Number
import WalletNotify.Record.Shape

/-!
# Scalars in JSON

Texts and integers of three sizes, as they are written and read.
-/

namespace WalletNotify.Json

/-- The kinds of scalars in webhook bodies. -/
inductive Scalar where
  | text
  | word32
  | word64
  | signed64
deriving DecidableEq, Repr

/-- The text of a character inside a string. -/
def escape (c : Char) : List Char :=
  if c = '"' then ['\\', '"']
  else if c = '\\' then ['\\', '\\']
  else if c = '\x08' then ['\\', 'b']
  else if c = '\x0c' then ['\\', 'f']
  else if c = '\n' then ['\\', 'n']
  else if c = '\r' then ['\\', 'r']
  else if c = '\t' then ['\\', 't']
  else if c.toNat < 32 then
    ['\\', 'u', '0', '0', Text.Hex.digit (c.toNat / 16), Text.Hex.digit (c.toNat % 16)]
  else [c]

/-- The text of a string. -/
def writeString (s : String) : List Char := '"' :: s.toList.flatMap escape ++ ['"']

/-- The fault of a value of another kind than what is asked for: it is read as far as it is one
token, so it may be malformed. -/
def unfit : Input → Fault
  | [] => .truncated
  | 'n' :: rest => faultOf (word ['u', 'l', 'l'] rest)
  | 't' :: rest => faultOf (word ['r', 'u', 'e'] rest)
  | 'f' :: rest => faultOf (word ['a', 'l', 's', 'e'] rest)
  | '"' :: rest => faultOf (string rest)
  | '[' :: _ => .unfit
  | '\x7b' :: _ => .unfit
  | c :: rest => if c = '-' ∨ c.isDigit then faultOf (number (c :: rest)) else .malformed
where
  /-- The fault of a token, which does not fit even if it is read. -/
  faultOf {α : Type} : Except Fault α → Fault
    | .ok _ => .unfit
    | .error f => f

/-- Reads a string. -/
def readString (input : Input) : Except Fault (String × Input) :=
  match skipBlanks input with
  | '"' :: rest => do
    let (cs, rest) ← string rest
    return (String.ofList cs, rest)
  | rest => .error (unfit rest)

/-- Reads an integer that `fit` makes something of. -/
def readInteger {α : Type} (fit : Int → Option α) (input : Input) : Except Fault (α × Input) :=
  match skipBlanks input with
  | c :: rest =>
    if c = '-' ∨ c.isDigit then do
      let (n, rest) ← number (c :: rest)
      match n with
      | .integer i =>
        match fit i with
        | some a => return (a, rest)
        | none => throw .unfit
      | .other => throw .unfit
    else .error (unfit (c :: rest))
  | [] => .error .truncated

namespace Scalar

instance : Record.Scalars Scalar where
  Value
    | text => String
    | word32 => UInt32
    | word64 => UInt64
    | signed64 => Int64
  unset
    | text => ""
    | word32 => 0
    | word64 => 0
    | signed64 => 0

/-- The values of a kind. -/
abbrev Value (k : Scalar) : Type := Record.Scalars.Value k

/-- The text of a scalar. -/
def write : (k : Scalar) → k.Value → List Char
  | text, s => writeString s
  | word32, n => (toString n.toNat).toList
  | word64, n => (toString n.toNat).toList
  | signed64, n => (toString n.toInt).toList

/-- Reads a scalar; an integer must have room. -/
def read : (k : Scalar) → Input → Except Fault (k.Value × Input)
  | text => readString
  | word32 => readInteger fun i =>
    if 0 ≤ i ∧ i < 2 ^ 32 then some (UInt32.ofNat i.toNat) else none
  | word64 => readInteger fun i =>
    if 0 ≤ i ∧ i < 2 ^ 64 then some (UInt64.ofNat i.toNat) else none
  | signed64 => readInteger fun i =>
    if -2 ^ 63 ≤ i ∧ i < 2 ^ 63 then some (Int64.ofInt i) else none

end Scalar

end WalletNotify.Json
