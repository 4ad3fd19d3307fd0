import WalletNotify.Wire.Scalar
import WalletNotify.Wire.Skip

/-!
# Decoding

Decoding merges field records one by one into a value: the last scalar wins, repeated fields grow,
and a nested record goes on from what was there. A nested record is read from the bytes that follow,
and must end where its count says.
-/

namespace WalletNotify.Wire

open Record (Label Shape)

/-- Levels of nesting that an encoding may use. -/
def maxDepth : Nat := 100

/-- Merges while more than `limit` bytes are left; every step takes a byte or more. -/
def mergeUntil {α : Type} (limit : Nat) (step : Bytes → α → Except DecodeError (α × Bytes)) :
    Nat → Bytes → α → Except DecodeError (α × Bytes)
  | fuel, bytes, a =>
    if bytes.length ≤ limit then
      if bytes.length = limit then .ok (a, bytes) else .error (.ofFault .lengthOverrun)
    else
      match fuel with
      | 0 => .error (.ofFault .badVarint)
      | fuel + 1 => do
        let (a, rest) ← step bytes a
        mergeUntil limit step fuel rest a

/-- Merges the counted payload in front of `bytes` into `a`. -/
def mergeCounted {α : Type} (step : Bytes → α → Except DecodeError (α × Bytes)) (bytes : Bytes)
    (a : α) : Except DecodeError (α × Bytes) := do
  let (n, rest) ← (Varint.decode bytes).mapError .ofFault
  if n ≤ rest.length then mergeUntil (rest.length - n) step rest.length rest a
  else throw (.ofFault .tooShort)

/-- Asks for a wire type. -/
def expect (expected found : WireType) : Except Fault Unit :=
  if found = expected then .ok () else .error (.wireTypeMismatch found expected)

/-- What one step of merging does: reads a key and lets `field` read the rest. -/
def mergeRecord {α : Type} (field : Key → Bytes → α → Except DecodeError (α × Bytes))
    (bytes : Bytes) (a : α) : Except DecodeError (α × Bytes) := do
  let (key, rest) ← (Key.decode bytes).mapError .ofFault
  field key rest a

/-- Reads a counted record of its own from the start, with `depth` levels left around it. -/
def mergeNested {α : Type} (depth : Nat)
    (field : Nat → Key → Bytes → α → Except DecodeError (α × Bytes)) (type : WireType)
    (bytes : Bytes) (a : α) : Except DecodeError (α × Bytes) := do
  (expect .delimited type).mapError .ofFault
  match depth with
  | 0 => throw (.ofFault .tooDeep)
  | depth + 1 => mergeCounted (mergeRecord (field depth)) bytes a

/-- Merges the payload behind `key` into a value of the record `name`: the field with the key's
number takes it, and without one it is passed over. -/
def mergeField : (s : Shape Scalar) → (name : String) → (depth : Nat) → Key → Bytes → s.Value →
    Except DecodeError (s.Value × Bytes)
  | .nil, _, depth, key, bytes, v => do
    let rest ← (skip depth key bytes).mapError .ofFault
    return (v, rest)
  | .scalar l k others, name, depth, key, bytes, v =>
    if key.number = l.number then
      Except.mapError (fun f => DecodeError.within name l.name (.ofFault f)) do
        expect k.wireType key.type
        let (x, rest) ← k.read bytes
        return ((x, v.2), rest)
    else do
      let (w, rest) ← mergeField others name depth key bytes v.2
      return ((v.1, w), rest)
  | .texts l others, name, depth, key, bytes, v =>
    if key.number = l.number then
      Except.mapError (fun f => DecodeError.within name l.name (.ofFault f)) do
        expect .delimited key.type
        let (x, rest) ← Scalar.text.read bytes
        return ((v.1 ++ [x], v.2), rest)
    else do
      let (w, rest) ← mergeField others name depth key bytes v.2
      return ((v.1, w), rest)
  | .record l inner sub others, name, depth, key, bytes, v =>
    if key.number = l.number then
      Except.mapError (DecodeError.within name l.name) do
        let (x, rest) ← mergeNested depth (mergeField sub inner) key.type bytes
          (v.1.getD sub.unset)
        return ((some x, v.2), rest)
    else do
      let (w, rest) ← mergeField others name depth key bytes v.2
      return ((v.1, w), rest)
  | .records l inner sub others, name, depth, key, bytes, v =>
    if key.number = l.number then
      Except.mapError (DecodeError.within name l.name) do
        let (x, rest) ← mergeNested depth (mergeField sub inner) key.type bytes sub.unset
        return ((v.1 ++ [x], v.2), rest)
    else do
      let (w, rest) ← mergeField others name depth key bytes v.2
      return ((v.1, w), rest)

/-- Merges all of `bytes` into a value of the record `name`. -/
def mergeAll (s : Shape Scalar) (name : String) (depth : Nat) (bytes : Bytes) (v : s.Value) :
    Except DecodeError s.Value := do
  let (v, _) ← mergeUntil 0 (mergeRecord (mergeField s name depth)) bytes.length bytes v
  return v

/-- The value that bytes encode. -/
def decode (s : Shape Scalar) (name : String) (bytes : Bytes) : Except DecodeError s.Value :=
  mergeAll s name maxDepth bytes s.unset

end WalletNotify.Wire
