import WalletNotify.Json.Scalar
import WalletNotify.Json.Skip

/-!
# Read records

A record is read from an object with its members in any order, or from an array with all fields in
order. Members that the shape does not declare are passed over; a declared one may come once, and
only an optional record may be missing.
-/

namespace WalletNotify.Json

open Record (Shape)

/-- What has been read of a record so far. -/
def Partial : Shape Scalar → Type
  | .nil => Unit
  | .scalar _ k rest => Option k.Value × Partial rest
  | .texts _ rest => Option (List String) × Partial rest
  | .record _ _ sub rest => Option (Option sub.Value) × Partial rest
  | .records _ _ sub rest => Option (List sub.Value) × Partial rest

namespace Partial

/-- Nothing has been read. -/
def empty : (s : Shape Scalar) → Partial s
  | .nil => ()
  | .scalar _ _ rest => (none, empty rest)
  | .texts _ rest => (none, empty rest)
  | .record _ _ _ rest => (none, empty rest)
  | .records _ _ _ rest => (none, empty rest)

/-- The record, if all of it has been read; optional records may be missing. -/
def finish : (s : Shape Scalar) → Partial s → Option s.Value
  | .nil, _ => some ()
  | .scalar _ _ rest, p => do return (← p.1, ← finish rest p.2)
  | .texts _ rest, p => do return (← p.1, ← finish rest p.2)
  | .record _ _ _ rest, p => do return (p.1.getD none, ← finish rest p.2)
  | .records _ _ _ rest, p => do return (← p.1, ← finish rest p.2)

end Partial

/-- Reads the items of an array up to its end, one of them next. -/
def readItems {α : Type} (item : Input → Except Fault (α × Input)) :
    Nat → Input → Except Fault (List α × Input)
  | 0, _ => .error .truncated
  | fuel + 1, input => do
    let (a, rest) ← item input
    match skipBlanks rest with
    | [] => throw .truncated
    | ',' :: rest =>
      match skipBlanks rest with
      | [] => throw .truncated
      | ']' :: _ => throw .malformed
      | rest => do
        let (as, rest) ← readItems item fuel rest
        return (a :: as, rest)
    | ']' :: rest => return ([a], rest)
    | _ => throw .malformed

/-- Reads an array. -/
def readArray {α : Type} (item : Input → Except Fault (α × Input)) (input : Input) :
    Except Fault (List α × Input) :=
  match skipBlanks input with
  | '[' :: rest =>
    match skipBlanks rest with
    | [] => .error .truncated
    | ']' :: rest => .ok ([], rest)
    | rest => readItems item (rest.length + 1) rest
  | rest => .error (unfit rest)

/-- Reads `null`, or a value. -/
def readOptional {α : Type} (value : Input → Except Fault (α × Input)) (input : Input) :
    Except Fault (Option α × Input) :=
  match skipBlanks input with
  | 'n' :: rest => do
    let rest ← word ['u', 'l', 'l'] rest
    return (none, rest)
  | rest => do
    let (a, rest) ← value rest
    return (some a, rest)

/-- Reads the colon behind the name of a member. -/
def colon (input : Input) : Except Fault Input :=
  match skipBlanks input with
  | ':' :: rest => .ok rest
  | [] => .error .truncated
  | _ => .error .malformed

/-- Reads the value of a member that must not have been read before. -/
def readOnce {α : Type} (old : Option α) (value : Input → Except Fault (α × Input))
    (input : Input) : Except Fault (Option α × Input) :=
  match old with
  | some _ => .error .unfit
  | none => do
    let rest ← colon input
    let (a, rest) ← value rest
    return (some a, rest)

/-- Reads the members of an object up to its end, one of them next. -/
def readMembers {α : Type} (member : String → Input → α → Except Fault (α × Input)) :
    Nat → Input → α → Except Fault (α × Input)
  | 0, _, _ => .error .truncated
  | fuel + 1, input, a =>
    match input with
    | [] => .error .truncated
    | '"' :: rest => do
      let (name, rest) ← string rest
      let (a, rest) ← member (String.ofList name) rest a
      match skipBlanks rest with
      | [] => throw .truncated
      | ',' :: rest => readMembers member fuel (skipBlanks rest) a
      | '\x7d' :: rest => return (a, rest)
      | _ => throw .malformed
    | _ => .error .malformed

/-- Goes to the next field of an array: nothing if the array ends. -/
def nextField (first : Bool) (input : Input) : Except Fault Input :=
  match skipBlanks input with
  | [] => .error .truncated
  | ']' :: _ => .error .unfit
  | ',' :: rest =>
    if first then .ok (',' :: rest)
    else
      match skipBlanks rest with
      | [] => .error .truncated
      | ']' :: _ => .error .malformed
      | rest => .ok rest
  | c :: rest => if first then .ok (c :: rest) else .error .malformed

/-- Reads the end of an array all of whose fields are read. -/
def arrayEnd (input : Input) : Except Fault Input :=
  match skipBlanks input with
  | ']' :: rest => .ok rest
  | [] => .error .truncated
  | _ => .error .malformed

/-- How the fields of a shape are read: one named member, or all fields of an array. -/
structure FieldReader (s : Shape Scalar) where
  member : String → Input → Partial s → Except Fault (Partial s × Input)
  fields : Bool → Input → Except Fault (s.Value × Input)

/-- Reads a record. -/
def FieldReader.record {s : Shape Scalar} (r : FieldReader s) (input : Input) :
    Except Fault (s.Value × Input) :=
  match skipBlanks input with
  | '[' :: rest => do
    let (v, rest) ← r.fields true rest
    let rest ← arrayEnd rest
    return (v, rest)
  | '\x7b' :: rest => do
    let (p, rest) ← match skipBlanks rest with
      | '\x7d' :: rest => .ok (Partial.empty s, rest)
      | rest => readMembers r.member (rest.length + 1) rest (Partial.empty s)
    match Partial.finish s p with
    | some v => return (v, rest)
    | none => throw .unfit
  | rest => .error (unfit rest)

/-- Reads a named member: the field `name` takes it, or one of the others does. -/
def memberOr {α β : Type} (name : String) (value : Input → Except Fault (α × Input))
    (others : String → Input → β → Except Fault (β × Input)) (key : String) (input : Input)
    (p : Option α × β) : Except Fault ((Option α × β) × Input) :=
  if key = name then do
    let (a, rest) ← readOnce p.1 value input
    return ((a, p.2), rest)
  else do
    let (q, rest) ← others key input p.2
    return ((p.1, q), rest)

/-- Reads a field of an array and then the others. -/
def fieldThen {α β : Type} (value : Input → Except Fault (α × Input))
    (others : Bool → Input → Except Fault (β × Input)) (first : Bool) (input : Input) :
    Except Fault ((α × β) × Input) := do
  let rest ← nextField first input
  let (a, rest) ← value rest
  let (b, rest) ← others false rest
  return ((a, b), rest)

/-- Passes over the value of a member that is not declared. -/
def skipMember {α : Type} (_ : String) (input : Input) (a : α) : Except Fault (α × Input) := do
  let rest ← colon input
  let rest ← skip rest
  return (a, rest)

/-- How the fields of a shape are read. -/
def fieldReader : (s : Shape Scalar) → FieldReader s
  | .nil => ⟨skipMember, fun _ input => .ok ((), input)⟩
  | .scalar l k rest =>
    let others := fieldReader rest
    ⟨memberOr l.name k.read others.member, fieldThen k.read others.fields⟩
  | .texts l rest =>
    let others := fieldReader rest
    ⟨memberOr l.name (readArray readString) others.member,
      fieldThen (readArray readString) others.fields⟩
  | .record l _ sub rest =>
    let others := fieldReader rest
    let value := readOptional (fieldReader sub).record
    ⟨memberOr l.name value others.member, fieldThen value others.fields⟩
  | .records l _ sub rest =>
    let others := fieldReader rest
    let value := readArray (fieldReader sub).record
    ⟨memberOr l.name value others.member, fieldThen value others.fields⟩

/-- The record that a text holds; nothing but blanks may follow it. -/
def read (s : Shape Scalar) (input : Input) : Except Fault s.Value := do
  let (v, rest) ← (fieldReader s).record input
  match skipBlanks rest with
  | [] => return v
  | _ :: _ => throw .malformed

end WalletNotify.Json
