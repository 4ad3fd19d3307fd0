import WalletNotify.Webhook.Registry

/-!
# Shared registries

What clients tell registries to do, through handles. A cloned handle shares its registry; a new one
has a registry of its own.
-/

namespace WalletNotify.Webhook

open Event (EventClass)

namespace Registry

/-- What a registry may be told to do. -/
inductive Command where
  | add (endpoint : String) (kind : Option EventClass) (secret : String)
  | remove (id : Id)
  | list (kind : Option EventClass)
  | forClass (kind : EventClass)
  | size
  | isEmpty
deriving DecidableEq, Repr

/-- What a registry replies. -/
inductive Reply where
  | added (hook : Hook)
  | removed (hook : Hook)
  | refused (error : RegistryError)
  | listed (hooks : List Hook)
  | counted (n : Nat)
  | told (answer : Bool)
deriving DecidableEq, Repr

/-- The reply to a command, and the registry from then on. -/
def reply (r : Registry) : Command → Reply × Registry
  | .add endpoint kind secret =>
    match r.add endpoint kind secret with
    | .ok (hook, changed) => (.added hook, changed)
    | .error e => (.refused e, r)
  | .remove id =>
    match r.remove id with
    | .ok (hook, changed) => (.removed hook, changed)
    | .error e => (.refused e, r)
  | .list kind => (.listed (r.list kind), r)
  | .forClass kind => (.listed (r.forClass kind), r)
  | .size => (.counted r.size, r)
  | .isEmpty => (.told r.isEmpty, r)

end Registry

/-- Registries and the handles that refer to them by position. -/
structure Registries where
  registries : List Registry
  handles : List Nat
deriving DecidableEq, Repr

namespace Registries

/-- One handle to an empty registry. -/
def start : Registries := ⟨[.empty], [0]⟩

/-- The registry behind a handle; handles that were never given out refer to none. -/
def get? (s : Registries) (handle : Nat) : Option Registry := do
  let i ← s.handles[handle]?
  s.registries[i]?

/-- Puts another registry behind a handle and all that share it. -/
def set (s : Registries) (handle : Nat) (r : Registry) : Registries :=
  match s.handles[handle]? with
  | some i => { s with registries := s.registries.set i r }
  | none => s

/-- A handle that shares the registry of another. -/
def clone (s : Registries) (handle : Nat) : Option (Nat × Registries) := do
  let i ← s.handles[handle]?
  return (s.handles.length, { s with handles := s.handles ++ [i] })

/-- A handle with a registry of its own. -/
def new (s : Registries) : Nat × Registries :=
  (s.handles.length, ⟨s.registries ++ [.empty], s.handles ++ [s.registries.length]⟩)

/-- What may be done with registries. -/
inductive Operation where
  | clone (handle : Nat)
  | new
  | command (handle : Nat) (command : Registry.Command)
deriving DecidableEq, Repr

/-- What an operation answers. -/
inductive Answer where
  | handle (index : Nat)
  | reply (reply : Registry.Reply)
  | noHandle
deriving DecidableEq, Repr

/-- Carries out an operation. -/
def step (s : Registries) : Operation → Answer × Registries
  | .clone handle =>
    match s.clone handle with
    | some (index, s) => (.handle index, s)
    | none => (.noHandle, s)
  | .new =>
    let (index, s) := s.new
    (.handle index, s)
  | .command handle command =>
    match s.get? handle with
    | some r =>
      let (reply, r) := r.reply command
      (.reply reply, s.set handle r)
    | none => (.noHandle, s)

end Registries

end WalletNotify.Webhook
