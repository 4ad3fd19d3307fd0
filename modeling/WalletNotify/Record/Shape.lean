/-!
# Record shapes

A shape lists the numbered and named fields of a record in order. The wire format and the webhook
bodies are both read and written along a shape, so one induction on shapes covers every record.
-/

namespace WalletNotify.Record

/-- How a record refers to one of its fields: by number on the wire, by name in text. -/
structure Label where
  number : Nat
  name : String
deriving DecidableEq, Repr

/-- The scalars of a format: each kind stands for a type of values and has a value when unset. -/
class Scalars (κ : Type) where
  Value : κ → Type
  unset : (k : κ) → Value k

/-- The fields of a record, over the scalar kinds `κ`. A nested record carries its own name. -/
inductive Shape (κ : Type) where
  | nil
  | scalar (label : Label) (kind : κ) (rest : Shape κ)
  | texts (label : Label) (rest : Shape κ)
  | record (label : Label) (name : String) (sub rest : Shape κ)
  | records (label : Label) (name : String) (sub rest : Shape κ)

namespace Shape

variable {κ : Type} [Scalars κ]

/-- The values of a shape: a nested record may be absent, a repeated one is a list. -/
def Value : Shape κ → Type
  | nil => Unit
  | scalar _ k rest => Scalars.Value k × rest.Value
  | texts _ rest => List String × rest.Value
  | record _ _ sub rest => Option sub.Value × rest.Value
  | records _ _ sub rest => List sub.Value × rest.Value

/-- The record with every field unset. -/
def unset : (s : Shape κ) → s.Value
  | nil => ()
  | scalar _ k rest => (Scalars.unset k, rest.unset)
  | texts _ rest => ([], rest.unset)
  | record _ _ _ rest => (none, rest.unset)
  | records _ _ _ rest => ([], rest.unset)

/-- The labels of a shape, in order. -/
def labels : Shape κ → List Label
  | nil => []
  | scalar l _ rest => l :: rest.labels
  | texts l rest => l :: rest.labels
  | record l _ _ rest => l :: rest.labels
  | records l _ _ rest => l :: rest.labels

end Shape

end WalletNotify.Record
