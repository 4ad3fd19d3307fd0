import WalletNotify.Wire.Decode
import WalletNotify.Wire.Encode

/-!
# Messages

A message type has a name, a shape and, where the service computes with it, a structure for its
values.
-/

namespace WalletNotify.Schema

open Record (Shape)
open Wire (Scalar)

/-- The shape of a structure's values on the wire. -/
class Message (α : Type) where
  name : String
  shape : Shape Scalar
  fields : α → shape.Value
  ofFields : shape.Value → α

namespace Message

variable {α : Type} [Message α]

/-- The bytes of a message. -/
def encode (a : α) : Wire.Bytes := Wire.encode (shape α) (fields a)

/-- The message of bytes. -/
def decode (bytes : Wire.Bytes) : Except Wire.DecodeError α :=
  (Wire.decode (shape α) (name α) bytes).map ofFields

end Message

/-- A message type as a package declares it. -/
structure Declaration where
  package : String
  name : String
  shape : Shape Scalar

/-- The name of a message type with its package. -/
def Declaration.qualifiedName (d : Declaration) : String := d.package ++ "." ++ d.name

/-- The declaration of a structure's message type in a package. -/
def Declaration.of (package : String) (α : Type) [Message α] : Declaration :=
  ⟨package, Message.name α, Message.shape α⟩

end WalletNotify.Schema
