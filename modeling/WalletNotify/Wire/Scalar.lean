import WalletNotify.Record.Shape
import WalletNotify.Text.Utf8
import WalletNotify.Wire.Key

/-!
# Scalars on the wire

Each kind of scalar has a type of values, a wire type, a payload and a reader for it. A scalar that
has its unset value takes no bytes. Main statement: a written payload reads back.
-/

namespace WalletNotify.Wire

/-- The kinds of scalars in messages. -/
inductive Scalar where
  | text
  | blob
  | word32
  | word64
  | signed64
  | enumeration
  | flag
deriving DecidableEq, Repr

namespace Scalar

instance : Record.Scalars Scalar where
  Value
    | text => String
    | blob => Bytes
    | word32 => UInt32
    | word64 => UInt64
    | signed64 => Int64
    | enumeration => Int32
    | flag => Bool
  unset
    | text => ""
    | blob => []
    | word32 => 0
    | word64 => 0
    | signed64 => 0
    | enumeration => 0
    | flag => false

/-- The values of a kind. -/
abbrev Value (k : Scalar) : Type := Record.Scalars.Value k

instance instDecidableEqValue : (k : Scalar) → DecidableEq k.Value
  | text => inferInstanceAs (DecidableEq String)
  | blob => inferInstanceAs (DecidableEq Bytes)
  | word32 => inferInstanceAs (DecidableEq UInt32)
  | word64 => inferInstanceAs (DecidableEq UInt64)
  | signed64 => inferInstanceAs (DecidableEq Int64)
  | enumeration => inferInstanceAs (DecidableEq Int32)
  | flag => inferInstanceAs (DecidableEq Bool)

/-- How the payload of a kind is delimited. -/
def wireType : Scalar → WireType
  | text | blob => .delimited
  | _ => .varint

/-- Bytes with their count in front. -/
def counted (bytes : Bytes) : Bytes := Varint.encode bytes.length ++ bytes

/-- The bytes of a value; negative numbers are written as 64-bit words. -/
def payload : (k : Scalar) → k.Value → Bytes
  | text, s => counted (Text.utf8 s)
  | blob, b => counted b
  | word32, n => Varint.encode n.toNat
  | word64, n => Varint.encode n.toNat
  | signed64, n => Varint.encode n.toUInt64.toNat
  | enumeration, n => Varint.encode n.toInt64.toUInt64.toNat
  | flag, b => Varint.encode b.toNat

/-- Reads as many bytes as their count in front says. -/
def readCounted (bytes : Bytes) : Except Fault (Bytes × Bytes) := do
  let (n, rest) ← Varint.decode bytes
  if n ≤ rest.length then return rest.splitAt n else throw .tooShort

/-- Reads a value: numbers keep the low bits that they have room for, a flag is any but zero. -/
def read : (k : Scalar) → Bytes → Except Fault (k.Value × Bytes)
  | text, bytes => do
    let (b, rest) ← readCounted bytes
    match Text.ofUtf8? b with
    | some s => return (s, rest)
    | none => throw .notUtf8
  | blob, bytes => readCounted bytes
  | word32, bytes => do
    let (n, rest) ← Varint.decode bytes
    return (UInt32.ofNat n, rest)
  | word64, bytes => do
    let (n, rest) ← Varint.decode bytes
    return (UInt64.ofNat n, rest)
  | signed64, bytes => do
    let (n, rest) ← Varint.decode bytes
    return ((UInt64.ofNat n).toInt64, rest)
  | enumeration, bytes => do
    let (n, rest) ← Varint.decode bytes
    return ((UInt32.ofNat n).toInt32, rest)
  | flag, bytes => do
    let (n, rest) ← Varint.decode bytes
    return (n != 0, rest)

end Scalar

end WalletNotify.Wire
