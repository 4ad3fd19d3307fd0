/-!
# Wire faults

What can be wrong with encoded bytes, and how it is told.
-/

namespace WalletNotify.Wire

/-- How the payload of a field record is delimited. -/
inductive WireType where
  | varint
  | fixed64
  | delimited
  | groupStart
  | groupEnd
  | fixed32
deriving DecidableEq, Repr

namespace WireType

/-- The code of a wire type, in the low three bits of a key. -/
def code : WireType → Nat
  | varint => 0
  | fixed64 => 1
  | delimited => 2
  | groupStart => 3
  | groupEnd => 4
  | fixed32 => 5

/-- The wire type of a code; six and seven are unused. -/
def ofCode? : Nat → Option WireType
  | 0 => some varint
  | 1 => some fixed64
  | 2 => some delimited
  | 3 => some groupStart
  | 4 => some groupEnd
  | 5 => some fixed32
  | _ => none

/-- The name of a wire type in error texts. -/
def name : WireType → String
  | varint => "Varint"
  | fixed64 => "SixtyFourBit"
  | delimited => "LengthDelimited"
  | groupStart => "StartGroup"
  | groupEnd => "EndGroup"
  | fixed32 => "ThirtyTwoBit"

/-- A wire type is found by its code. -/
theorem ofCode?_code (w : WireType) : ofCode? w.code = some w := by
  cases w <;> rfl

end WireType

/-- Why a byte string is not an encoding. -/
inductive Fault where
  | tooShort
  | badVarint
  | keyTooLarge (key : Nat)
  | zeroField
  | unknownWireType (code : Nat)
  | wireTypeMismatch (found expected : WireType)
  | strayGroupEnd
  | lengthOverrun
  | tooDeep
  | notUtf8
deriving DecidableEq, Repr

/-- The wording of a fault. -/
def Fault.message : Fault → String
  | tooShort => "buffer underflow"
  | badVarint => "invalid varint"
  | keyTooLarge key => "invalid key value: " ++ toString key
  | zeroField => "invalid tag value: 0"
  | unknownWireType code => "invalid wire type value: " ++ toString code
  | wireTypeMismatch found expected =>
    "invalid wire type: " ++ found.name ++ " (expected " ++ expected.name ++ ")"
  | strayGroupEnd => "unexpected end group tag"
  | lengthOverrun => "delimited length exceeded"
  | tooDeep => "recursion limit reached"
  | notUtf8 => "invalid string value: data is not UTF-8 encoded"

/-- A fault with the fields it was met in, the innermost first, each with the name of its record. -/
structure DecodeError where
  path : List (String × String)
  fault : Fault
deriving DecidableEq, Repr

namespace DecodeError

/-- A fault outside every known field. -/
def ofFault (f : Fault) : DecodeError := ⟨[], f⟩

/-- The same error, met inside a field of a record. -/
def within (record field : String) (e : DecodeError) : DecodeError :=
  { e with path := e.path ++ [(record, field)] }

/-- The wording of a decoding error. -/
def message (e : DecodeError) : String :=
  "failed to decode Protobuf message: "
    ++ String.join (e.path.map fun p => p.1 ++ "." ++ p.2 ++ ": ") ++ e.fault.message

end DecodeError

end WalletNotify.Wire
