import WalletNotify.Wire.Scalar

/-!
# Encoding

Fields are written in the order of their shape, each behind its key. Unset scalars and absent
records take no bytes; a record that is present is written even if it is empty.
-/

namespace WalletNotify.Wire

/-- A field record with a counted payload. -/
def delimitedRecord (number : Nat) (payload : Bytes) : Bytes :=
  Key.encode ⟨number, .delimited⟩ ++ Scalar.counted payload

/-- The field record of a scalar. -/
def Scalar.encodeRecord (k : Scalar) (number : Nat) (v : k.Value) : Bytes :=
  if v = Record.Scalars.unset k then [] else Key.encode ⟨number, k.wireType⟩ ++ k.payload v

/-- The bytes of a record's value. -/
def encode : (s : Record.Shape Scalar) → s.Value → Bytes
  | .nil, _ => []
  | .scalar l k rest, v => k.encodeRecord l.number v.1 ++ encode rest v.2
  | .texts l rest, v =>
    v.1.flatMap (fun s => delimitedRecord l.number (Text.utf8 s)) ++ encode rest v.2
  | .record l _ sub rest, v =>
    (match v.1 with
      | none => []
      | some m => delimitedRecord l.number (encode sub m)) ++ encode rest v.2
  | .records l _ sub rest, v =>
    v.1.flatMap (fun m => delimitedRecord l.number (encode sub m)) ++ encode rest v.2

end WalletNotify.Wire
