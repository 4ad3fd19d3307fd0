import WalletNotify.Wire.Key

/-!
# Unknown fields

A field record that a message does not declare is passed over. A group lasts up to the key that ends
it, and groups may be nested as deep as levels are left.
-/

namespace WalletNotify.Wire

/-- Leaves `n` bytes out. -/
def dropBytes (n : Nat) (bytes : Bytes) : Except Fault Bytes :=
  if n ≤ bytes.length then .ok (bytes.drop n) else .error .tooShort

/-- Passes over records up to the end of the group `number`; every record takes a byte or more. -/
def skipGroup (skip : Key → Bytes → Except Fault Bytes) (number : Nat) :
    Nat → Bytes → Except Fault Bytes
  | 0, _ => .error .badVarint
  | fuel + 1, bytes => do
    let (key, rest) ← Key.decode bytes
    if key.type = .groupEnd then
      if key.number = number then return rest else throw .strayGroupEnd
    else
      let rest ← skip key rest
      skipGroup skip number fuel rest

/-- Passes over the payload behind a key, with `depth` levels left. -/
def skip : Nat → Key → Bytes → Except Fault Bytes
  | 0, _, _ => .error .tooDeep
  | depth + 1, key, bytes =>
    match key.type with
    | .varint => do
      let (_, rest) ← Varint.decode bytes
      return rest
    | .fixed32 => dropBytes 4 bytes
    | .fixed64 => dropBytes 8 bytes
    | .delimited => do
      let (n, rest) ← Varint.decode bytes
      dropBytes n rest
    | .groupStart => skipGroup (skip depth) key.number bytes.length bytes
    | .groupEnd => .error .strayGroupEnd

end WalletNotify.Wire
