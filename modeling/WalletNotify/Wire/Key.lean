import WalletNotify.Wire.Varint

/-!
# Keys

Every field record starts with a key: the number of its field and its wire type in one varint.
-/

namespace WalletNotify.Wire

/-- What a field record says of itself before its payload. -/
structure Key where
  number : Nat
  type : WireType
deriving DecidableEq, Repr

namespace Key

/-- The number that stands for a key. -/
def toNat (k : Key) : Nat := 8 * k.number + k.type.code

/-- The bytes of a key. -/
def encode (k : Key) : Bytes := Varint.encode k.toNat

/-- The key a number stands for: it has 32 bits, a used wire type and a field number above zero. -/
def ofNat (n : Nat) : Except Fault Key :=
  if n < 2 ^ 32 then
    match WireType.ofCode? (n % 8) with
    | none => .error (.unknownWireType (n % 8))
    | some type => if n / 8 = 0 then .error .zeroField else .ok ⟨n / 8, type⟩
  else .error (.keyTooLarge n)

/-- Reads a key. -/
def decode (bytes : Bytes) : Except Fault (Key × Bytes) := do
  let (n, rest) ← Varint.decode bytes
  let key ← ofNat n
  return (key, rest)

/-- A key is read back from its number. -/
theorem ofNat_toNat {k : Key} (h0 : 0 < k.number) (h : k.number < 2 ^ 29) :
    ofNat k.toNat = .ok k := by
  have hc : k.type.code < 8 := by cases k.type <;> decide
  have hn : k.toNat = 8 * k.number + k.type.code := rfl
  have hm : k.toNat % 8 = k.type.code := by omega
  have hd : k.toNat / 8 = k.number := by omega
  have hl : k.toNat < 2 ^ 32 := by omega
  simp only [ofNat, hl, hm, hd, WireType.ofCode?_code, if_true]
  rw [if_neg (by omega)]

end Key

end WalletNotify.Wire
