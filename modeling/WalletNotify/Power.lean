/-!
# Powers

The powers of natural numbers and of integers mean the same in every module, also in one that knows
of the powers of a monoid.
-/

namespace WalletNotify

/-- Powers with natural exponents; preferred to those of a monoid. -/
@[default_instance 10100]
instance (priority := 1100) powNat {α : Type _} [NatPow α] : Pow α Nat := instPowNat

end WalletNotify
