import WalletNotify.Schema.Enumeration
import WalletNotify.Schema.Preview

/-!
# Accounts, balances and templates

How wallet messages are shown, and when a balance adds up.
-/

namespace WalletNotify.Schema.Preview

/-- An account as people see it. -/
def AccountKey.display (k : AccountKey) : String :=
  k.name ++ " (#" ++ toString k.id.toNat ++ ")"

/-- Whether the parts add up to the total, without a limit on their sum. -/
def BalanceInfo.isConsistent (b : BalanceInfo) : Bool :=
  b.confirmed.toNat + b.unconfirmed.toNat == b.total.toNat

/-- The word for a format; unknown formats are unspecified. -/
def Template.formatWord (t : Template) : String :=
  (["unspecified", "descriptor", "miniscript", "ionio", "raw"][t.format.toInt.toNat]?).getD
    "unspecified"

/-- The name of the format in its enumeration. -/
def Template.formatName (t : Template) : String := templateFormat.name t.format

/-- A template as people see it. -/
def Template.display (t : Template) : String := t.formatWord ++ "(" ++ t.value ++ ")"

end WalletNotify.Schema.Preview
