import WalletNotify.Schema.Enumeration
import WalletNotify.Text.Hex

/-!
# Conversion faults

Why a message does not stand for an event.
-/

namespace WalletNotify.Event

/-- Why a message does not stand for an event. -/
inductive ConversionError where
  | badHex (fault : Text.Hex.Fault)
  | unknownNumber (entity : String) (value : Int32)
deriving DecidableEq, Repr

/-- The wording of a conversion fault. -/
def ConversionError.message : ConversionError → String
  | badHex fault => "hex error: " ++ fault.message
  | unknownNumber entity value =>
    "value " ++ toString value.toInt ++ " is not a known variant of " ++ entity

end WalletNotify.Event
