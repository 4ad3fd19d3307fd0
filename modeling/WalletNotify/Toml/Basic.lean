import WalletNotify.Decimal.Binary64
import WalletNotify.Text.Keyed

/-!
# TOML values

What a TOML document says.
-/

namespace WalletNotify.Toml

open Decimal (Binary64)
open Text (Keyed)

/-- A value of a document. Dates and times are kept as they are written. -/
inductive Value where
  | text (s : String)
  | integer (i : Int)
  | real (x : Binary64)
  | flag (b : Bool)
  | moment (written : String)
  | array (items : List Value)
  | table (entries : List (String × Value))

/-- The name of a value's kind; a table among values is one that is written on a line. -/
def Value.kind : Value → String
  | text _ => "string"
  | integer _ => "integer"
  | real _ => "float"
  | flag _ => "boolean"
  | moment _ => "datetime"
  | array _ => "array"
  | table _ => "inline table"

/-- A table of values. -/
abbrev Table := Keyed Value

end WalletNotify.Toml
