import WalletNotify.Decimal.Shortest
import WalletNotify.Text.Keyed
import WalletNotify.Text.Quoted
import WalletNotify.Toml.Basic

/-!
# Settings

What a configuration is made from: values that know which layer they come from. A layer is laid over
another one: tables are laid over each other key by key, and any other setting replaces what is
below it.
-/

namespace WalletNotify.Config

open Decimal (Binary64)
open Text (Keyed)

/-- Where a setting comes from. -/
inductive Layer where
  | file
  | environment
deriving DecidableEq, Repr

/-- A setting that holds no others. -/
inductive Plain where
  | text (s : String)
  | flag (b : Bool)
  | unsigned (n : Nat)
  | signed (i : Int)
  | real (x : Binary64)
deriving DecidableEq, Repr

/-- A setting and its layer. -/
inductive Setting where
  | plain (layer : Layer) (value : Plain)
  | list (layer : Layer) (items : List Setting)
  | table (layer : Layer) (entries : List (String × Setting))

namespace Setting

/-- The layer of a setting. -/
def layer : Setting → Layer
  | plain layer _ => layer
  | list layer _ => layer
  | table layer _ => layer

/-- What a setting is called where something else is asked for. -/
def description : Setting → String
  | plain _ (.text s) => "string " ++ Text.Quoted.text s
  | plain _ (.flag b) => "bool " ++ (if b then "true" else "false")
  | plain _ (.unsigned n) => "unsigned int \x60" ++ toString n ++ "\x60"
  | plain _ (.signed i) => "signed int \x60" ++ toString i ++ "\x60"
  | plain _ (.real x) => "float \x60" ++ x.text ++ "\x60"
  | list .. => "sequence"
  | table .. => "map"

/-- The key under which the text of a date or a time stands. -/
def momentKey : String := "$__toml_private_datetime"

mutual

/-- The setting of a value in a file. A date or a time is a table of its text. -/
def ofValue : Toml.Value → Setting
  | .text s => plain .file (.text s)
  | .integer i => plain .file (.signed i)
  | .real x => plain .file (.real x)
  | .flag b => plain .file (.flag b)
  | .moment written => table .file [(momentKey, plain .file (.text written))]
  | .array items => list .file (ofValues items)
  | .table entries => table .file (ofTable entries)

/-- The settings of values in a list. -/
def ofValues : List Toml.Value → List Setting
  | [] => []
  | v :: rest => ofValue v :: ofValues rest

/-- The settings of values in a table. -/
def ofTable : List (String × Toml.Value) → List (String × Setting)
  | [] => []
  | (key, v) :: rest => (key, ofValue v) :: ofTable rest

end

mutual

/-- Lays a setting over another one. -/
def overlay : Setting → Setting → Setting
  | table layer entries, table _ below => table layer (overlayAll entries below)
  | s, _ => s

/-- Lays the settings of a table over those of another one. -/
def overlayAll : List (String × Setting) → Keyed Setting → Keyed Setting
  | [], below => below
  | (key, s) :: rest, below =>
    let laid := match Keyed.get? key below with
      | some t => s.overlay t
      | none => s
    overlayAll rest (Keyed.put key laid below)

end

end Setting

/-- The settings of a layer. -/
abbrev Settings := Keyed Setting

end WalletNotify.Config
