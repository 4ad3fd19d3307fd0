import WalletNotify.Event.Conversion

/-!
# Event kinds

Every enumeration of event types leaves zero unspecified. The kinds defined here have no such
value: an unspecified number reads as no kind at all, and an unknown one is refused.
-/

namespace WalletNotify.Event

open Schema (Enumeration)

/-- A step in the life of a transaction. -/
inductive TransactionKind where
  | broadcasted
  | unconfirmed
  | confirmed
deriving DecidableEq, Repr

/-- What happened to unspent outputs. -/
inductive UtxoKind where
  | locked
  | unlocked
  | spent
deriving DecidableEq, Repr

/-- The classes of events that are published and that webhooks are registered for. -/
inductive EventClass where
  | transaction
  | unspents
deriving DecidableEq, Repr

/-- A type whose values are the specified numbers of an enumeration, from one on. -/
class Kind (κ : Type) where
  enumeration : Enumeration
  number : κ → Int32
  ofNumber? : Int32 → Option κ
  title : κ → String

instance : Kind TransactionKind where
  enumeration := Schema.txEventType
  number
    | .broadcasted => 1
    | .unconfirmed => 2
    | .confirmed => 3
  ofNumber? n :=
    if n = 1 then some .broadcasted
    else if n = 2 then some .unconfirmed
    else if n = 3 then some .confirmed
    else none
  title
    | .broadcasted => "Broadcasted"
    | .unconfirmed => "Unconfirmed"
    | .confirmed => "Confirmed"

instance : Kind UtxoKind where
  enumeration := Schema.utxoEventType
  number
    | .locked => 1
    | .unlocked => 2
    | .spent => 3
  ofNumber? n :=
    if n = 1 then some .locked
    else if n = 2 then some .unlocked
    else if n = 3 then some .spent
    else none
  title
    | .locked => "Locked"
    | .unlocked => "Unlocked"
    | .spent => "Spent"

instance : Kind EventClass where
  enumeration := Schema.webhookEventType
  number
    | .transaction => 1
    | .unspents => 2
  ofNumber? n :=
    if n = 1 then some .transaction
    else if n = 2 then some .unspents
    else none
  title
    | .transaction => "Transaction"
    | .unspents => "Unspents"

namespace Kind

variable {κ : Type} [Kind κ]

/-- The number of a kind, zero for none. -/
def numberOf : Option κ → Int32
  | none => 0
  | some k => number k

/-- The kind of a number, none for zero. -/
def ofNumber (n : Int32) : Except ConversionError (Option κ) :=
  if n = 0 then .ok none
  else
    match ofNumber? n with
    | some k => .ok (some k)
    | none => .error (.unknownNumber (enumeration κ).entity n)

/-- The name of a kind in its enumeration. -/
def nameOf (k : Option κ) : String := (enumeration κ).name (numberOf k)

/-- The name of a kind in its enumeration. -/
def name (k : κ) : String := nameOf (some k)

/-- The kinds of a list in ascending order, each once, no kind first. -/
def distinct [DecidableEq κ] (kinds : List (Option κ)) : List (Option κ) :=
  (kinds.mergeSort fun a b => numberOf a ≤ numberOf b).eraseReps

end Kind

/-- Webhooks for transactions are told of every step. -/
def TransactionKind.eventClass (_ : TransactionKind) : EventClass := .transaction

/-- Webhooks for unspent outputs are told of everything that happens to them. -/
def UtxoKind.eventClass (_ : UtxoKind) : EventClass := .unspents

end WalletNotify.Event
