import Mathlib.Tactic.Lemma
import WalletNotify.Record.Shape

/-!
# Names of fields

The fields of a record are told apart by their names.
-/

namespace WalletNotify.Record.Shape

variable {κ : Type}

/-- The names of the fields of a shape. -/
def names (s : Shape κ) : List String := s.labels.map Label.name

/-- Every field has a name of its own, in nested records too. -/
def WellNamed : Shape κ → Prop
  | nil => True
  | scalar l _ rest => l.name ∉ rest.names ∧ rest.WellNamed
  | texts l rest => l.name ∉ rest.names ∧ rest.WellNamed
  | record l _ sub rest => l.name ∉ rest.names ∧ sub.WellNamed ∧ rest.WellNamed
  | records l _ sub rest => l.name ∉ rest.names ∧ sub.WellNamed ∧ rest.WellNamed

instance instDecidableWellNamed : (s : Shape κ) → Decidable s.WellNamed
  | nil => isTrue trivial
  | scalar l _ rest =>
    have := instDecidableWellNamed rest
    inferInstanceAs (Decidable (l.name ∉ rest.names ∧ rest.WellNamed))
  | texts l rest =>
    have := instDecidableWellNamed rest
    inferInstanceAs (Decidable (l.name ∉ rest.names ∧ rest.WellNamed))
  | record l _ sub rest =>
    have := instDecidableWellNamed sub
    have := instDecidableWellNamed rest
    inferInstanceAs (Decidable (l.name ∉ rest.names ∧ sub.WellNamed ∧ rest.WellNamed))
  | records l _ sub rest =>
    have := instDecidableWellNamed sub
    have := instDecidableWellNamed rest
    inferInstanceAs (Decidable (l.name ∉ rest.names ∧ sub.WellNamed ∧ rest.WellNamed))

end WalletNotify.Record.Shape
