import Mathlib.Tactic.Lemma
import Mathlib.Tactic.SplitIfs
import WalletNotify.Event.Kind

/-!
# Numbers of kinds

A number is read as the kind that has it. Main statements: when a number is read
(`Kind.ofNumber_eq_ok`) and when it is refused (`Kind.ofNumber_eq_error`).
-/

namespace WalletNotify.Event

/-- A type whose kinds have the specified numbers of an enumeration, each its own. -/
class LawfulKind (κ : Type) [Kind κ] : Prop where
  number_ne_zero : ∀ k : κ, Kind.number k ≠ 0
  ofNumber?_eq_some : ∀ {n : Int32} {k : κ}, Kind.ofNumber? n = some k ↔ Kind.number k = n

instance : LawfulKind TransactionKind where
  number_ne_zero k := by cases k <;> decide
  ofNumber?_eq_some {n k} := by
    simp only [Kind.ofNumber?]
    split_ifs with one two three <;> cases k <;> simp_all [Kind.number, eq_comm]

instance : LawfulKind UtxoKind where
  number_ne_zero k := by cases k <;> decide
  ofNumber?_eq_some {n k} := by
    simp only [Kind.ofNumber?]
    split_ifs with one two three <;> cases k <;> simp_all [Kind.number, eq_comm]

instance : LawfulKind EventClass where
  number_ne_zero k := by cases k <;> decide
  ofNumber?_eq_some {n k} := by
    simp only [Kind.ofNumber?]
    split_ifs with one two <;> cases k <;> simp_all [Kind.number, eq_comm]

/-- A number is read as the kind, or as none, whose number it is. -/
lemma Kind.ofNumber_eq_ok {κ : Type} [Kind κ] [LawfulKind κ] {n : Int32} {kind : Option κ} :
    Kind.ofNumber n = .ok kind ↔ Kind.numberOf kind = n := by
  unfold Kind.ofNumber
  split
  case isTrue zero =>
    subst zero
    cases kind with
    | none => exact iff_of_true rfl rfl
    | some k => exact iff_of_false nofun (LawfulKind.number_ne_zero k)
  case isFalse nonzero =>
    cases kind with
    | none =>
      apply iff_of_false _ (Ne.symm nonzero)
      split <;> exact nofun
    | some k =>
      rw [Kind.numberOf, ← LawfulKind.ofNumber?_eq_some]
      split
      case h_1 other known => simp [known]
      case h_2 unknown => simp [unknown]

/-- Only the unspecified number is that of no kind. -/
lemma Kind.eq_none_iff {κ : Type} [Kind κ] [LawfulKind κ] {kind : Option κ} :
    kind = none ↔ Kind.numberOf kind = 0 := by
  cases kind with
  | none => exact iff_of_true rfl rfl
  | some k => exact iff_of_false nofun (LawfulKind.number_ne_zero k)

/-- A refused number is told along with its enumeration. -/
lemma Kind.fault_of_ofNumber {κ : Type} [Kind κ] {n : Int32} {fault : ConversionError}
    (refused : ofNumber (κ := κ) n = .error fault) :
    fault = .unknownNumber (enumeration κ).entity n := by
  unfold ofNumber at refused
  split at refused
  case isTrue => cases refused
  case isFalse =>
    split at refused
    case h_1 => cases refused
    case h_2 => exact (Except.error.inj refused).symm

/-- A number is refused if it is that of no kind, and not unspecified either. -/
lemma Kind.ofNumber_eq_error {κ : Type} [Kind κ] [LawfulKind κ] {n : Int32}
    {fault : ConversionError} : ofNumber (κ := κ) n = .error fault ↔
      (¬ ∃ kind : Option κ, numberOf kind = n) ∧
        fault = .unknownNumber (enumeration κ).entity n := by
  constructor
  · intro refused
    refine ⟨?_, fault_of_ofNumber refused⟩
    rintro ⟨kind, number⟩
    cases refused.symm.trans (ofNumber_eq_ok.mpr number)
  · rintro ⟨unknown, rfl⟩
    cases read : ofNumber (κ := κ) n with
    | ok kind => exact absurd ⟨kind, ofNumber_eq_ok.mp read⟩ unknown
    | error fault => rw [fault_of_ofNumber read]

/-- A number is read if it is unspecified or that of one of all the kinds. -/
lemma Kind.exists_numberOf_iff {κ : Type} [Kind κ] (kinds : List κ) (all : ∀ k, k ∈ kinds)
    {n : Int32} : (∃ kind : Option κ, numberOf kind = n) ↔ n ∈ 0 :: kinds.map number := by
  constructor
  · rintro ⟨_ | k, rfl⟩
    · exact List.mem_cons_self
    · exact List.mem_cons_of_mem _ (List.mem_map_of_mem (all k))
  · intro mem
    rcases List.mem_cons.mp mem with rfl | mem
    · exact ⟨none, rfl⟩
    · obtain ⟨k, -, rfl⟩ := List.mem_map.mp mem
      exact ⟨some k, rfl⟩

/-- The numbers of what happens to outputs, with the unspecified one. -/
lemma UtxoKind.exists_numberOf_iff {n : Int32} :
    (∃ kind : Option UtxoKind, Kind.numberOf kind = n) ↔ n ∈ [0, 1, 2, 3] :=
  Kind.exists_numberOf_iff [UtxoKind.locked, .unlocked, .spent] fun k => by cases k <;> decide

/-- The numbers of the classes of events, with the unspecified one. -/
lemma EventClass.exists_numberOf_iff {n : Int32} :
    (∃ kind : Option EventClass, Kind.numberOf kind = n) ↔ n ∈ [0, 1, 2] :=
  Kind.exists_numberOf_iff [EventClass.transaction, .unspents] fun k => by cases k <;> decide

end WalletNotify.Event
