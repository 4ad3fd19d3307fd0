/-!
# Values under names

Values under distinct names, in ascending order of the names. Main statements: what is put under a
name is found there, and nothing else changes.
-/

namespace WalletNotify.Text

/-- Values under names. -/
abbrev Keyed (α : Type) := List (String × α)

namespace Keyed

variable {α : Type}

/-- The value under a name. -/
def get? (key : String) : Keyed α → Option α
  | [] => none
  | (k, a) :: rest => if key = k then some a else get? key rest

/-- Puts a value under a name, in place of one that is there. -/
def put (key : String) (value : α) : Keyed α → Keyed α
  | [] => [(key, value)]
  | (k, a) :: rest =>
    if key = k then (key, value) :: rest
    else if key < k then (key, value) :: (k, a) :: rest
    else (k, a) :: put key value rest

/-- What was put under a key is found there. -/
theorem get?_put_self (key : String) (value : α) (xs : Keyed α) :
    get? key (put key value xs) = some value := by
  induction xs with
  | nil => simp [put, get?]
  | cons x rest ih =>
    unfold put
    split
    · simp [get?]
    · split
      · simp [get?]
      · simp [get?, *]

/-- What is put under one key changes nothing under the others. -/
theorem get?_put_of_ne {key other : String} (h : other ≠ key) (value : α) (xs : Keyed α) :
    get? other (put key value xs) = get? other xs := by
  induction xs with
  | nil => simp [put, get?, h]
  | cons x rest ih =>
    unfold put
    split
    case isTrue e => simp [get?, h, ← e]
    case isFalse =>
      split
      · simp [get?, h]
      · simp [get?, ih]

end Keyed

end WalletNotify.Text
