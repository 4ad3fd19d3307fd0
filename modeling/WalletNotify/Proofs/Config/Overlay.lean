import Mathlib.Data.Option.Basic
import WalletNotify.Config.Environment
import WalletNotify.Proofs.Toml.Tables

/-!
# Settings laid over others

Under every key of a table that is laid over another one stands the one setting laid over the other
(`get?_overlayAll`), in a table under a key as well (`get?_tableAt_overlayAll`).
-/

namespace WalletNotify.Config

open Text (Keyed)
open Text.Keyed (Each Ordered get?_put_self get?_put_of_ne)

/-- The settings of the table under a key; there are none if no table is there. -/
def tableAt (key : String) (settings : Settings) : Settings :=
  match Keyed.get? key settings with
  | some (.table _ entries) => entries
  | _ => []

/-- If anything stands under a key, it is a table, in the order of its keys. -/
def IsBranch (key : String) (settings : Settings) : Prop :=
  ∀ s, Keyed.get? key settings = some s →
    ∃ layer entries, s = .table layer entries ∧ Ordered entries

section

variable {key inner : String} {top below settings : Settings}

/-- Where nothing is set, there is no table. -/
lemma tableAt_of_none (missing : Keyed.get? key settings = none) : tableAt key settings = [] := by
  rw [tableAt, missing]

/-- Where a table is set, it is found. -/
lemma tableAt_of_some {layer : Layer} {entries : Settings}
    (found : Keyed.get? key settings = some (.table layer entries)) :
    tableAt key settings = entries := by
  rw [tableAt, found]

/-- Under a key of a table that is laid over another one stands the setting of the one table laid
over that of the other. -/
lemma get?_overlayAll (ordered : Ordered top) (below : Settings) (key : String) :
    Keyed.get? key (Setting.overlayAll top below)
      = (Keyed.get? key top).merge Setting.overlay (Keyed.get? key below) := by
  induction top generalizing below with
  | nil => rw [Setting.overlayAll, Keyed.get?, Option.merge_none_left]
  | cons e rest ih =>
    obtain ⟨k, s⟩ := e
    rw [Setting.overlayAll, ih (List.pairwise_cons.mp ordered).2, Keyed.get?]
    split_ifs with same
    · subst same
      rw [ordered.get?_rest, get?_put_self]
      cases Keyed.get? key below <;> rfl
    · rw [get?_put_of_ne same]

/-- Settings in order stay so under others. -/
lemma ordered_overlayAll (top : Settings) (ordered : Ordered below) :
    Ordered (Setting.overlayAll top below) := by
  induction top generalizing below with
  | nil => exact ordered
  | cons e rest ih =>
    rw [Setting.overlayAll]
    exact ih (ordered.put _ _)

/-- A key that holds tables in both layers holds one when they are merged. -/
lemma IsBranch.overlayAll (ordered : Ordered top) (topBranch : IsBranch key top)
    (branch : IsBranch key below) : IsBranch key (Setting.overlayAll top below) := by
  intro s found
  rw [get?_overlayAll ordered] at found
  cases above : Keyed.get? key top with
  | none =>
    rw [above, Option.merge_none_left] at found
    exact branch s found
  | some t =>
    obtain ⟨layer, entries, rfl, inOrder⟩ := topBranch t above
    cases under : Keyed.get? key below with
    | none =>
      rw [above, under] at found
      cases found
      exact ⟨layer, entries, rfl, inOrder⟩
    | some b =>
      obtain ⟨_, others, rfl, othersInOrder⟩ := branch b under
      rw [above, under] at found
      cases found
      exact ⟨layer, _, by rw [Setting.overlay], ordered_overlayAll entries othersInOrder⟩

/-- Tables under one key are laid over each other key by key. -/
lemma get?_tableAt_overlayAll (ordered : Ordered top) (topBranch : IsBranch key top)
    (branch : IsBranch key below) (inner : String) :
    Keyed.get? inner (tableAt key (Setting.overlayAll top below))
      = (Keyed.get? inner (tableAt key top)).merge Setting.overlay
          (Keyed.get? inner (tableAt key below)) := by
  have laid := get?_overlayAll ordered below key
  cases above : Keyed.get? key top with
  | none =>
    rw [tableAt_of_none above, Keyed.get?, Option.merge_none_left, tableAt, laid, above,
      Option.merge_none_left, tableAt]
  | some t =>
    obtain ⟨layer, entries, rfl, inOrder⟩ := topBranch t above
    cases under : Keyed.get? key below with
    | none =>
      rw [above, under] at laid
      rw [tableAt_of_some laid, tableAt_of_some above, tableAt_of_none under, Keyed.get?,
        Option.merge_none_right]
    | some b =>
      obtain ⟨_, others, rfl, -⟩ := branch b under
      rw [above, under] at laid
      rw [Option.merge_some_some, Setting.overlay] at laid
      rw [tableAt_of_some laid, tableAt_of_some above, tableAt_of_some under,
        get?_overlayAll inOrder]

end

/-! ## The settings of a file -/

/-- The settings of a table are those of its entries. -/
lemma ofTable_eq (table : Toml.Table) :
    Setting.ofTable table = table.map fun e => (e.1, Setting.ofValue e.2) := by
  induction table with
  | nil => rfl
  | cons e rest ih => rw [Setting.ofTable, ih, List.map_cons]

/-- The settings of a table in order are in order. -/
lemma ordered_ofTable {table : Toml.Table} (ordered : Ordered table) :
    Ordered (Setting.ofTable table) := by
  rw [ofTable_eq]
  exact ordered.map _

/-- A table in a file has its settings in the order of their keys, be it a date or a time. -/
lemma ordered_of_ofValue {v : Toml.Value} {layer : Layer} {entries : Settings} (tidy : v.Tidy)
    (same : Setting.ofValue v = .table layer entries) : Ordered entries := by
  cases v with
  | table inner =>
    rw [Setting.ofValue] at same
    cases same
    exact ordered_ofTable tidy.entries.ordered
  | moment written =>
    rw [Setting.ofValue] at same
    cases same
    exact Text.Keyed.ordered_singleton _
  | text | integer | real | flag | array => rw [Setting.ofValue] at same; cases same

end WalletNotify.Config
