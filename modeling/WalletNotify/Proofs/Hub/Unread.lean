import WalletNotify.Proofs.Hub.Channel

/-!
# Unread events

All that a reader finds from its place on are the events it has not read, and they are all that it
depends on. What a channel `Retains` of them is what it keeps. Main statements: what a read finds,
told by the unread events (`Unread.read_eq`, `Unread.readOver_eq`).
-/

namespace WalletNotify.Hub.Channel

variable {α : Type}

/-- The events of a channel that a reader at a place has not read. -/
def Unread (c : Channel α) (place : Nat) (unread : List α) : Prop :=
  ∃ passed, c.Holds (passed ++ unread) ∧ passed.length = place

variable {c : Channel α} {place : Nat} {unread : List α}

/-- Whoever begins now has read all there is. -/
lemma Holds.unread_nil {events : List α} (holds : c.Holds events) : c.Unread c.sent [] :=
  ⟨events, by rwa [List.append_nil], holds.sent_eq.symm⟩

namespace Unread

/-- A place and what is unread behind it make up all that was sent. -/
lemma sent_eq (unreads : c.Unread place unread) : c.sent = place + unread.length := by
  obtain ⟨passed, holds, rfl⟩ := unreads
  rw [holds.sent_eq, List.length_append]

/-- What is sent is the last of what is yet to be read. -/
lemma send (unreads : c.Unread place unread) (a : α) : (c.send a).Unread place (unread ++ [a]) := by
  obtain ⟨passed, holds, length⟩ := unreads
  refine ⟨passed, ?_, length⟩
  rw [← List.append_assoc]
  exact holds.send a

/-- A reader that goes on has read the first events. -/
lemma drop (unreads : c.Unread place unread) {n : Nat} (le : n ≤ unread.length) :
    c.Unread (place + n) (unread.drop n) := by
  obtain ⟨passed, holds, length⟩ := unreads
  refine ⟨passed ++ unread.take n, ?_, ?_⟩
  · rwa [List.append_assoc, List.take_append_drop]
  · rw [List.length_append, length, List.length_take_of_le le]

/-- A reader loses the events that the channel has no slots for, or is given the first one, if there
is any. -/
lemma read_eq (unreads : c.Unread place unread) :
    c.read place =
      if c.slots < unread.length then
        (.lagged (unread.length - c.slots), place + (unread.length - c.slots))
      else
        match unread with
        | a :: _ => (.item a, place + 1)
        | [] => (.nothing, place) := by
  obtain ⟨passed, holds, rfl⟩ := unreads
  have within : passed.length ≤ (passed ++ unread).length := by simp
  rcases holds.read_cases within with ⟨behind, read⟩ | ⟨a, near, found, read⟩ | ⟨atEnd, read⟩
  · simp only [List.length_append, Nat.add_sub_cancel_left] at behind read
    rw [read, if_pos behind, Nat.add_sub_assoc behind.le]
  · simp only [List.length_append, Nat.add_sub_cancel_left] at near
    rw [read, if_neg (Nat.not_lt.mpr near)]
    rw [List.getElem?_append_right le_rfl, Nat.sub_self] at found
    cases unread with
    | nil => cases found
    | cons b rest => cases found; rfl
  · have none : unread = [] := by simpa using atEnd
    rw [read, none]
    simp

/-- Reading over a gap, a reader is given the first event that the channel has a slot for, if there
is any. -/
lemma readOver_eq (unreads : c.Unread place unread) :
    c.readOver place =
      (unread.length - c.slots,
        match unread.drop (unread.length - c.slots) with
        | a :: _ => (.item a, place + (unread.length - c.slots) + 1)
        | [] => (.nothing, place + (unread.length - c.slots))) := by
  unfold readOver
  rw [unreads.read_eq]
  by_cases behind : c.slots < unread.length
  · -- Behind the gap the reader is not too far behind any more.
    have near : ¬ c.slots < (unread.drop (unread.length - c.slots)).length := by
      rw [List.length_drop]
      omega
    rw [if_pos behind]
    simp only [(unreads.drop (Nat.sub_le _ c.slots)).read_eq, if_neg near]
  · rw [if_neg behind, Nat.sub_eq_zero_of_le (Nat.not_lt.mp behind)]
    cases unread <;> rfl

end Unread

/-! ## What a channel retains -/

/-- The events that a channel keeps for a reader at a place, and how many it has lost for it. -/
def Retains (c : Channel α) (place skipped : Nat) (retained : List α) : Prop :=
  ∃ unread, c.Unread place unread ∧ skipped = unread.length - c.slots ∧
    retained = unread.drop skipped

/-- Of what is yet to be read, the channel retains as much as it has slots. -/
lemma Unread.retains (unreads : c.Unread place unread) :
    c.Retains place (unread.length - c.slots) (unread.drop (unread.length - c.slots)) :=
  ⟨unread, unreads, rfl, rfl⟩

namespace Retains

variable {skipped : Nat} {retained : List α}

/-- Where nothing is retained, nothing was lost. -/
lemma skipped_eq_zero (retains : c.Retains place skipped []) : skipped = 0 := by
  obtain ⟨unread, ⟨_, holds, -⟩, rfl, none⟩ := retains
  have pos := holds.slots_pos
  have short := List.drop_eq_nil_iff.mp none.symm
  omega

/-- Behind the gap everything is retained. -/
lemma behind (retains : c.Retains place skipped retained) :
    c.Retains (place + skipped) 0 retained := by
  obtain ⟨unread, unreads, rfl, rfl⟩ := retains
  have near : (unread.drop (unread.length - c.slots)).length - c.slots = 0 := by
    rw [List.length_drop]
    omega
  exact ⟨_, unreads.drop (Nat.sub_le _ _), near.symm, rfl⟩

/-- Behind the first event the others are retained. -/
lemma next {a : α} (retains : c.Retains place 0 (a :: retained)) :
    c.Retains (place + 1) 0 retained := by
  obtain ⟨unread, unreads, near, all⟩ := retains
  obtain rfl : unread = a :: retained := all.symm
  rw [List.length_cons] at near
  exact ⟨retained, unreads.drop (n := 1) (by simp), by omega, rfl⟩

/-- Whoever has been overtaken is told by how much, and moves up. -/
lemma read_gap (retains : c.Retains place skipped retained) (gap : skipped ≠ 0) :
    c.read place = (.lagged skipped, place + skipped) := by
  obtain ⟨unread, unreads, rfl, rfl⟩ := retains
  rw [unreads.read_eq, if_pos (by omega)]

/-- Whoever has read all reads nothing. -/
lemma read_nil (retains : c.Retains place 0 []) : c.read place = (.nothing, place) := by
  obtain ⟨unread, unreads, near, none⟩ := retains
  obtain rfl : unread = [] := none.symm
  rw [unreads.read_eq, if_neg (by omega)]

/-- Whoever was not overtaken reads the next item. -/
lemma read_cons {a : α} (retains : c.Retains place 0 (a :: retained)) :
    c.read place = (.item a, place + 1) := by
  obtain ⟨unread, unreads, near, all⟩ := retains
  obtain rfl : unread = a :: retained := all.symm
  rw [unreads.read_eq, if_neg (by omega)]

/-- Whoever has read all reads nothing and skips nothing. -/
lemma readOver_nil (retains : c.Retains place 0 []) : c.readOver place = (0, .nothing, place) := by
  rw [readOver, retains.read_nil]

/-- Whoever was overtaken skips what was lost, and reads the oldest that is retained. -/
lemma readOver_cons {a : α} (retains : c.Retains place skipped (a :: retained)) :
    c.readOver place = (skipped, .item a, place + skipped + 1) := by
  unfold readOver
  by_cases gap : skipped = 0
  · subst gap
    rw [retains.read_cons]
  · rw [retains.read_gap gap]
    exact congrArg (Prod.mk skipped) retains.behind.read_cons

end Retains

end WalletNotify.Hub.Channel
