import Mathlib.Data.List.TakeWhile
import WalletNotify.Proofs.Hub.History

/-!
# Events after closing

Closing a hub is meant to end its streams, so that no stream gives an event that was published
later. It does not: a stream that has its turn for the events is given a late one, if its channel
keeps no earlier event for it. Main statement: `givesLate_iff`, when exactly a poll does so.
-/

namespace WalletNotify.Hub

open Event (EventClass Published)

/-- The events of a class that were published before the hub was first closed. -/
def early (c : EventClass) (entries : List Entry) : List Published :=
  published c (entries.takeWhile fun x => !x.closes)

/-- The events of a class that were published since the hub was first closed. -/
def late (c : EventClass) (entries : List Entry) : List Published :=
  published c (entries.dropWhile fun x => !x.closes)

/-- After a run a poll of a stream gives an event that was published since the hub was first closed:
among the events of its class, the given one has a place behind the early ones. Its place is told by
where the stream began, what it has passed over, and what the poll skips. -/
def GivesLate (h : Hub) (ops : List Operation) (id : Nat) (c : EventClass) : Prop :=
  let entries := h.history ops
  ∃ skipped e place, ((h.after ops).step (.poll id)).1 = .polled skipped (.item e) ∧
    place = (published c (untilOpened id entries)).length + passed (notices id entries) + skipped ∧
    (published c entries)[place]? = some e ∧
    (early c entries).length ≤ place

variable {h : Hub} {c : EventClass} {entries : List Entry} {ops : List Operation} {id : Nat}

/-- What is published is early or late. -/
lemma early_append_late (c : EventClass) (entries : List Entry) :
    early c entries ++ late c entries = published c entries := by
  rw [early, late, ← published_append, List.takeWhile_append_dropWhile]

/-- Once something is late, the hub was closed. -/
lemma closes_of_late (pos : 0 < (late c entries).length) : entries.any Entry.closes = true := by
  by_contra opened
  have none : entries.dropWhile (fun x => !x.closes) = [] := by
    rw [List.dropWhile_eq_nil_iff]
    intro x mem
    simpa using List.any_eq_false.mp (Bool.eq_false_of_not_eq_true opened) x mem
  rw [late, none] at pos
  exact absurd pos (Nat.lt_irrefl 0)

/-- A poll that gives an event gives a late one exactly if its place is behind the early ones. -/
lemma givesLate_iff_of_item {n place : Nat} {e : Published}
    (answer : ((h.after ops).step (.poll id)).1 = .polled n (.item e))
    (place_eq : place =
      (published c (untilOpened id (h.history ops))).length + passed (notices id (h.history ops)))
    (found : (published c (h.history ops))[place + n]? = some e) :
    GivesLate h ops id c ↔ (early c (h.history ops)).length ≤ place + n := by
  subst place_eq
  constructor
  · rintro ⟨_, _, _, eq, rfl, -, le⟩
    cases answer.symm.trans eq
    exact le
  · exact fun le => ⟨n, e, _, answer, rfl, found, le⟩

/-- A poll that gives no event gives no late one. -/
lemma not_givesLate {n : Nat} {given : Polled}
    (answer : ((h.after ops).step (.poll id)).1 = .polled n given) (ne : ∀ e, given ≠ .item e) :
    ¬ GivesLate h ops id c := by
  rintro ⟨_, e, _, eq, -⟩
  cases answer.symm.trans eq
  exact ne e rfl

/-- The last events are late ones exactly if the hub was closed and there are as many late ones. -/
lemma early_le_iff {k : Nat} (pos : 0 < k) (le : k ≤ (published c entries).length) :
    (early c entries).length ≤ (published c entries).length - k ↔
      entries.any Entry.closes = true ∧ k ≤ (late c entries).length := by
  have parts := congrArg List.length (early_append_late c entries)
  rw [List.length_append] at parts
  constructor
  · intro before
    exact ⟨closes_of_late (c := c) (by omega), by omega⟩
  · rintro ⟨-, within⟩
    omega

/-- A poll that gives the first of the last events gives a late one exactly if the hub was closed
and there are as many late ones. -/
lemma givesLate_iff_of_last {n place k : Nat} {e : Published}
    (answer : ((h.after ops).step (.poll id)).1 = .polled n (.item e))
    (place_eq : place =
      (published c (untilOpened id (h.history ops))).length + passed (notices id (h.history ops)))
    (found : (published c (h.history ops))[place + n]? = some e) (pos : 0 < k)
    (le : k ≤ (published c (h.history ops)).length)
    (last : place + n = (published c (h.history ops)).length - k) :
    GivesLate h ops id c ↔
      (h.history ops).any Entry.closes = true ∧ k ≤ (late c (h.history ops)).length := by
  rw [givesLate_iff_of_item answer place_eq found, last]
  exact early_le_iff pos le

/-- A poll gives a late event exactly if the hub is closed, the stream has not ended, the events
have their turn, and the events that are unread and kept are late ones only. -/
theorem givesLate_iff (capacity : Nat) (ops : List Operation) {id : Nat} {c : EventClass}
    {place : Nat} {first ended : Bool}
    (there : ((new capacity).after ops).observer? id = some (.stream c place first ended)) :
    let entries := (new capacity).history ops
    let unread := (published c (sinceOpened id entries)).length - passed (notices id entries)
    GivesLate (new capacity) ops id c ↔
      entries.any Entry.closes = true ∧ (∀ n, .polled n .ended ∉ answers id entries) ∧
        (answers id entries).length % 2 = 0 ∧ 0 < unread ∧
        min (slotsFor capacity) unread ≤ (late c entries).length := by
  intro entries unread
  have record : Recorded capacity entries ((new capacity).after ops) := recorded capacity ops
  have accounts := record.accounts id _ c place there rfl
  obtain ⟨turn, ended_iff⟩ := record.turns id c place first ended there
  have slots := record.slots c
  have pos := slotsFor_pos capacity
  have place_eq := accounts.place_eq
  have place_le := accounts.place_le
  have unread_eq : unread = (published c entries).length - place := by
    have since := congrArg List.length (published_until_append_since c id entries)
    rw [List.length_append] at since
    omega
  cases ended with
  | true =>
    -- A stream that has ended gives nothing, and some poll has told so.
    have answer : (((new capacity).after ops).step (.poll id)).1 = .polled 0 .ended := by
      simp only [Hub.step, there]
    obtain ⟨n, mem⟩ := ended_iff.mp rfl
    refine iff_of_false (not_givesLate answer fun _ => Polled.noConfusion) ?_
    rintro ⟨_, going, _⟩
    exact going n mem
  | false =>
    have going : ∀ n, .polled n .ended ∉ answers id entries := by
      intro n mem
      exact Bool.false_ne_true (ended_iff.mpr ⟨n, mem⟩)
    have answer : (((new capacity).after ops).step (.poll id)).1 =
        .polled (((new capacity).after ops).pollStream c place first).1
          (((new capacity).after ops).pollStream c place first).2.1 := by
      simp only [Hub.step, there]
    rw [and_iff_right going, ← turn rfl]
    rcases pollStream_cases (record.holds c) place_le first with ⟨-, flag, polled⟩ |
      ⟨e, turned, behind, -, found, polled⟩ | ⟨e, turned, near, found, polled⟩ | ⟨-, atEnd, polled⟩
    · -- The flag has its turn and ends the stream.
      rw [polled] at answer
      refine iff_of_false (not_givesLate answer fun _ => Polled.noConfusion) ?_
      rintro ⟨_, events, _⟩
      exact Bool.false_ne_true (flag.symm.trans events)
    · -- The stream is too far behind: what is kept are the last events, as many as there are slots.
      rw [polled, slots] at answer
      rw [slots] at behind found
      have place' : place + ((published c entries).length - place - slotsFor capacity) =
          (published c entries).length - slotsFor capacity := by omega
      have few : min (slotsFor capacity) unread = slotsFor capacity := by omega
      have within : slotsFor capacity ≤ (published c entries).length := by omega
      rw [givesLate_iff_of_last answer place_eq (place' ▸ found) pos within place', few]
      apply and_congr_right
      intro closed
      exact ⟨fun le => ⟨turned (record.closed.trans closed), by omega, le⟩, fun rest => rest.2.2⟩
    · -- All unread events are kept.
      rw [polled] at answer
      rw [slots] at near
      have inside := (List.getElem?_eq_some_iff.mp found).1
      have place' : place + 0 = (published c entries).length - unread := by omega
      have all : min (slotsFor capacity) unread = unread := by omega
      have more : 0 < unread := by omega
      have within : unread ≤ (published c entries).length := by omega
      rw [givesLate_iff_of_last answer place_eq found more within place', all]
      apply and_congr_right
      intro closed
      exact ⟨fun le => ⟨turned (record.closed.trans closed), more, le⟩, fun rest => rest.2.2⟩
    · -- Nothing is unread.
      rw [polled] at answer
      refine iff_of_false (not_givesLate answer fun e => ?_) ?_
      · split <;> exact Polled.noConfusion
      · rintro ⟨_, _, more, _⟩
        omega

/-- A stream with two slots that was opened before the hub was closed is given a late event as soon
as two of them have overtaken an early one. -/
theorem givesLate_iff_overtaken :
    let overtaken : List Operation :=
      .openStream 0 .unspents :: .publish 0 (.unspents ⟨none, []⟩) :: .close 0 ::
        List.replicate 2 (.publish 0 (.unspents ⟨none, []⟩))
    ((new 2).after overtaken).observer? 1 = some (.stream .unspents 0 true false) ∧
      GivesLate (new 2) overtaken 1 .unspents := by
  intro overtaken
  have there : ((new 2).after overtaken).observer? 1 = some (.stream .unspents 0 true false) := by
    decide
  exact ⟨there, (givesLate_iff 2 overtaken there).mpr ⟨by decide, fun _ => List.not_mem_nil,
    by decide, by decide, by decide⟩⟩

/-- Streams do give late events: one that was opened after the hub was closed gives what is
published then. -/
theorem late_event_is_given :
    ¬ ∀ (capacity : Nat) (ops : List Operation) (id : Nat) (c : EventClass),
      ¬ GivesLate (new capacity) ops id c := by
  intro never
  refine never 8 [.close 0, .openStream 0 .unspents, .publish 0 (.unspents ⟨none, []⟩)] 1 .unspents
    ⟨0, .unspents ⟨none, []⟩, 0, ?_, ?_, ?_, ?_⟩ <;> decide

end WalletNotify.Hub
