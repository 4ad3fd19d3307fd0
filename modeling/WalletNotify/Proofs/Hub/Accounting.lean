import WalletNotify.Proofs.Hub.History

/-!
# Accounting for readers

What a stream or a receiver was told accounts for every event of its class since it was opened.
Main statement: `reader_balanced`. A reader is given events at increasing places of that list, what
lies between them was reported lost, and what was neither given nor reported lost is unread. It
loses events only if it is further behind than the channel keeps, and goes on at the oldest one.
-/

namespace WalletNotify.Hub

open Event (EventClass Published)

/-- How many events of its class a reader has yet to pass over. -/
def unread (h : Hub) (id : Nat) : Nat :=
  match (h.observer? id).bind Observer.reading? with
  | some (c, place) => (h.channel c).sent - place
  | none => 0

/-- What a reader was told accounts for these events, but for so many of them. -/
structure Balanced (events : List Published) (told : List (Notice Published)) (unread : Nat) :
    Prop where
  increasing : (placed 0 told).Pairwise fun p q => p.1 < q.1
  placed_eq : ∀ p ∈ placed 0 told, events[p.1]? = some p.2
  gap : ∀ before between rest a b, told = before ++ .given a :: (between ++ .given b :: rest) →
    (∀ x ∈ between, ∃ n, x = .skipped n) →
    ∃ p, (p, a) ∈ placed 0 told ∧ (p + 1 + lost between, b) ∈ placed 0 told
  total : (placed 0 told).length + lost told + unread = events.length

/-- An answer reports a skip only to a reader with more unread events than slots, and the excess
only; the event that follows a skip is the oldest that is kept. -/
structure Answer.Fair (a : Answer) (kept : List Published) (slots unread : Nat)
    (told : List (Notice Published)) : Prop where
  skips : ∀ n, .skipped n ∈ a.notices → slots < unread ∧ n = unread - slots
  resumes : ∀ ms e n, a.notices = ms ++ [.given e] → (told ++ ms).getLast? = some (.skipped n) →
    kept.head? = some e

variable {h : Hub} {c : EventClass} {events : List Published} {start place : Nat}
  {told : List (Notice Published)}

/-- An account from the beginning of a reader balances the events since then. -/
lemma Accounts.balanced {slots : Nat} {old : List Published}
    (accounts : Accounts slots (old ++ events) old.length place told) :
    Balanced events told ((old ++ events).length - place) where
  increasing := placed_pairwise 0 told
  placed_eq p mem := by
    have moved : (old.length + p.1, p.2) ∈ placed old.length told := by
      rw [← Nat.add_zero old.length, placed_add]
      exact List.mem_map_of_mem mem
    have found := accounts.placed_eq _ moved
    rwa [List.getElem?_append_right (Nat.le_add_right _ _), Nat.add_sub_cancel_left] at found
  gap before between rest a b e skips := by
    subst e
    exact placed_gap skips
  total := by
    have spans := length_placed_add_lost 0 told
    have place_eq := accounts.place_eq
    have place_le := accounts.place_le
    simp only [List.length_append] at place_le ⊢
    omega

/-- An answer without notices is fair. -/
lemma Answer.Fair.of_nil {a : Answer} {kept : List Published} {slots unread : Nat}
    (nil : a.notices = []) : a.Fair kept slots unread told := by
  refine ⟨fun n mem => ?_, fun ms e n eq => ?_⟩
  · rw [nil] at mem
    cases mem
  · rw [nil] at eq
    exact absurd eq.symm (List.append_ne_nil_of_right_ne_nil _ (List.cons_ne_nil _ _))

/-- An answer that gives an event at most, and that one after a skip only if it is the oldest kept
one, is fair. -/
lemma Answer.Fair.of_given {a : Answer} {e : Published} {kept : List Published}
    {slots unread : Nat} (given : a.notices = [.given e])
    (oldest : ∀ n, told.getLast? = some (.skipped n) → kept.head? = some e) :
    a.Fair kept slots unread told := by
  refine ⟨fun n mem => ?_, fun ms b n eq last => ?_⟩
  · rw [given] at mem
    cases List.mem_singleton.mp mem
  · rw [given] at eq
    obtain ⟨rfl, eq⟩ := List.append_inj' (show [] ++ [_] = _ from eq) rfl
    cases eq
    exact oldest n (by simpa using last)

/-- The event at the place of a reader that is not too far behind is the oldest kept one, if it was
just told of a skip. -/
lemma Accounts.head?_kept (accounts : Accounts (h.channel c).slots events start place told)
    (holds : (h.channel c).Holds events) (near : events.length - place ≤ (h.channel c).slots)
    {n : Nat} (last : told.getLast? = some (.skipped n)) :
    (h.channel c).kept.head? = events[place]? := by
  have left := accounts.resumes n last
  rw [holds.head?_kept, holds.oldest_eq, show events.length - (h.channel c).slots = place by omega]

/-- What a poll answers is fair. -/
lemma Accounts.poll_fair (accounts : Accounts (h.channel c).slots events start place told)
    (holds : (h.channel c).Holds events) (first : Bool) :
    (Answer.polled (h.pollStream c place first).1 (h.pollStream c place first).2.1).Fair
      (h.channel c).kept (h.channel c).slots (events.length - place) told := by
  rcases pollStream_cases holds accounts.place_le first with ⟨-, -, polled⟩ |
    ⟨a, -, behind, head, -, polled⟩ | ⟨a, -, near, found, polled⟩ | ⟨-, -, polled⟩
  · rw [polled]
    exact .of_nil rfl
  · rw [polled]
    have told_eq : (Answer.polled (events.length - place - (h.channel c).slots) (.item a)).notices =
        [.skipped (events.length - place - (h.channel c).slots), .given a] := by
      rw [Answer.notices, skips, if_neg (by omega)]
      rfl
    refine ⟨fun n mem => ?_, fun ms b n eq _ => ?_⟩
    · rw [told_eq] at mem
      rcases List.mem_cons.mp mem with eq | mem
      · cases eq
        exact ⟨behind, rfl⟩
      · cases List.mem_singleton.mp mem
    · rw [told_eq] at eq
      obtain ⟨-, eq⟩ := List.append_inj' (show [_] ++ [_] = _ from eq) rfl
      cases eq
      exact head
  · rw [polled]
    exact .of_given rfl fun n last => (accounts.head?_kept holds near last).trans found
  · rw [polled]
    split <;> exact .of_nil rfl

/-- What a receiver is answered is fair. -/
lemma Accounts.receive_fair (accounts : Accounts (h.channel c).slots events start place told)
    (holds : (h.channel c).Holds events) :
    (Answer.received (h.receive c place).1).Fair
      (h.channel c).kept (h.channel c).slots (events.length - place) told := by
  rcases receive_cases holds accounts.place_le with ⟨behind, received⟩ |
    ⟨a, near, found, received⟩ | ⟨-, received⟩
  · rw [received]
    refine ⟨fun n mem => ?_, fun ms b n eq _ => ?_⟩
    · cases List.mem_singleton.mp mem
      exact ⟨behind, rfl⟩
    · obtain ⟨-, eq⟩ := List.append_inj' (show [] ++ [_] = _ from eq) rfl
      cases eq
  · rw [received]
    exact .of_given rfl fun n last => (accounts.head?_kept holds near last).trans found
  · rw [received]
    split <;> exact .of_nil rfl

/-- After every run, what a stream or a receiver was told balances the events that were published in
its class since it was opened, and whatever it hears next is fair. The slots are the least power of
two that serves the capacity. -/
theorem reader_balanced (capacity : Nat) (ops : List Operation) {id : Nat} {ob : Observer}
    {c : EventClass} {place : Nat}
    (there : ((new capacity).after ops).observer? id = some ob)
    (reads : ob.reading? = some (c, place)) :
    let h := (new capacity).after ops
    let entries := (new capacity).history ops
    let events := published c (sinceOpened id entries)
    let told := notices id entries
    IsLeast {n | n.isPowerOfTwo ∧ max capacity 1 ≤ n} (slotsFor capacity) ∧
      (∀ e ∈ events, e.eventClass = c) ∧
      Balanced events told (h.unread id) ∧
      ∀ o a, Entry.heard? id (o, (h.step o).1) = some a →
        a.Fair (h.channel c).kept (slotsFor capacity) (h.unread id) told := by
  intro h entries events told
  have record := recorded capacity ops
  have holds := record.holds c
  have accounts := record.accounts id ob c place there reads
  have unread_eq : h.unread id = (published c entries).length - place := by
    rw [unread, show h.observer? id = some ob from there, Option.bind_some, reads, ← holds.sent_eq]
  refine ⟨slotsFor_isLeast capacity, fun e mem => eventClass_of_mem_published mem, ?_, ?_⟩
  · -- The account places events among all of the class; those before the reader come off.
    rw [unread_eq, ← published_until_append_since c id]
    rw [← published_until_append_since c id] at accounts
    exact accounts.balanced
  · intro o a heard
    rw [← record.slots c] at accounts ⊢
    rw [unread_eq]
    cases hears_of_heard heard with
    | poll was =>
      obtain rfl := Option.some.inj (was.symm.trans there)
      cases reads
      exact accounts.poll_fair holds _
    | pollEnded => exact .of_nil rfl
    | receive was =>
      obtain rfl := Option.some.inj (was.symm.trans there)
      cases reads
      exact accounts.receive_fair holds
    | look was =>
      obtain rfl := Option.some.inj (was.symm.trans there)
      cases reads

/-- A stream with four slots that was six events behind has lost two, and was given the third. -/
theorem reader_balanced_after_lag :
    let lag : List Operation := .openStream 0 .unspents ::
      (List.replicate 6 (.publish 0 (.unspents ⟨none, []⟩)) ++ [.poll 1])
    ((new 3).after lag).observer? 1 = some (.stream .unspents 3 false false) ∧
      notices 1 ((new 3).history lag) = [.skipped 2, .given (.unspents ⟨none, []⟩)] ∧
      Balanced (published .unspents (sinceOpened 1 ((new 3).history lag)))
        (notices 1 ((new 3).history lag)) 3 := by
  intro lag
  have there : ((new 3).after lag).observer? 1 = some (.stream .unspents 3 false false) := by
    decide
  exact ⟨there, by decide, (reader_balanced 3 lag there rfl).2.2.1⟩

end WalletNotify.Hub
