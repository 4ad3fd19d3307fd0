import WalletNotify.Proofs.Hub.Step

/-!
# What a poll gives

A stream and a receiver read the channel of their class. Main statements: all that a poll may give
on a channel that holds these events (`pollStream_cases`), the same for a receiver
(`receive_cases`), and that what they answer keeps the account of the reader (`Accounts.poll`,
`Accounts.receive`).
-/

namespace WalletNotify.Hub

open Event (EventClass Published)

variable {h : Hub} {c : EventClass} {events : List Published} {place : Nat}

/-- A poll ends at the flag if the flag has its turn. Otherwise a stream that is too far behind is
given the oldest kept event over a gap, another one the event at its place; where none is left it
waits, or ends if the hub is closed or nobody can publish. -/
lemma pollStream_cases (holds : (h.channel c).Holds events) (le : place ≤ events.length)
    (first : Bool) :
    (h.isClosed = true ∧ first = false ∧
      h.pollStream c place first = (0, .ended, .stream c place (!first) true)) ∨
    (∃ a, (h.isClosed = true → first = true) ∧ (h.channel c).slots < events.length - place ∧
      (h.channel c).kept.head? = some a ∧ events[events.length - (h.channel c).slots]? = some a ∧
      h.pollStream c place first =
        (events.length - place - (h.channel c).slots, .item a,
          .stream c (events.length - (h.channel c).slots + 1) (!first) false)) ∨
    (∃ a, (h.isClosed = true → first = true) ∧ events.length - place ≤ (h.channel c).slots ∧
      events[place]? = some a ∧
      h.pollStream c place first = (0, .item a, .stream c (place + 1) (!first) false)) ∨
    ((h.isClosed = true → first = true) ∧ place = events.length ∧
      h.pollStream c place first =
        (0, if h.isClosed || !h.isAlive then .ended else .pending,
          .stream c place (!first) (h.isClosed || !h.isAlive))) := by
  unfold pollStream
  split
  case isTrue turn =>
    simp only [Bool.and_eq_true, Bool.not_eq_true'] at turn
    exact .inl ⟨turn.1, turn.2, rfl⟩
  case isFalse turn =>
    have turn : h.isClosed = true → first = true := by simpa using turn
    right
    rcases holds.readOver_cases le with ⟨a, behind, head, found, read⟩ | ⟨a, near, found, read⟩ |
      ⟨atEnd, read⟩
    · refine .inl ⟨a, turn, behind, head, found, ?_⟩
      simp only [pollEvents, read]
    · refine .inr (.inl ⟨a, turn, near, found, ?_⟩)
      simp only [pollEvents, read]
    · refine .inr (.inr ⟨turn, atEnd, ?_⟩)
      simp only [pollEvents, read]
      cases h.isAlive <;> cases h.isClosed <;> rfl

/-- A poll changes the turn of a stream, and ends it if it says so. -/
lemma pollStream_turn (h : Hub) (c : EventClass) (place : Nat) (first : Bool) :
    ∃ place' ended, (h.pollStream c place first).2.2 = .stream c place' (!first) ended ∧
      (ended = true ↔ (h.pollStream c place first).2.1 = .ended) := by
  unfold pollStream
  split
  · exact ⟨_, _, rfl, by simp⟩
  · split
    · exact ⟨_, _, rfl, by simp⟩
    · split <;> exact ⟨_, _, rfl, by simp⟩
    · exact ⟨_, _, rfl, by simp⟩

/-- A receiver that is too far behind is told how many events it lost, another one is given the
event at its place; where none is left it is told whether somebody can publish. -/
lemma receive_cases (holds : (h.channel c).Holds events) (le : place ≤ events.length) :
    ((h.channel c).slots < events.length - place ∧
      h.receive c place =
        (.lagged (events.length - place - (h.channel c).slots),
          events.length - (h.channel c).slots)) ∨
    (∃ a, events.length - place ≤ (h.channel c).slots ∧ events[place]? = some a ∧
      h.receive c place = (.item a, place + 1)) ∨
    (place = events.length ∧
      h.receive c place = (if h.isAlive then .empty else .closed, place)) := by
  unfold receive
  rcases holds.read_cases le with ⟨behind, read⟩ | ⟨a, near, found, read⟩ | ⟨atEnd, read⟩
  · exact .inl ⟨behind, by simp only [read]⟩
  · exact .inr (.inl ⟨a, near, found, by simp only [read]⟩)
  · exact .inr (.inr ⟨atEnd, by simp only [read]⟩)

/-! ## Accounts of polls -/

variable {start : Nat} {notices : List (Notice Published)}

/-- A poll keeps the account of a stream. -/
lemma Accounts.poll (accounts : Accounts (h.channel c).slots events start place notices)
    (holds : (h.channel c).Holds events) {first : Bool} {c' : EventClass} {place' : Nat}
    (reads : (h.pollStream c place first).2.2.reading? = some (c', place')) :
    c' = c ∧ Accounts (h.channel c).slots events start place' (notices ++
      (Answer.polled (h.pollStream c place first).1 (h.pollStream c place first).2.1).notices) := by
  rcases pollStream_cases holds accounts.place_le first with ⟨-, -, polled⟩ |
    ⟨a, -, behind, -, found, polled⟩ | ⟨a, -, -, found, polled⟩ | ⟨-, -, polled⟩
  · rw [polled] at reads ⊢
    cases reads
    exact ⟨rfl, by simpa [Answer.notices, skips] using accounts⟩
  · rw [polled] at reads ⊢
    cases reads
    refine ⟨rfl, ?_⟩
    rw [Answer.notices, skips, if_neg (by omega), ← List.append_assoc]
    exact (accounts.overtake behind).give found
  · rw [polled] at reads ⊢
    cases reads
    exact ⟨rfl, accounts.give found⟩
  · rw [polled] at reads ⊢
    cases reads
    refine ⟨rfl, ?_⟩
    split <;> simpa [Answer.notices, skips] using accounts

/-- Receiving keeps the account of a receiver. -/
lemma Accounts.receive (accounts : Accounts (h.channel c).slots events start place notices)
    (holds : (h.channel c).Holds events) :
    Accounts (h.channel c).slots events start (h.receive c place).2
      (notices ++ (Answer.received (h.receive c place).1).notices) := by
  rcases receive_cases holds accounts.place_le with ⟨behind, received⟩ | ⟨a, -, found, received⟩ |
    ⟨-, received⟩
  · rw [received]
    exact accounts.overtake behind
  · rw [received]
    exact accounts.give found
  · rw [received]
    split <;> simpa [Answer.notices] using accounts

end WalletNotify.Hub
