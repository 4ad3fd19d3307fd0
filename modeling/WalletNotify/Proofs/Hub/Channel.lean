import Mathlib.Algebra.GroupWithZero.Nat
import Mathlib.Order.Bounds.Basic
import Mathlib.Tactic.Lemma
import WalletNotify.Hub.Channel

/-!
# Reading from a channel

A channel `Holds` the events that were sent to it: it keeps the latest of them, as many as it has
slots. A reader's `Notice`s are the events it was given and the numbers of events it was told it
lost; `Accounts` says that they pass over the sent events one by one from where the reader began.
Main statements: what a read finds (`Holds.read_cases`, `Holds.readOver_cases`), and what keeps an
account (`Accounts.give`, `Accounts.overtake`).
-/

namespace WalletNotify.Hub

variable {α : Type}

/-- A channel keeps the least power of two events that serves the capacity. -/
lemma slotsFor_isLeast (capacity : Nat) :
    IsLeast {n | n.isPowerOfTwo ∧ max capacity 1 ≤ n} (slotsFor capacity) := by
  unfold slotsFor
  split
  case isTrue h =>
    refine ⟨⟨Nat.isPowerOfTwo_one, by omega⟩, ?_⟩
    rintro n ⟨-, le⟩
    omega
  case isFalse h =>
    have above : capacity - 1 < 2 ^ ((capacity - 1).log2 + 1) := Nat.lt_log2_self
    have below : 2 ^ (capacity - 1).log2 ≤ capacity - 1 := Nat.log2_self_le (by omega)
    refine ⟨⟨⟨_, rfl⟩, by omega⟩, ?_⟩
    rintro _ ⟨⟨k, rfl⟩, le⟩
    -- The power of two before the kept one is below the capacity, so no other lies in between.
    have lt : 2 ^ (capacity - 1).log2 < 2 ^ k := by omega
    exact Nat.pow_le_pow_right (by omega) ((Nat.pow_lt_pow_iff_right (by omega)).mp lt)

/-- A channel keeps one event at least. -/
lemma slotsFor_pos (capacity : Nat) : 0 < slotsFor capacity :=
  Nat.pos_of_isPowerOfTwo (slotsFor_isLeast capacity).1.1

/-! ## What a channel holds -/

/-- A channel that these events were sent to, in order. -/
structure Channel.Holds (c : Channel α) (events : List α) : Prop where
  slots_pos : 0 < c.slots
  sent_eq : c.sent = events.length
  kept_eq : c.kept = events.drop (events.length - c.slots)

namespace Channel

/-- A new channel holds nothing. -/
lemma holds_new (capacity : Nat) : (new capacity : Channel α).Holds [] :=
  ⟨slotsFor_pos capacity, rfl, List.drop_nil.symm⟩

/-- Sending makes no room. -/
@[simp] lemma slots_send (c : Channel α) (a : α) : (c.send a).slots = c.slots := rfl

variable {c : Channel α} {events : List α} {place : Nat}

/-- Sending puts an event behind the others. -/
lemma Holds.send (holds : c.Holds events) (a : α) : (c.send a).Holds (events ++ [a]) := by
  obtain ⟨pos, sent, kept⟩ := holds
  refine ⟨pos, by simp [Channel.send, sent], ?_⟩
  have short : events.length - c.slots ≤ events.length := by omega
  simp only [Channel.send, kept, ← List.drop_append_of_le_length short, List.drop_drop]
  congr 1
  simp only [List.length_drop, List.length_append, List.length_singleton]
  omega

/-- Sending several events puts them behind the others in order. -/
lemma Holds.sendAll (holds : c.Holds events) (more : List α) :
    (more.foldl Channel.send c).Holds (events ++ more) := by
  induction more generalizing c events with
  | nil => simpa using holds
  | cons a rest ih => simpa using ih (holds.send a)

/-- Sending more makes no room either. -/
@[simp] lemma slots_sendAll (c : Channel α) (more : List α) :
    (more.foldl Channel.send c).slots = c.slots := by
  induction more generalizing c with
  | nil => rfl
  | cons a rest ih => rw [List.foldl_cons, ih, slots_send]

/-- The oldest kept event is as many places behind the end as there are slots. -/
lemma Holds.oldest_eq (holds : c.Holds events) : c.oldest = events.length - c.slots := by
  simp only [oldest, holds.sent_eq, holds.kept_eq, List.length_drop]
  omega

/-- Behind the oldest kept event, the kept events are the sent ones. -/
lemma Holds.getElem?_kept (holds : c.Holds events) (le : c.oldest ≤ place) :
    c.kept[place - c.oldest]? = events[place]? := by
  rw [holds.kept_eq, List.getElem?_drop, ← holds.oldest_eq, Nat.add_sub_cancel' le]

/-- The first kept event is at the oldest place. -/
lemma Holds.head?_kept (holds : c.Holds events) : c.kept.head? = events[c.oldest]? := by
  rw [List.head?_eq_getElem?, ← holds.getElem?_kept le_rfl, Nat.sub_self]

/-- A reader loses what it is further behind than there are slots, is given the event at its place,
or finds nothing at the end. -/
lemma Holds.read_cases (holds : c.Holds events) (le : place ≤ events.length) :
    (c.slots < events.length - place ∧
      c.read place = (.lagged (events.length - place - c.slots), events.length - c.slots)) ∨
    (∃ a, events.length - place ≤ c.slots ∧ events[place]? = some a ∧
      c.read place = (.item a, place + 1)) ∨
    (place = events.length ∧ c.read place = (.nothing, place)) := by
  have oldest := holds.oldest_eq
  unfold read
  split
  case isTrue behind =>
    refine .inl ⟨by omega, ?_⟩
    rw [oldest, show events.length - c.slots - place = events.length - place - c.slots by omega]
  case isFalse near =>
    rw [holds.getElem?_kept (by omega)]
    cases found : events[place]? with
    | some a => exact .inr (.inl ⟨a, by omega, rfl, rfl⟩)
    | none => exact .inr (.inr ⟨le_antisymm le (List.getElem?_eq_none_iff.mp found), rfl⟩)

/-- Reading over a gap, a reader is given the oldest kept event behind it. -/
lemma Holds.readOver_cases (holds : c.Holds events) (le : place ≤ events.length) :
    (∃ a, c.slots < events.length - place ∧ c.kept.head? = some a ∧
      events[events.length - c.slots]? = some a ∧
      c.readOver place =
        (events.length - place - c.slots, .item a, events.length - c.slots + 1)) ∨
    (∃ a, events.length - place ≤ c.slots ∧ events[place]? = some a ∧
      c.readOver place = (0, .item a, place + 1)) ∨
    (place = events.length ∧ c.readOver place = (0, .nothing, place)) := by
  have pos := holds.slots_pos
  unfold readOver
  rcases holds.read_cases le with ⟨behind, read⟩ | ⟨a, near, found, read⟩ | ⟨atEnd, read⟩
  · -- The reader goes on at the oldest kept event, and there is one as there is a slot.
    have le' : events.length - c.slots ≤ events.length := by omega
    rcases holds.read_cases le' with ⟨behind', -⟩ | ⟨a, -, found, read'⟩ | ⟨atEnd, -⟩
    · omega
    · refine .inl ⟨a, behind, ?_, found, ?_⟩
      · rw [holds.head?_kept, holds.oldest_eq, found]
      · rw [read]
        simp only [read']
    · omega
  · refine .inr (.inl ⟨a, near, found, ?_⟩)
    rw [read]
  · refine .inr (.inr ⟨atEnd, ?_⟩)
    rw [read]

end Channel

/-! ## What a reader is told -/

/-- What a reader is told of the events of a channel. -/
inductive Notice (α : Type) where
  | given (event : α)
  | skipped (count : Nat)
deriving DecidableEq, Repr

/-- How many events a notice passes over. -/
def Notice.span : Notice α → Nat
  | given _ => 1
  | skipped n => n

/-- How many events are reported lost. -/
def Notice.lost : Notice α → Nat
  | given _ => 0
  | skipped n => n

/-- The event that is given. -/
def Notice.event? : Notice α → Option α
  | given a => some a
  | skipped _ => none

/-- The events that notices give, in order. -/
def given (notices : List (Notice α)) : List α := notices.filterMap Notice.event?

/-- How many events notices pass over. -/
def passed (notices : List (Notice α)) : Nat := (notices.map Notice.span).sum

/-- How many events notices report lost. -/
def lost (notices : List (Notice α)) : Nat := (notices.map Notice.lost).sum

/-- The given events with their places, for a reader that begins at a place: every given event is
one place on, every skip as many as it reports. -/
def placed (place : Nat) : List (Notice α) → List (Nat × α)
  | [] => []
  | .given a :: rest => (place, a) :: placed (place + 1) rest
  | .skipped n :: rest => placed (place + n) rest

/-- The report of a skip; none of a skip of nothing. -/
def skips (n : Nat) : List (Notice α) := if n = 0 then [] else [.skipped n]

/-- Notices one after another pass what each of them passes. -/
@[simp] lemma passed_append (ns ms : List (Notice α)) :
    passed (ns ++ ms) = passed ns + passed ms := by
  simp [passed]

/-- Later notices begin where the earlier ones end. -/
lemma placed_append (place : Nat) (ns ms : List (Notice α)) :
    placed place (ns ++ ms) = placed place ns ++ placed (place + passed ns) ms := by
  induction ns generalizing place with
  | nil => rfl
  | cons n rest ih =>
    cases n with
    | given a => simp [placed, passed, Notice.span, ih, Nat.add_assoc]
    | skipped k => simp [placed, passed, Notice.span, ih, Nat.add_assoc]

/-- Beginning further on moves every place. -/
lemma placed_add (place k : Nat) (ns : List (Notice α)) :
    placed (place + k) ns = (placed k ns).map fun p => (place + p.1, p.2) := by
  induction ns generalizing k with
  | nil => rfl
  | cons n rest ih =>
    cases n with
    | given a => simp [placed, Nat.add_assoc, ih]
    | skipped j => simp [placed, Nat.add_assoc, ih]

/-- No given event is placed before the beginning. -/
lemma le_of_mem_placed {place : Nat} {ns : List (Notice α)} {p : Nat × α}
    (mem : p ∈ placed place ns) : place ≤ p.1 := by
  induction ns generalizing place with
  | nil => cases mem
  | cons n rest ih =>
    cases n with
    | given a =>
      rcases List.mem_cons.mp mem with rfl | mem
      · exact le_rfl
      · exact Nat.le_of_succ_le (ih mem)
    | skipped k => exact Nat.le_of_add_right_le (ih mem)

/-- The places of the given events strictly increase. -/
lemma placed_pairwise (place : Nat) (ns : List (Notice α)) :
    (placed place ns).Pairwise fun p q => p.1 < q.1 := by
  induction ns generalizing place with
  | nil => exact .nil
  | cons n rest ih =>
    cases n with
    | given a => exact .cons (fun q mem => le_of_mem_placed mem) (ih _)
    | skipped k => exact ih _

/-- Between two given events lie those that were reported lost in between. -/
lemma placed_gap {place : Nat} {before between rest : List (Notice α)} {a b : α}
    (skips : ∀ x ∈ between, ∃ n, x = .skipped n) :
    ∃ p, (p, a) ∈ placed place (before ++ .given a :: (between ++ .given b :: rest)) ∧
      (p + 1 + lost between, b) ∈
        placed place (before ++ .given a :: (between ++ .given b :: rest)) := by
  have span : passed between = lost between := by
    unfold passed lost
    congr 1
    refine List.map_congr_left fun x mem => ?_
    obtain ⟨n, rfl⟩ := skips x mem
    rfl
  refine ⟨place + passed before, ?_, ?_⟩
  · simp [placed_append, placed]
  · simp [placed_append, placed, span]

/-- What notices pass over was given or is reported lost. -/
lemma length_placed_add_lost (place : Nat) (ns : List (Notice α)) :
    (placed place ns).length + lost ns = passed ns := by
  induction ns generalizing place with
  | nil => rfl
  | cons n rest ih =>
    cases n with
    | given a =>
      have rest := ih (place + 1)
      simp only [placed, lost, passed, List.length_cons, List.map_cons, List.sum_cons, Notice.lost,
        Notice.span] at rest ⊢
      omega
    | skipped k =>
      have rest := ih (place + k)
      simp only [placed, lost, passed, List.map_cons, List.sum_cons, Notice.lost,
        Notice.span] at rest ⊢
      omega

/-- The notices of a reader that began at a place account for the events from there up to the place
it has come to: every given event is the one at its place. After a skip a channel's worth of events
is left at least. -/
structure Accounts (slots : Nat) (events : List α) (start place : Nat)
    (notices : List (Notice α)) : Prop where
  place_eq : place = start + passed notices
  place_le : place ≤ events.length
  placed_eq : ∀ p ∈ placed start notices, events[p.1]? = some p.2
  resumes : ∀ n, notices.getLast? = some (.skipped n) → place + slots ≤ events.length

namespace Accounts

variable {slots : Nat} {events : List α} {start place : Nat} {notices : List (Notice α)}

/-- A reader that begins at the end has nothing to account for. -/
lemma atEnd (slots : Nat) (events : List α) :
    Accounts slots events events.length events.length [] :=
  ⟨rfl, le_rfl, nofun, nofun⟩

/-- Events that are sent leave an account as it is. -/
lemma sent (accounts : Accounts slots events start place notices) (more : List α) :
    Accounts slots (events ++ more) start place notices := by
  have longer : events.length ≤ (events ++ more).length := by simp
  refine ⟨accounts.place_eq, accounts.place_le.trans longer, fun p mem => ?_, fun n last => ?_⟩
  · have found := accounts.placed_eq p mem
    rw [List.getElem?_append_left (List.getElem?_eq_some_iff.mp found).1, found]
  · exact (accounts.resumes n last).trans longer

/-- Giving the next event keeps an account. -/
lemma give (accounts : Accounts slots events start place notices) {a : α}
    (found : events[place]? = some a) :
    Accounts slots events start (place + 1) (notices ++ [.given a]) := by
  obtain ⟨place_eq, -, placed_eq, -⟩ := accounts
  refine ⟨by simp [place_eq, passed, Notice.span, Nat.add_assoc], ?_, fun p mem => ?_, ?_⟩
  · exact (List.getElem?_eq_some_iff.mp found).1
  · rw [placed_append, ← place_eq] at mem
    rcases List.mem_append.mp mem with mem | mem
    · exact placed_eq p mem
    · rw [List.mem_singleton.mp mem, found]
  · simp

/-- Reporting what was overtaken keeps an account: it goes on at the oldest of the latest events. -/
lemma overtake (accounts : Accounts slots events start place notices)
    (behind : slots < events.length - place) :
    Accounts slots events start (events.length - slots)
      (notices ++ [.skipped (events.length - place - slots)]) := by
  obtain ⟨place_eq, -, placed_eq, -⟩ := accounts
  refine ⟨?_, by omega, fun p mem => placed_eq p ?_, fun _ _ => by omega⟩
  · rw [passed_append, ← Nat.add_assoc, ← place_eq]
    simp only [passed, List.map_singleton, List.sum_singleton, Notice.span]
    omega
  · simpa [placed_append, placed] using mem

end Accounts

end WalletNotify.Hub
