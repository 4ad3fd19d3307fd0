import WalletNotify.Proofs.Hub.Poll
import WalletNotify.Proofs.Run

/-!
# Histories

The history of a run tells all that its observers know. `Recorded` relates it to the hub that the
run ends with: what the channels hold, whether the flag is set, and what every reader has been told.
Main statement: every run is recorded (`recorded`).
-/

namespace WalletNotify.Hub

open Event (EventClass Published)

/-- The hub after a run. -/
def after (h : Hub) (ops : List Operation) : Hub := (h.run ops).2

/-- The operations of a run with their answers. -/
def history (h : Hub) (ops : List Operation) : List Entry := ops.zip (h.run ops).1

/-- The runs of a hub are runs. -/
lemma isRun : IsRun step run := ⟨fun _ => rfl, fun _ _ _ => rfl⟩

/-! ## What a history tells -/

/-- What an observer has heard. -/
def answers (id : Nat) (entries : List Entry) : List Answer := entries.filterMap (Entry.heard? id)

/-- What a reader has been told of its events. -/
def notices (id : Nat) (entries : List Entry) : List (Notice Published) :=
  (answers id entries).flatMap Answer.notices

/-- Whether an observer was ever opened. -/
def WasOpened (id : Nat) (entries : List Entry) : Prop := ∃ x ∈ entries, x.2 = .opened id

/-- The history before an observer was opened. -/
def untilOpened (id : Nat) : List Entry → List Entry
  | [] => []
  | x :: rest => if x.2 = .opened id then [] else x :: untilOpened id rest

/-- The history since an observer was opened. -/
def sinceOpened (id : Nat) : List Entry → List Entry
  | [] => []
  | x :: rest => if x.2 = .opened id then rest else sinceOpened id rest

/-- What is published is published before an observer is opened or since. -/
lemma published_until_append_since (c : EventClass) (id : Nat) (entries : List Entry) :
    published c (untilOpened id entries) ++ published c (sinceOpened id entries) =
      published c entries := by
  induction entries with
  | nil => rfl
  | cons x rest ih =>
    unfold untilOpened sinceOpened
    split
    case isTrue e =>
      obtain ⟨o, a⟩ := x
      cases (e : a = _)
      cases o <;> rfl
    case isFalse =>
      rw [← List.singleton_append, published_append, List.append_assoc, ih]
      exact (published_append c [x] rest).symm

/-- The beginning of an observer stays what it was. -/
lemma untilOpened_append {id : Nat} {entries : List Entry} (opened : WasOpened id entries)
    (more : List Entry) : untilOpened id (entries ++ more) = untilOpened id entries := by
  induction entries with
  | nil => obtain ⟨x, mem, -⟩ := opened; cases mem
  | cons x rest ih =>
    simp only [List.cons_append, untilOpened]
    split
    case isTrue => rfl
    case isFalse ne =>
      obtain ⟨y, mem, e⟩ := opened
      rcases List.mem_cons.mp mem with rfl | mem
      · exact absurd e ne
      · rw [ih ⟨y, mem, e⟩]

/-- An observer that was never opened has all of the history before it. -/
lemma untilOpened_append_of_new {id : Nat} {entries : List Entry} (new : ¬ WasOpened id entries)
    (more : List Entry) : untilOpened id (entries ++ more) = entries ++ untilOpened id more := by
  induction entries with
  | nil => rfl
  | cons x rest ih =>
    simp only [List.cons_append, untilOpened]
    split
    case isTrue e => exact absurd ⟨x, List.mem_cons_self, e⟩ new
    case isFalse =>
      rw [ih fun ⟨y, mem, e⟩ => new ⟨y, List.mem_cons_of_mem _ mem, e⟩]

/-- One more entry adds the answer that an observer hears in it. -/
lemma answers_concat (id : Nat) (entries : List Entry) (x : Entry) :
    answers id (entries ++ [x]) = answers id entries ++ (Entry.heard? id x).toList := by
  simp only [answers, List.filterMap_append, List.filterMap_cons, List.filterMap_nil]
  cases Entry.heard? id x <;> rfl

/-- One more entry adds the notices in the answer that an observer hears in it. -/
lemma notices_concat (id : Nat) (entries : List Entry) (x : Entry) :
    notices id (entries ++ [x]) =
      notices id entries ++ (Entry.heard? id x).toList.flatMap Answer.notices := by
  rw [notices, answers_concat, List.flatMap_append, notices]

/-! ## Recorded runs -/

/-- What a stream has heard tells whether it has ended, and if not, whose turn it is: every poll
changes the turn, and the first one is for the events. -/
structure Turns (first ended : Bool) (heard : List Answer) : Prop where
  turn : ended = false → (first = true ↔ heard.length % 2 = 0)
  ended_iff : ended = true ↔ ∃ n, .polled n .ended ∈ heard

/-- What a history says of the hub that its run ends with. -/
structure Recorded (capacity : Nat) (entries : List Entry) (h : Hub) : Prop where
  slots : ∀ c, (h.channel c).slots = slotsFor capacity
  holds : ∀ c, (h.channel c).Holds (published c entries)
  closed : h.isClosed = entries.any Entry.closes
  vacant : ∀ id, h.nextId ≤ id → h.observer? id = none
  unheard : ∀ id, h.nextId ≤ id → answers id entries = []
  unopened : ∀ id, h.nextId ≤ id → ¬ WasOpened id entries
  opened : ∀ id ob, h.observer? id = some ob → WasOpened id entries
  accounts : ∀ id ob c place, h.observer? id = some ob → ob.reading? = some (c, place) →
    Accounts (slotsFor capacity) (published c entries)
      (published c (untilOpened id entries)).length place (notices id entries)
  turns : ∀ id c place first ended, h.observer? id = some (.stream c place first ended) →
    Turns first ended (answers id entries)

namespace Recorded

variable {capacity : Nat} {entries : List Entry} {h : Hub}

/-- A new hub has no history. -/
lemma new (capacity : Nat) : Recorded capacity [] (new capacity) where
  slots c := by cases c <;> rfl
  holds c := by cases c <;> exact Channel.holds_new capacity
  closed := rfl
  vacant _ _ := rfl
  unheard _ _ := rfl
  unopened _ _ := fun ⟨_, mem, _⟩ => absurd mem List.not_mem_nil
  opened _ _ there := by cases there
  accounts _ _ _ _ there := by cases there
  turns _ _ _ _ _ there := by cases there

/-- Under an id that is not taken yet, nothing is heard. -/
lemma silent_of_vacant (recorded : Recorded capacity entries h) {id : Nat} (le : h.nextId ≤ id)
    (o : Operation) : Entry.heard? id (o, (h.step o).1) = none := by
  rw [Option.eq_none_iff_forall_ne_some]
  intro a heard
  obtain ⟨ob, there⟩ := (hears_of_heard heard).exists_observer
  rw [recorded.vacant id le] at there
  cases there

/-- A step keeps the account of every reader. -/
lemma accounts_step (recorded : Recorded capacity entries h) {o : Operation} {id : Nat}
    {ob : Observer} {c : EventClass} {place : Nat} (there : (h.step o).2.observer? id = some ob)
    (reads : ob.reading? = some (c, place)) :
    Accounts (slotsFor capacity) (published c (entries ++ [(o, (h.step o).1)]))
      (published c (untilOpened id (entries ++ [(o, (h.step o).1)]))).length place
      (notices id (entries ++ [(o, (h.step o).1)])) := by
  rw [published_append, notices_concat]
  cases step_moves there with
  | stays was silent =>
    rw [untilOpened_append (recorded.opened id ob was), silent]
    simpa using (recorded.accounts id ob c place was reads).sent _
  | opens next answer new =>
    -- Nobody heard anything under the id before, and all that was published is before the reader.
    have silent := recorded.silent_of_vacant next.ge o
    have atEnd : place = (published c entries).length := by
      rw [← (recorded.holds c).sent_eq]
      cases ob with
      | stream => cases reads; exact new.1
      | receiver => cases reads; exact new
      | watcher => cases reads
    rw [silent, notices, recorded.unheard id next.ge, untilOpened_append_of_new
      (recorded.unopened id next.ge), answer, published_opened, atEnd]
    simpa [untilOpened] using Accounts.atEnd (slotsFor capacity) (published c entries)
  | @polls c₀ place₀ first e was answer =>
    subst e
    have accounts := recorded.accounts id _ c₀ place₀ was rfl
    rw [← recorded.slots c₀] at accounts
    obtain ⟨rfl, polled⟩ := accounts.poll (recorded.holds c₀) reads
    rw [untilOpened_append (recorded.opened id _ was), answer, heard?_poll, ← recorded.slots c]
    simpa using polled.sent []
  | @rests c₀ place₀ first e was answer =>
    subst e
    cases reads
    have accounts := recorded.accounts id _ c place was rfl
    rw [untilOpened_append (recorded.opened id _ was), answer, heard?_poll]
    simpa [Answer.notices, skips] using accounts.sent []
  | @receives c₀ place₀ e was answer =>
    subst e
    cases reads
    have accounts := recorded.accounts id _ c place₀ was rfl
    rw [← recorded.slots c] at accounts ⊢
    rw [untilOpened_append (recorded.opened id _ was), answer, heard?_receive]
    simpa using (accounts.receive (recorded.holds c)).sent []
  | looks => cases reads

/-- A step keeps the turns of every stream. -/
lemma turns_step (recorded : Recorded capacity entries h) {o : Operation} {id : Nat}
    {c : EventClass} {place : Nat} {first ended : Bool}
    (there : (h.step o).2.observer? id = some (.stream c place first ended)) :
    Turns first ended (answers id (entries ++ [(o, (h.step o).1)])) := by
  rw [answers_concat]
  generalize eq : Observer.stream c place first ended = ob at there
  cases step_moves there with
  | stays was silent =>
    subst eq
    rw [silent]
    simpa using recorded.turns id c place first ended was
  | opens next answer new =>
    subst eq
    obtain ⟨-, rfl, rfl⟩ := new
    rw [recorded.silent_of_vacant next.ge, recorded.unheard id next.ge]
    exact ⟨by simp, by simp⟩
  | @polls c₀ place₀ first₀ e was answer =>
    subst e
    obtain ⟨turn, ended_iff⟩ := recorded.turns id c₀ place₀ first₀ false was
    obtain ⟨place', ended', moved, ends⟩ := pollStream_turn h c₀ place₀ first₀
    rw [moved] at eq
    cases eq
    rw [answer, heard?_poll]
    refine ⟨fun _ => ?_, ?_⟩
    · -- One more answer and the other turn: both sides change.
      have turn := turn rfl
      rw [List.length_append, Option.toList_some, List.length_singleton, Bool.not_eq_true',
        ← Bool.not_eq_true, turn]
      omega
    · have going : ¬ ∃ n, .polled n .ended ∈ answers id entries := fun ended =>
        Bool.false_ne_true (ended_iff.mpr ended)
      simp only [List.mem_append, Option.toList_some, List.mem_singleton, Answer.polled.injEq,
        exists_or, going, false_or, ends]
      exact ⟨fun e => ⟨_, rfl, e.symm⟩, fun ⟨_, _, e⟩ => e.symm⟩
  | @rests c₀ place₀ first₀ e was answer =>
    subst e
    cases eq
    obtain ⟨turn, ended_iff⟩ := recorded.turns id c place first true was
    rw [answer, heard?_poll]
    exact ⟨nofun, ⟨fun _ => ⟨0, by simp⟩, fun _ => rfl⟩⟩
  | receives => cases eq
  | looks => cases eq

/-- A step keeps the record. -/
lemma step (recorded : Recorded capacity entries h) (o : Operation) :
    Recorded capacity (entries ++ [(o, (h.step o).1)]) (h.step o).2 where
  slots c := by rw [channel_step, Channel.slots_sendAll, recorded.slots]
  holds c := by
    rw [channel_step, published_append]
    exact (recorded.holds c).sendAll _
  closed := by simp [isClosed_step, recorded.closed]
  vacant _ le := vacant_step recorded.vacant o le
  unheard id le := by
    have old := (nextId_step h o).1.trans le
    rw [answers_concat, recorded.unheard id old, recorded.silent_of_vacant old]
    rfl
  unopened id le := by
    obtain ⟨grows, next⟩ := nextId_step h o
    rintro ⟨x, mem, e⟩
    rcases List.mem_append.mp mem with mem | mem
    · exact recorded.unopened id (grows.trans le) ⟨x, mem, e⟩
    · rw [List.mem_singleton.mp mem] at e
      obtain ⟨rfl, lt⟩ := next id e
      omega
  opened id ob there := by
    rcases (step_moves there).before with ⟨was, there⟩ | ⟨-, answer⟩
    · obtain ⟨x, mem, e⟩ := recorded.opened id was there
      exact ⟨x, List.mem_append_left _ mem, e⟩
    · exact ⟨_, List.mem_append_right _ (List.mem_singleton_self _), answer⟩
  accounts _ _ _ _ there reads := recorded.accounts_step there reads
  turns _ _ _ _ _ there := recorded.turns_step there

end Recorded

/-- Every run is recorded. -/
lemma recorded (capacity : Nat) (ops : List Operation) :
    Recorded capacity ((new capacity).history ops) ((new capacity).after ops) :=
  isRun.induction (.new capacity) (fun _ _ o recorded => recorded.step o) ops

end WalletNotify.Hub
