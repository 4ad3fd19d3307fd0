import WalletNotify.Proofs.Webhook.Schedule
import WalletNotify.Webhook.Flight

/-!
# Deliveries under way

A delivery that goes on leg by leg does what it would do in one go: what it has reported and what is
yet to come make up all that happens in it, as far as its outcomes are known (`Tracks`). Main
statements: every leg keeps track (`Tracks.step`), and a delivery can always be brought to its end
(`exists_legs`).
-/

namespace WalletNotify.Webhook

open Time (Duration)

/-- What is yet to happen in a delivery, given what becomes of its attempts. -/
def Stage.rest (d : Delivery) (outcome : Nat → Outcome) : Stage → List Report
  | due left n backoff => attempt d outcome left n backoff
  | resting left n backoff => attempt d outcome left (n + 1) backoff.double
  | posted left n backoff => (attempt d outcome left n backoff).tail
  | ended => []

/-- The attempt that a delivery has yet to hear of. -/
def Stage.attempt? : Stage → Option Nat
  | due _ n _ | posted _ n _ => some n
  | resting _ n _ => some (n + 1)
  | ended => none

/-- The outcome that a delivery hears, if it was up to hear one. -/
def Leg.heard? : Leg → List Report → Option Outcome
  | hear outcome, _ :: _ => some outcome
  | _, _ => none

/-- The first attempts have the outcomes that were heard. -/
def Agrees (outcome : Nat → Outcome) (heard : List Outcome) : Prop :=
  ∀ i o, heard[i]? = some o → outcome (i + 1) = o

/-- What a delivery has reported goes on as it must, whatever the outcomes are that it has not heard
yet, and it rests for as long as it has reported. -/
structure Tracks (p : RetryPolicy) (reports : List Report) (heard : List Outcome) (f : Flight) :
    Prop where
  attempt : ∀ n ∈ f.stage.attempt?, n = heard.length + 1
  whole : ∀ outcome, Agrees outcome heard →
    deliver p f.delivery outcome = reports ++ f.stage.rest f.delivery outcome
  rests : ∀ left n wait, f.stage = .resting left n wait →
    ∃ e, reports.getLast? = some (.failed n e wait)

/-- The rules of a leg. -/
inductive Goes (f : Flight) : Leg → List Report → Flight → Prop where
  | idle {leg} : Goes f leg [] f
  | posts {left n backoff} :
    f.stage = .due left n backoff →
    Goes f .post [.posted n f.delivery.request] ⟨f.delivery, .posted left n backoff⟩
  | hears {left n backoff o} :
    f.stage = .posted left n backoff →
    Goes f (.hear o) (Flight.settle o left n backoff).1
      ⟨f.delivery, (Flight.settle o left n backoff).2⟩
  | wakes {left n backoff} :
    f.stage = .resting left n backoff →
    Goes f .wake [] ⟨f.delivery, .due left (n + 1) backoff.double⟩

/-! ## Legs -/

variable {d : Delivery} {outcome : Nat → Outcome} {left n : Nat} {backoff : Duration}
  {p : RetryPolicy} {f : Flight} {reports : List Report} {heard : List Outcome}

/-- A delivery that reports nothing has heard nothing. -/
@[simp] lemma Leg.heard?_nil (leg : Leg) : leg.heard? [] = none := by
  cases leg <;> rfl

/-- An attempt is posted first. -/
lemma attempt_eq_cons (d : Delivery) (outcome : Nat → Outcome) (left n : Nat)
    (backoff : Duration) :
    attempt d outcome left n backoff =
      .posted n d.request :: (attempt d outcome left n backoff).tail := by
  unfold attempt
  rfl

/-- When an attempt is heard of, it is reported, and the others are yet to come. -/
lemma tail_attempt (d : Delivery) (outcome : Nat → Outcome) (left n : Nat) (backoff : Duration) :
    (attempt d outcome left n backoff).tail = (Flight.settle (outcome n) left n backoff).1 ++
      (Flight.settle (outcome n) left n backoff).2.rest d outcome := by
  unfold attempt Flight.settle
  rw [List.tail_cons]
  cases (outcome n).error? with
  | none => rfl
  | some e => cases left <;> rfl

/-- An attempt that is heard of is reported, and if it failed and others are left, the delivery
rests for as long as is reported. -/
lemma settle_cases (o : Outcome) (left n : Nat) (backoff : Duration) :
    ∃ report, (Flight.settle o left n backoff).1 = [report] ∧
      ((Flight.settle o left n backoff).2 = .ended ∨
        ∃ rest e, (Flight.settle o left n backoff).2 = .resting rest n backoff ∧
          report = .failed n e backoff) := by
  unfold Flight.settle
  cases o.error? with
  | none => exact ⟨_, rfl, .inl rfl⟩
  | some e =>
    cases left with
    | zero => exact ⟨_, rfl, .inl rfl⟩
    | succ rest => exact ⟨_, rfl, .inr ⟨rest, e, rfl, rfl⟩⟩

/-- A delivery has nothing to do any more only if it has ended. -/
lemma Stage.rest_eq_nil {stage : Stage} : stage.rest d outcome = [] ↔ stage = .ended := by
  cases stage with
  | due left n backoff | resting left n backoff =>
    refine iff_of_false ?_ nofun
    rw [rest, attempt_eq_cons]
    exact List.cons_ne_nil _ _
  | posted left n backoff =>
    refine iff_of_false ?_ nofun
    obtain ⟨report, one, -⟩ := settle_cases (outcome n) left n backoff
    rw [rest, tail_attempt, one]
    exact List.cons_ne_nil _ _
  | ended => exact iff_of_true rfl rfl

/-- Every leg follows the rules. -/
lemma step_goes (f : Flight) (leg : Leg) : Goes f leg (f.step leg).1 (f.step leg).2 := by
  cases leg with
  | post =>
    simp only [Flight.step]
    split
    case h_1 due => exact .posts due
    case h_2 => exact .idle
  | hear o =>
    simp only [Flight.step]
    split
    case h_1 posted => exact .hears posted
    case h_2 => exact .idle
  | wake =>
    simp only [Flight.step]
    split
    case h_1 resting => exact .wakes resting
    case h_2 => exact .idle

/-- No leg changes the delivery. -/
@[simp] lemma delivery_step (f : Flight) (leg : Leg) : (f.step leg).2.delivery = f.delivery := by
  have goes := step_goes f leg
  generalize (f.step leg).1 = reports, (f.step leg).2 = f' at goes
  cases goes <;> rfl

/-- No leg changes the delivery. -/
@[simp] lemma delivery_run (f : Flight) (legs : List Leg) :
    (f.run legs).2.delivery = f.delivery := by
  induction legs generalizing f with
  | nil => rfl
  | cons leg rest ih => rw [Flight.run, ih, delivery_step]

/-! ## Keeping track -/

/-- The outcome that is heard last is that of the next attempt. -/
lemma Agrees.of_concat {o : Outcome} (agrees : Agrees outcome (heard ++ [o])) :
    Agrees outcome heard ∧ outcome (heard.length + 1) = o := by
  refine ⟨fun i o' found => ?_, agrees _ _ (by simp)⟩
  apply agrees
  rw [List.getElem?_append_left (List.getElem?_eq_some_iff.mp found).1, found]

/-- A delivery that starts has all before it. -/
lemma Tracks.start (p : RetryPolicy) (d : Delivery) : Tracks p [] [] (.start p d) where
  attempt _ mem := (Option.some.inj mem).symm
  whole _ _ := rfl
  rests _ _ _ := nofun

/-- Every leg keeps track. -/
lemma Tracks.step (tracks : Tracks p reports heard f) (leg : Leg) :
    Tracks p (reports ++ (f.step leg).1) (heard ++ (leg.heard? (f.step leg).1).toList)
      (f.step leg).2 := by
  obtain ⟨attempt, whole, rests⟩ := tracks
  have goes := step_goes f leg
  generalize (f.step leg).1 = new, (f.step leg).2 = f' at goes ⊢
  cases goes with
  | idle =>
    rw [leg.heard?_nil, Option.toList_none, List.append_nil, List.append_nil]
    exact ⟨attempt, whole, rests⟩
  | @posts left n backoff due =>
    rw [due] at attempt whole
    have silent : Leg.post.heard? [.posted n f.delivery.request] = none := rfl
    rw [silent, Option.toList_none, List.append_nil]
    refine ⟨attempt, fun outcome agrees => ?_, nofun⟩
    rw [whole outcome agrees, Stage.rest, attempt_eq_cons]
    exact List.append_cons _ _ _
  | @hears left n backoff o posted =>
    rw [posted] at attempt whole
    obtain rfl := attempt n rfl
    obtain ⟨report, one, next⟩ := settle_cases o left (heard.length + 1) backoff
    rw [one, Leg.heard?, Option.toList_some]
    refine ⟨fun m mem => ?_, fun outcome agrees => ?_, fun left' n wait resting => ?_⟩
    · rw [List.length_append, List.length_singleton]
      rcases next with ended | ⟨rest, e, rests, -⟩
      · rw [ended] at mem
        cases mem
      · rw [rests] at mem
        exact (Option.some.inj mem).symm
    · obtain ⟨earlier, own⟩ := agrees.of_concat
      rw [whole outcome earlier, Stage.rest, tail_attempt, own, ← one, List.append_assoc]
    · rw [List.getLast?_append, List.getLast?_singleton, Option.some_or]
      rcases next with ended | ⟨rest, e, rests, rfl⟩
      · cases ended.symm.trans resting
      · cases rests.symm.trans resting
        exact ⟨e, rfl⟩
  | @wakes left n backoff resting =>
    rw [resting] at attempt whole
    rw [Leg.heard?_nil, Option.toList_none, List.append_nil, List.append_nil]
    exact ⟨attempt, whole, nofun⟩

/-- A delivery that has ended has reported all that happens in it, and one that has not has
reported what happens first. -/
lemma Tracks.reports_eq (tracks : Tracks p reports heard f) (agrees : Agrees outcome heard) :
    reports <+: deliver p f.delivery outcome ∧
      (f.stage = .ended ↔ reports = deliver p f.delivery outcome) := by
  rw [tracks.whole outcome agrees]
  refine ⟨List.prefix_append _ _, ?_⟩
  rw [List.self_eq_append_right, Stage.rest_eq_nil]

/-! ## Coming to an end -/

/-- A delivery whose attempt was posted can be brought to its end. -/
lemma exists_legs_of_posted (outcome : Nat → Outcome) (d : Delivery) (left n : Nat)
    (backoff : Duration) : ∃ legs,
      ((⟨d, .posted left n backoff⟩ : Flight).run legs).2.stage = .ended ∧
      ((⟨d, .posted left n backoff⟩ : Flight).run legs).1 =
        (attempt d outcome left n backoff).tail := by
  induction left generalizing n backoff with
  | zero =>
    refine ⟨[.hear (outcome n)], ?_⟩
    rw [tail_attempt]
    cases error : (outcome n).error? <;>
      simp [Flight.run, Flight.step, Flight.settle, error, Stage.rest]
  | succ left ih =>
    rw [tail_attempt]
    cases error : (outcome n).error? with
    | none =>
      refine ⟨[.hear (outcome n)], ?_⟩
      simp [Flight.run, Flight.step, Flight.settle, error, Stage.rest]
    | some e =>
      obtain ⟨legs, ended, reports⟩ := ih (n + 1) backoff.double
      refine ⟨.hear (outcome n) :: .wake :: .post :: legs, ?_⟩
      simp [Flight.run, Flight.step, Flight.settle, error, Stage.rest, ended, reports,
        ← attempt_eq_cons]

/-- Every delivery can be brought to its end, whatever becomes of its attempts. -/
lemma exists_legs (outcome : Nat → Outcome) (f : Flight) :
    ∃ legs, (f.run legs).2.stage = .ended ∧ (f.run legs).1 = f.stage.rest f.delivery outcome := by
  obtain ⟨d, stage⟩ := f
  cases stage with
  | due left n backoff =>
    obtain ⟨legs, ended, reports⟩ := exists_legs_of_posted outcome d left n backoff
    refine ⟨.post :: legs, ended, ?_⟩
    rw [Stage.rest, attempt_eq_cons, ← reports]
    rfl
  | posted left n backoff => exact exists_legs_of_posted outcome d left n backoff
  | resting left n backoff =>
    obtain ⟨legs, ended, reports⟩ :=
      exists_legs_of_posted outcome d left (n + 1) backoff.double
    refine ⟨.wake :: .post :: legs, ended, ?_⟩
    rw [Stage.rest, attempt_eq_cons, ← reports]
    rfl
  | ended => exact ⟨[], rfl, rfl⟩

end WalletNotify.Webhook
