import WalletNotify.Proofs.Run
import WalletNotify.Proofs.Webhook.Delivery
import WalletNotify.Proofs.Webhook.Flight
import WalletNotify.Server.Fleet

/-!
# Deliveries beside a service

A delivery is left alone by all but its own legs: whatever is done with the hub and the registry,
and whatever becomes of other deliveries, it does what its own outcomes tell (`run_alone`). Main
statement: every delivery keeps to its schedule (`deliveries_keep_schedule`).
-/

namespace WalletNotify.Server.Fleet

open Webhook

/-- What happened, with what came of it. -/
abbrev Entry := Occurrence × Result

/-- The service and the deliveries after what happened. -/
def after (fleet : Fleet) (occurrences : List Occurrence) : Fleet := (fleet.run occurrences).2

/-- What happened, step by step. -/
def history (fleet : Fleet) (occurrences : List Occurrence) : List Entry :=
  occurrences.zip (fleet.run occurrences).1

/-- A run of a fleet is one of steps. -/
lemma isRun : IsRun step run := ⟨fun _ => rfl, fun _ _ _ => rfl⟩

/-! ## What a history tells -/

/-- The deliveries that were started by an entry. -/
def Entry.started : Entry → List Delivery
  | (_, .moved answer) => answer.actions.flatMap Server.started
  | _ => []

/-- What a delivery reports in an entry. -/
def Entry.reports (j : Nat) : Entry → List Report
  | (.leg i _, .reported reports) => if i = j then reports else []
  | _ => []

/-- What a delivery hears in an entry. -/
def Entry.heard (j : Nat) : Entry → List Outcome
  | (.leg i leg, .reported reports) => if i = j then (leg.heard? reports).toList else []
  | _ => []

/-- The deliveries that were started, in order. -/
def deliveries (entries : List Entry) : List Delivery := entries.flatMap Entry.started

/-- What a delivery has reported. -/
def reports (j : Nat) (entries : List Entry) : List Report := entries.flatMap (Entry.reports j)

/-- What a delivery has heard of its attempts. -/
def heard (j : Nat) (entries : List Entry) : List Outcome := entries.flatMap (Entry.heard j)

/-- The legs of a delivery. -/
def legs (j : Nat) (occurrences : List Occurrence) : List Leg :=
  occurrences.filterMap fun
    | .leg i leg => if i = j then some leg else none
    | .move _ => none

section

variable (j : Nat) (entries : List Entry) (entry : Entry)

/-- One more entry adds the deliveries that it starts. -/
lemma deliveries_concat :
    deliveries (entries ++ [entry]) = deliveries entries ++ entry.started := by
  rw [deliveries, List.flatMap_append, List.flatMap_singleton, deliveries]

/-- One more entry adds what the delivery reports in it. -/
lemma reports_concat : reports j (entries ++ [entry]) = reports j entries ++ entry.reports j := by
  rw [reports, List.flatMap_append, List.flatMap_singleton, reports]

/-- One more entry adds what the delivery hears in it. -/
lemma heard_concat : heard j (entries ++ [entry]) = heard j entries ++ entry.heard j := by
  rw [heard, List.flatMap_append, List.flatMap_singleton, heard]

end

/-! ## Steps -/

/-- The rules of a step. A move starts deliveries behind those that there are, and a leg goes on
with its own delivery. -/
inductive Steps (fleet : Fleet) : Occurrence → Result → Fleet → Prop where
  | moves {m answer service} :
    Steps fleet (.move m) (.moved answer)
      { fleet with
        service
        flights := fleet.flights ++
          (answer.actions.flatMap started).map (Flight.start fleet.policy) }
  | goes {i leg flight} :
    fleet.flights[i]? = some flight →
    Steps fleet (.leg i leg) (.reported (flight.step leg).1)
      { fleet with flights := fleet.flights.set i (flight.step leg).2 }
  | misses {i leg} : fleet.flights[i]? = none → Steps fleet (.leg i leg) (.reported []) fleet

variable {fleet : Fleet} {policy : RetryPolicy} {entries : List Entry} {j : Nat} {f : Flight}

/-- Every step follows the rules. -/
lemma step_follows (fleet : Fleet) (o : Occurrence) :
    Steps fleet o (fleet.step o).1 (fleet.step o).2 := by
  cases o with
  | move m => exact .moves
  | leg i leg =>
    simp only [step]
    split
    case h_1 flight found => exact .goes found
    case h_2 missing => exact .misses missing

/-- What a step does to a delivery that is under way: its own leg goes on with it, and all else
leaves it alone. -/
lemma step_flight (under_way : fleet.flights[j]? = some f) (o : Occurrence) :
    (legs j [o] = [] ∧ (fleet.step o).2.flights[j]? = some f ∧
      Entry.reports j (o, (fleet.step o).1) = [] ∧ Entry.heard j (o, (fleet.step o).1) = []) ∨
    ∃ leg, legs j [o] = [leg] ∧ (fleet.step o).2.flights[j]? = some (f.step leg).2 ∧
      Entry.reports j (o, (fleet.step o).1) = (f.step leg).1 ∧
      Entry.heard j (o, (fleet.step o).1) = (leg.heard? (f.step leg).1).toList := by
  have inside := (List.getElem?_eq_some_iff.mp under_way).1
  have steps := step_follows fleet o
  generalize (fleet.step o).1 = result, (fleet.step o).2 = next at steps ⊢
  cases steps with
  | moves => exact .inl ⟨rfl, (List.getElem?_append_left inside).trans under_way, rfl, rfl⟩
  | @goes i leg flight found =>
    by_cases own : i = j
    · obtain rfl := own
      obtain rfl : flight = f := Option.some.inj (found.symm.trans under_way)
      exact .inr ⟨leg, by simp [legs], List.getElem?_set_self inside, if_pos rfl, if_pos rfl⟩
    · refine .inl ⟨by simp [legs, own], ?_, if_neg own, if_neg own⟩
      exact (List.getElem?_set_ne own).trans under_way
  | @misses i leg missing =>
    have other : i ≠ j := by
      rintro rfl
      cases missing.symm.trans under_way
    exact .inl ⟨by simp [legs, other], under_way, if_neg other, if_neg other⟩

/-- What a step does where no delivery is yet: nothing is reported, and a delivery may start. -/
lemma step_none (missing : fleet.flights[j]? = none) (o : Occurrence) :
    Entry.reports j (o, (fleet.step o).1) = [] ∧ Entry.heard j (o, (fleet.step o).1) = [] ∧
      ∀ f, (fleet.step o).2.flights[j]? = some f → ∃ d, f = .start fleet.policy d := by
  have steps := step_follows fleet o
  generalize (fleet.step o).1 = result, (fleet.step o).2 = next at steps ⊢
  cases steps with
  | moves =>
    refine ⟨rfl, rfl, fun f found => ?_⟩
    have behind := List.getElem?_eq_none_iff.mp missing
    rw [List.getElem?_append_right behind, List.getElem?_map] at found
    obtain ⟨d, -, rfl⟩ := Option.map_eq_some_iff.mp found
    exact ⟨d, rfl⟩
  | @goes i leg flight found =>
    have other : i ≠ j := by
      rintro rfl
      cases missing.symm.trans found
    refine ⟨if_neg other, if_neg other, fun f started => ?_⟩
    rw [List.getElem?_set_ne other, missing] at started
    cases started
  | @misses i leg _ =>
    refine ⟨ite_self _, ?_, fun f started => ?_⟩
    · rw [Entry.heard, leg.heard?_nil]
      exact ite_self _
    · cases missing.symm.trans started

/-- The deliveries are those that there were, and those that the step starts. -/
lemma step_deliveries (fleet : Fleet) (o : Occurrence) :
    (fleet.step o).2.flights.map Flight.delivery =
      fleet.flights.map Flight.delivery ++ Entry.started (o, (fleet.step o).1) := by
  have steps := step_follows fleet o
  generalize (fleet.step o).1 = result, (fleet.step o).2 = next at steps ⊢
  cases steps with
  | moves =>
    have own : Flight.delivery ∘ Flight.start fleet.policy = id := rfl
    rw [List.map_append, List.map_map, own, List.map_id]
    rfl
  | @goes i leg flight found =>
    have same : (fleet.flights.map Flight.delivery)[i]? = some flight.delivery := by
      rw [List.getElem?_map, found, Option.map_some]
    obtain ⟨inside, own⟩ := List.getElem?_eq_some_iff.mp same
    rw [List.map_set, delivery_step, ← own, List.set_getElem_self]
    exact (List.append_nil _).symm
  | misses => exact (List.append_nil _).symm

/-! ## Runs -/

/-- A delivery is left alone by all but its own legs. -/
lemma run_alone (under_way : fleet.flights[j]? = some f) (later : List Occurrence) :
    (fleet.after later).flights[j]? = some (f.run (legs j later)).2 ∧
      reports j (fleet.history later) = (f.run (legs j later)).1 := by
  induction later generalizing fleet f with
  | nil => exact ⟨under_way, rfl⟩
  | cons o rest ih =>
    have all : legs j (o :: rest) = legs j [o] ++ legs j rest := by
      rw [legs, ← List.singleton_append, List.filterMap_append, legs, legs]
    have told : reports j (fleet.history (o :: rest)) =
      Entry.reports j (o, (fleet.step o).1) ++ reports j ((fleet.step o).2.history rest) := rfl
    rw [all, told]
    rcases step_flight under_way o with ⟨none, here, silent, -⟩ | ⟨leg, one, here, reported, -⟩
    · rw [none, silent]
      exact ih here
    · obtain ⟨afterwards, more⟩ := ih here
      rw [one, reported, more]
      exact ⟨afterwards, rfl⟩

/-- What a history says of the deliveries: they are those that were started, each of them keeps
track, and nothing was reported of deliveries that are yet to start. -/
structure Recorded (policy : RetryPolicy) (entries : List Entry) (fleet : Fleet) : Prop where
  same : fleet.policy = policy
  deliveries : fleet.flights.map Flight.delivery = deliveries entries
  tracks : ∀ j f, fleet.flights[j]? = some f → Tracks policy (reports j entries) (heard j entries) f
  silent : ∀ j, fleet.flights[j]? = none → reports j entries = [] ∧ heard j entries = []

/-- Nothing has happened at first. -/
lemma Recorded.of (service : Paced) (policy : RetryPolicy) :
    Recorded policy [] (.of service policy) where
  same := rfl
  deliveries := rfl
  tracks _ _ := nofun
  silent _ _ := ⟨rfl, rfl⟩

/-- Every step is recorded. -/
lemma Recorded.step (recorded : Recorded policy entries fleet) (o : Occurrence) :
    Recorded policy (entries ++ [(o, (fleet.step o).1)]) (fleet.step o).2 where
  same := by
    have steps := step_follows fleet o
    rw [← recorded.same]
    generalize (fleet.step o).1 = result, (fleet.step o).2 = next at steps ⊢
    cases steps <;> rfl
  deliveries := by rw [deliveries_concat, ← recorded.deliveries, step_deliveries]
  tracks j f found := by
    rw [reports_concat, heard_concat]
    cases before : fleet.flights[j]? with
    | none =>
      obtain ⟨unreported, unheard, start⟩ := step_none before o
      obtain ⟨d, rfl⟩ := start f found
      obtain ⟨silent, deaf⟩ := recorded.silent j before
      rw [unreported, unheard, silent, deaf, recorded.same]
      exact .start policy d
    | some f₀ =>
      have tracks := recorded.tracks j f₀ before
      rcases step_flight before o with ⟨-, here, unreported, unheard⟩ |
        ⟨leg, -, here, reported, told⟩
      · obtain rfl := Option.some.inj (here.symm.trans found)
        rwa [unreported, unheard, List.append_nil, List.append_nil]
      · obtain rfl := Option.some.inj (here.symm.trans found)
        rw [reported, told]
        exact tracks.step leg
  silent j missing := by
    rw [reports_concat, heard_concat]
    cases before : fleet.flights[j]? with
    | none =>
      obtain ⟨unreported, unheard, -⟩ := step_none before o
      obtain ⟨silent, deaf⟩ := recorded.silent j before
      rw [unreported, unheard, silent, deaf]
      exact ⟨rfl, rfl⟩
    | some f₀ =>
      rcases step_flight before o with ⟨-, here, -⟩ | ⟨leg, -, here, -⟩ <;>
        cases missing.symm.trans here

/-- Every history is recorded. -/
lemma recorded (service : Paced) (policy : RetryPolicy) (before : List Occurrence) :
    Recorded policy ((of service policy).history before) ((of service policy).after before) :=
  isRun.induction (.of service policy) (fun _ _ o recorded => recorded.step o) before

/-! ## The schedule -/

/-- A delivery does what is on its schedule: it has done what comes first, it rests for the wait of
the attempt that failed last, it has ended once all is done, and it can be brought to its end. What
it posts is one request over and over, which takes its body to its webhook. -/
structure KeepsTo (p : RetryPolicy) (outcome : Nat → Outcome) (k : Nat) (reports : List Report)
    (f : Flight) : Prop where
  so_far : reports <+: schedule p f.delivery outcome k
  rests : ∀ left n wait, f.stage = .resting left n wait →
    wait = p.wait n ∧ ∃ e, reports.getLast? = some (.failed n e wait)
  ended : f.stage = .ended ↔ reports = schedule p f.delivery outcome k
  posts : ∃ q : Request, q.Carries f.delivery ∧ (∀ q' ∈ requests reports, q' = q) ∧
    (f.stage = .ended → requests reports = List.replicate k q)
  onward : ∃ legs, (f.run legs).2.stage = .ended ∧
    reports ++ (f.run legs).1 = schedule p f.delivery outcome k

/-- A delivery that keeps track keeps to the schedule of its outcomes. -/
lemma KeepsTo.of_tracks {reports : List Report} {heard : List Outcome} {outcome : Nat → Outcome}
    {k : Nat} (tracks : Tracks policy reports heard f) (agrees : Agrees outcome heard)
    (last : EndsWith policy outcome k) : KeepsTo policy outcome k reports f := by
  have whole := tracks.whole outcome agrees
  obtain ⟨so_far, ended⟩ := tracks.reports_eq agrees
  rw [deliver_eq last] at whole so_far ended
  have all : requests (schedule policy f.delivery outcome k) =
    List.replicate k f.delivery.request := requests_schedule last.1.1 f.delivery
  refine ⟨so_far, fun left n wait resting => ?_, ended,
    ⟨_, f.delivery.carries_request, fun q posted => ?_, fun finished => ?_⟩, ?_⟩
  · obtain ⟨e, latest⟩ := tracks.rests left n wait resting
    exact ⟨wait_of_failed (so_far.subset (List.mem_of_getLast? latest)), e, latest⟩
  · have posted := (so_far.filterMap Report.request?).subset posted
    rw [← requests, all] at posted
    exact List.eq_of_mem_replicate posted
  · rw [ended.mp finished, all]
  · obtain ⟨legs, finished, rest⟩ := exists_legs outcome f
    exact ⟨legs, finished, by rw [rest, whole]⟩

/-- Every delivery that was started keeps to its schedule, which its outcomes alone decide: it posts
until an attempt succeeds or none is left, and rests once between two attempts, twice as long every
time. What else happens, with the hub, the registry or other deliveries, changes neither the
delivery nor what it does. -/
theorem deliveries_keep_schedule (service : Paced) (policy : RetryPolicy)
    (before : List Occurrence) {j : Nat} {f : Flight}
    (under_way : ((of service policy).after before).flights[j]? = some f) :
    let fleet := (of service policy).after before
    let entries := (of service policy).history before
    fleet.flights.map Flight.delivery = deliveries entries ∧
      (∀ outcome, Agrees outcome (heard j entries) → ∃ k, EndsWith policy outcome k ∧
        deliver policy f.delivery outcome = schedule policy f.delivery outcome k ∧
        KeepsTo policy outcome k (reports j entries) f) ∧
      ∀ later, (fleet.after later).flights[j]? = some (f.run (legs j later)).2 ∧
        (f.run (legs j later)).2.delivery = f.delivery ∧
        reports j (fleet.history later) = (f.run (legs j later)).1 := by
  intro fleet entries
  have record : Recorded policy entries fleet := recorded service policy before
  refine ⟨record.deliveries, fun outcome agrees => ?_, fun later => ?_⟩
  · obtain ⟨k, last⟩ := exists_endsWith policy outcome
    exact ⟨k, last, deliver_eq last _, .of_tracks (record.tracks j f under_way) agrees last⟩
  · obtain ⟨stands, reported⟩ := run_alone under_way later
    exact ⟨stands, delivery_run f _, reported⟩

/-- A delivery to a secured webhook fails once and succeeds later, with the hub closed and its
webhook removed in the meantime. Both times the same request is posted, with the secret. -/
theorem deliveries_keep_schedule_when_removed :
    let endpoint : Url := ⟨"http", "", "", some (.name "host"), none, .rooted [""], none, none⟩
    let service := Paced.of (.of (Hub.new 2) ⟨[⟨⟨"id"⟩, endpoint, .unspents, some "s"⟩]⟩)
    let policy : RetryPolicy := ⟨1000, 3, 100⟩
    let occurrences : List Occurrence :=
      [.move (.operation .start), .move (.operation (.hub (.publish 0 (.unspents ⟨none, []⟩)))),
        .move (.operation (.turn .unspents)), .leg 0 .post, .move (.operation (.hub (.close 0))),
        .leg 0 (.hear (.responded 500)), .move (.operation (.remove ⟨"id"⟩)), .leg 0 .wake,
        .leg 0 .post, .leg 0 (.hear (.responded 200))]
    let outcome : Nat → Outcome := fun n => .responded (if n = 1 then 500 else 200)
    let q : Request := ⟨endpoint, "application/json", some "Bearer s",
      "\x7b\"event_type\":\"UTXO_EVENT_TYPE_UNSPECIFIED\",\"utxos\":[]\x7d"⟩
    let fleet := (of service policy).after occurrences
    let entries := (of service policy).history occurrences
    fleet.service.service.hub.isClosed = true ∧ fleet.service.service.registry.hooks = [] ∧
      ∃ f, fleet.flights[0]? = some f ∧ f.stage = .ended ∧
        (∃ k, EndsWith policy outcome k ∧ reports 0 entries = schedule policy f.delivery outcome k ∧
          requests (reports 0 entries) = List.replicate k q) ∧
        q.Carries f.delivery ∧ reports 0 entries =
          [.posted 1 q, .failed 1 (.rejected 500) ⟨10 ^ 8⟩, .posted 2 q, .notified 2] := by
  intro endpoint service policy occurrences outcome q fleet entries
  have finished : fleet.flights[0]?.map Flight.stage = some .ended := by decide +kernel
  obtain ⟨f, under_way, ended⟩ := Option.map_eq_some_iff.mp finished
  have heard_eq : heard 0 entries = [.responded 500, .responded 200] := by decide +kernel
  have agrees : Agrees outcome (heard 0 entries) := by
    rw [heard_eq]
    rintro (_ | _ | i) o found
    · exact Option.some.inj found
    · exact Option.some.inj found
    · cases found
  obtain ⟨-, keeps, -⟩ := deliveries_keep_schedule service policy occurrences under_way
  obtain ⟨k, last, -, keeps⟩ := keeps outcome agrees
  obtain ⟨q', carries, same, posted⟩ := keeps.posts
  have reported : reports 0 entries =
      [.posted 1 q, .failed 1 (.rejected 500) ⟨10 ^ 8⟩, .posted 2 q, .notified 2] := by
    decide +kernel
  obtain rfl : q = q' := same q (by rw [reported]; exact List.mem_cons_self)
  exact ⟨by decide +kernel, by decide +kernel, f, under_way, ended,
    ⟨k, last, keeps.ended.mp ended, posted ended⟩, carries, reported⟩

end WalletNotify.Server.Fleet
