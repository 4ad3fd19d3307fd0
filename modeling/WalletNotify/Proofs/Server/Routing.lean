import WalletNotify.Proofs.Hub.Accounting
import WalletNotify.Proofs.Server.History
import WalletNotify.Proofs.Webhook.Agreement
import WalletNotify.Proofs.Webhook.Delivery
import WalletNotify.Proofs.Webhook.Registry

/-!
# Routing

Which events reach which webhooks. Main statement: `dispatcher_routes`. The dispatcher hands on the
events that were published since it subscribed, in order and each once, but for those it was told it
lost. Every one of them is posted to the webhooks that are registered for its class at that moment,
and to no other.
-/

namespace WalletNotify.Server

open Event (EventClass Published)
open Hub (Balanced passed)
open Webhook (Action Body Branch Delivery Dispatcher Hook Registry Request TransactionBody UtxosBody
  bodyOf deliveriesOf)

/-! ## Registered webhooks -/

/-- A webhook is registered after a history if it was from the beginning or was added, and was not
removed since. -/
def Registered (r : Registry) (entries : List Entry) (hook : Hook) : Prop :=
  ∃ before since, entries = before ++ since ∧
    (before = [] ∧ hook ∈ r.hooks ∨ ∃ x, before.getLast? = some x ∧ x.2 = .added (.ok hook)) ∧
    ∀ x ∈ since, x.2 ≠ .removed (.ok hook)

variable {r : Registry} {entries : List Entry} {hook : Hook}

/-- At first, what is registered is what the registry holds. -/
lemma registered_nil : Registered r [] hook ↔ hook ∈ r.hooks := by
  constructor
  · rintro ⟨before, since, eq, first | ⟨x, last, -⟩, -⟩
    · exact first.2
    · rw [(List.append_eq_nil_iff.mp eq.symm).1] at last
      cases last
  · exact fun mem => ⟨[], [], rfl, .inl ⟨rfl, mem⟩, fun _ none => absurd none List.not_mem_nil⟩

/-- The last entry may add a webhook or remove it. -/
lemma registered_concat {x : Entry} : Registered r (entries ++ [x]) hook ↔
    x.2 = .added (.ok hook) ∨ Registered r entries hook ∧ x.2 ≠ .removed (.ok hook) := by
  constructor
  · rintro ⟨before, since, eq, first, kept⟩
    rcases since.eq_nil_or_concat with rfl | ⟨since, y, rfl⟩
    · rw [List.append_nil] at eq
      subst eq
      rcases first with ⟨nil, -⟩ | ⟨y, last, added⟩
      · exact absurd nil (List.append_ne_nil_of_right_ne_nil _ (List.cons_ne_nil _ _))
      · rw [List.getLast?_concat] at last
        cases last
        exact .inl added
    · rw [List.concat_eq_append] at eq kept
      rw [← List.append_assoc] at eq
      obtain ⟨rfl, single⟩ := List.append_inj' eq rfl
      cases single
      refine .inr ⟨⟨before, since, rfl, first, fun y mem => ?_⟩, ?_⟩
      · exact kept y (List.mem_append_left _ mem)
      · exact kept x (List.mem_append_right _ (List.mem_singleton_self x))
  · rintro (added | ⟨⟨before, since, rfl, first, kept⟩, stays⟩)
    · exact ⟨entries ++ [x], [], by simp, .inr ⟨x, by simp, added⟩,
        fun _ none => absurd none List.not_mem_nil⟩
    · refine ⟨before, since ++ [x], by simp, first, fun y mem => ?_⟩
      rcases List.mem_append.mp mem with mem | mem
      · exact kept y mem
      · rw [List.mem_singleton.mp mem]
        exact stays

/-- The registry that a run ends with holds what is registered. -/
structure Keeps (r : Registry) (entries : List Entry) (s : Service) : Prop where
  reachable : s.registry.Reachable
  mem_iff : ∀ hook, hook ∈ s.registry.hooks ↔ Registered r entries hook

namespace Keeps

variable {s : Service}

/-- An entry that neither adds nor removes a webhook leaves all as it is. -/
lemma of_silent (keeps : Keeps r entries s) {x : Entry} {t : Service}
    (same : t.registry = s.registry) (adds : ∀ hook, x.2 ≠ .added (.ok hook))
    (removes : ∀ hook, x.2 ≠ .removed (.ok hook)) : Keeps r (entries ++ [x]) t := by
  refine ⟨same ▸ keeps.reachable, fun hook => ?_⟩
  rw [registered_concat, same, keeps.mem_iff]
  simp [adds hook, removes hook]

/-- Every step keeps what is registered. -/
lemma step (keeps : Keeps r entries s) (o : Operation) :
    Keeps r (entries ++ [(o, (s.step o).1)]) (s.step o).2 := by
  cases o with
  | hub o =>
    simp only [Service.step]
    split <;> exact keeps.of_silent rfl (by simp) (by simp)
  | start =>
    change Keeps r (entries ++ [(.start, .turned [])]) _
    exact keeps.of_silent rfl (by simp) (by simp)
  | turn b =>
    change Keeps r (entries ++ [(.turn b, .turned _)]) _
    exact keeps.of_silent rfl (by simp) (by simp)
  | add endpoint kind secret =>
    simp only [Service.step]
    split
    case h_1 new registry added =>
      refine ⟨.add keeps.reachable added, fun hook => ?_⟩
      obtain ⟨-, -, rfl⟩ := Registry.add_eq_ok.mp added
      rw [registered_concat, ← keeps.mem_iff, Registry.mem_insertSorted]
      simp [eq_comm]
    case h_2 => exact keeps.of_silent rfl (by simp) (by simp)
  | remove id =>
    simp only [Service.step]
    split
    case h_1 old registry removed =>
      refine ⟨.remove keeps.reachable removed, fun hook => ?_⟩
      obtain ⟨-, found, rfl⟩ := Registry.remove_eq_ok.mp removed
      -- No two webhooks share an id, so the removed id is the one of the removed webhook.
      have sorted := keeps.reachable.sorted
      obtain ⟨there, rfl⟩ := sorted.find?_eq_some.mp found
      have same (mem : hook ∈ s.registry.hooks) : hook.id ≠ old.id ↔ old ≠ hook :=
        not_congr ⟨fun e => (sorted.eq_of_id mem there e).symm, fun e => e ▸ rfl⟩
      rw [registered_concat, ← keeps.mem_iff, List.mem_filter]
      simpa using same
    case h_2 => exact keeps.of_silent rfl (by simp) (by simp)

end Keeps

/-- After every run the registry holds what is registered. -/
lemma keeps (h : Hub) (reachable : r.Reachable) (ops : List Operation) :
    Keeps r ((Service.of h r).history ops) ((Service.of h r).after ops) :=
  Service.isRun.induction ⟨reachable, fun _ => registered_nil.symm⟩
    (fun _ _ o keeps => keeps.step o) ops

/-! ## Routing -/

/-- A text tells of an event: it is the text of a body that is read from it, and the body tells what
the message of the event tells. -/
def TextTells (text : String) : Published → Prop
  | .transaction e =>
    ∃ b : TransactionBody, text = Body.text b ∧ Body.read text = .ok b ∧ b.Tells e.toMessage
  | .unspents e =>
    ∃ b : UtxosBody, text = Body.text b ∧ Body.read text = .ok b ∧ b.Tells e.toMessage

/-- A request tells a webhook of an event: it takes to the webhook, along with its secret if it is
secured, a text that tells of the event. -/
def Tells (hook : Hook) (e : Published) (q : Request) : Prop :=
  ∃ text, q.Carries ⟨hook, text⟩ ∧ TextTells text e

/-- The body of an event tells of it. -/
lemma textTells_bodyOf (e : Published) : TextTells (bodyOf e) e := by
  cases e with
  | transaction e => exact ⟨_, rfl, Body.read_text _, TransactionBody.tells_ofEvent e⟩
  | unspents e => exact ⟨_, rfl, Body.read_text _, UtxosBody.tells_ofEvent e⟩

/-- What is dispatched in a turn is delivered to the webhooks that are registered then. -/
lemma deliveries_of_dispatched {d : Dispatcher} {h : Hub} {b : Branch} {e : Published}
    {ds : List Delivery} (mem : .dispatched e ds ∈ (d.proceed r h b).1) :
    ds = deliveriesOf r e := by
  have proceeds := d.proceed_proceeds r h b
  generalize (d.proceed r h b).1 = actions, (d.proceed r h b).2 = next at proceeds mem
  cases proceeds with
  | hands => cases List.mem_singleton.mp mem; rfl
  | lags => cases List.mem_singleton.mp mem
  | _ => cases mem

/-- The deliveries of an event go to the webhooks of its class. -/
lemma map_hook_deliveriesOf (r : Registry) (e : Published) :
    (deliveriesOf r e).map Delivery.hook = r.forClass e.eventClass := by
  rw [deliveriesOf, List.map_map]
  exact List.map_id _

/-- Every post of a delivery of an event tells its webhook of it. -/
lemma tells_of_mem_posts {e : Published} {d : Delivery} (mem : d ∈ deliveriesOf r e)
    {p : Webhook.RetryPolicy} {outcome : Nat → Webhook.Outcome} {q : Request}
    (posted : q ∈ d.posts p outcome) : Tells d.hook e q := by
  obtain ⟨hook, -, rfl⟩ := List.mem_map.mp mem
  have carries := (Delivery.carries_of_mem_posts ⟨hook, bodyOf e⟩ p outcome).2 q posted
  exact ⟨bodyOf e, carries, textTells_bodyOf e⟩

/-- After every run of a service around a hub and a registry, the dispatcher has handed on, of each
class, what was published since it subscribed, but for what it was told it lost, and what it has yet
to read. Whatever it dispatches next is delivered once to every webhook that is registered for the
class of the event, and to no other. -/
theorem dispatcher_routes (capacity : Nat) (before : List Hub.Operation) {r : Registry}
    (reachable : r.Reachable) (ops : List Operation) :
    let start := Service.of ((Hub.new capacity).after before) r
    let s := start.after ops
    let entries := start.history ops
    (∀ c, ∃ unread, Balanced (published c entries) (notices c entries) unread ∧
      (∀ e ∈ published c entries, e.eventClass = c) ∧
      (s.dispatcher.phase ≠ .stopped → unread = s.hub.unread (s.dispatcher.receiver (.of c)))) ∧
    ∀ o e ds, .dispatched e ds ∈ Entry.actions (o, (s.step o).1) →
      (ds.map Delivery.hook).Nodup ∧
      (∀ hook, hook ∈ ds.map Delivery.hook ↔
        Registered r entries hook ∧ hook.kind = e.eventClass) ∧
      ∀ d ∈ ds, ∀ p outcome,
        d.posts p outcome ≠ [] ∧ ∀ q ∈ d.posts p outcome, Tells d.hook e q := by
  intro start s entries
  have record : Recorded capacity _ entries s := recorded capacity before r ops
  have keeps : Keeps r entries s := keeps _ reachable ops
  refine ⟨fun c => ?_, fun o e ds mem => ?_⟩
  · obtain ⟨place, -, accounts⟩ := record.accounts
    have account := accounts c
    have place_eq := account.place_eq
    rw [Hub.published_append] at account
    refine ⟨_, account.balanced, fun e mem => Hub.eventClass_of_mem_published mem, fun going => ?_⟩
    rw [record.unread_eq going, List.length_append, place_eq, Nat.add_sub_add_left]
    rfl
  · cases o with
    | turn b =>
      have mem : .dispatched e ds ∈ (s.dispatcher.proceed s.registry s.hub b).1 := mem
      obtain rfl := deliveries_of_dispatched mem
      rw [map_hook_deliveriesOf]
      refine ⟨keeps.reachable.sorted.nodup_forClass _, fun hook => ?_, fun d mem p outcome => ?_⟩
      · rw [Registry.mem_forClass, keeps.mem_iff]
      · exact ⟨(d.carries_of_mem_posts p outcome).1, fun q posted => tells_of_mem_posts mem posted⟩
    | start => exact absurd mem List.not_mem_nil
    | hub o =>
      simp only [Service.step] at mem
      split at mem <;> exact absurd mem List.not_mem_nil
    | add | remove =>
      simp only [Service.step] at mem
      split at mem <;> exact absurd mem List.not_mem_nil

/-- A dispatcher starts behind a channel with one slot and is told of the event that was overtaken.
Of the events that are left, each is posted to the one webhook of its class, and the secret of the
secured one goes along with its own event only. -/
theorem dispatcher_routes_after_lag :
    let t : Published := .transaction ⟨none, "t", [], none⟩
    let u : Published := .unspents ⟨none, []⟩
    let ops : List Operation :=
      [.add "http://[::1]/t" (some .transaction) "", .add "http://[::1]/u" (some .unspents) "s",
        .hub (.publish 0 t), .hub (.publish 0 u), .hub (.publish 0 u), .start, .turn .unspents]
    let s := (Service.of ((Hub.new 1).after []) .empty).after ops
    let entries := (Service.of ((Hub.new 1).after []) .empty).history ops
    let told (b : Branch) (e : Published) (endpoint : String) (authorization : Option String) :=
      ∃ d, .dispatched e [d] ∈ Entry.actions (.turn b, (s.step (.turn b)).1) ∧ ∀ p outcome,
        d.posts p outcome ≠ [] ∧ ∀ q ∈ d.posts p outcome,
          q.endpoint.text = endpoint ∧ q.authorization = authorization ∧ TextTells q.body e
    Registry.Reachable .empty ∧ notices .unspents entries = [.skipped 1] ∧
      (∃ unread, Balanced (published .unspents entries) [.skipped 1] unread) ∧
      told .transactions t "http://[::1]/t" none ∧
      told .unspents u "http://[::1]/u" (some "Bearer s") := by
  intro t u ops s entries told
  have routes := dispatcher_routes 1 [] .empty ops
  have lagged : notices .unspents entries = [.skipped 1] := by decide +kernel
  obtain ⟨unread, balanced, -⟩ := routes.1 .unspents
  change Balanced _ (notices .unspents entries) unread at balanced
  have sent {b : Branch} {e : Published} {endpoint : String} {authorization : Option String}
      (handed : .dispatched e (deliveriesOf s.registry e) ∈
        Entry.actions (.turn b, (s.step (.turn b)).1))
      (one : ((deliveriesOf s.registry e).map fun d =>
        (d.hook.endpoint.text, d.hook.secret.map ("Bearer " ++ ·))) = [(endpoint, authorization)]) :
      told b e endpoint authorization := by
    obtain ⟨d, single, own⟩ := List.map_eq_singleton_iff.mp one
    rw [single] at handed
    obtain ⟨-, -, posts⟩ := routes.2 (.turn b) e [d] handed
    refine ⟨d, handed, fun p outcome => ?_⟩
    obtain ⟨some, tells⟩ := posts d (List.mem_singleton_self d) p outcome
    refine ⟨some, fun q posted => ?_⟩
    obtain ⟨text, carries, tells⟩ := tells q posted
    have body : q.body = text := carries.body
    exact ⟨(congrArg Url.text carries.endpoint).trans (congrArg Prod.fst own),
      carries.authorization_eq.trans (congrArg Prod.snd own), body ▸ tells⟩
  refine ⟨.empty, lagged, ⟨unread, lagged ▸ balanced⟩, ?_, ?_⟩
  · exact sent (by decide +kernel) (by decide +kernel)
  · exact sent (by decide +kernel) (by decide +kernel)

end WalletNotify.Server
