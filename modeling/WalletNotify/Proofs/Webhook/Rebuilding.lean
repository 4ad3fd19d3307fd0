import WalletNotify.Proofs.Result
import WalletNotify.Proofs.Webhook.Secret
import WalletNotify.Proofs.Webhook.Sharing

/-!
# Rebuilding a registry

A listing with the secrets is enough to register all webhooks anew. Main statement:
`rebuilt_from_listing`, by which any order of a listing leads back to the registry that it lists, as
long as the texts of the listed endpoints are read as those endpoints.
-/

namespace WalletNotify.Webhook.Registry

open Event (EventClass)

/-- Registers a webhook anew, from its endpoint, its class and its secret. -/
def restore (r : Registry) (h : Hook) : Except RegistryError (Hook × Registry) :=
  r.add h.endpoint.text (some h.kind) (h.secret.getD "")

/-- Registers webhooks anew, one after another, until one of them is refused. -/
def restoreAll (r : Registry) : List Hook → Except RegistryError (List Hook × Registry)
  | [] => .ok ([], r)
  | h :: rest => do
    let (added, r) ← r.restore h
    let (others, r) ← r.restoreAll rest
    return (added :: others, r)

variable {r g : Registry} {h h' : Hook} {hooks : List Hook}

/-! ## One webhook -/

/-- A webhook passes the checks with what it is made of, and comes out the same. -/
def PassesAgain (h : Hook) : Prop :=
  check h.endpoint.text (some h.kind) (h.secret.getD "") = .ok h

/-- What has passed the checks passes them again if its endpoint is read as it was. -/
lemma passesAgain_of_check {endpoint secret : String} {kind : Option EventClass}
    (passed : check endpoint kind secret = .ok h)
    (stable : Url.read h.endpoint.text = .ok h.endpoint) : PassesAgain h := by
  obtain ⟨k, url, rfl, -, scheme, valid, rfl⟩ := check_eq_ok.mp passed
  rw [PassesAgain, Hook.getD_secret_new, check_eq_ok]
  exact ⟨k, url, rfl, stable, scheme, valid, rfl⟩

/-- A webhook is restored where its id is free. -/
lemma restore_of_free (again : PassesAgain h) (free : g.find? h.id = none) :
    g.restore h = .ok (h, ⟨insertSorted h g.hooks⟩) :=
  add_eq_ok.mpr ⟨again, free, rfl⟩

/-- A webhook is refused where its id is taken. -/
lemma restore_of_taken (again : PassesAgain h) (taken : g.find? h.id = some h') :
    g.restore h = .error (.alreadyExists h.id) := by
  rw [restore, add, again, ok_bind, taken]
  rfl

/-! ## All webhooks -/

/-- Registries with the same webhooks have them in the same order. -/
lemma Sorted.eq_of_perm (sorted : r.Sorted) (sorted' : g.Sorted) (same : r.hooks.Perm g.hooks) :
    r = g := by
  have before {a b : Hook} (lt : a.id.text < b.id.text) (gt : b.id.text < a.id.text) : a = b :=
    absurd (String.lt_trans lt gt) (String.lt_irrefl _)
  have hooks : r.hooks = g.hooks :=
    same.eq_of_pairwise (fun _ _ _ _ lt gt => before lt gt) sorted sorted'
  cases r
  cases g
  exact congrArg Registry.mk hooks

/-- Webhooks with ids of their own are all registered anew, beside those that are there. -/
lemma restoreAll_of_free (again : ∀ h ∈ hooks, PassesAgain h) (sorted : g.Sorted)
    (apart : hooks.Pairwise fun h h' => h.id ≠ h'.id) (free : ∀ h ∈ hooks, g.find? h.id = none) :
    ∃ g', g.restoreAll hooks = .ok (hooks, g') ∧ g'.Sorted ∧ g'.hooks.Perm (hooks ++ g.hooks) := by
  induction hooks generalizing g with
  | nil => exact ⟨g, rfl, sorted, .refl _⟩
  | cons h rest ih =>
    obtain ⟨first, others⟩ := List.forall_mem_cons.mp again
    obtain ⟨untaken, free⟩ := List.forall_mem_cons.mp free
    obtain ⟨other, apart⟩ := List.pairwise_cons.mp apart
    -- The ids of the rest stay free, for they are neither that of the first nor taken before.
    have stillFree : ∀ h' ∈ rest, find? ⟨insertSorted h g.hooks⟩ h'.id = none := by
      intro h' mem
      rw [find?_eq_none]
      intro there present
      rcases mem_insertSorted.mp present with rfl | present
      · exact other h' mem
      · exact find?_eq_none.mp (free h' mem) there present
    have place := sorted_insertSorted sorted (find?_eq_none.mp untaken)
    obtain ⟨g', restored, sorted', all⟩ := ih others place apart stillFree
    refine ⟨g', ?_, sorted', ?_⟩
    · simp only [restoreAll, restore_of_free first untaken, ok_bind, restored]
      rfl
    · calc
        g'.hooks.Perm (rest ++ insertSorted h g.hooks) := all
        List.Perm _ (rest ++ h :: g.hooks) := (insertSorted_perm h g.hooks).append_left rest
        List.Perm _ (h :: rest ++ g.hooks) := List.perm_middle

/-- Every order of the listing of a registry leads from an empty registry back to it, and then each
of its webhooks is refused as a registered one. Their endpoints are read as they were. -/
theorem rebuilt_from_listing (reachable : r.Reachable)
    (stable : ∀ h ∈ r.list none, Url.read h.endpoint.text = .ok h.endpoint)
    (order : hooks.Perm (r.list none)) :
    empty.restoreAll hooks = .ok (hooks, r) ∧
      ∀ h ∈ r.list none, r.restore h = .error (.alreadyExists h.id) := by
  have again : ∀ h ∈ r.hooks, PassesAgain h := by
    intro h mem
    obtain ⟨endpoint, kind, secret, passed⟩ := reachable.checked mem
    exact passesAgain_of_check passed (stable h mem)
  constructor
  · have passes : ∀ h ∈ hooks, PassesAgain h := fun h mem => again h (order.mem_iff.mp mem)
    have apart : hooks.Pairwise fun h h' => h.id ≠ h'.id := by
      rw [order.pairwise_iff Ne.symm]
      exact reachable.sorted.imp fun lt same => String.ne_of_lt lt (congrArg Id.text same)
    obtain ⟨g, restored, sorted, all⟩ :=
      restoreAll_of_free passes Reachable.empty.sorted apart fun _ _ => rfl
    change g.hooks.Perm (hooks ++ []) at all
    rw [List.append_nil] at all
    rw [restored, sorted.eq_of_perm reachable.sorted (all.trans order)]
  · intro h mem
    exact restore_of_taken (again h mem) (reachable.sorted.find?_eq_some.mpr ⟨mem, rfl⟩)

/-- Of three webhooks two share an endpoint and one was spelled otherwise; they are registered anew
from the last one to the first. -/
theorem rebuilt_from_listing_backwards :
    let ops : List Registries.Operation := [
      .command 0 (.add "HTTP://[0::1]:80" (some .transaction) "k"),
      .command 0 (.add "http://[::1]" (some .unspents) ""),
      .command 0 (.add "https://[::2]/a?b" (some .unspents) "k")]
    let r := (Registries.start.after ops).registry 0
    r.size = 3 ∧ empty.restoreAll (r.list none).reverse = .ok ((r.list none).reverse, r) ∧
      ∀ h ∈ r.list none, r.restore h = .error (.alreadyExists h.id) := by
  intro ops r
  have reachable : r.Reachable := Registries.reachable_registry ops 0
  have stable : ∀ h ∈ r.list none, Url.read h.endpoint.text = .ok h.endpoint := by decide +kernel
  exact ⟨by decide +kernel, rebuilt_from_listing reachable stable (List.reverse_perm _)⟩

end WalletNotify.Webhook.Registry
