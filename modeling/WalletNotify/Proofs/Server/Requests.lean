import WalletNotify.Proofs.Event.Kind
import WalletNotify.Proofs.Webhook.Book
import WalletNotify.Proofs.Webhook.Secret
import WalletNotify.Server.Requests

/-!
# How requests are decided

A request to add a webhook goes through six checks and is refused by the first one that fails; a
request to remove a webhook names a registered one or is refused. What the secret and the pair are
checked against is told by `Rules`: what is written of them is not quite what is done. Main
statement: `requests_decided`, with the requests that are not answered as it is written.
-/

namespace WalletNotify.Webhook

open Event (EventClass Kind)

/-! ## Gains -/

/-- A registry has one webhook more than another, and both have theirs in order. -/
structure Registry.Gains (r : Registry) (hook : Hook) (r' : Registry) : Prop where
  entries : r'.hooks.Perm (hook :: r.hooks)
  sorted : r.Sorted
  sorted' : r'.Sorted

namespace Registry

/-- A registry gains the webhook that is registered. -/
lemma gains_insertSorted {r : Registry} {hook : Hook} (sorted : r.Sorted)
    (free : ∀ h ∈ r.hooks, h.id ≠ hook.id) : r.Gains hook ⟨insertSorted hook r.hooks⟩ :=
  ⟨insertSorted_perm hook r.hooks, sorted, sorted_insertSorted sorted free⟩

/-- Only the webhook that is forgotten is lost. -/
lemma gains_of_filter {r : Registry} {hook : Hook} (sorted : r.Sorted) (there : hook ∈ r.hooks) :
    (⟨r.hooks.filter fun h => h.id != hook.id⟩ : Registry).Gains hook r := by
  refine ⟨?_, List.Pairwise.sublist List.filter_sublist sorted, sorted⟩
  have once : (hook :: r.hooks.filter fun h => h.id != hook.id).Nodup := by
    refine List.nodup_cons.mpr ⟨fun mem => ?_, sorted.nodup.filter _⟩
    simpa using (List.mem_filter.mp mem).2
  rw [List.perm_ext_iff_of_nodup sorted.nodup once]
  intro h
  rw [List.mem_cons, List.mem_filter, bne_iff_ne]
  constructor
  · intro mem
    by_cases same : h.id = hook.id
    · exact .inl (sorted.eq_of_id mem there same)
    · exact .inr ⟨mem, same⟩
  · rintro (rfl | ⟨mem, -⟩)
    · exact there
    · exact mem

end Registry

end WalletNotify.Webhook

namespace WalletNotify.Server

open Event (EventClass Kind)
open Schema.Stable (AddWebhookRequest RemoveWebhookRequest)
open Webhook

/-! ## Checks -/

/-- What is checked of a request to add a webhook. -/
inductive Check where
  | knownType
  | specifiedType
  | readableEndpoint
  | webScheme
  | allowedSecret
  | newPair
deriving DecidableEq, Repr

/-- What the checks of the secret and of the pair go by: the characters that a secret may have, and
which pairs are taken for the same. -/
structure Rules where
  mayHold : Char → Bool
  same : Pair → Pair → Bool

/-- The rules as they are written. -/
def Rules.written : Rules := ⟨isPrintable, fun p q => p = q⟩

/-- The rules that are followed. -/
def Rules.followed : Rules := ⟨isSendable, fun p q => p.id = q.id⟩

/-- As the rules are written, only one and the same pair is taken for the same. -/
lemma Rules.same_written {p q : Pair} : Rules.written.same p q = true ↔ p = q :=
  decide_eq_true_iff

/-- As the rules are followed, pairs with one id are taken for the same. -/
lemma Rules.same_followed {p q : Pair} : Rules.followed.same p q = true ↔ p.id = q.id :=
  decide_eq_true_iff

/-- The pair that a request asks for. -/
def pair? (q : AddWebhookRequest) : Option Pair :=
  match Kind.ofNumber? q.eventType, Url.read q.endpoint with
  | some kind, .ok url => some ⟨kind, url.text⟩
  | _, _ => none

namespace Check

/-- All checks, in the order in which they are made. -/
def all : List Check :=
  [knownType, specifiedType, readableEndpoint, webScheme, allowedSecret, newPair]

/-- The error of a check that fails. -/
def fault? (rules : Rules) (r : Registry) (q : AddWebhookRequest) : Check → Option RegistryError
  | knownType =>
    if q.eventType ∈ [0, 1, 2] then none
    else some (.unknownEventType (.unknownNumber "WebhookEventType" q.eventType))
  | specifiedType => if q.eventType = 0 then some .unspecifiedEventType else none
  | readableEndpoint =>
    match Url.read q.endpoint with
    | .ok _ => none
    | .error fault => some (.badEndpoint fault)
  | webScheme =>
    match Url.read q.endpoint with
    | .ok url =>
      if url.scheme = "http" ∨ url.scheme = "https" then none
      else some (.unsupportedScheme url.scheme)
    | .error _ => none
  | allowedSecret => if q.secret.toList.all rules.mayHold then none else some .badSecret
  | newPair =>
    (pair? q).bind fun p =>
      if r.hooks.any fun h => rules.same h.pair p then some (.alreadyExists p.id) else none

/-- The status that a failed check is told with. -/
def code : Check → StatusCode
  | newPair => .alreadyExists
  | _ => .invalidArgument

end Check

/-- The first check that fails, with its error. -/
def firstFault? (rules : Rules) (r : Registry) (q : AddWebhookRequest) :
    Option (Check × RegistryError) :=
  Check.all.findSome? fun check => (check.fault? rules r q).map fun e => (check, e)

/-! ## Decisions -/

/-- A webhook is the one that a request asks for. -/
structure IsAsked (q : AddWebhookRequest) (hook : Hook) : Prop where
  kind : Kind.number hook.kind = q.eventType
  endpoint : Url.read q.endpoint = .ok hook.endpoint
  id : hook.id = hook.pair.id
  secret : hook.secret = if q.secret = "" then none else some q.secret

/-- How a request to add a webhook is decided by rules: it is refused by the first check that fails
and nothing changes, or the webhook is registered and its id told. -/
inductive Adds (rules : Rules) (r : Registry) (q : AddWebhookRequest) : Response → Registry → Prop
  | refused {check e} :
    firstFault? rules r q = some (check, e) → Adds rules r q (.failed ⟨check.code, e.message⟩) r
  | added {hook r'} :
    firstFault? rules r q = none → IsAsked q hook → r.Gains hook r' →
    Adds rules r q (.added ⟨hook.id.text⟩) r'

/-- How a request to remove a webhook is decided: an empty or an unknown id is refused and nothing
changes, or the webhook is forgotten. -/
inductive Removes (r : Registry) (q : RemoveWebhookRequest) : Response → Registry → Prop
  | empty :
    q.id = "" → Removes r q (.failed ⟨.invalidArgument, RegistryError.message .emptyId⟩) r
  | unknown :
    q.id ≠ "" → (∀ h ∈ r.hooks, h.id.text ≠ q.id) →
    Removes r q (.failed ⟨.notFound, RegistryError.message (.notFound ⟨q.id⟩)⟩) r
  | removed {hook r'} :
    q.id ≠ "" → hook.id.text = q.id → r'.Gains hook r → Removes r q (.removed {}) r'

/-- A request is for this pair, and passes the checks of its class and its endpoint. -/
structure Names (q : AddWebhookRequest) (url : Url) (p : Pair) : Prop where
  kind : Kind.number p.kind = q.eventType
  endpoint : Url.read q.endpoint = .ok url
  normal : p.endpoint = url.text
  scheme : url.scheme = "http" ∨ url.scheme = "https"

variable {r : Registry} {q : AddWebhookRequest} {url : Url} {p : Pair}

namespace Names

variable {rules : Rules}

/-- A request that passes the first checks is decided by its secret and its pair. -/
lemma firstFault?_eq (names : Names q url p) (rules : Rules) :
    firstFault? rules r q =
      if q.secret.toList.all rules.mayHold then
        if r.hooks.any fun h => rules.same h.pair p then some (.newPair, .alreadyExists p.id)
        else none
      else some (.allowedSecret, .badSecret) := by
  have ofNumber : Kind.ofNumber? q.eventType = some p.kind := by
    rw [Event.LawfulKind.ofNumber?_eq_some]
    exact names.kind
  have known : q.eventType ∈ [(0 : Int32), 1, 2] := by
    rw [← names.kind]
    cases p.kind <;> decide
  have specified : q.eventType ≠ 0 := by
    rw [← names.kind]
    exact Event.LawfulKind.number_ne_zero p.kind
  have pair : pair? q = some p := by
    rw [pair?, ofNumber, names.endpoint]
    simp only [← names.normal]
  simp only [firstFault?, Check.all, List.findSome?_cons, List.findSome?_nil, Check.fault?,
    names.endpoint, if_pos known, if_neg specified, if_pos names.scheme, pair, Option.map_none,
    Option.bind_some]
  split_ifs <;> rfl

/-- A request that names a pair is refused for its secret first. -/
lemma firstFault?_of_secret (names : Names q url p)
    (bad : ∃ c ∈ q.secret.toList, rules.mayHold c = false) :
    firstFault? rules r q = some (.allowedSecret, .badSecret) := by
  rw [names.firstFault?_eq, if_neg]
  simpa using bad

/-- A request with an allowed secret is refused if its pair is taken. -/
lemma firstFault?_of_taken (names : Names q url p)
    (allowed : ∀ c ∈ q.secret.toList, rules.mayHold c = true)
    (taken : ∃ h ∈ r.hooks, rules.same h.pair p = true) :
    firstFault? rules r q = some (.newPair, .alreadyExists p.id) := by
  rw [names.firstFault?_eq, if_pos (List.all_eq_true.mpr allowed),
    if_pos (List.any_eq_true.mpr taken)]

/-- A request that names a free pair, with an allowed secret, passes all checks. -/
lemma firstFault?_of_free (names : Names q url p)
    (allowed : ∀ c ∈ q.secret.toList, rules.mayHold c = true)
    (free : ∀ h ∈ r.hooks, ¬ rules.same h.pair p = true) : firstFault? rules r q = none := by
  rw [names.firstFault?_eq, if_pos (List.all_eq_true.mpr allowed), if_neg]
  simpa using free

end Names

/-- A request is refused by one of the first checks, whatever the rules, or it names a pair. -/
lemma refused_or_names (r : Registry) (q : AddWebhookRequest) :
    (∃ check e, (∀ rules, firstFault? rules r q = some (check, e)) ∧ addWebhook r q = .error e ∧
      e.code = check.code) ∨ ∃ url p, Names q url p := by
  cases read : Kind.ofNumber (κ := EventClass) q.eventType with
  | error fault =>
    obtain ⟨unknown, rfl⟩ := Kind.ofNumber_eq_error.mp read
    rw [Event.EventClass.exists_numberOf_iff] at unknown
    refine .inl ⟨.knownType, .unknownEventType (.unknownNumber "WebhookEventType" q.eventType),
      fun rules => ?_, ?_, rfl⟩
    · simp only [firstFault?, Check.all, List.findSome?_cons, Check.fault?, if_neg unknown,
        Option.map_some]
    · simp only [addWebhook, readEventType, read, Except.mapError, error_bind]
      rfl
  | ok kind =>
    have number := Kind.ofNumber_eq_ok.mp read
    have known := Event.EventClass.exists_numberOf_iff.mp ⟨kind, number⟩
    cases kind with
    | none =>
      have unspecified : q.eventType = 0 := number.symm
      refine .inl ⟨.specifiedType, .unspecifiedEventType, fun rules => ?_, ?_, rfl⟩
      · simp only [firstFault?, Check.all, List.findSome?_cons, Check.fault?, if_pos known,
          if_pos unspecified, Option.map_none, Option.map_some]
      · simp only [addWebhook, readEventType, read, Except.mapError, ok_bind]
        rfl
    | some k =>
      have specified : q.eventType ≠ 0 := by
        rw [← number]
        exact Event.LawfulKind.number_ne_zero k
      cases endpoint : Url.read q.endpoint with
      | error fault =>
        refine .inl ⟨.readableEndpoint, .badEndpoint fault, fun rules => ?_, ?_, rfl⟩
        · simp only [firstFault?, Check.all, List.findSome?_cons, Check.fault?, if_pos known,
            if_neg specified, endpoint, Option.map_none, Option.map_some]
        · simp only [addWebhook, readEventType, read, Except.mapError, ok_bind, Registry.add,
            Registry.check, endpoint]
          rfl
      | ok url =>
        by_cases scheme : url.scheme = "http" ∨ url.scheme = "https"
        · exact .inr ⟨url, ⟨k, url.text⟩, number, endpoint, rfl, scheme⟩
        · refine .inl ⟨.webScheme, .unsupportedScheme url.scheme, fun rules => ?_, ?_, rfl⟩
          · simp only [firstFault?, Check.all, List.findSome?_cons, Check.fault?, if_pos known,
              if_neg specified, endpoint, if_neg scheme, Option.map_none, Option.map_some]
          · simp only [addWebhook, readEventType, read, Except.mapError, ok_bind, Registry.add,
              Registry.check, endpoint, if_pos (not_or.mp scheme)]
            rfl

/-- What is checked of a request that names a pair. -/
lemma Names.check_eq (names : Names q url p) :
    Registry.check q.endpoint (some p.kind) q.secret =
      if isSecret q.secret then .ok (Hook.new p.id url p.kind q.secret) else .error .badSecret := by
  have scheme : ¬ (url.scheme ≠ "http" ∧ url.scheme ≠ "https") := by
    rw [← not_or, not_not]
    exact names.scheme
  simp only [Registry.check, names.endpoint, Except.mapError, ok_bind, if_neg scheme]
  have id : Id.of p.kind url = p.id := by
    rw [Pair.id, Pair.text, names.normal]
    rfl
  rw [← id]
  by_cases sent : isSecret q.secret = true
  · rw [if_pos sent, if_neg (not_not.mpr sent)]
    rfl
  · rw [if_neg sent, if_pos sent]
    rfl

/-- The event type of a request that names a pair is read as the class of the pair. -/
lemma Names.readEventType_eq (names : Names q url p) :
    readEventType q.eventType = .ok (some p.kind) := by
  have number : Kind.numberOf (some p.kind) = q.eventType := names.kind
  rw [readEventType, Kind.ofNumber_eq_ok.mpr number]
  rfl

/-- The webhook that passes the checks is the one that is asked for. -/
lemma Names.isAsked (names : Names q url p) : IsAsked q (Hook.new p.id url p.kind q.secret) where
  kind := names.kind
  endpoint := names.endpoint
  id := by
    rw [Hook.pair, Hook.new, ← names.normal]
  secret := by
    rw [Hook.new]
    simp only [String.isEmpty_iff]

/-- Every request to add a webhook is decided by the rules that are followed. -/
lemma adds_followed (sorted : r.Sorted) (ids : ∀ h ∈ r.hooks, h.id = h.pair.id)
    (q : AddWebhookRequest) :
    Adds .followed r q (respond r (.add q)).1 (respond r (.add q)).2 := by
  rcases refused_or_names r q with ⟨check, e, first, failed, code⟩ | ⟨url, p, names⟩
  · simp only [respond, failed, Status.of, code]
    exact .refused (first _)
  simp only [respond, addWebhook, names.readEventType_eq, ok_bind, Registry.add, names.check_eq,
    isSecret_eq, List.all_eq_true]
  by_cases sendable : ∀ c ∈ q.secret.toList, isSendable c = true
  · rw [if_pos sendable]
    simp only [ok_bind]
    cases found : r.find? (Hook.new p.id url p.kind q.secret).id with
    | some h =>
      obtain ⟨mem, same⟩ := sorted.find?_eq_some.mp found
      exact .refused (names.firstFault?_of_taken sendable
        ⟨h, mem, Rules.same_followed.mpr ((ids h mem).symm.trans same)⟩)
    | none =>
      have free := Registry.find?_eq_none.mp found
      have otherId : ∀ h ∈ r.hooks, ¬ Rules.followed.same h.pair p = true := by
        intro h mem
        rw [Rules.same_followed, ← ids h mem]
        exact free h mem
      exact .added (names.firstFault?_of_free sendable otherId) names.isAsked
        (Registry.gains_insertSorted sorted free)
  · have bad : ∃ c ∈ q.secret.toList, isSendable c = false := by simpa using sendable
    rw [if_neg sendable]
    exact .refused (names.firstFault?_of_secret bad)

/-- The status that an answer names, if it names a failure. -/
def Response.code? : Response → Option StatusCode
  | failed status => some status.code
  | _ => none

/-- What is answered names the status of the first check that fails. -/
lemma Adds.code_eq {rules : Rules} {answer : Response} {r' : Registry}
    (adds : Adds rules r q answer r') :
    (firstFault? rules r q).map (·.1.code) = answer.code? := by
  cases adds with
  | refused first => rw [first]; rfl
  | added none => rw [none]; rfl

/-! ## Requests that are not decided as it is written -/

/-- A secret is let pass that is not printable ASCII: the request passes the checks before, and the
secret has no controls, but a character beyond ASCII. -/
def SlipsThrough (q : AddWebhookRequest) : Prop :=
  (∃ url p, Names q url p) ∧ (∀ c ∈ q.secret.toList, isSendable c = true) ∧
    ∃ c ∈ q.secret.toList, isPrintable c = false

/-- The text of the pair has the digest of another one that is registered. -/
def Clashes (r : Registry) (q : AddWebhookRequest) : Prop :=
  ∃ url p, Names q url p ∧ (∀ c ∈ q.secret.toList, isPrintable c = true) ∧
    ∃ h ∈ r.hooks, h.pair ≠ p ∧ h.pair.id = p.id

/-- Rules by which a request has the same first fault answer it in the same way. -/
lemma Adds.congr {rules rules' : Rules} {answer : Response} {r' : Registry}
    (same : firstFault? rules r q = firstFault? rules' r q) (adds : Adds rules r q answer r') :
    Adds rules' r q answer r' := by
  cases adds with
  | refused first => exact .refused (same ▸ first)
  | added none asked gains => exact .added (same ▸ none) asked gains

/-- Apart from these requests, the rules that are written find the faults that are told. -/
lemma firstFault?_written (orderly : ¬ (SlipsThrough q ∨ Clashes r q)) :
    firstFault? .written r q = firstFault? .followed r q := by
  rcases refused_or_names r q with ⟨check, e, first, -⟩ | ⟨url, p, names⟩
  · rw [first, first]
  obtain ⟨noSlip, noClash⟩ := not_or.mp orderly
  by_cases printable : ∀ c ∈ q.secret.toList, isPrintable c = true
  · have sendable := fun c mem => isSendable_of_isPrintable (printable c mem)
    by_cases taken : ∃ h ∈ r.hooks, h.pair = p
    · obtain ⟨h, mem, same⟩ := taken
      rw [names.firstFault?_of_taken printable ⟨h, mem, Rules.same_written.mpr same⟩,
        names.firstFault?_of_taken sendable
          ⟨h, mem, Rules.same_followed.mpr (congrArg Pair.id same)⟩]
    · have other : ∀ h ∈ r.hooks, ¬ Rules.written.same h.pair p = true := fun h mem same =>
        taken ⟨h, mem, Rules.same_written.mp same⟩
      have otherId : ∀ h ∈ r.hooks, ¬ Rules.followed.same h.pair p = true := fun h mem same =>
        noClash ⟨url, p, names, printable, h, mem, fun is => taken ⟨h, mem, is⟩,
          Rules.same_followed.mp same⟩
      rw [names.firstFault?_of_free printable other, names.firstFault?_of_free sendable otherId]
  · have notPrintable : ∃ c ∈ q.secret.toList, isPrintable c = false := by simpa using printable
    have notSendable : ∃ c ∈ q.secret.toList, isSendable c = false := by
      by_contra sendable
      exact noSlip ⟨⟨url, p, names⟩, by simpa using sendable, notPrintable⟩
    rw [names.firstFault?_of_secret notPrintable, names.firstFault?_of_secret notSendable]

/-- A secret that slips through is not told to be bad. -/
lemma SlipsThrough.code_ne (slips : SlipsThrough q) :
    (firstFault? .written r q).map (·.1.code) ≠ (firstFault? .followed r q).map (·.1.code) := by
  obtain ⟨⟨url, p, names⟩, sendable, notPrintable⟩ := slips
  rw [names.firstFault?_of_secret notPrintable]
  by_cases taken : ∃ h ∈ r.hooks, Rules.followed.same h.pair p = true
  · rw [names.firstFault?_of_taken sendable taken]
    exact nofun
  · rw [names.firstFault?_of_free sendable fun h mem same => taken ⟨h, mem, same⟩]
    exact nofun

/-- A pair that clashes is told to be registered, though it is not. -/
lemma Clashes.code_ne (sorted : r.Sorted) (ids : ∀ h ∈ r.hooks, h.id = h.pair.id)
    (clashes : Clashes r q) :
    (firstFault? .written r q).map (·.1.code) ≠ (firstFault? .followed r q).map (·.1.code) := by
  obtain ⟨url, p, names, printable, h, mem, other, same⟩ := clashes
  have sendable := fun c mem => isSendable_of_isPrintable (printable c mem)
  have free : ∀ g ∈ r.hooks, ¬ Rules.written.same g.pair p = true := by
    intro g mem' equal
    rw [Rules.same_written] at equal
    apply other
    rw [sorted.eq_of_id mem mem' (by rw [ids h mem, ids g mem', same, equal]), equal]
  rw [names.firstFault?_of_free printable free,
    names.firstFault?_of_taken sendable ⟨h, mem, Rules.same_followed.mpr same⟩]
  exact nofun

/-- These requests, and no others, are not decided as it is written. -/
lemma adds_written_iff (sorted : r.Sorted) (ids : ∀ h ∈ r.hooks, h.id = h.pair.id)
    (q : AddWebhookRequest) :
    Adds .written r q (respond r (.add q)).1 (respond r (.add q)).2 ↔
      ¬ (SlipsThrough q ∨ Clashes r q) := by
  have followed := adds_followed sorted ids q
  constructor
  · intro written exception
    have codes := written.code_eq.trans followed.code_eq.symm
    rcases exception with slips | clashes
    · exact slips.code_ne codes
    · exact clashes.code_ne sorted ids codes
  · intro orderly
    exact followed.congr (firstFault?_written orderly).symm

/-! ## Requests to remove a webhook -/

/-- Every request to remove a webhook is decided as it is written. -/
lemma removes (sorted : r.Sorted) (q : RemoveWebhookRequest) :
    Removes r q (respond r (.remove q)).1 (respond r (.remove q)).2 := by
  simp only [respond, removeWebhook, Registry.remove, String.isEmpty_iff]
  by_cases empty : q.id = ""
  · rw [if_pos empty]
    exact .empty empty
  · rw [if_neg empty]
    cases found : r.find? ⟨q.id⟩ with
    | none =>
      refine .unknown empty fun h mem same => ?_
      exact Registry.find?_eq_none.mp found h mem (congrArg Id.mk same)
    | some hook =>
      obtain ⟨mem, is⟩ := sorted.find?_eq_some.mp found
      rw [← is]
      exact .removed empty (congrArg Id.text is) (Registry.gains_of_filter sorted mem)

/-! ## All requests -/

/-- In every registry that comes from registering and forgetting webhooks, a request to add a
webhook is refused by the first check that fails, or the webhook is registered and no other; with
the checks as they are written this is so exactly if no secret slips through and the pair does not
clash with a registered one. A request to remove a webhook is refused, or the webhook is forgotten
and no other. -/
theorem requests_decided {r : Registry} (reachable : r.Reachable) :
    (∀ q, Adds .followed r q (respond r (.add q)).1 (respond r (.add q)).2) ∧
    (∀ q, Adds .written r q (respond r (.add q)).1 (respond r (.add q)).2 ↔
      ¬ (SlipsThrough q ∨ Clashes r q)) ∧
    ∀ q, Removes r q (respond r (.remove q)).1 (respond r (.remove q)).2 := by
  have sorted := reachable.sorted
  have ids : ∀ h ∈ r.hooks, h.id = h.pair.id := by
    intro h mem
    obtain ⟨endpoint, kind, secret, passed⟩ := reachable.checked mem
    exact (Registry.of_check passed).1
  exact ⟨adds_followed sorted ids, adds_written_iff sorted ids, removes sorted⟩

/-- A request that is wrong in three ways is refused for its event type. -/
theorem requests_decided_first_fault :
    let q : AddWebhookRequest := ⟨"ftp://[::1]/", 0, "a\nb"⟩
    Registry.Reachable .empty ∧ ¬ (SlipsThrough q ∨ Clashes .empty q) ∧
      Adds .written .empty q
        (.failed ⟨.invalidArgument, "webhook event type must be specified"⟩) .empty := by
  intro q
  have unnamed {url p} (names : Names q url p) : False :=
    Event.LawfulKind.number_ne_zero p.kind names.kind
  have orderly : ¬ (SlipsThrough q ∨ Clashes .empty q) := by
    rintro (⟨⟨_, _, names⟩, -⟩ | ⟨_, _, names, -⟩) <;> exact unnamed names
  exact ⟨.empty, orderly, ((requests_decided .empty).2.1 q).mpr orderly⟩

/-- A secret that is not printable ASCII is not refused. -/
theorem secret_slips_through :
    ¬ ∀ r : Registry, r.Reachable →
      (∀ q, Adds .written r q (respond r (.add q)).1 (respond r (.add q)).2) ∧
      ∀ q, Removes r q (respond r (.remove q)).1 (respond r (.remove q)).2 := by
  intro always
  have written := (always .empty .empty).1 ⟨"http://[::1]/", 1, "é"⟩
  have orderly := (adds_written_iff Registry.Reachable.empty.sorted nofun _).mp written
  have scheme : (Url.read "http://[::1]/").toOption.map Url.scheme = some "http" := by
    decide +kernel
  cases read : Url.read "http://[::1]/" with
  | error fault =>
    rw [read] at scheme
    cases scheme
  | ok url =>
    rw [read] at scheme
    have names : Names ⟨"http://[::1]/", 1, "é"⟩ url ⟨.transaction, url.text⟩ :=
      ⟨rfl, read, rfl, .inl (Option.some.inj scheme)⟩
    have sendable : "é".toList.all isSendable = true := by decide
    exact orderly (.inl ⟨⟨url, _, names⟩, List.all_eq_true.mp sendable, 'é', by decide, by decide⟩)

end WalletNotify.Server
