import Mathlib
import WalletNotify.Proofs.Config.Leaf

/-!
# The layers of configurations

A configuration is loaded from the environment, a file and the defaults. Main statement: each leaf
has the value of the variable that names it, else that of the file, else its default
(`load_layered`).
-/

namespace WalletNotify.Config

open Text (Keyed)
open Text.Keyed (Ordered)

/-! ## Settings of the right types -/

section

variable {top below settings : Settings} {s : Setting} {l : Leaf}

/-- No settings at all are sound. -/
lemma sound_nil : Sound [] where
  ordered := Text.Keyed.ordered_nil
  branch := nofun
  leaf l s found := by cases l <;> cases found

/-- A setting of the right type for a leaf holds no others, and so replaces what is below it. -/
lemma overlay_of_value? {v : LeafValue} (typed : l.value? s = some v) (t : Setting) :
    s.overlay t = s := by
  cases s with
  | table layer entries => cases l <;> cases typed
  | plain | list =>
    rw [Setting.overlay]
    rintro _ _ _ _ ⟨⟩

namespace Sound

/-- A leaf that is set above is taken from there, and else from below. -/
lemma setting?_overlayAll (above : Sound top) (sound : Sound below) (l : Leaf) :
    setting? l.path (Setting.overlayAll top below)
      = (setting? l.path top).or (setting? l.path below) := by
  have merged : setting? l.path (Setting.overlayAll top below)
      = (setting? l.path top).merge Setting.overlay (setting? l.path below) := by
    cases l with
    | endpoint | subscriberBuffer => exact get?_overlayAll above.ordered below _
    | policy f => exact get?_tableAt_overlayAll above.ordered above.branch sound.branch f.key
  rw [merged]
  cases set : setting? l.path top with
  | none => rw [Option.merge_none_left, Option.none_or]
  | some s =>
    obtain ⟨v, typed⟩ := above.leaf l s set
    cases setting? l.path below with
    | none => rfl
    | some t => rw [Option.merge_some_some, overlay_of_value? typed, Option.some_or]

/-- Sound settings over sound settings are sound. -/
lemma overlayAll (above : Sound top) (sound : Sound below) :
    Sound (Setting.overlayAll top below) where
  ordered := ordered_overlayAll top sound.ordered
  branch := above.branch.overlayAll above.ordered sound.branch
  leaf l s found := by
    rw [above.setting?_overlayAll sound, Option.or_eq_some_iff] at found
    rcases found with set | ⟨-, set⟩
    · exact above.leaf l s set
    · exact sound.leaf l s set

/-- A key that is unknown is set if it is set above or below. -/
lemma setsUnknown_overlayAll (above : Sound top) (sound : Sound below) :
    SetsUnknown (Setting.overlayAll top below) ↔ SetsUnknown top ∨ SetsUnknown below := by
  have merged (key : String) : (setting? ["webhook", key] (Setting.overlayAll top below)).isSome
      = ((setting? ["webhook", key] top).isSome || (setting? ["webhook", key] below).isSome) := by
    simp only [setting?, get?_tableAt_overlayAll above.ordered above.branch sound.branch,
      Option.isSome_merge]
  simp only [SetsUnknown, merged, Bool.or_eq_true, and_or_left, exists_or]

end Sound

/-- What a file sets is in order, and so sound if it has the right types. -/
lemma WellTyped.sound {file : Option String} (typed : WellTyped settings)
    (read : fileLayer file = .ok settings) : Sound settings := by
  cases file with
  | none =>
    cases read
    exact sound_nil
  | some text =>
    unfold fileLayer at read
    cases parsed : Toml.read text with
    | error fault => simp [parsed] at read
    | ok table =>
      simp only [parsed, Except.ok.injEq] at read
      subst read
      have tidy := Toml.each_of_read parsed
      refine ⟨ordered_ofTable tidy.ordered, ?_, typed.leaf⟩
      intro s found
      obtain ⟨layer, entries, rfl⟩ := typed.webhook s found
      rw [ofTable_eq, Text.Keyed.get?_map, Option.map_eq_some_iff] at found
      obtain ⟨v, here, same⟩ := found
      exact ⟨layer, entries, rfl, ordered_of_ofValue (tidy.get? here) same⟩

end

/-! ## Variables -/

/-- A variable names a leaf and has a value of its type, or it names a key that no setting has. -/
inductive Fits (name text : String) : Prop where
  | leaf (l : Leaf) (v : LeafValue) (named : variablePath? name = some l.path)
      (typed : l.value? (Literal.read text) = some v)
  | undeclared (key : String) (path : List String) (named : variablePath? name = some (key :: path))
      (undeclared : key ∉ declaredKeys)
  | unknown (key : String) (path : List String)
      (named : variablePath? name = some ("webhook" :: key :: path)) (unknown : IsUnknown key)
  | foreign (other : variablePath? name = none)

/-- A variable names an unknown key among the settings of webhooks. -/
def NamesUnknown (name : String) : Prop :=
  ∃ key path, IsUnknown key ∧ variablePath? name = some ("webhook" :: key :: path)

/-- The text of the variable that names a leaf, of the last one if there are several. -/
def Leaf.given? (l : Leaf) (environment : List (String × String)) : Option String :=
  (environment.findRev? fun x => variablePath? x.1 = some l.path).map Prod.snd

/-- The settings of one variable. -/
def variableLayer (x : String × String) : Settings :=
  match variablePath? x.1 with
  | some path => nestedSettings path (Literal.read x.2)
  | none => []

section

variable {name text : String} {below : Settings} {environment : List (String × String)}

/-- A variable that names a path sets what its value reads as at that path. -/
lemma variableLayer_of_some {path : List String} (named : variablePath? name = some path) :
    variableLayer (name, text) = nestedSettings path (Literal.read text) := by
  simp only [variableLayer, named]

/-- A variable that names no path sets nothing. -/
lemma variableLayer_of_none (named : variablePath? name = none) :
    variableLayer (name, text) = [] := by
  simp only [variableLayer, named]

/-- The layer of the environment is that of its variables, each over those before it. -/
lemma environmentLayer_eq (environment : List (String × String)) :
    environmentLayer environment
      = environment.foldl (fun below x => Setting.overlayAll (variableLayer x) below) [] := by
  unfold environmentLayer
  congr 1
  funext below ⟨name, text⟩
  simp only [variableLayer]
  cases variablePath? name with
  | none => rw [Setting.overlayAll]
  | some path => rfl

/-- What a variable sets is in order. -/
lemma ordered_variableLayer (x : String × String) : Ordered (variableLayer x) := by
  unfold variableLayer
  split
  next path _ =>
    cases path with
    | nil => exact Text.Keyed.ordered_nil
    | cons key path => exact Text.Keyed.ordered_singleton _
  next => exact Text.Keyed.ordered_nil

/-! ### Which leaf a path leads to -/

/-- Fields of the policy are told apart by their keys. -/
lemma key_inj {f g : PolicyField} : f.key = g.key ↔ f = g := by
  cases f <;> cases g <;> decide

/-- Leaves are told apart by their paths. -/
lemma path_inj {l m : Leaf} : l.path = m.path ↔ l = m := by
  cases l <;> cases m <;> simp [Leaf.path, key_inj]

/-- No leaf is below a key that is not declared. -/
lemma path_ne_of_undeclared {key : String} (undeclared : key ∉ declaredKeys) (path : List String)
    (l : Leaf) : key :: path ≠ l.path := by
  rintro same
  apply undeclared
  cases l <;> simp [Leaf.path, declaredKeys] at same ⊢ <;> simp [same]

/-- No leaf is below an unknown key of the webhook table. -/
lemma path_ne_of_unknown {key : String} (unknown : IsUnknown key) (path : List String) (l : Leaf) :
    "webhook" :: key :: path ≠ l.path := by
  cases l with
  | endpoint | subscriberBuffer => simp [Leaf.path]
  | policy f => simp [Leaf.path, Ne.symm (unknown f)]

/-- A setting at the path of a leaf is that leaf's own and nobody else's. -/
lemma setting?_path (l m : Leaf) (s : Setting) :
    setting? l.path (nestedSettings m.path s) = if m = l then some s else none := by
  cases l <;> cases m <;>
    simp [Leaf.path, setting?, nestedSettings, nested, tableAt, Keyed.get?, key_inj, eq_comm]

/-- A setting below an undeclared key is that of no leaf. -/
lemma setting?_undeclared {key : String} (undeclared : key ∉ declaredKeys) (path : List String)
    (l : Leaf) (s : Setting) : setting? l.path (nestedSettings (key :: path) s) = none := by
  simp only [declaredKeys, List.mem_cons, List.not_mem_nil, or_false, not_or] at undeclared
  obtain ⟨endpoint, buffer, webhook⟩ := undeclared
  cases l <;> simp [Leaf.path, setting?, nestedSettings, tableAt, Keyed.get?, Ne.symm endpoint,
    Ne.symm buffer, Ne.symm webhook]

/-- A setting below an unknown key of the webhook table is that of no leaf. -/
lemma setting?_unknown {key : String} (unknown : IsUnknown key) (path : List String) (l : Leaf)
    (s : Setting) : setting? l.path (nestedSettings ("webhook" :: key :: path) s) = none := by
  cases l with
  | endpoint | subscriberBuffer => simp [Leaf.path, setting?, nestedSettings, Keyed.get?]
  | policy f =>
    simp [Leaf.path, setting?, nestedSettings, nested, tableAt, Keyed.get?, unknown f]

/-! ### What a variable sets -/

namespace Fits

/-- A variable sets the leaf that it names, if it names one. -/
lemma setting?_eq (fits : Fits name text) (l : Leaf) :
    setting? l.path (variableLayer (name, text))
      = if variablePath? name = some l.path then some (Literal.read text) else none := by
  cases fits with
  | leaf m v named typed =>
    simp only [variableLayer_of_some named, setting?_path, named, Option.some.injEq, path_inj]
  | undeclared key path named undeclared =>
    simp only [variableLayer_of_some named, setting?_undeclared undeclared, named,
      Option.some.injEq, path_ne_of_undeclared undeclared, if_false]
  | unknown key path named unknown =>
    simp only [variableLayer_of_some named, setting?_unknown unknown, named, Option.some.injEq,
      path_ne_of_unknown unknown, if_false]
  | foreign other =>
    rw [variableLayer_of_none other, other, if_neg nofun]
    cases l <;> rfl

/-- The value of a variable that names a leaf has the type of the leaf. -/
lemma value? {l : Leaf} (fits : Fits name text) (named : variablePath? name = some l.path) :
    ∃ v, l.value? (Literal.read text) = some v := by
  cases fits with
  | leaf m v names typed =>
    cases path_inj.mp (Option.some.inj (names.symm.trans named))
    exact ⟨v, typed⟩
  | undeclared key path names undeclared =>
    exact absurd (Option.some.inj (names.symm.trans named)) (path_ne_of_undeclared undeclared _ _)
  | unknown key path names unknown =>
    exact absurd (Option.some.inj (names.symm.trans named)) (path_ne_of_unknown unknown _ _)
  | foreign other => cases other.symm.trans named

/-- A variable that sets something for webhooks names a key there. -/
lemma exists_webhook {s : Setting} (fits : Fits name text)
    (found : Keyed.get? "webhook" (variableLayer (name, text)) = some s) :
    ∃ key path, variablePath? name = some ("webhook" :: key :: path) ∧
      s = .table .environment [(key, nested path (Literal.read text))] := by
  cases fits with
  | leaf l v named typed =>
    rw [variableLayer_of_some named] at found
    cases l with
    | endpoint | subscriberBuffer => simp [Leaf.path, nestedSettings, Keyed.get?] at found
    | policy f =>
      simp only [Leaf.path, nestedSettings, Keyed.get?, if_true, Option.some.injEq] at found
      exact ⟨f.key, [], named, found.symm⟩
  | undeclared key path named undeclared =>
    have other : "webhook" ≠ key := by
      rintro rfl
      simp [declaredKeys] at undeclared
    simp [variableLayer_of_some named, nestedSettings, Keyed.get?, other] at found
  | unknown key path named unknown =>
    rw [variableLayer_of_some named] at found
    simp only [nestedSettings, Keyed.get?, if_true, Option.some.injEq] at found
    exact ⟨key, path, named, found.symm⟩
  | foreign other =>
    rw [variableLayer_of_none other] at found
    cases found

/-- A variable that fits sets something sound. -/
lemma sound (fits : Fits name text) : Sound (variableLayer (name, text)) where
  ordered := ordered_variableLayer _
  branch s found := by
    obtain ⟨key, path, -, rfl⟩ := fits.exists_webhook found
    exact ⟨_, _, rfl, Text.Keyed.ordered_singleton _⟩
  leaf l s found := by
    rw [fits.setting?_eq] at found
    split_ifs at found with named
    cases found
    exact fits.value? named

/-- A variable sets an unknown key if it names one. -/
lemma setsUnknown_iff (fits : Fits name text) :
    SetsUnknown (variableLayer (name, text)) ↔ NamesUnknown name := by
  constructor
  · rintro ⟨key, unknown, set⟩
    obtain ⟨s, found⟩ := Option.isSome_iff_exists.mp set
    obtain ⟨layer, entries, webhook, here⟩ := fits.sound.exists_webhook found
    obtain ⟨k, path, named, same⟩ := fits.exists_webhook webhook
    cases same
    rw [Keyed.get?] at here
    split_ifs at here with own
    · exact ⟨key, path, unknown, own ▸ named⟩
    · cases here
  · rintro ⟨key, path, unknown, named⟩
    refine ⟨key, unknown, ?_⟩
    simp [variableLayer_of_some named, setting?, nestedSettings, nested, tableAt, Keyed.get?]

end Fits

/-! ### What all variables set -/

/-- What variables set is of the right types, if they fit. -/
lemma sound_of_fits (fits : ∀ x ∈ environment, Fits x.1 x.2) (sound : Sound below) :
    Sound (environment.foldl (fun below x => Setting.overlayAll (variableLayer x) below)
      below) := by
  induction environment generalizing below with
  | nil => exact sound
  | cons x rest ih =>
    obtain ⟨first, others⟩ := List.forall_mem_cons.mp fits
    exact ih others (first.sound.overlayAll sound)

/-- A leaf is set by the last variable that names it. -/
lemma setting?_of_fits (fits : ∀ x ∈ environment, Fits x.1 x.2) (sound : Sound below) (l : Leaf) :
    setting? l.path
        (environment.foldl (fun below x => Setting.overlayAll (variableLayer x) below) below)
      = ((l.given? environment).map Literal.read).or (setting? l.path below) := by
  induction environment generalizing below with
  | nil => rfl
  | cons x rest ih =>
    obtain ⟨first, others⟩ := List.forall_mem_cons.mp fits
    rw [List.foldl_cons, ih others (first.sound.overlayAll sound),
      first.sound.setting?_overlayAll sound, first.setting?_eq, ← Option.or_assoc]
    congr 1
    unfold Leaf.given?
    rw [List.findRev?]
    cases rest.findRev? fun x => variablePath? x.1 = some l.path with
    | some y => rfl
    | none =>
      simp only [Option.map_none, Option.none_or, decide_eq_true_eq]
      split_ifs <;> rfl

/-- An unknown key is set by a variable that names it. -/
lemma setsUnknown_of_fits (fits : ∀ x ∈ environment, Fits x.1 x.2) (sound : Sound below) :
    SetsUnknown
        (environment.foldl (fun below x => Setting.overlayAll (variableLayer x) below) below) ↔
      (∃ x ∈ environment, NamesUnknown x.1) ∨ SetsUnknown below := by
  induction environment generalizing below with
  | nil => simp
  | cons x rest ih =>
    obtain ⟨first, others⟩ := List.forall_mem_cons.mp fits
    rw [List.foldl_cons, ih others (first.sound.overlayAll sound),
      first.sound.setsUnknown_overlayAll sound, first.setsUnknown_iff, List.exists_mem_cons_iff,
      or_left_comm, or_assoc]

/-- The environment sets something sound if all its variables fit. -/
lemma sound_environmentLayer (fits : ∀ x ∈ environment, Fits x.1 x.2) :
    Sound (environmentLayer environment) := by
  rw [environmentLayer_eq]
  exact sound_of_fits fits sound_nil

/-- A leaf is set in the environment to what is given for it there, read as a literal. -/
lemma setting?_environmentLayer (fits : ∀ x ∈ environment, Fits x.1 x.2) (l : Leaf) :
    setting? l.path (environmentLayer environment)
      = (l.given? environment).map Literal.read := by
  have none : setting? l.path [] = none := by cases l <;> rfl
  rw [environmentLayer_eq, setting?_of_fits fits sound_nil, none, Option.or_none]

/-- The environment sets an unknown key exactly if some variable names one. -/
lemma setsUnknown_environmentLayer (fits : ∀ x ∈ environment, Fits x.1 x.2) :
    SetsUnknown (environmentLayer environment) ↔ ∃ x ∈ environment, NamesUnknown x.1 := by
  have none : ¬ SetsUnknown [] := fun ⟨_, _, set⟩ => by cases set
  rw [environmentLayer_eq, setsUnknown_of_fits fits sound_nil, or_iff_left none]

end

/-! ## All layers -/

/-- The value that is chosen for a leaf: that of the variable which names it, else that of the file,
else its default. -/
def Leaf.chosen? (l : Leaf) (file : Settings) (environment : List (String × String)) :
    Option LeafValue :=
  match l.given? environment, setting? l.path file with
  | some text, _ => l.value? (Literal.read text)
  | none, some s => l.value? s
  | none, none => some (l.get default)

/-- Let what a file sets under declared keys have the right types, and let every variable fit. If an
unknown key is set for webhooks, in the file or by a variable, the load fails and says so. If not,
the configuration is loaded that has at every leaf the value chosen for it. -/
theorem load_layered {file : Option String} {settings : Settings}
    {environment : List (String × String)} (read : fileLayer file = .ok settings)
    (typed : WellTyped settings) (fits : ∀ x ∈ environment, Fits x.1 x.2) :
    ((SetsUnknown settings ∨ ∃ x ∈ environment, NamesUnknown x.1) →
      ∃ e key, load file environment = .error (.unfit e) ∧
        IsUnknown key ∧ e.problem = .unknownField key) ∧
    (¬ (SetsUnknown settings ∨ ∃ x ∈ environment, NamesUnknown x.1) →
      ∃ c, load file environment = .ok c ∧
        ∀ c', c' = c ↔ ∀ l : Leaf, l.chosen? settings environment = some (l.get c')) := by
  have below := typed.sound read
  have above := sound_environmentLayer fits
  have sound := above.overlayAll below
  have loaded : load file environment = (ofSettings
      (Setting.overlayAll (environmentLayer environment) settings)).mapError .unfit := by
    simp only [load, layers, read, ok_bind]
    rfl
  rw [loaded, or_comm, ← setsUnknown_environmentLayer fits, ← above.setsUnknown_overlayAll below]
  cases result : ofSettings (Setting.overlayAll (environmentLayer environment) settings) with
  | error e =>
    obtain ⟨key, unknown, set, problem⟩ := unknown_of_ofSettings sound result
    refine ⟨fun _ => ⟨e, key, rfl, unknown, problem⟩, fun known => ?_⟩
    exact absurd ⟨key, unknown, set⟩ known
  | ok c =>
    refine ⟨fun set => absurd set (known_of_ofSettings sound result), fun _ => ⟨c, rfl, ?_⟩⟩
    have chosen (l : Leaf) : l.chosen? settings environment = some (l.get c) := by
      obtain ⟨set, unset⟩ := leaf_of_ofSettings sound result l
      rw [above.setting?_overlayAll below, setting?_environmentLayer fits] at set unset
      unfold Leaf.chosen?
      cases named : l.given? environment with
      | some text =>
        rw [named] at set
        exact set _ rfl
      | none =>
        rw [named, Option.map_none, Option.none_or] at set unset
        cases inFile : setting? l.path settings with
        | some s => exact set s inFile
        | none => exact congrArg some (unset inFile).symm
    intro c'
    refine ⟨fun same l => same ▸ chosen l, fun others => ?_⟩
    exact eq_of_leaves fun l => Option.some.inj ((others l).symm.trans (chosen l))

/-- What a file with a key of its own sets: the buffer, and one field of the policy. -/
def partialSettings : Settings :=
  [("colour", .plain .file (.signed 1)), ("subscriber_buffer", .plain .file (.signed 64)),
    ("webhook", .table .file [("timeout_ms", .plain .file (.signed 7))])]

/-- Where the file sets one field of the policy and a variable another one, the third keeps its
default. -/
theorem load_layered_field_by_field :
    ∃ settings,
      fileLayer (some "colour = 1\nsubscriber_buffer = 64\n[webhook]\ntimeout_ms = 7\n")
        = .ok settings ∧ WellTyped settings ∧
      (∀ x ∈ [("OCEAN_WEBHOOK__MAX_ATTEMPTS", "9"), ("OCEAN_ENABLE_OTEL", "true")],
        Fits x.1 x.2) ∧
      load (some "colour = 1\nsubscriber_buffer = 64\n[webhook]\ntimeout_ms = 7\n")
          [("OCEAN_WEBHOOK__MAX_ATTEMPTS", "9"), ("OCEAN_ENABLE_OTEL", "true")]
        = .ok ⟨defaultEndpoint, 64, ⟨7, 9, 500⟩⟩ := by
  have read : fileLayer (some "colour = 1\nsubscriber_buffer = 64\n[webhook]\ntimeout_ms = 7\n")
      = .ok partialSettings := by
    cbv
  have typed : WellTyped partialSettings := by
    refine ⟨?_, ?_⟩
    · intro s found
      exact ⟨_, _, (Option.some.inj found).symm⟩
    · intro l s found
      cases l with
      | endpoint => cases found
      | subscriberBuffer => cases found; exact ⟨.number 64, by decide⟩
      | policy f => cases f <;> cases found; exact ⟨.number 7, by decide⟩
  have attempts : variablePath? "OCEAN_WEBHOOK__MAX_ATTEMPTS"
      = some (Leaf.policy .maxAttempts).path := by decide +kernel
  have otel : variablePath? "OCEAN_ENABLE_OTEL" = some ["enable_otel"] := by decide +kernel
  have fits : ∀ x ∈ [("OCEAN_WEBHOOK__MAX_ATTEMPTS", "9"), ("OCEAN_ENABLE_OTEL", "true")],
      Fits x.1 x.2 := by
    intro x member
    rcases List.mem_pair.mp member with rfl | rfl
    · exact .leaf _ (.number 9) attempts (by decide +kernel)
    · exact .undeclared _ _ otel (by decide)
  refine ⟨_, read, typed, fits, ?_⟩
  have known : ¬ (SetsUnknown partialSettings ∨
      ∃ x ∈ [("OCEAN_WEBHOOK__MAX_ATTEMPTS", "9"), ("OCEAN_ENABLE_OTEL", "true")],
        NamesUnknown x.1) := by
    rintro (⟨key, unknown, set⟩ | ⟨x, member, key, path, unknown, named⟩)
    · have own : key = "timeout_ms" := by
        simpa [partialSettings, setting?, tableAt, Keyed.get?, Option.isSome_iff_exists] using set
      exact unknown .timeout own.symm
    · rcases List.mem_pair.mp member with rfl | rfl
      · exact path_ne_of_unknown unknown path _ (Option.some.inj (named.symm.trans attempts))
      · simp [otel] at named
  obtain ⟨c, loaded, told⟩ := (load_layered read typed fits).2 known
  rw [loaded, ← (told ⟨defaultEndpoint, 64, ⟨7, 9, 500⟩⟩).mpr]
  intro l
  cases l with
  | endpoint | subscriberBuffer => decide +kernel
  | policy f => cases f <;> decide +kernel

end WalletNotify.Config
