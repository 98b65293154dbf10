import Mathlib.Data.Option.Basic
import Mathlib.Data.Sum.Basic
import Mathlib.Tactic.Common
import NodeLookup.Proofs.Settings.Merging

/-!
# Sources in order

`PartialSettings.Merges` says setting by setting what two sources are together: each setting is that of
the first source, and only where that has none the second's. `Settings.resolve_of_merges` says which
settings are made of them, or what is missed, by what they are together alone. Settings that are made
are complete: as a source of their own they make the same settings again.
-/

namespace NodeLookup

/-! ## Texts that are given -/

/-- A text is given if it is there and not empty. -/
def IsGiven (text : Option String) : Prop := ∃ value, text = some value ∧ value ≠ ""

/-- A text is given exactly if something is left of it that is not empty. -/
theorem isGiven_iff {text : Option String} : IsGiven text ↔ ∃ value, nonempty? text = some value := by
  simp only [IsGiven, nonempty?_eq_some_iff]

/-- Of a text that is not given nothing is left. -/
theorem not_isGiven_iff {text : Option String} : ¬IsGiven text ↔ nonempty? text = none := by
  rw [isGiven_iff, ← Option.isSome_iff_exists, Option.not_isSome_iff_eq_none]

/-- What is left of a text is left of it again. -/
@[simp] theorem nonempty?_nonempty? (text : Option String) :
    nonempty? (nonempty? text) = nonempty? text := by
  simp [nonempty?, Option.filter_filter]

/-- A text that is not empty is left as it is. -/
theorem nonempty?_of_ne {value : String} (nonempty : value ≠ "") :
    nonempty? (some value) = some value :=
  nonempty?_eq_some_iff.mpr ⟨rfl, nonempty⟩

namespace PartialSettings

/-! ## Two sources together -/

/-- What a source says about one setting. -/
def value? (settings : PartialSettings) : SettingKey → Option (String ⊕ Nat)
  | .providerName => settings.providerName.map .inl
  | .endpoint => settings.endpoint.map .inl
  | .region => settings.region.map .inl
  | .projectId => settings.projectId.map .inl
  | .authToken => settings.authToken.map .inl
  | .requestTimeout => settings.requestTimeout.map .inr

/-- Two sources are together what the first says about each setting, or what the second says where the
first says nothing. -/
def Merges (first second merged : PartialSettings) : Prop :=
  ∀ key, merged.value? key =
    match first.value? key with
    | some value => some value
    | none => second.value? key

variable {first second merged : PartialSettings}

/-- A source is what it says about all settings. -/
theorem eq_of_value?_eq (same : ∀ key, first.value? key = second.value? key) : first = second := by
  have text : Function.Injective (Option.map (Sum.inl : String → String ⊕ Nat)) :=
    Option.map_injective Sum.inl_injective
  have number : Function.Injective (Option.map (Sum.inr : Nat → String ⊕ Nat)) :=
    Option.map_injective Sum.inr_injective
  obtain ⟨_, _, _, _, _, _⟩ := first
  rw [mk.injEq]
  exact ⟨text (same .providerName), text (same .endpoint), text (same .region),
    text (same .projectId), text (same .authToken), number (same .requestTimeout)⟩

/-- Filling in what is left out is said setting by setting. -/
theorem value?_or (key : SettingKey) :
    (first.or second).value? key = (first.value? key).or (second.value? key) := by
  cases key <;> simp [or, value?, Option.map_or]

/-- Two sources together are the first with what it leaves out filled in from the second. -/
theorem merges_iff : first.Merges second merged ↔ merged = first.or second := by
  have orElse : ∀ key, (match first.value? key with
      | some value => some value
      | none => second.value? key) = (first.or second).value? key := by
    intro key
    rw [value?_or]
    cases first.value? key <;> rfl
  simp only [Merges, orElse]
  constructor
  · exact eq_of_value?_eq
  · rintro rfl key
    rfl

/-- Of three sources it does not matter which two are put together first. -/
theorem or_assoc (first second third : PartialSettings) :
    (first.or second).or third = first.or (second.or third) := by
  apply eq_of_value?_eq
  intro key
  simp only [value?_or, Option.or_assoc]

/-- A source that says nothing fills nothing in. -/
theorem or_empty (settings : PartialSettings) : settings.or {} = settings := by
  apply eq_of_value?_eq
  intro key
  rw [value?_or]
  cases key <;> exact Option.or_none

/-- It is known where the cloud is if an endpoint or a region is given. -/
theorem exists_locates_iff :
    (∃ endpoint, merged.Locates endpoint) ↔ IsGiven merged.endpoint ∨ IsGiven merged.region := by
  simp only [locates_iff, isGiven_iff]
  cases nonempty? merged.endpoint <;> cases nonempty? merged.region <;> simp

end PartialSettings

namespace Settings

open PartialSettings (Locates Merges)

/-! ## Settings as a source -/

/-- Settings as a source that says all of them. -/
def asSource (settings : Settings) : PartialSettings where
  providerName := some settings.providerName
  endpoint := some settings.endpoint
  region := settings.region
  projectId := some settings.projectId
  authToken := settings.authToken
  requestTimeout := some settings.requestTimeout

/-- The public endpoint of a region is not empty. -/
theorem regionEndpoint_ne_empty (region : String) : regionEndpoint region ≠ "" := by
  simp [regionEndpoint]

variable {flags file merged : PartialSettings} {settings : Settings}

/-- Wherever the cloud is, the place has a text. -/
theorem endpoint_ne_empty {endpoint : String} (locates : merged.Locates endpoint) : endpoint ≠ "" := by
  cases locates with
  | given isGiven => exact (nonempty?_eq_some_iff.mp isGiven).2
  | derived notGiven isRegion => exact regionEndpoint_ne_empty _

/-- Settings that are made are complete: as a source they make themselves. -/
theorem completes_asSource (completes : merged.Completes settings) :
    settings.asSource.Completes settings where
  endpoint := .given (nonempty?_of_ne (endpoint_ne_empty completes.endpoint))
  project := nonempty?_of_ne (nonempty?_eq_some_iff.mp completes.project).2
  region := by rw [asSource, completes.region, nonempty?_nonempty?]
  token := by rw [asSource, completes.token, nonempty?_nonempty?]
  providerName := rfl
  timeout := rfl

/-- A place is missed exactly where neither an endpoint nor a region is given. -/
theorem ofMerged_eq_noEndpoint_iff_not_isGiven : ofMerged merged = .error .noEndpoint ↔
    ¬(IsGiven merged.endpoint ∨ IsGiven merged.region) := by
  rw [ofMerged_eq_noEndpoint_iff, ← PartialSettings.exists_locates_iff, not_exists]

/-- A project is missed exactly where a place is known and no project is given. -/
theorem ofMerged_eq_noProject_iff_not_isGiven : ofMerged merged = .error .noProject ↔
    (IsGiven merged.endpoint ∨ IsGiven merged.region) ∧ ¬IsGiven merged.projectId := by
  rw [ofMerged_eq_noProject_iff, PartialSettings.exists_locates_iff, not_isGiven_iff]

/-- Settings are made exactly where a place is known and a project is given. -/
theorem exists_ofMerged_eq_ok_iff : (∃ settings, ofMerged merged = .ok settings) ↔
    IsGiven merged.projectId ∧ (IsGiven merged.endpoint ∨ IsGiven merged.region) := by
  obtain error | error | ⟨settings, ok⟩ := ofMerged_cases merged
  · have missed := ofMerged_eq_noEndpoint_iff_not_isGiven.mp error
    simp [error, missed]
  · have missed := ofMerged_eq_noProject_iff_not_isGiven.mp error
    simp [error, missed]
  · have located : IsGiven merged.endpoint ∨ IsGiven merged.region := by
      by_contra missed
      cases ok.symm.trans (ofMerged_eq_noEndpoint_iff_not_isGiven.mpr missed)
    have ofProject : IsGiven merged.projectId := by
      by_contra missed
      cases ok.symm.trans (ofMerged_eq_noProject_iff_not_isGiven.mpr ⟨located, missed⟩)
    exact iff_of_true ⟨settings, ok⟩ ⟨ofProject, located⟩

/-- What is made of a command line and a file follows from what they are together. Settings are made
exactly if a project is given, and an endpoint or a region; a missing place counts before a missing
project. Which settings these are `PartialSettings.Completes` says in full. They make themselves again
as a source of their own; sources that are the same together make the same; and of three sources it
does not matter which two are put together first. -/
theorem resolve_of_merges (merges : flags.Merges file merged) :
    ((∃ settings, resolve flags file = .ok settings) ↔
      IsGiven merged.projectId ∧ (IsGiven merged.endpoint ∨ IsGiven merged.region)) ∧
    (resolve flags file = .error .noEndpoint ↔
      ¬(IsGiven merged.endpoint ∨ IsGiven merged.region)) ∧
    (resolve flags file = .error .noProject ↔
      (IsGiven merged.endpoint ∨ IsGiven merged.region) ∧ ¬IsGiven merged.projectId) ∧
    (∀ settings, resolve flags file = .ok settings ↔ merged.Completes settings) ∧
    (∀ settings, resolve flags file = .ok settings → resolve settings.asSource {} = .ok settings) ∧
    (∀ otherFlags otherFile : PartialSettings, otherFlags.Merges otherFile merged →
      resolve otherFlags otherFile = resolve flags file) ∧
    ∀ third : PartialSettings, (flags.or file).or third = flags.or (file.or third) := by
  have made : resolve flags file = ofMerged merged := by
    rw [resolve, PartialSettings.merges_iff.mp merges]
  rw [made]
  have again : ∀ settings, ofMerged merged = .ok settings →
      resolve settings.asSource {} = .ok settings := by
    intro settings complete
    rw [resolve, PartialSettings.or_empty, ofMerged_eq_ok_iff]
    exact completes_asSource (ofMerged_eq_ok_iff.mp complete)
  have alike : ∀ otherFlags otherFile : PartialSettings, otherFlags.Merges otherFile merged →
      resolve otherFlags otherFile = ofMerged merged := by
    intro otherFlags otherFile otherMerges
    rw [resolve, ← PartialSettings.merges_iff.mp otherMerges]
  exact ⟨exists_ofMerged_eq_ok_iff, ofMerged_eq_noEndpoint_iff_not_isGiven,
    ofMerged_eq_noProject_iff_not_isGiven, fun settings => ofMerged_eq_ok_iff, again, alike,
    PartialSettings.or_assoc flags file⟩

/-- A file gives the project, a region and a token; the command line a place of its own and no token. -/
theorem resolve_of_merges_overridden :
    let flags : PartialSettings := { endpoint := some "http://h", authToken := some "" }
    let file : PartialSettings :=
      { region := some "r", projectId := some "p", authToken := some "t", requestTimeout := some 5 }
    let merged : PartialSettings :=
      { endpoint := some "http://h", region := some "r", projectId := some "p", authToken := some ""
        requestTimeout := some 5 }
    let settings : Settings := ⟨"huaweicloud", "http://h", some "r", "p", none, 5⟩
    flags.Merges file merged ∧ resolve flags file = .ok settings ∧
      resolve settings.asSource {} = .ok settings := by
  intro flags file merged settings
  have merges : flags.Merges file merged := by
    intro key
    cases key <;> rfl
  obtain ⟨-, -, -, complete, again, -, -⟩ := resolve_of_merges merges
  have made : resolve flags file = .ok settings :=
    (complete settings).mpr ⟨.given (by decide), by decide, by decide, by decide, rfl, rfl⟩
  exact ⟨merges, made, again settings made⟩

end Settings

end NodeLookup
