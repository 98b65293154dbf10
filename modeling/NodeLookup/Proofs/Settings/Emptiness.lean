import NodeLookup.Proofs.Settings.Precedence

/-!
# Empty texts in sources

Where texts are used an empty one counts as none, but sources are put together before: an empty text of
the first source hides a text of the second, and a provider name is used even if it is empty.
`resolve_given_iff` says exactly when it makes no difference to leave the empty texts of both sources
out, and `emptyFlag_hides_file` shows two sources where it does.
-/

namespace NodeLookup

/-- An empty text of the first source hides one of the second. -/
def Hides (first second : Option String) : Prop := first = some "" ∧ IsGiven second

/-- Nothing hides what is not there. -/
theorem not_hides_none (first : Option String) : ¬Hides first none := by
  rintro ⟨-, value, missing, -⟩
  cases missing

/-- What is left of texts without the empty ones is not empty. -/
theorem nonempty?_or_nonempty? (first second : Option String) :
    nonempty? ((nonempty? first).or (nonempty? second)) =
      (nonempty? first).or (nonempty? second) := by
  cases left : nonempty? first with
  | none => rw [Option.none_or, nonempty?_nonempty?]
  | some value =>
    rw [Option.some_or]
    exact nonempty?_of_ne (nonempty?_eq_some_iff.mp left).2

/-- It makes a difference to leave out empty texts exactly where one of them hides another text. -/
theorem nonempty?_or_eq_iff {first second : Option String} :
    (nonempty? first).or (nonempty? second) = nonempty? (first.or second) ↔
      ¬Hides first second := by
  cases first with
  | none =>
    have none : nonempty? Option.none = Option.none := rfl
    simp [Hides, none]
  | some value =>
    by_cases empty : value = ""
    · subst empty
      have nothing : nonempty? (some "") = none := by decide
      simp [Hides, nothing, not_isGiven_iff]
    · simp [Hides, empty, nonempty?_of_ne empty]

/-- So it is with what is left of the texts as well. -/
theorem nonempty?_given_or_eq_iff {first second : Option String} :
    nonempty? ((nonempty? first).or (nonempty? second)) = nonempty? (first.or second) ↔
      ¬Hides first second := by
  rw [nonempty?_or_nonempty?]
  exact nonempty?_or_eq_iff

/-- A text that hides another is not used itself; without empty texts the other one is. -/
theorem nonempty?_of_hides {first second : Option String} (hides : Hides first second) :
    nonempty? (first.or second) = none ∧ (nonempty? first).or (nonempty? second) = second := by
  obtain ⟨rfl, value, rfl, nonempty⟩ := hides
  have nothing : nonempty? (some "") = none := by decide
  exact ⟨nothing, by rw [nothing, Option.none_or, nonempty?_of_ne nonempty]⟩

/-- Without empty texts a text is given where one was given, and where one was hidden. -/
theorem isGiven_or_iff {first second : Option String} :
    IsGiven ((nonempty? first).or (nonempty? second)) ↔
      IsGiven (first.or second) ∨ Hides first second := by
  rw [isGiven_iff, isGiven_iff, nonempty?_or_nonempty?]
  by_cases hides : Hides first second
  · rw [(nonempty?_of_hides hides).2]
    obtain ⟨value, isValue, -⟩ := hides.2
    exact iff_of_true ⟨value, isValue⟩ (.inr hides)
  · rw [nonempty?_or_eq_iff.mpr hides]
    simp only [hides, or_false]

namespace PartialSettings

/-- A source without its empty texts. -/
def given (settings : PartialSettings) : PartialSettings where
  providerName := nonempty? settings.providerName
  endpoint := nonempty? settings.endpoint
  region := nonempty? settings.region
  projectId := nonempty? settings.projectId
  authToken := nonempty? settings.authToken
  requestTimeout := settings.requestTimeout

/-- A name is used as it is said; without empty texts the default takes the place of an empty one. -/
theorem getD_providerName_iff (flags file : PartialSettings) :
    (flags.given.or file.given).providerName.getD "huaweicloud" =
        (flags.or file).providerName.getD "huaweicloud" ↔
      (flags.or file).providerName.getD "huaweicloud" ≠ "" := by
  have nonemptyDefault : "huaweicloud" ≠ "" := by decide
  simp only [or, given]
  constructor
  · intro same
    rw [← same]
    cases left : (nonempty? flags.providerName).or (nonempty? file.providerName) with
    | none => exact nonemptyDefault
    | some name =>
      rw [← nonempty?_or_nonempty?] at left
      exact (nonempty?_eq_some_iff.mp left).2
  · intro nonempty
    have visible : ¬Hides flags.providerName file.providerName := by
      rintro ⟨empty, -⟩
      simp [empty] at nonempty
    rw [nonempty?_or_eq_iff.mpr visible]
    cases said : flags.providerName.or file.providerName with
    | none => rfl
    | some name =>
      rw [said, Option.getD_some] at nonempty
      rw [nonempty?_of_ne nonempty]

end PartialSettings

namespace Settings

variable {flags file : PartialSettings} {settings : Settings}

/-- What is made of a command line and a file has nothing to do with their empty texts. -/
inductive Unhidden (flags file : PartialSettings) : Except SettingsError Settings → Prop where
  | nowhere (endpoint : ¬Hides flags.endpoint file.endpoint)
      (region : ¬Hides flags.region file.region) : Unhidden flags file (.error .noEndpoint)
  | unscoped (project : ¬Hides flags.projectId file.projectId) :
      Unhidden flags file (.error .noProject)
  /-- Settings are made. Their name is not empty, no region and no token is hidden, and an endpoint that
  is hidden is the one that they have all the same. -/
  | made {settings : Settings} (name : settings.providerName ≠ "")
      (region : ¬Hides flags.region file.region) (token : ¬Hides flags.authToken file.authToken)
      (endpoint : Hides flags.endpoint file.endpoint → file.endpoint = some settings.endpoint) :
      Unhidden flags file (.ok settings)

/-- Where a region is not hidden, leaving empty texts out moves the place only to a hidden endpoint. -/
theorem locates_given_iff (locates : (flags.or file).Locates settings.endpoint)
    (region : ¬Hides flags.region file.region) :
    (flags.given.or file.given).Locates settings.endpoint ↔
      (Hides flags.endpoint file.endpoint → file.endpoint = some settings.endpoint) := by
  rw [PartialSettings.locates_iff] at locates ⊢
  simp only [PartialSettings.or, PartialSettings.given, nonempty?_or_nonempty?] at locates ⊢
  rw [nonempty?_or_eq_iff.mpr region]
  by_cases hides : Hides flags.endpoint file.endpoint
  · rw [(nonempty?_of_hides hides).2]
    obtain ⟨value, isValue, -⟩ := hides.2
    rw [isValue, Option.some_or]
    exact ⟨fun same _ => same, fun same => same (isValue ▸ hides)⟩
  · rw [nonempty?_or_eq_iff.mpr hides]
    exact iff_of_true locates fun hidden => absurd hidden hides

/-- Settings that are made are made without empty texts as well exactly if nothing that they hold was
hidden and their name is not empty. -/
theorem completes_given_iff (completes : (flags.or file).Completes settings) :
    (flags.given.or file.given).Completes settings ↔ Unhidden flags file (.ok settings) := by
  have hidesProject : ¬Hides flags.projectId file.projectId := by
    intro hides
    have said := completes.project
    rw [PartialSettings.or, (nonempty?_of_hides hides).1] at said
    cases said
  have region : nonempty? (flags.given.or file.given).region = settings.region ↔
      ¬Hides flags.region file.region := by
    rw [completes.region]
    exact nonempty?_given_or_eq_iff
  have token : nonempty? (flags.given.or file.given).authToken = settings.authToken ↔
      ¬Hides flags.authToken file.authToken := by
    rw [completes.token]
    exact nonempty?_given_or_eq_iff
  have name := PartialSettings.getD_providerName_iff flags file
  rw [← completes.providerName] at name
  constructor
  · intro complete
    have visible := region.mp complete.region.symm
    exact .made (name.mp complete.providerName.symm) visible (token.mp complete.token.symm)
      ((locates_given_iff completes.endpoint visible).mp complete.endpoint)
  · intro unhidden
    obtain _ | _ | ⟨named, visible, tokenVisible, endpoint⟩ := unhidden
    refine ⟨(locates_given_iff completes.endpoint visible).mpr endpoint, ?_,
      (region.mpr visible).symm, (token.mpr tokenVisible).symm, (name.mpr named).symm,
      completes.timeout⟩
    rw [← completes.project]
    exact nonempty?_given_or_eq_iff.mpr hidesProject

/-- Where a place is missed, it is missed without empty texts as well exactly if none is hidden. -/
theorem nowhere_given_iff (missed : ofMerged (flags.or file) = .error .noEndpoint) :
    ofMerged (flags.given.or file.given) = .error .noEndpoint ↔
      Unhidden flags file (.error .noEndpoint) := by
  rw [ofMerged_eq_noEndpoint_iff_not_isGiven, not_or] at missed ⊢
  have endpoint : IsGiven (flags.given.or file.given).endpoint ↔
      Hides flags.endpoint file.endpoint := isGiven_or_iff.trans (or_iff_right missed.1)
  have region : IsGiven (flags.given.or file.given).region ↔
      Hides flags.region file.region := isGiven_or_iff.trans (or_iff_right missed.2)
  rw [endpoint, region]
  exact ⟨fun visible => .nowhere visible.1 visible.2,
    fun (.nowhere endpoint region) => ⟨endpoint, region⟩⟩

/-- Where a project is missed, it is missed without empty texts as well exactly if none is hidden. -/
theorem unscoped_given_iff (missed : ofMerged (flags.or file) = .error .noProject) :
    ofMerged (flags.given.or file.given) = .error .noProject ↔
      Unhidden flags file (.error .noProject) := by
  rw [ofMerged_eq_noProject_iff_not_isGiven] at missed ⊢
  have located : IsGiven (flags.given.or file.given).endpoint ∨
      IsGiven (flags.given.or file.given).region :=
    missed.1.imp (fun given => isGiven_or_iff.mpr (.inl given))
      fun given => isGiven_or_iff.mpr (.inl given)
  have project : IsGiven (flags.given.or file.given).projectId ↔
      Hides flags.projectId file.projectId := isGiven_or_iff.trans (or_iff_right missed.2)
  rw [project, and_iff_right located]
  exact ⟨.unscoped, fun (.unscoped project) => project⟩

/-- It makes no difference to leave the empty texts of a command line and of a file out exactly where
what is made of them has nothing to do with these. Settings that are made never have an empty endpoint
or project, but their provider name is empty if the first source that says one says an empty one. -/
theorem resolve_given_iff (flags file : PartialSettings) :
    (resolve flags.given file.given = resolve flags file ↔
      Unhidden flags file (resolve flags file)) ∧
    ∀ settings, resolve flags file = .ok settings →
      settings.endpoint ≠ "" ∧ settings.projectId ≠ "" ∧
        (settings.providerName = "" ↔ (flags.or file).providerName = some "") := by
  constructor
  · obtain error | error | ⟨settings, ok⟩ := ofMerged_cases (flags.or file)
    · simp only [resolve, error]
      exact nowhere_given_iff error
    · simp only [resolve, error]
      exact unscoped_given_iff error
    · simp only [resolve, ok, ofMerged_eq_ok_iff]
      exact completes_given_iff (ofMerged_eq_ok_iff.mp ok)
  · intro settings made
    have completes := ofMerged_eq_ok_iff.mp made
    refine ⟨endpoint_ne_empty completes.endpoint,
      (nonempty?_eq_some_iff.mp completes.project).2, ?_⟩
    rw [completes.providerName]
    cases (flags.or file).providerName <;> simp

/-- An empty region on the command line hides the one of the file, an empty endpoint sends the requests
elsewhere, and an empty provider name is used. Without their empty texts the same sources make
settings for the region, for the endpoint and for the default name. -/
theorem emptyFlag_hides_file :
    let file : PartialSettings :=
      { endpoint := some "http://h", region := some "r", projectId := some "p" }
    let region : PartialSettings := { region := some "" }
    let endpoint : PartialSettings := { endpoint := some "" }
    let name : PartialSettings := { providerName := some "" }
    let placed := { file with endpoint := none }
    (resolve region placed = .error .noEndpoint ∧
      resolve region.given placed.given =
        .ok ⟨"huaweicloud", "https://ecs.r.myhuaweicloud.com", some "r", "p", none, 30⟩) ∧
    (resolve endpoint file =
        .ok ⟨"huaweicloud", "https://ecs.r.myhuaweicloud.com", some "r", "p", none, 30⟩ ∧
      resolve endpoint.given file.given =
        .ok ⟨"huaweicloud", "http://h", some "r", "p", none, 30⟩) ∧
    (resolve name file = .ok ⟨"", "http://h", some "r", "p", none, 30⟩ ∧
      resolve name.given file.given = .ok ⟨"huaweicloud", "http://h", some "r", "p", none, 30⟩) := by
  decide

/-- An empty token on the command line hides nothing if the file has none, nor does an empty region
that the file does not give either. -/
theorem resolve_given_iff_nothingHidden :
    let flags : PartialSettings := { authToken := some "", region := some "" }
    let file : PartialSettings := { endpoint := some "http://h", projectId := some "p" }
    let settings : Settings := ⟨"huaweicloud", "http://h", none, "p", none, 30⟩
    resolve flags file = .ok settings ∧ Unhidden flags file (.ok settings) ∧
      resolve flags.given file.given = .ok settings ∧ settings.providerName ≠ "" := by
  intro flags file settings
  have made : resolve flags file = .ok settings := by decide
  have unhidden : Unhidden flags file (.ok settings) :=
    .made (by decide) (not_hides_none _) (not_hides_none _) fun hides => nomatch hides.1
  obtain ⟨same, nonempty⟩ := resolve_given_iff flags file
  rw [made] at same
  refine ⟨made, unhidden, same.mpr unhidden, ?_⟩
  rw [ne_eq, (nonempty settings made).2.2]
  decide

end Settings

end NodeLookup
