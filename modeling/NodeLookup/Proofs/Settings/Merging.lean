import NodeLookup.Settings.File

/-!
# Which settings options make

Options make settings if a named file can be read and the command line and the file together know where
the cloud is and which project is meant. `Options.settings_eq_ok_iff` says which settings these are;
each of the four errors has a lemma that says when it is reported, in the order in which they count.
-/

namespace NodeLookup

/-- A given text is one that is there and not empty. -/
theorem nonempty?_eq_some_iff {text : Option String} {value : String} :
    nonempty? text = some value ↔ text = some value ∧ value ≠ "" := by
  simp [nonempty?, Option.filter_eq_some_iff]

namespace PartialSettings

/-- Settings know where the cloud is: at an endpoint that is given, and only without one at the public
endpoint of a region. -/
inductive Locates (merged : PartialSettings) : (endpoint : String) → Prop where
  | given {endpoint : String} (isGiven : nonempty? merged.endpoint = some endpoint) :
      Locates merged endpoint
  | derived {region : String} (notGiven : nonempty? merged.endpoint = none)
      (isRegion : nonempty? merged.region = some region) :
      Locates merged ("https://ecs." ++ region ++ ".myhuaweicloud.com")

/-- Some of the settings make all of them. -/
structure Completes (merged : PartialSettings) (settings : Settings) : Prop where
  endpoint : merged.Locates settings.endpoint
  project : nonempty? merged.projectId = some settings.projectId
  region : settings.region = nonempty? merged.region
  token : settings.authToken = nonempty? merged.authToken
  providerName : settings.providerName = merged.providerName.getD "huaweicloud"
  timeout : settings.requestTimeout = merged.requestTimeout.getD 30

variable {merged : PartialSettings}

/-- Where the cloud is, is what settings are made with. -/
theorem locates_iff {endpoint : String} : merged.Locates endpoint ↔
    (nonempty? merged.endpoint).or ((nonempty? merged.region).map Settings.regionEndpoint) =
      some endpoint := by
  constructor
  · intro locates
    cases locates with
    | given isGiven => rw [isGiven, Option.some_or]
    | derived notGiven isRegion =>
      rw [notGiven, isRegion, Option.none_or]
      rfl
  · intro located
    cases given : nonempty? merged.endpoint with
    | some endpoint =>
      rw [given, Option.some_or] at located
      cases located
      exact .given given
    | none =>
      rw [given, Option.none_or, Option.map_eq_some_iff] at located
      obtain ⟨region, isRegion, rfl⟩ := located
      exact .derived given isRegion

end PartialSettings

namespace Settings

variable {merged : PartialSettings}

/-- Settings are made exactly by what completes them. -/
theorem ofMerged_eq_ok_iff {settings : Settings} :
    ofMerged merged = .ok settings ↔ merged.Completes settings := by
  have fields : merged.Completes settings ↔
      (nonempty? merged.endpoint).or ((nonempty? merged.region).map regionEndpoint) =
        some settings.endpoint ∧ nonempty? merged.projectId = some settings.projectId ∧
      settings.region = nonempty? merged.region ∧ settings.authToken = nonempty? merged.authToken ∧
      settings.providerName = merged.providerName.getD "huaweicloud" ∧
      settings.requestTimeout = merged.requestTimeout.getD 30 := by
    rw [← PartialSettings.locates_iff]
    exact ⟨fun ⟨endpoint, project, region, token, providerName, timeout⟩ =>
        ⟨endpoint, project, region, token, providerName, timeout⟩,
      fun ⟨endpoint, project, region, token, providerName, timeout⟩ =>
        ⟨endpoint, project, region, token, providerName, timeout⟩⟩
  rw [fields, ofMerged]
  obtain ⟨providerName, endpoint, region, projectId, authToken, timeout⟩ := settings
  dsimp only
  split
  · next located => simp [located]
  · next located project => simp [located, project]
  · next located project =>
    rw [located, project]
    simp only [Except.ok.injEq, mk.injEq, defaultProviderName, defaultTimeout]
    grind

/-- A place is missed first. -/
theorem ofMerged_eq_noEndpoint_iff :
    ofMerged merged = .error .noEndpoint ↔ ∀ endpoint, ¬merged.Locates endpoint := by
  simp only [PartialSettings.locates_iff, ofMerged]
  split <;> simp [*]

/-- A project is missed only where a place is known. -/
theorem ofMerged_eq_noProject_iff :
    ofMerged merged = .error .noProject ↔
      (∃ endpoint, merged.Locates endpoint) ∧ nonempty? merged.projectId = none := by
  simp only [PartialSettings.locates_iff, ofMerged]
  split <;> simp [*]

/-- Nothing else is ever missed. -/
theorem ofMerged_cases (merged : PartialSettings) :
    ofMerged merged = .error .noEndpoint ∨ ofMerged merged = .error .noProject ∨
      ∃ settings, ofMerged merged = .ok settings := by
  unfold ofMerged
  dsimp only
  split
  · exact .inl rfl
  · exact .inr (.inl rfl)
  · exact .inr (.inr ⟨_, rfl⟩)

end Settings

namespace Options

variable {options : Options} {fileAt : String → FileState}

/-- The file of the options gives settings: none if no file is named, and otherwise those that the bytes
at its path hold. -/
inductive FileGives (options : Options) (fileAt : String → FileState) : PartialSettings → Prop where
  | unnamed (noPath : options.configFile = none) : FileGives options fileAt {}
  | named {path : String} {bytes : List UInt8} {settings : PartialSettings}
      (isPath : options.configFile = some path) (present : fileAt path = .bytes bytes)
      (holds : PartialSettings.ofBytes? bytes = some settings) : FileGives options fileAt settings

/-- The file that options name keeps its settings to itself. -/
inductive FileFails (options : Options) (fileAt : String → FileState) : SettingsError → Prop where
  | unopened {path : String} (isPath : options.configFile = some path)
      (missing : fileAt path = .missing) : FileFails options fileAt (.unopened path)
  | unreadable {path : String} (isPath : options.configFile = some path)
      (noBytes : fileAt path = .unreadable) : FileFails options fileAt (.unparsed path)
  | malformed {path : String} {bytes : List UInt8} (isPath : options.configFile = some path)
      (present : fileAt path = .bytes bytes) (noSettings : PartialSettings.ofBytes? bytes = none) :
      FileFails options fileAt (.unparsed path)

/-- What the file gives is what is read from it. -/
theorem fromFile_eq_ok_iff {file : PartialSettings} :
    options.fromFile fileAt = .ok file ↔ options.FileGives fileAt file := by
  constructor
  · intro read
    rw [fromFile] at read
    split at read
    · next noPath =>
      cases read
      exact .unnamed noPath
    · next path isPath =>
      cases state : fileAt path with
      | missing => simp [state, PartialSettings.ofFile] at read
      | unreadable => simp [state, PartialSettings.ofFile] at read
      | bytes bytes =>
        cases holds : PartialSettings.ofBytes? bytes with
        | none => simp [state, PartialSettings.ofFile, holds] at read
        | some settings =>
          simp only [state, PartialSettings.ofFile, holds, Except.ok.injEq] at read
          subst read
          exact .named isPath state holds
  · intro gives
    cases gives with
    | unnamed noPath => rw [fromFile, noPath]
    | named isPath present holds => simp [fromFile, isPath, present, PartialSettings.ofFile, holds]

/-- Why the file gives nothing is why nothing is read from it. -/
theorem fromFile_eq_error_iff {error : SettingsError} :
    options.fromFile fileAt = .error error ↔ options.FileFails fileAt error := by
  constructor
  · intro failed
    rw [fromFile] at failed
    split at failed
    · cases failed
    · next path isPath =>
      cases state : fileAt path with
      | missing =>
        rw [state] at failed
        cases failed
        exact .unopened isPath state
      | unreadable =>
        rw [state] at failed
        cases failed
        exact .unreadable isPath state
      | bytes bytes =>
        cases holds : PartialSettings.ofBytes? bytes with
        | some settings => simp [state, PartialSettings.ofFile, holds] at failed
        | none =>
          simp only [state, PartialSettings.ofFile, holds, Except.error.injEq] at failed
          subst failed
          exact .malformed isPath state holds
  · intro fails
    cases fails with
    | unopened isPath missing => simp [fromFile, isPath, missing, PartialSettings.ofFile]
    | unreadable isPath noBytes => simp [fromFile, isPath, noBytes, PartialSettings.ofFile]
    | malformed isPath present noSettings =>
      simp [fromFile, isPath, present, PartialSettings.ofFile, noSettings]

/-- Options without a file that fails make what the command line and the file make together. -/
theorem settings_of_fileGives {file : PartialSettings} (gives : options.FileGives fileAt file) :
    options.settings fileAt = Settings.ofMerged (options.flags.or file) := by
  rw [settings, fromFile_eq_ok_iff.mpr gives]
  rfl

/-- A file that fails counts before all else, whatever the command line says. -/
theorem settings_of_fileFails {error : SettingsError} (fails : options.FileFails fileAt error) :
    options.settings fileAt = .error error := by
  rw [settings, fromFile_eq_error_iff.mpr fails]
  rfl

/-- A file gives settings or fails. -/
theorem fileGives_or_fileFails (options : Options) (fileAt : String → FileState) :
    (∃ file, options.FileGives fileAt file) ∨ ∃ error, options.FileFails fileAt error := by
  cases read : options.fromFile fileAt with
  | ok file => exact .inl ⟨file, fromFile_eq_ok_iff.mp read⟩
  | error error => exact .inr ⟨error, fromFile_eq_error_iff.mp read⟩

end Options

end NodeLookup
