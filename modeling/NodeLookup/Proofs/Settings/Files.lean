import Mathlib.Data.List.Nodup
import Mathlib.Logic.Function.Basic
import NodeLookup.Proofs.Settings.Precedence
import NodeLookup.Proofs.Yaml.Naturals
import NodeLookup.Settings.File

/-!
# Which files are settings

A file of settings is a mapping from plain keys to scalars without a tag. `Acceptable` tells which
mappings are settings: every key is the name of a setting, none occurs twice, and the timeout is a number
unless it is left out. `GivenBy` tells entry by entry what the settings are then. Neither depends on the
order of the entries, and neither reads anything: `PartialSettings.ofFile_of_mapping` shows that files are
read like that, and that a file with any other mapping is rejected as a whole.
-/

namespace NodeLookup

/-! ## Entries -/

/-- An entry of a mapping whose key is plain and whose value is a scalar without a tag. -/
structure ScalarEntry where
  key : String
  style : Yaml.Style
  text : String

namespace ScalarEntry

/-- The value of an entry as a node. -/
def value (entry : ScalarEntry) : Yaml.Node := .scalar entry.style none entry.text

/-- The nodes of an entry. -/
def nodes (entry : ScalarEntry) : Yaml.Node × Yaml.Node := (.scalar .plain none entry.key, entry.value)

/-- An entry leaves its setting out if the value is a plain `~` or `null`. -/
def IsNull (entry : ScalarEntry) : Prop :=
  entry.style = .plain ∧ (entry.text = "~" ∨ entry.text = "null")

/-- The value of an entry is a number if it is plain, writes one and that fits into sixty-four bits. -/
structure IsNumber (entry : ScalarEntry) (number : Nat) : Prop where
  plain : entry.style = .plain
  writes : Yaml.WritesNatural entry.text.toList number
  fits : number < 18446744073709551616

/-- What an entry gives as a setting. Only the timeout is a number, and every other value counts as the
text that it is. -/
inductive Gives (entry : ScalarEntry) : SettingKey → Option (String ⊕ Nat) → Prop where
  | nothing {key : SettingKey} (isNull : entry.IsNull) : Gives entry key none
  | text {key : SettingKey} (isText : key ≠ .requestTimeout) (notNull : ¬entry.IsNull) :
      Gives entry key (some (.inl entry.text))
  | seconds {number : Nat} (isNumber : entry.IsNumber number) :
      Gives entry .requestTimeout (some (.inr number))

variable {entry : ScalarEntry} {key : SettingKey} {given : Option (String ⊕ Nat)} {number : Nat}

/-! ## What a value is read as -/

/-- A value that leaves its setting out is read as nothing. -/
theorem present?_of_isNull (isNull : entry.IsNull) : entry.value.present? = some none := by
  obtain ⟨plain, isNull⟩ := isNull
  simp [value, plain, Yaml.Node.present?, Yaml.isNullText, isNull]

/-- Any other value is there. -/
theorem present?_of_notNull (notNull : ¬entry.IsNull) :
    entry.value.present? = some (some entry.value) := by
  obtain ⟨name, style, text⟩ := entry
  cases style with
  | plain =>
    have isText : Yaml.isNullText text = false := by
      simpa [IsNull, Yaml.isNullText] using notNull
    simp [value, Yaml.Node.present?, isText]
  | marked => rfl

/-- A value that is there stands for a number exactly if it is one. -/
theorem natural?_eq_some_iff : entry.value.natural? = some number ↔ entry.IsNumber number := by
  obtain ⟨name, style, text⟩ := entry
  cases style with
  | plain =>
    simp only [value, Yaml.Node.natural?, Option.filter_eq_some_iff, Yaml.plainNatural?_eq_some_iff,
      decide_eq_true_eq]
    constructor
    · rintro ⟨writes, fits⟩
      exact ⟨rfl, writes, Nat.lt_succ_iff.mpr fits⟩
    · rintro ⟨-, writes, fits⟩
      exact ⟨writes, Nat.lt_succ_iff.mp fits⟩
  | marked =>
    constructor
    · intro read
      cases read
    · rintro ⟨plain, -, -⟩
      cases plain

/-- A number is there. -/
theorem IsNumber.notNull (isNumber : entry.IsNumber number) : ¬entry.IsNull := by
  rintro ⟨-, isNull⟩
  have read := Yaml.plainNatural?_of_writesNatural isNumber.writes
  rcases isNull with isNull | isNull
  · rw [isNull] at read
    cases read
  · rw [isNull] at read
    cases read

/-! ## What an entry gives -/

/-- An entry gives only one thing as a setting. -/
theorem Gives.unique {other : Option (String ⊕ Nat)} (gives : entry.Gives key given)
    (givesOther : entry.Gives key other) : given = other := by
  cases gives with
  | nothing isNull =>
    cases givesOther with
    | nothing _ => rfl
    | text _ notNull => exact absurd isNull notNull
    | seconds isNumber => exact absurd isNull isNumber.notNull
  | text isText notNull =>
    cases givesOther with
    | nothing isNull => exact absurd isNull notNull
    | text _ _ => rfl
    | seconds _ => exact absurd rfl isText
  | seconds isNumber =>
    cases givesOther with
    | nothing isNull => exact absurd isNull isNumber.notNull
    | text isText _ => exact absurd rfl isText
    | seconds isOther =>
      rw [← natural?_eq_some_iff] at isNumber isOther
      cases isNumber.symm.trans isOther
      rfl

/-- An entry gives something as every setting but the timeout, and as that if it leaves it out or is a
number. -/
theorem exists_gives_iff : (∃ given, entry.Gives key given) ↔
    (key = .requestTimeout → entry.IsNull ∨ ∃ number, entry.IsNumber number) := by
  constructor
  · rintro ⟨given, gives⟩ isTimeout
    cases gives with
    | nothing isNull => exact .inl isNull
    | text isText _ => exact absurd isTimeout isText
    | seconds isNumber => exact .inr ⟨_, isNumber⟩
  · intro fits
    by_cases isNull : entry.IsNull
    · exact ⟨none, .nothing isNull⟩
    · by_cases isTimeout : key = .requestTimeout
      · subst isTimeout
        obtain ⟨number, isNumber⟩ := (fits rfl).resolve_left isNull
        exact ⟨_, .seconds isNumber⟩
      · exact ⟨_, .text isTimeout isNull⟩

end ScalarEntry

/-! ## Names -/

namespace SettingKey

/-- The names under which settings stand in a file. -/
def names : List String :=
  ["provider-name", "endpoint", "region", "project-id", "auth-token", "request-timeout"]

/-- A name is one of them if it is that of a setting. -/
theorem mem_names_iff {name : String} : name ∈ names ↔ ∃ key : SettingKey, name = key.name := by
  rw [show names = all.map SettingKey.name from rfl, List.mem_map]
  constructor
  · rintro ⟨key, -, rfl⟩
    exact ⟨key, rfl⟩
  · rintro ⟨key, rfl⟩
    exact ⟨key, by cases key <;> decide, rfl⟩

/-- A setting is found under its name alone. -/
theorem ofName?_eq_some_iff {name : String} {key : SettingKey} :
    ofName? name = some key ↔ name = key.name := by
  constructor
  · intro found
    have isName := List.find?_some found
    exact (beq_iff_eq.mp isName).symm
  · rintro rfl
    cases key <;> decide

/-- Settings have different names. -/
theorem name_injective : Function.Injective name := by
  intro key other same
  have found := ofName?_eq_some_iff.mpr same
  rw [ofName?_eq_some_iff.mpr rfl] at found
  exact Option.some.inj found

end SettingKey

namespace PartialSettings

variable {entry : ScalarEntry} {entries : List ScalarEntry} {key : SettingKey}
  {settings result next : PartialSettings} {seen : List SettingKey} {given : Option (String ⊕ Nat)}

/-! ## One entry -/

/-- A setting that is a text is set to that alone. -/
theorem put_of_text (isText : key ≠ .requestTimeout) {node : Yaml.Node} {text : Option String}
    (read : textOf? node = some text) :
    ∃ next, settings.put key node = some next ∧
      next.value? = Function.update settings.value? key (text.map .inl) := by
  cases key
  case requestTimeout => exact absurd rfl isText
  all_goals
    rw [put, read]
    refine ⟨_, rfl, ?_⟩
    funext other
    cases other <;> rfl

/-- The timeout is set to a number alone. -/
theorem put_of_natural {node : Yaml.Node} {number : Option Nat} (read : naturalOf? node = some number) :
    ∃ next, settings.put .requestTimeout node = some next ∧
      next.value? = Function.update settings.value? .requestTimeout (number.map .inr) := by
  rw [put, read]
  refine ⟨_, rfl, ?_⟩
  funext other
  cases other <;> rfl

/-- What an entry gives is what the setting is set to, and the others stay. -/
theorem put_of_gives (settings : PartialSettings) (gives : entry.Gives key given) :
    ∃ next, settings.put key entry.value = some next ∧
      next.value? = Function.update settings.value? key given := by
  cases gives with
  | nothing isNull =>
    have absent := ScalarEntry.present?_of_isNull isNull
    by_cases isTimeout : key = .requestTimeout
    · subst isTimeout
      exact put_of_natural (by rw [naturalOf?, absent])
    · exact put_of_text isTimeout (by rw [textOf?, absent])
  | text isText notNull =>
    have present := ScalarEntry.present?_of_notNull notNull
    have read : textOf? entry.value = some (some entry.text) := by
      rw [textOf?, present]
      rfl
    exact put_of_text isText read
  | @seconds number isNumber =>
    have present := ScalarEntry.present?_of_notNull isNumber.notNull
    have read : naturalOf? entry.value = some (some number) := by
      rw [naturalOf?, present]
      exact congrArg (Option.map some) (ScalarEntry.natural?_eq_some_iff.mpr isNumber)
    exact put_of_natural read

/-- A setting that is set is one that the entry gives. -/
theorem exists_gives_of_put (isSet : settings.put key entry.value = some next) :
    ∃ given, entry.Gives key given := by
  rw [ScalarEntry.exists_gives_iff]
  rintro rfl
  by_cases isNull : entry.IsNull
  · exact .inl isNull
  · have present := ScalarEntry.present?_of_notNull isNull
    simp only [put, naturalOf?, present, Option.map_eq_some_iff] at isSet
    obtain ⟨_, ⟨number, read, -⟩, -⟩ := isSet
    exact .inr ⟨number, ScalarEntry.natural?_eq_some_iff.mp read⟩

/-- A setting is set to what the entry gives, and the others stay. -/
theorem put_eq_some_iff : settings.put key entry.value = some next ↔
    ∃ given, entry.Gives key given ∧ next.value? = Function.update settings.value? key given := by
  constructor
  · intro isSet
    obtain ⟨given, gives⟩ := exists_gives_of_put isSet
    obtain ⟨other, isOther, values⟩ := put_of_gives settings gives
    cases isSet.symm.trans isOther
    exact ⟨given, gives, values⟩
  · rintro ⟨given, gives, values⟩
    obtain ⟨other, isOther, otherValues⟩ := put_of_gives settings gives
    rw [isOther, eq_of_value?_eq (congrFun (otherValues.trans values.symm))]

/-- The first of some entries has to be the name of a setting that was not set, and to give it. -/
theorem putEntries_cons_eq_some_iff :
    putEntries seen settings ((entry :: entries).map ScalarEntry.nodes) = some result ↔
      ∃ key, entry.key = key.name ∧ key ∉ seen ∧ ∃ next, settings.put key entry.value = some next ∧
        putEntries (key :: seen) next (entries.map ScalarEntry.nodes) = some result := by
  have isText : (Yaml.Node.scalar .plain none entry.key).text?.bind SettingKey.ofName? =
      SettingKey.ofName? entry.key := rfl
  simp only [List.map_cons, ScalarEntry.nodes, putEntries, isText]
  constructor
  · intro isSet
    split at isSet
    · cases isSet
    · next key isName =>
      split at isSet
      · cases isSet
      · next notSeen =>
        obtain ⟨next, isPut, rest⟩ := Option.bind_eq_some_iff.mp isSet
        exact ⟨key, SettingKey.ofName?_eq_some_iff.mp isName, by simpa using notSeen, next, isPut, rest⟩
  · rintro ⟨key, isName, notSeen, next, isPut, rest⟩
    rw [SettingKey.ofName?_eq_some_iff.mpr isName]
    dsimp only
    rw [if_neg (by simpa using notSeen), isPut]
    exact rest

/-! ## All entries -/

/-- Entries are settings if every key is the name of a setting, none occurs twice, and the timeout is a
number unless it is left out. -/
structure Acceptable (entries : List ScalarEntry) : Prop where
  known : ∀ entry ∈ entries, entry.key ∈ SettingKey.names
  distinct : (entries.map ScalarEntry.key).Nodup
  timeout : ∀ entry ∈ entries, entry.key = "request-timeout" →
    entry.IsNull ∨ ∃ number, entry.IsNumber number

/-- What a setting is once some entries were read: what it was before if none of them has its name, and
what the entry with its name gives otherwise. -/
inductive GivenBy (before : Option (String ⊕ Nat)) (entries : List ScalarEntry) (key : SettingKey) :
    Option (String ⊕ Nat) → Prop where
  | absent (notNamed : ∀ entry ∈ entries, entry.key ≠ key.name) : GivenBy before entries key before
  | named {entry : ScalarEntry} {given : Option (String ⊕ Nat)} (isMember : entry ∈ entries)
      (isName : entry.key = key.name) (gives : entry.Gives key given) : GivenBy before entries key given

/-- Every entry of a name that is a setting's gives it. -/
theorem Acceptable.exists_gives (acceptable : Acceptable entries) (isMember : entry ∈ entries)
    (isName : entry.key = key.name) : ∃ given, entry.Gives key given := by
  rw [ScalarEntry.exists_gives_iff]
  rintro rfl
  exact acceptable.timeout entry isMember isName

/-- Of entries that are settings the first is one under a name of its own, and so are the others. -/
theorem acceptable_cons_iff : Acceptable (entry :: entries) ↔
    (∃ key : SettingKey, entry.key = key.name ∧ ∃ given, entry.Gives key given) ∧
      (∀ other ∈ entries, other.key ≠ entry.key) ∧ Acceptable entries := by
  constructor
  · intro acceptable
    obtain ⟨isKnown, known⟩ := List.forall_mem_cons.mp acceptable.known
    obtain ⟨notAgain, distinct⟩ := List.nodup_cons.mp acceptable.distinct
    obtain ⟨-, timeout⟩ := List.forall_mem_cons.mp acceptable.timeout
    obtain ⟨key, isName⟩ := SettingKey.mem_names_iff.mp isKnown
    have gives := acceptable.exists_gives List.mem_cons_self isName
    refine ⟨⟨key, isName, gives⟩, ?_, known, distinct, timeout⟩
    intro other isMember same
    exact notAgain (same ▸ List.mem_map_of_mem isMember)
  · rintro ⟨⟨key, isName, gives⟩, others, acceptable⟩
    have isKnown : entry.key ∈ SettingKey.names := SettingKey.mem_names_iff.mpr ⟨key, isName⟩
    have notAgain : entry.key ∉ entries.map ScalarEntry.key := by
      intro isMember
      obtain ⟨other, isMember, same⟩ := List.mem_map.mp isMember
      exact others other isMember same
    refine ⟨List.forall_mem_cons.mpr ⟨isKnown, acceptable.known⟩,
      List.nodup_cons.mpr ⟨notAgain, acceptable.distinct⟩,
      List.forall_mem_cons.mpr ⟨fun isTimeout => ?_, acceptable.timeout⟩⟩
    have same : key = .requestTimeout := SettingKey.name_injective (isName.symm.trans isTimeout)
    exact ScalarEntry.exists_gives_iff.mp gives same

/-- Entries are read exactly if they are settings, none of which was set before. -/
theorem exists_putEntries_iff (seen : List SettingKey) (settings : PartialSettings) :
    (∃ result, putEntries seen settings (entries.map ScalarEntry.nodes) = some result) ↔
      Acceptable entries ∧ ∀ key ∈ seen, ∀ entry ∈ entries, entry.key ≠ key.name := by
  induction entries generalizing seen settings with
  | nil => exact ⟨fun _ => ⟨⟨by simp, by simp, by simp⟩, by simp⟩, fun _ => ⟨settings, rfl⟩⟩
  | cons entry entries inductionHypothesis =>
    -- What is seen grows by the first name, so the hypothesis for the rest keeps that name out of it.
    simp only [putEntries_cons_eq_some_iff]
    constructor
    · rintro ⟨result, key, isName, notSeen, next, isPut, rest⟩
      obtain ⟨acceptable, unseen⟩ := (inductionHypothesis (key :: seen) next).mp ⟨result, rest⟩
      have others : ∀ other ∈ entries, other.key ≠ entry.key :=
        isName ▸ unseen key List.mem_cons_self
      have gives := exists_gives_of_put isPut
      refine ⟨acceptable_cons_iff.mpr ⟨⟨key, isName, gives⟩, others, acceptable⟩, ?_⟩
      rintro earlier isSeen other isMember same
      rcases List.mem_cons.mp isMember with rfl | isMember
      · exact notSeen (SettingKey.name_injective (isName.symm.trans same) ▸ isSeen)
      · exact unseen earlier (List.mem_cons_of_mem _ isSeen) other isMember same
    · rintro ⟨acceptable, unseen⟩
      obtain ⟨⟨key, isName, given, gives⟩, others, acceptable⟩ := acceptable_cons_iff.mp acceptable
      obtain ⟨next, isPut, -⟩ := put_of_gives settings gives
      have stillUnseen : ∀ earlier ∈ key :: seen, ∀ other ∈ entries, other.key ≠ earlier.name := by
        rintro earlier isSeen other isMember
        rcases List.mem_cons.mp isSeen with rfl | isSeen
        · exact isName ▸ others other isMember
        · exact unseen earlier isSeen other (List.mem_cons_of_mem _ isMember)
      obtain ⟨result, rest⟩ := (inductionHypothesis (key :: seen) next).mpr ⟨acceptable, stillUnseen⟩
      have notSeen : key ∉ seen := fun isSeen => unseen key isSeen entry List.mem_cons_self isName
      exact ⟨result, key, isName, notSeen, next, isPut, rest⟩

/-- Entries that are read leave every setting as they give it. -/
theorem givenBy_of_putEntries
    (isSet : putEntries seen settings (entries.map ScalarEntry.nodes) = some result)
    (key : SettingKey) : GivenBy (settings.value? key) entries key (result.value? key) := by
  induction entries generalizing seen settings with
  | nil =>
    cases isSet
    exact .absent (by simp)
  | cons entry entries inductionHypothesis =>
    obtain ⟨first, isName, notSeen, next, isPut, rest⟩ := putEntries_cons_eq_some_iff.mp isSet
    obtain ⟨given, gives, values⟩ := put_eq_some_iff.mp isPut
    have unseen := ((exists_putEntries_iff (first :: seen) next).mp ⟨result, rest⟩).2
    have remaining := inductionHypothesis rest
    generalize result.value? key = value at remaining ⊢
    by_cases isFirst : key = first
    · -- No later entry has the name again, so what the first gives stays.
      subst isFirst
      rw [values, Function.update_self] at remaining
      cases remaining with
      | absent notNamed => exact .named List.mem_cons_self isName gives
      | named isMember isNamed _ => exact absurd isNamed (unseen key List.mem_cons_self _ isMember)
    · rw [values, Function.update_of_ne isFirst] at remaining
      cases remaining with
      | absent notNamed =>
        refine .absent (List.forall_mem_cons.mpr ⟨?_, notNamed⟩)
        rw [isName]
        exact fun same => isFirst (SettingKey.name_injective same.symm)
      | named isMember isNamed gives => exact .named (List.mem_cons_of_mem _ isMember) isNamed gives

variable {other : List ScalarEntry}

/-- Where no key occurs twice, a setting is only one thing. -/
theorem GivenBy.unique {before value otherValue : Option (String ⊕ Nat)}
    (distinct : (entries.map ScalarEntry.key).Nodup) (given : GivenBy before entries key value)
    (givenOther : GivenBy before entries key otherValue) : value = otherValue := by
  cases given with
  | absent notNamed =>
    cases givenOther with
    | absent _ => rfl
    | named isMember isName _ => exact absurd isName (notNamed _ isMember)
  | named isMember isName gives =>
    cases givenOther with
    | absent notNamed => exact absurd isName (notNamed _ isMember)
    | named isOther isOtherName givesOther =>
      cases List.inj_on_of_nodup_map distinct isMember isOther (isName.trans isOtherName.symm)
      exact gives.unique givesOther

/-- The order of entries does not matter to what they give. -/
theorem GivenBy.perm {before value : Option (String ⊕ Nat)} (reordered : entries.Perm other)
    (given : GivenBy before entries key value) : GivenBy before other key value := by
  cases given with
  | absent notNamed =>
    exact .absent fun entry isMember => notNamed entry (reordered.mem_iff.mpr isMember)
  | named isMember isName gives => exact .named (reordered.mem_iff.mp isMember) isName gives

/-- The order of entries does not matter to whether they are settings. -/
theorem Acceptable.perm (reordered : entries.Perm other) (acceptable : Acceptable entries) :
    Acceptable other where
  known entry isMember := acceptable.known entry (reordered.mem_iff.mpr isMember)
  distinct := (reordered.map ScalarEntry.key).nodup_iff.mp acceptable.distinct
  timeout entry isMember := acceptable.timeout entry (reordered.mem_iff.mpr isMember)

/-! ## Files -/

/-- Bytes hold a mapping if they are text, and that is a single document that is the mapping. -/
def HoldsMapping (bytes : List UInt8) (entries : List ScalarEntry) : Prop :=
  ∃ text, Text.decode? bytes = some text ∧
    Yaml.Node.ofText? text = some [.mapping (entries.map ScalarEntry.nodes)]

variable {path : String} {bytes : List UInt8}

/-- A file with a mapping is read as its entries are. -/
theorem ofFile_eq_ok_iff_putEntries (holds : HoldsMapping bytes entries) :
    ofFile path (.bytes bytes) = .ok settings ↔
      putEntries [] {} (entries.map ScalarEntry.nodes) = some settings := by
  obtain ⟨text, isText, isMapping⟩ := holds
  have read : ofBytes? bytes = putEntries [] {} (entries.map ScalarEntry.nodes) := by
    rw [ofBytes?, isText, Option.bind_some, ofText?, isMapping]
    rfl
  rw [ofFile, read]
  cases putEntries [] {} (entries.map ScalarEntry.nodes) <;> simp

/-- A file with a mapping is settings exactly if the entries are. -/
theorem exists_ofFile_iff (path : String) (holds : HoldsMapping bytes entries) :
    (∃ settings, ofFile path (.bytes bytes) = .ok settings) ↔ Acceptable entries := by
  simp only [ofFile_eq_ok_iff_putEntries holds, exists_putEntries_iff, List.not_mem_nil,
    false_imp_iff, implies_true, and_true]

/-- A file with a mapping that is no settings is rejected. -/
theorem ofFile_of_not_acceptable (holds : HoldsMapping bytes entries) (bad : ¬Acceptable entries) :
    ofFile path (.bytes bytes) = .error (.unparsed path) := by
  rw [← exists_ofFile_iff path holds] at bad
  rw [ofFile] at bad ⊢
  split
  · next settings isRead => exact absurd ⟨settings, by rw [isRead]⟩ bad
  · rfl

/-- The settings of a file with a mapping are what its entries give. -/
theorem givenBy_of_ofFile (holds : HoldsMapping bytes entries)
    (isOk : ofFile path (.bytes bytes) = .ok settings) (key : SettingKey) :
    GivenBy none entries key (settings.value? key) := by
  have given := givenBy_of_putEntries ((ofFile_eq_ok_iff_putEntries holds).mp isOk) key
  cases key <;> exact given

/-- Files with the same entries are read alike. -/
theorem ofFile_of_perm {otherBytes : List UInt8} (holds : HoldsMapping bytes entries)
    (holdsOther : HoldsMapping otherBytes other) (reordered : entries.Perm other) :
    ofFile path (.bytes otherBytes) = ofFile path (.bytes bytes) := by
  by_cases acceptable : Acceptable entries
  · have acceptableOther := acceptable.perm reordered
    obtain ⟨settings, isOk⟩ := (exists_ofFile_iff path holds).mpr acceptable
    obtain ⟨otherSettings, isOther⟩ := (exists_ofFile_iff path holdsOther).mpr acceptableOther
    have same : otherSettings = settings := eq_of_value?_eq fun key =>
      (givenBy_of_ofFile holdsOther isOther key).unique acceptableOther.distinct
        ((givenBy_of_ofFile holds isOk key).perm reordered)
    rw [isOk, isOther, same]
  · have notOther : ¬Acceptable other := fun isOther => acceptable (isOther.perm reordered.symm)
    rw [ofFile_of_not_acceptable holds acceptable, ofFile_of_not_acceptable holdsOther notOther]

/-- A file with a mapping from plain keys to scalars without a tag is settings exactly if all its keys are
known, none occurs twice, and the timeout is a number that fits into sixty-four bits unless it is left
out. Every setting that is a text is then that of its scalar, whatever else that might be taken for, and
settings that no entry names or that are null are not set. In another order the same entries are the same
settings. A key that is not known, such as one with an underscore, or that occurs twice rejects the whole
file. -/
theorem ofFile_of_mapping (path : String) (holds : HoldsMapping bytes entries) :
    ((∃ settings, ofFile path (.bytes bytes) = .ok settings) ↔ Acceptable entries) ∧
      (∀ settings, ofFile path (.bytes bytes) = .ok settings →
        ∀ key, GivenBy none entries key (settings.value? key)) ∧
      (∀ otherBytes other, HoldsMapping otherBytes other → entries.Perm other →
        ofFile path (.bytes otherBytes) = ofFile path (.bytes bytes)) ∧
      (¬Acceptable entries → ofFile path (.bytes bytes) = .error (.unparsed path)) ∧
      (∀ entry ∈ entries, entry.key ∉ SettingKey.names →
        ofFile path (.bytes bytes) = .error (.unparsed path)) ∧
      (∀ entry ∈ entries,
        entry.key ∈ ["provider_name", "project_id", "auth_token", "request_timeout"] →
          ofFile path (.bytes bytes) = .error (.unparsed path)) ∧
      (¬(entries.map ScalarEntry.key).Nodup →
        ofFile path (.bytes bytes) = .error (.unparsed path)) := by
  have unknown : ∀ entry ∈ entries, entry.key ∉ SettingKey.names →
      ofFile path (.bytes bytes) = .error (.unparsed path) := by
    intro entry isMember notKnown
    exact ofFile_of_not_acceptable holds fun acceptable => notKnown (acceptable.known entry isMember)
  refine ⟨exists_ofFile_iff path holds, fun settings isOk => givenBy_of_ofFile holds isOk,
    fun otherBytes other => ofFile_of_perm holds, ofFile_of_not_acceptable holds, unknown, ?_, ?_⟩
  · intro entry isMember underscored
    have apart : ∀ name ∈ ["provider_name", "project_id", "auth_token", "request_timeout"],
        name ∉ SettingKey.names := by decide
    exact unknown entry isMember (apart entry.key underscored)
  · intro repeated
    exact ofFile_of_not_acceptable holds fun acceptable => repeated acceptable.distinct

/-- Three entries: a timeout in another base, a project of digits and a region that is left out. -/
def threeEntries : List ScalarEntry :=
  [⟨"request-timeout", .plain, "0x10"⟩, ⟨"project-id", .plain, "007"⟩, ⟨"region", .plain, "~"⟩]

/-- The text of a file of the three entries. -/
def threeEntriesText : String := "request-timeout: 0x10\nproject-id: 007\nregion: ~\n"

/-- The tokens of the text. -/
def threeEntriesTokens : List Yaml.Token :=
  [.blockMappingStart, .key, .scalar .plain "request-timeout", .value, .scalar .plain "0x10",
    .key, .scalar .plain "project-id", .value, .scalar .plain "007",
    .key, .scalar .plain "region", .value, .scalar .plain "~", .blockEnd]

/-- The file of the three entries is settings, with the digits of the project as they stand there. -/
theorem ofFile_of_mapping_threeEntries :
    HoldsMapping threeEntriesText.toUTF8.toList threeEntries ∧ Acceptable threeEntries ∧
      ofFile "cloud.yaml" (.bytes threeEntriesText.toUTF8.toList) =
        .ok { projectId := some "007", requestTimeout := some 16 } ∧
      ∀ key, GivenBy none threeEntries key
        (value? { projectId := some "007", requestTimeout := some 16 } key) := by
  have tokens : Yaml.Token.ofText? threeEntriesText.toList = some threeEntriesTokens := by
    decide +kernel
  have isMapping : Yaml.Node.ofText? threeEntriesText.toList =
      some [.mapping (threeEntries.map ScalarEntry.nodes)] := by
    rw [Yaml.Node.ofText?, tokens]
    rfl
  have holds : HoldsMapping threeEntriesText.toUTF8.toList threeEntries :=
    ⟨threeEntriesText.toList, by decide +kernel, isMapping⟩
  have isRead : ofFile "cloud.yaml" (.bytes threeEntriesText.toUTF8.toList) =
      .ok { projectId := some "007", requestTimeout := some 16 } := by decide +kernel
  obtain ⟨isSettings, given, -⟩ := ofFile_of_mapping "cloud.yaml" holds
  exact ⟨holds, isSettings.mp ⟨_, isRead⟩, isRead, given _ isRead⟩

end PartialSettings

end NodeLookup
