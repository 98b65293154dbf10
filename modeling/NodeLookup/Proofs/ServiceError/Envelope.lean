import Mathlib.Tactic.Common
import NodeLookup.Proofs.Json.Document
import NodeLookup.Proofs.ServiceError.Slots

/-!
# What an envelope is

Whether a server is reported as missing rests on the body of a refusal, so `ofBody?_grammar` says of
every body whether it is an envelope and which error it carries. The two forms are given by the members
that they ask for, each of which may stand anywhere in its object but only once, and a form is found
exactly if its members are. What else an object holds is left out by `essential`.
-/

namespace NodeLookup.ServiceError

open Json (Document Value)

/-! ## The forms -/

/-- Exactly one member has one of the keys, and it holds the value. -/
def Only (keys : List String) (members : List (String × Value)) (value : Value) : Prop :=
  ∃ before key after, members = before ++ (key, value) :: after ∧ key ∈ keys ∧
    ∀ member ∈ before ++ after, member.1 ∉ keys

/-- No member has one of the keys. -/
def Lacks (keys : List String) (members : List (String × Value)) : Prop :=
  ∀ member ∈ members, member.1 ∉ keys

/-- Exactly one member has one of the keys, and it holds the text, or there is none and the text is
empty. -/
def Carries (keys : List String) (members : List (String × Value)) (text : String) : Prop :=
  Only keys members (.string text) ∨ Lacks keys members ∧ text = ""

/-- The flat form: the code stands beside the message, which has two names, and the request ID. -/
inductive Flat (members : List (String × Value)) : ServiceError → Prop where
  | mk {code message requestId : String} (hasCode : Only ["error_code"] members (.string code))
      (hasMessage : Carries ["error_msg", "error_message"] members message)
      (hasRequestId : Carries ["request_id"] members requestId) :
      Flat members { code, message, requestId }

/-- What may stand below the member of the nested form. -/
inductive Inner : Value → ServiceError → Prop where
  | object {members : List (String × Value)} {code message : String}
      (hasCode : Only ["code"] members (.string code))
      (hasMessage : Carries ["message"] members message) : Inner (.object members) { code, message }
  | code (code : String) : Inner (.list [.string code]) { code }
  | message (code message : String) :
      Inner (.list [.string code, .string message]) { code, message }

/-- The nested form: code and message stand below a member of their own. -/
def Nested (members : List (String × Value)) (error : ServiceError) : Prop :=
  ∃ value, Only ["error"] members value ∧ Inner value error

/-- The keys of the members that an envelope is found by. -/
def envelopeKeys : List String := ["error_code", "error_msg", "error_message", "request_id", "error"]

/-- An object without the members that are not among those of the nested form. -/
def essence : Value → Value
  | .object members => .object (members.filter fun member => ["code", "message"].contains member.1)
  | value => value

/-- The members that an envelope is found by, and of an object in them only those that code and
message are found by. -/
def essential (members : List (String × Value)) : List (String × Value) :=
  (members.filter fun member => envelopeKeys.contains member.1).map fun member =>
    (member.1, essence member.2)

/-! ## Members -/

section Members

variable {keys : List String} {members : List (String × Value)} {value : Value} {text : String}

/-- A single value is found exactly if a single member has it. -/
theorem valuesOf_eq_singleton_iff : valuesOf keys members = [value] ↔ Only keys members value := by
  simp only [valuesOf, List.map_eq_singleton_iff, List.filter_eq_cons_iff, List.filter_eq_nil_iff,
    List.contains_iff_mem]
  constructor
  · rintro ⟨⟨key, _⟩, ⟨before, after, rfl, none, isKey, noMore⟩, rfl⟩
    refine ⟨before, key, after, rfl, isKey, fun member isMember => ?_⟩
    rcases List.mem_append.mp isMember with inBefore | inAfter
    · exact none member inBefore
    · exact noMore member inAfter
  · rintro ⟨before, key, after, rfl, isKey, others⟩
    exact ⟨(key, value), ⟨before, after, rfl,
      fun member inBefore => others member (List.mem_append_left _ inBefore), isKey,
      fun member inAfter => others member (List.mem_append_right _ inAfter)⟩, rfl⟩

/-- No value is found exactly if no member has a key. -/
theorem valuesOf_eq_nil_iff : valuesOf keys members = [] ↔ Lacks keys members := by
  simp only [valuesOf, List.map_eq_nil_iff, List.filter_eq_nil_iff, List.contains_iff_mem, Lacks]

/-- A text is told exactly if it is there once. -/
theorem told?_eq_some_some_iff :
    told? keys members = some (some text) ↔ Only keys members (.string text) := by
  rw [← valuesOf_eq_singleton_iff, told?]
  split
  · next nothing => simp [nothing]
  · next found => simp [found]
  · next other =>
    simp only [reduceCtorEq, false_iff]
    exact other text

/-- Nothing is told exactly if nothing is there. -/
theorem told?_eq_some_none_iff : told? keys members = some none ↔ Lacks keys members := by
  rw [← valuesOf_eq_nil_iff, told?]
  split
  · next nothing => simp [nothing]
  · next found => simp [found]
  · next notNone _ =>
    simp only [reduceCtorEq, false_iff]
    exact notNone

/-- A text is carried exactly if it is what is told, or what stands for nothing told. -/
theorem carries_iff_told? : Carries keys members text ↔
    ∃ text?, told? keys members = some text? ∧ text?.getD "" = text := by
  simp only [Carries, ← told?_eq_some_some_iff, ← told?_eq_some_none_iff]
  constructor
  · rintro (told | ⟨untold, rfl⟩)
    · exact ⟨some text, told, rfl⟩
    · exact ⟨none, untold, rfl⟩
  · rintro ⟨_ | told, isTold, rfl⟩
    · exact .inr ⟨isTold, rfl⟩
    · exact .inl isTold

end Members

/-! ## Envelopes -/

variable {members : List (String × Value)} {error : ServiceError}

/-- The flat form is found exactly if it is there. -/
theorem flat?_eq_some_iff : flat? members = some error ↔ Flat members error := by
  simp only [flat?_eq, Option.bind_eq_some_iff, Option.map_eq_some_iff]
  constructor
  · rintro ⟨_, hasCode, message?, hasMessage, requestId?, hasRequestId, code, rfl, rfl⟩
    exact .mk (told?_eq_some_some_iff.mp hasCode) (carries_iff_told?.mpr ⟨_, hasMessage, rfl⟩)
      (carries_iff_told?.mpr ⟨_, hasRequestId, rfl⟩)
  · rintro ⟨hasCode, hasMessage, hasRequestId⟩
    obtain ⟨message?, messageTold, rfl⟩ := carries_iff_told?.mp hasMessage
    obtain ⟨requestId?, requestIdTold, rfl⟩ := carries_iff_told?.mp hasRequestId
    exact ⟨_, told?_eq_some_some_iff.mpr hasCode, _, messageTold, _, requestIdTold, _, rfl, rfl⟩

/-- Code and message are found in an object exactly if they are there. -/
theorem nestedError?_object_eq_some_iff :
    nestedError? (.object members) = some error ↔ Inner (.object members) error := by
  simp only [nestedError?_object_eq, Option.bind_eq_some_iff, Option.map_eq_some_iff]
  constructor
  · rintro ⟨_, hasCode, message?, hasMessage, code, rfl, rfl⟩
    exact .object (told?_eq_some_some_iff.mp hasCode) (carries_iff_told?.mpr ⟨_, hasMessage, rfl⟩)
  · rintro ⟨hasCode, hasMessage⟩
    obtain ⟨message?, messageTold, rfl⟩ := carries_iff_told?.mp hasMessage
    exact ⟨_, told?_eq_some_some_iff.mpr hasCode, _, messageTold, _, rfl, rfl⟩

/-- Code and message are found in a list exactly if they are there. -/
theorem nestedError?_list_eq_some_iff {values : List Value} :
    nestedError? (.list values) = some error ↔ Inner (.list values) error := by
  constructor
  · intro found
    unfold nestedError? at found
    split at found
    · next isObject => cases isObject
    · next isCode =>
      cases isCode
      cases found
      exact .code _
    · next isMessage =>
      cases isMessage
      cases found
      exact .message _ _
    · cases found
  · rintro ⟨⟩ <;> rfl

/-- Code and message are found in a value exactly if they are there. -/
theorem nestedError?_eq_some_iff {value : Value} :
    nestedError? value = some error ↔ Inner value error := by
  cases value with
  | object members => exact nestedError?_object_eq_some_iff
  | list values => exact nestedError?_list_eq_some_iff
  | _ => exact ⟨nofun, nofun⟩

/-- The nested form is found exactly if it is there. -/
theorem nested?_eq_some_iff : nested? members = some error ↔ Nested members error := by
  simp only [Nested, ← valuesOf_eq_singleton_iff, ← nestedError?_eq_some_iff, nested?_eq]
  split
  · next value found => simp [found]
  · next other =>
    simp only [reduceCtorEq, false_iff, not_exists, not_and]
    exact fun value found => absurd found (other value)

/-- An object is an envelope exactly in one of the forms, and in the nested one only if it is not flat;
in both the code is not empty. -/
theorem ofValue?_object_eq_some_iff :
    ofValue? (.object members) = some error ↔ error.code ≠ "" ∧
      (Flat members error ∨ (∀ flat, ¬Flat members flat) ∧ Nested members error) := by
  simp only [ofValue?, Option.filter_eq_some_iff, bne_iff_ne, Option.or_eq_some_iff,
    flat?_eq_some_iff, nested?_eq_some_iff, Option.eq_none_iff_forall_ne_some, ne_eq, and_comm]

/-- A flat envelope without a code is none, whatever else it holds. -/
theorem ofValue?_object_of_flat (flat : Flat members error) (empty : error.code = "") :
    ofValue? (.object members) = none := by
  simp [ofValue?, flat?_eq_some_iff.mpr flat, empty]

/-! ## Other members -/

section OtherMembers

variable {keys known : List String} {text : String}

/-- Values are found among the members with known keys if their own keys are known. -/
theorem valuesOf_filter (isKnown : keys ⊆ known) :
    valuesOf keys (members.filter fun member => known.contains member.1) =
      valuesOf keys members := by
  have wanted : ∀ member : String × Value,
      (keys.contains member.1 && known.contains member.1) = keys.contains member.1 := by
    intro member
    rw [Bool.and_eq_left_iff_imp]
    simpa using @isKnown member.1
  simp only [valuesOf, List.filter_filter, wanted]

/-- The essential members hold the essence of what an envelope's members do. -/
theorem valuesOf_essential (isKnown : keys ⊆ envelopeKeys) :
    valuesOf keys (essential members) = (valuesOf keys members).map essence := by
  calc valuesOf keys (essential members)
      = (valuesOf keys (members.filter fun member => envelopeKeys.contains member.1)).map
          essence := by
        simp only [valuesOf, essential, List.filter_map, List.map_map, Function.comp_def]
    _ = (valuesOf keys members).map essence := by rw [valuesOf_filter isKnown]

/-- Only a text has that text for its essence. -/
theorem essence_eq_string_iff {value : Value} : essence value = .string text ↔ value = .string text := by
  cases value <;> simp [essence]

/-- A member that holds a text is an essential one. -/
theorem only_string_essential (isKnown : keys ⊆ envelopeKeys) :
    Only keys (essential members) (.string text) ↔ Only keys members (.string text) := by
  simp only [← valuesOf_eq_singleton_iff, valuesOf_essential isKnown, List.map_eq_singleton_iff,
    essence_eq_string_iff, exists_eq_right]

/-- A member that may be left out is an essential one. -/
theorem carries_essential (isKnown : keys ⊆ envelopeKeys) :
    Carries keys (essential members) text ↔ Carries keys members text := by
  simp only [Carries, only_string_essential isKnown, ← valuesOf_eq_nil_iff,
    valuesOf_essential isKnown, List.map_eq_nil_iff]

/-- The flat form is made of essential members. -/
theorem flat_essential : Flat (essential members) error ↔ Flat members error := by
  have code : ["error_code"] ⊆ envelopeKeys := by decide
  have message : ["error_msg", "error_message"] ⊆ envelopeKeys := by decide
  have requestId : ["request_id"] ⊆ envelopeKeys := by decide
  constructor
  · rintro ⟨hasCode, hasMessage, hasRequestId⟩
    exact .mk ((only_string_essential code).mp hasCode) ((carries_essential message).mp hasMessage)
      ((carries_essential requestId).mp hasRequestId)
  · rintro ⟨hasCode, hasMessage, hasRequestId⟩
    exact .mk ((only_string_essential code).mpr hasCode) ((carries_essential message).mpr hasMessage)
      ((carries_essential requestId).mpr hasRequestId)

/-- Code and message are found in a value exactly if they are found in its essence. -/
theorem inner_essence {value : Value} : Inner (essence value) error ↔ Inner value error := by
  cases value with
  | object members =>
    have code : ["code"] ⊆ ["code", "message"] := by decide
    have message : ["message"] ⊆ ["code", "message"] := by decide
    simp only [← nestedError?_eq_some_iff, essence, nestedError?_object_eq, told?,
      valuesOf_filter code, valuesOf_filter message]
  | _ => rfl

/-- The nested form is made of essential members. -/
theorem nested_essential : Nested (essential members) error ↔ Nested members error := by
  have isKnown : ["error"] ⊆ envelopeKeys := by decide
  simp only [Nested, ← valuesOf_eq_singleton_iff, valuesOf_essential isKnown,
    List.map_eq_singleton_iff]
  constructor
  · rintro ⟨_, ⟨value, found, rfl⟩, inner⟩
    exact ⟨value, found, inner_essence.mp inner⟩
  · rintro ⟨value, found, inner⟩
    exact ⟨essence value, ⟨value, found, rfl⟩, inner_essence.mpr inner⟩

/-- Objects that agree in their essential members are the same envelope, or none. -/
theorem ofValue?_object_congr {others : List (String × Value)}
    (same : essential members = essential others) :
    ofValue? (.object members) = ofValue? (.object others) := by
  have sameFlat : ∀ error, Flat members error ↔ Flat others error := by
    intro error
    rw [← flat_essential, same, flat_essential]
  have sameNested : ∀ error, Nested members error ↔ Nested others error := by
    intro error
    rw [← nested_essential, same, nested_essential]
  ext error
  rw [ofValue?_object_eq_some_iff, ofValue?_object_eq_some_iff]
  simp only [sameFlat, sameNested]

end OtherMembers

/-! ## Bodies -/

/-- A body that is a value is the envelope that the value is. -/
theorem ofBody?_of_document {body : String} {value : Value} (document : Document body.toList value) :
    ofBody? body = ofValue? value := by
  simp only [ofBody?, Json.decode_eq_ok_iff.mpr document]

/-- A body carries an error exactly if it is an object that is one of the two forms, the nested one
only if the flat one does not fit, with a code that is not empty. A flat body without a code carries
none, whatever else it holds, and other members than the essential ones make no difference. -/
theorem body_carries_iff (body : String) :
    (∀ error, ofBody? body = some error ↔
      ∃ members, Document body.toList (.object members) ∧ error.code ≠ "" ∧
        (Flat members error ∨ (∀ flat, ¬Flat members flat) ∧ Nested members error)) ∧
    ∀ members, Document body.toList (.object members) →
      (∀ flat, Flat members flat → flat.code = "" → ofBody? body = none) ∧
      ∀ other others, Document other.toList (.object others) →
        essential members = essential others → ofBody? body = ofBody? other := by
  refine ⟨fun error => ⟨fun carried => ?_, ?_⟩, fun members document => ⟨?_, ?_⟩⟩
  · cases read : Value.decode body with
    | error failure => simp [ofBody?, read] at carried
    | ok value =>
      have document := Json.decode_eq_ok_iff.mp read
      rw [ofBody?_of_document document] at carried
      cases value with
      | object members => exact ⟨members, document, ofValue?_object_eq_some_iff.mp carried⟩
      | _ => cases carried
  · rintro ⟨members, document, form⟩
    rw [ofBody?_of_document document]
    exact ofValue?_object_eq_some_iff.mpr form
  · intro flat isFlat empty
    rw [ofBody?_of_document document]
    exact ofValue?_object_of_flat isFlat empty
  · intro other others otherDocument same
    rw [ofBody?_of_document document, ofBody?_of_document otherDocument]
    exact ofValue?_object_congr same

/-- A nested envelope carries its error, a flat one without a code beside it hides that error, and an
unknown member makes no difference. -/
theorem body_carries_iff_hidden :
    ofBody? "\x7b\"error\":[\"Ecs.0114\"]\x7d" = some { code := "Ecs.0114" } ∧
      ofBody? "\x7b\"error_code\":\"\",\"error\":[\"Ecs.0114\"]\x7d" = none ∧
      ofBody? "\x7b\"at\":1,\"error\":[\"Ecs.0114\"]\x7d" =
        ofBody? "\x7b\"error\":[\"Ecs.0114\"]\x7d" := by
  have nested : Document "\x7b\"error\":[\"Ecs.0114\"]\x7d".toList
      (.object [("error", .list [.string "Ecs.0114"])]) := Json.decode_eq_ok_iff.mp (by cbv)
  have flatAlone : Document "\x7b\"error_code\":\"\",\"error\":[\"Ecs.0114\"]\x7d".toList
      (.object [("error_code", .string ""), ("error", .list [.string "Ecs.0114"])]) :=
    Json.decode_eq_ok_iff.mp (by cbv)
  have more : Document "\x7b\"at\":1,\"error\":[\"Ecs.0114\"]\x7d".toList
      (.object [("at", .number (.natural 1)), ("error", .list [.string "Ecs.0114"])]) :=
    Json.decode_eq_ok_iff.mp (by cbv)
  refine ⟨?_, ?_, ?_⟩
  · refine ((body_carries_iff _).1 _).mpr ⟨_, nested, by decide, .inr ⟨?_, ?_⟩⟩
    · intro flat isFlat
      cases flat?_eq_some_iff.mpr isFlat
    · exact nested?_eq_some_iff.mp rfl
  · exact ((body_carries_iff _).2 _ flatAlone).1 { code := "" } (flat?_eq_some_iff.mp rfl) rfl
  · exact ((body_carries_iff _).2 _ more).2 _ _ nested rfl

end NodeLookup.ServiceError
