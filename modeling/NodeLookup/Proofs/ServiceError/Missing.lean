import Mathlib.Data.List.Nodup
import NodeLookup.Proofs.Client.Answering
import NodeLookup.Proofs.Json.Form
import NodeLookup.Proofs.ServiceError.Envelope

/-!
# When the code for a missing server is seen

A refusal says that a server does not exist if its body carries the code for that. The code is not all that
counts: where the members beside it do not fit the envelope, the body is none, and the refusal counts as some
other failure. `isNonExistent_iff_of_code` says which members those are, for each place where the code can
stand.
-/

namespace NodeLookup

open Json (Document Value IsText WritesString blank_nil spellsChars_written writtenChar)

namespace ServiceError

variable {keys : List String} {members : List (String × Value)}

/-- At most one member has one of the keys, and it holds a text. -/
def TextIfAny (keys : List String) (members : List (String × Value)) : Prop :=
  Lacks keys members ∨ ∃ text, Only keys members (.string text)

/-- Some text is carried exactly if a text stands there or nothing does. -/
theorem exists_carries_iff : (∃ text, Carries keys members text) ↔ TextIfAny keys members := by
  constructor
  · rintro ⟨text, only | ⟨lacks, -⟩⟩
    · exact .inr ⟨text, only⟩
    · exact .inl lacks
  · rintro (lacks | ⟨text, only⟩)
    · exact ⟨"", .inr ⟨lacks, rfl⟩⟩
    · exact ⟨text, .inl only⟩

/-- Where no key is repeated, a member is the only one with its key. -/
theorem only_of_mem {key : String} {value : Value} (once : (members.map (·.1)).Nodup)
    (mem : (key, value) ∈ members) : Only [key] members value := by
  obtain ⟨before, after, rfl⟩ := List.append_of_mem mem
  refine ⟨before, key, after, rfl, List.mem_singleton_self key, ?_⟩
  rw [List.map_append, List.map_cons, List.nodup_middle, List.nodup_cons, ← List.map_append] at once
  intro member elsewhere same
  exact once.1 (List.mem_map.mpr ⟨member, elsewhere, List.mem_singleton.mp same⟩)

/-- Only one value stands under a key. -/
theorem Only.unique {value other : Value} (only : Only keys members value)
    (again : Only keys members other) : value = other := by
  rw [← valuesOf_eq_singleton_iff] at only again
  simpa [only] using again

/-- The flat form with a code is there exactly if the code is, and the other members fit. -/
theorem exists_flat_iff {code : String} : (∃ error, Flat members error ∧ error.code = code) ↔
    Only ["error_code"] members (.string code) ∧ TextIfAny ["error_msg", "error_message"] members ∧
      TextIfAny ["request_id"] members := by
  simp only [← exists_carries_iff]
  constructor
  · rintro ⟨_, ⟨hasCode, hasMessage, hasRequestId⟩, rfl⟩
    exact ⟨hasCode, ⟨_, hasMessage⟩, _, hasRequestId⟩
  · rintro ⟨hasCode, ⟨message, hasMessage⟩, requestId, hasRequestId⟩
    exact ⟨_, .mk hasCode hasMessage hasRequestId, rfl⟩

/-- An object below the member of the nested form has a code exactly if the code is there, and its message
fits. -/
theorem exists_inner_object_iff {code : String} :
    (∃ error, Inner (.object members) error ∧ error.code = code) ↔
      Only ["code"] members (.string code) ∧ TextIfAny ["message"] members := by
  simp only [← exists_carries_iff]
  constructor
  · rintro ⟨_, ⟨hasCode, hasMessage⟩, rfl⟩
    exact ⟨hasCode, _, hasMessage⟩
  · rintro ⟨hasCode, message, hasMessage⟩
    exact ⟨_, .object hasCode hasMessage, rfl⟩

end ServiceError

namespace ClientError

open ServiceError

variable {status : Nat} {body : String} {members : List (String × Value)}

/-- A refusal says that a server does not exist exactly if its body is an object in one of the two forms with
the code for it, and in the nested form only if it is not flat. -/
theorem isNonExistent_api_iff (document : Document body.toList (.object members)) :
    (api status body).isNonExistent = true ↔
      (∃ error, Flat members error ∧ error.code = "Ecs.0114") ∨
        (∀ error, ¬Flat members error) ∧ ∃ error, Nested members error ∧ error.code = "Ecs.0114" := by
  have named : ∀ {error : ServiceError}, error.code = "Ecs.0114" → error.code ≠ "" := by
    intro error code
    rw [code]
    decide
  simp only [isNonExistent_iff, api.injEq, nonExistentCode]
  constructor
  · rintro ⟨_, _, error, ⟨rfl, rfl⟩, carried, code⟩
    rw [ofBody?_of_document document, ofValue?_object_eq_some_iff] at carried
    rcases carried.2 with flat | ⟨notFlat, nested⟩
    · exact .inl ⟨error, flat, code⟩
    · exact .inr ⟨notFlat, error, nested, code⟩
  · rintro (⟨error, flat, code⟩ | ⟨notFlat, error, nested, code⟩)
    · refine ⟨_, _, error, ⟨rfl, rfl⟩, ?_, code⟩
      rw [ofBody?_of_document document, ofValue?_object_eq_some_iff]
      exact ⟨named code, .inl flat⟩
    · refine ⟨_, _, error, ⟨rfl, rfl⟩, ?_, code⟩
      rw [ofBody?_of_document document, ofValue?_object_eq_some_iff]
      exact ⟨named code, .inr ⟨notFlat, nested⟩⟩

/-- A code in the flat form is seen exactly if the members beside it fit, or if it stands in the nested form
as well. -/
theorem isNonExistent_iff_of_flat (document : Document body.toList (.object members))
    (hasCode : Only ["error_code"] members (.string "Ecs.0114")) :
    (api status body).isNonExistent = true ↔
      (TextIfAny ["error_msg", "error_message"] members ∧ TextIfAny ["request_id"] members) ∨
        ∃ error, Nested members error ∧ error.code = "Ecs.0114" := by
  have flat_iff : (∃ error, Flat members error ∧ error.code = "Ecs.0114") ↔
      TextIfAny ["error_msg", "error_message"] members ∧ TextIfAny ["request_id"] members := by
    rw [exists_flat_iff]
    exact and_iff_right hasCode
  rw [isNonExistent_api_iff document, ← flat_iff]
  constructor
  · rintro (flat | ⟨-, nested⟩)
    · exact .inl flat
    · exact .inr nested
  · rintro (flat | nested)
    · exact .inl flat
    · by_cases isFlat : ∃ error, Flat members error
      · obtain ⟨error, flat⟩ := isFlat
        have same : error.code = "Ecs.0114" := by
          obtain ⟨only, -⟩ := exists_flat_iff.mp ⟨error, flat, rfl⟩
          simpa using only.unique hasCode
        exact .inl ⟨error, flat, same⟩
      · exact .inr ⟨not_exists.mp isFlat, nested⟩

/-- A code in the nested form alone is seen exactly if it stands there once and the message beside it fits. -/
theorem isNonExistent_iff_of_nested {inner : List (String × Value)}
    (document : Document body.toList (.object members)) (noCode : Lacks ["error_code"] members)
    (nests : Only ["error"] members (.object inner)) :
    (api status body).isNonExistent = true ↔
      Only ["code"] inner (.string "Ecs.0114") ∧ TextIfAny ["message"] inner := by
  have notFlat : ∀ error, ¬Flat members error := by
    intro error flat
    obtain ⟨⟨before, key, after, rfl, isKey, -⟩, -⟩ := exists_flat_iff.mp ⟨error, flat, rfl⟩
    exact noCode _ (List.mem_append_right before List.mem_cons_self) isKey
  rw [isNonExistent_api_iff document, ← exists_inner_object_iff]
  constructor
  · rintro (⟨error, flat, -⟩ | ⟨-, error, ⟨value, only, inside⟩, code⟩)
    · exact absurd flat (notFlat error)
    · cases only.unique nests
      exact ⟨error, inside, code⟩
  · rintro ⟨error, inside, code⟩
    exact .inr ⟨notFlat, error, ⟨_, nests, inside⟩, code⟩

/-- A refusal, whatever its status, says that a server does not exist only if its body is an object that can be
read as a whole. An object that repeats no key and has the code for it in the flat form says so exactly if it
has at most one message, which is a text, and no request ID but a text, or if the nested form says so. One
with the code in the nested form alone says so exactly if the code and the message stand there at most once
and the message is a text. What else the objects hold makes no difference. -/
theorem isNonExistent_iff_of_code (status : Nat) (body : String) :
    ((api status body).isNonExistent = true → ∃ members, Document body.toList (.object members)) ∧
    ∀ members, Document body.toList (.object members) → (members.map (·.1)).Nodup →
      (("error_code", .string "Ecs.0114") ∈ members →
        ((api status body).isNonExistent = true ↔
          (TextIfAny ["error_msg", "error_message"] members ∧ TextIfAny ["request_id"] members) ∨
            ∃ error, Nested members error ∧ error.code = "Ecs.0114")) ∧
      ∀ inner, (∀ value, ("error_code", value) ∉ members) → ("error", .object inner) ∈ members →
        ((api status body).isNonExistent = true ↔
          Only ["code"] inner (.string "Ecs.0114") ∧ TextIfAny ["message"] inner) := by
  refine ⟨fun gone => ?_, fun members document once => ⟨fun hasCode => ?_, fun inner noCode nests => ?_⟩⟩
  · obtain ⟨_, _, error, same, carried, -⟩ := isNonExistent_iff.mp gone
    cases same
    obtain ⟨members, document, -⟩ := ((body_carries_iff body).1 error).mp carried
    exact ⟨members, document⟩
  · exact isNonExistent_iff_of_flat document (only_of_mem once hasCode)
  · refine isNonExistent_iff_of_nested document ?_ (only_of_mem once nests)
    rintro ⟨key, value⟩ mem isKey
    exact noCode value (List.mem_singleton.mp isKey ▸ mem)

/-- A code with a message is seen, and so is one that stands in both forms and fits only the second. -/
theorem isNonExistent_iff_of_code_both :
    (api 404 "\x7b\"error_code\":\"Ecs.0114\",\"error_msg\":\"gone\"\x7d").isNonExistent = true ∧
    (api 410 "\x7b\"error_code\":\"Ecs.0114\",\"error_msg\":null,\"error\":[\"Ecs.0114\"]\x7d").isNonExistent =
      true ∧
    (api 500 "\x7b\"error\":\x7b\"code\":\"Ecs.0114\",\"at\":1\x7d\x7d").isNonExistent = true := by
  have flat : Document "\x7b\"error_code\":\"Ecs.0114\",\"error_msg\":\"gone\"\x7d".toList
      (.object [("error_code", .string "Ecs.0114"), ("error_msg", .string "gone")]) :=
    Json.decode_eq_ok_iff.mp (by cbv)
  have both : Document "\x7b\"error_code\":\"Ecs.0114\",\"error_msg\":null,\"error\":[\"Ecs.0114\"]\x7d".toList
      (.object [("error_code", .string "Ecs.0114"), ("error_msg", .null),
        ("error", .list [.string "Ecs.0114"])]) := Json.decode_eq_ok_iff.mp (by cbv)
  have nested : Document "\x7b\"error\":\x7b\"code\":\"Ecs.0114\",\"at\":1\x7d\x7d".toList
      (.object [("error", .object [("code", .string "Ecs.0114"), ("at", .number (.natural 1))])]) :=
    Json.decode_eq_ok_iff.mp (by cbv)
  refine ⟨?_, ?_, ?_⟩
  · refine (((isNonExistent_iff_of_code _ _).2 _ flat (by decide)).1 List.mem_cons_self).mpr (.inl ⟨?_, ?_⟩)
    · exact .inr ⟨"gone", valuesOf_eq_singleton_iff.mp rfl⟩
    · exact .inl (valuesOf_eq_nil_iff.mp rfl)
  · refine (((isNonExistent_iff_of_code _ _).2 _ both (by decide)).1 List.mem_cons_self).mpr (.inr ?_)
    exact ⟨_, nested?_eq_some_iff.mp rfl, rfl⟩
  · refine (((isNonExistent_iff_of_code _ _).2 _ nested (by decide)).2 _ (by simp) List.mem_cons_self).mpr ?_
    exact ⟨valuesOf_eq_singleton_iff.mp rfl, .inl (valuesOf_eq_nil_iff.mp rfl)⟩

/-- A body with the code and a null for its message. -/
def nullMessage : String := "\x7b\"error_code\":\"Ecs.0114\",\"error_msg\":null\x7d"

/-- A body with the code and a message under both names. -/
def twoMessages : String :=
  "\x7b\"error_code\":\"Ecs.0114\",\"error_msg\":\"gone\",\"error_message\":\"gone\"\x7d"

/-- A body with the code below a member, and a null for the message beside it. -/
def nestedNull : String := "\x7b\"error\":\x7b\"code\":\"Ecs.0114\",\"message\":null\x7d\x7d"

/-- A body with the code and a number that is out of range. -/
def outOfRange : String := "\x7b\"error_code\":\"Ecs.0114\",\"at\":1e999\x7d"

/-- A null for the message hides the code in both forms, and so do two messages and a number out of range, be
it under a key that means nothing. -/
theorem nullMessage_hides_code :
    (Document nullMessage.toList (.object [("error_code", .string "Ecs.0114"), ("error_msg", .null)]) ∧
      (api 404 nullMessage).isNonExistent = false) ∧
    (Document twoMessages.toList (.object [("error_code", .string "Ecs.0114"),
        ("error_msg", .string "gone"), ("error_message", .string "gone")]) ∧
      (api 404 twoMessages).isNonExistent = false) ∧
    (Document nestedNull.toList
        (.object [("error", .object [("code", .string "Ecs.0114"), ("message", .null)])]) ∧
      (api 404 nestedNull).isNonExistent = false) ∧
    (IsText outOfRange.toList (.object [(some "error_code", .string (some "Ecs.0114")),
        (some "at", .number ⟨false, ⟨'1', [], List.all_eq_true.mp rfl⟩, none,
          some ⟨false, none, ⟨'9', ['9', '9'], List.all_eq_true.mp rfl⟩⟩, nofun⟩)]) ∧
      (api 404 outOfRange).isNonExistent = false) := by
  have isNull : Document nullMessage.toList
      (.object [("error_code", .string "Ecs.0114"), ("error_msg", .null)]) :=
    Json.decode_eq_ok_iff.mp (by cbv)
  have isTwo : Document twoMessages.toList (.object [("error_code", .string "Ecs.0114"),
      ("error_msg", .string "gone"), ("error_message", .string "gone")]) :=
    Json.decode_eq_ok_iff.mp (by cbv)
  have isNested : Document nestedNull.toList
      (.object [("error", .object [("code", .string "Ecs.0114"), ("message", .null)])]) :=
    Json.decode_eq_ok_iff.mp (by cbv)
  have key : ∀ text : String, WritesString (text.toList.flatMap writtenChar) (some text) :=
    fun text => (spellsChars_written text).writesString
  refine ⟨⟨isNull, ?_⟩, ⟨isTwo, ?_⟩, ⟨isNested, ?_⟩, ⟨[], 1, _, [], blank_nil, blank_nil,
    .inr (.object (.part (.first blank_nil) (.mk (key "error_code") blank_nil blank_nil
      (.string (key "Ecs.0114"))) (.part (.later blank_nil blank_nil)
      (.mk (key "at") blank_nil blank_nil (.number _)) (.done blank_nil)))), ?_⟩, ?_⟩
  · decide +kernel
  · decide +kernel
  · decide +kernel
  · decide
  · decide +kernel

end ClientError

end NodeLookup
