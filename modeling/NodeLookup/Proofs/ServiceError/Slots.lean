import Mathlib.Data.List.Basic
import Mathlib.Tactic.Common
import NodeLookup.ServiceError

/-!
# Fields that are read once

An envelope is read member by member: each goes into the slot that its key names, and reading fails
where a slot is filled already. `readMembers_eq` says what comes of it without the order: every slot by
itself, by the values that stand under its keys, of which there is one or none. The forms of an envelope
follow in `flat?_eq`, `nestedError?_object_eq` and `nested?_eq`.
-/

namespace NodeLookup.ServiceError

open Json (Value)

variable {α : Type} {read : Value → Option α} {members : List (String × Value)} {keys : List String}

/-- The values of the members whose key is among the given ones. -/
def valuesOf (keys : List String) (members : List (String × Value)) : List Value :=
  (members.filter fun member => keys.contains member.1).map (·.2)

/-- A member of another key adds no value. -/
theorem valuesOf_cons_of_not_mem {member : String × Value} (other : member.1 ∉ keys) :
    valuesOf keys (member :: members) = valuesOf keys members := by
  simp [valuesOf, other]

/-- A member of a key adds its value. -/
theorem valuesOf_cons_of_mem {member : String × Value} (isKey : member.1 ∈ keys) :
    valuesOf keys (member :: members) = member.2 :: valuesOf keys members := by
  simp [valuesOf, isKey]

/-- What comes of a slot for which there are some values. -/
def Slot.settle (read : Value → Option α) (slot : Slot α) (values : List Value) : Option (Slot α) :=
  match slot.seen, values with
  | _, [] => some slot
  | none, [value] => (read value).map fun value => { slot with seen := some value }
  | _, _ => none

/-- What comes of slots, each by itself. -/
def settleAll (read : Value → Option α) (members : List (String × Value)) :
    List (Slot α) → Option (List (Slot α))
  | [] => some []
  | slot :: slots =>
    (slot.settle read (valuesOf slot.keys members)).bind fun settled =>
      (settleAll read members slots).map (settled :: ·)

/-- Without members slots stay as they are. -/
theorem settleAll_nil (slots : List (Slot α)) : settleAll read [] slots = some slots := by
  induction slots with
  | nil => rfl
  | cons slot slots inductionHypothesis => simp [settleAll, Slot.settle, valuesOf, inductionHypothesis]

/-- A member for none of the slots makes no difference to them. -/
theorem settleAll_cons {member : String × Value} {slots : List (Slot α)}
    (other : ∀ slot ∈ slots, member.1 ∉ slot.keys) :
    settleAll read (member :: members) slots = settleAll read members slots := by
  induction slots with
  | nil => rfl
  | cons slot slots inductionHypothesis =>
    obtain ⟨notHere, notLater⟩ := List.forall_mem_cons.mp other
    rw [settleAll, settleAll, valuesOf_cons_of_not_mem notHere, inductionHypothesis notLater]

/-- The slots go by different keys. -/
def Apart (slots : List (Slot α)) : Prop := (slots.map (·.keys)).Pairwise List.Disjoint

/-- Reading a member changes no keys. -/
theorem keys_of_readMember {member : String × Value} {slots later : List (Slot α)}
    (isRead : readMember read member slots = some later) : later.map (·.keys) = slots.map (·.keys) := by
  induction slots generalizing later with
  | nil =>
    cases isRead
    rfl
  | cons slot slots inductionHypothesis =>
    rw [readMember] at isRead
    split at isRead
    · split at isRead
      · cases isRead
      · obtain ⟨value, -, rfl⟩ := Option.map_eq_some_iff.mp isRead
        rfl
    · obtain ⟨rest, restRead, rfl⟩ := Option.map_eq_some_iff.mp isRead
      simp [inductionHypothesis restRead]

/-- Reading a member leaves the other members to the slots by themselves. -/
theorem readMember_bind {member : String × Value} {slots : List (Slot α)} (apart : Apart slots) :
    (readMember read member slots).bind (settleAll read members) =
      settleAll read (member :: members) slots := by
  induction slots with
  | nil => rfl
  | cons slot slots inductionHypothesis =>
    obtain ⟨others, apart⟩ := List.pairwise_cons.mp apart
    rw [readMember, settleAll]
    split
    · next isKey =>
      have isKey := List.contains_iff_mem.mp isKey
      have notLater : ∀ other ∈ slots, member.1 ∉ other.keys := fun other isOther again =>
        others _ (List.mem_map_of_mem isOther) isKey again
      rw [settleAll_cons notLater, valuesOf_cons_of_mem isKey]
      cases seen : slot.seen with
      | some value => simp [Slot.settle, seen]
      | none =>
        cases values : valuesOf slot.keys members with
        | nil => cases isRead : read member.2 <;> simp [Slot.settle, isRead, settleAll, values, seen]
        | cons value more => cases read member.2 <;> simp [Slot.settle, settleAll, values]
    · next notKey =>
      rw [valuesOf_cons_of_not_mem (mt List.contains_iff_mem.mpr notKey),
        ← inductionHypothesis apart]
      cases settled : slot.settle read (valuesOf slot.keys members) <;>
        cases readMember read member slots <;> simp [settleAll, settled]

/-- Reading members comes to what comes of each slot by itself. -/
theorem readMembers_eq {slots : List (Slot α)} (apart : Apart slots) :
    readMembers read members slots = settleAll read members slots := by
  induction members generalizing slots with
  | nil => rw [readMembers, settleAll_nil]
  | cons member members inductionHypothesis =>
    rw [readMembers, ← readMember_bind apart]
    cases isRead : readMember read member slots with
    | none => rfl
    | some later =>
      have apartLater : Apart later := by rwa [Apart, keys_of_readMember isRead]
      exact inductionHypothesis apartLater

/-! ## The forms of an envelope -/

/-- What is told under some keys: one text, or none if no value stands there, and nothing at all if
anything else does. -/
def told? (keys : List String) (members : List (String × Value)) : Option (Option String) :=
  match valuesOf keys members with
  | [] => some none
  | [.string text] => some (some text)
  | _ => none

/-- What comes of an empty slot for a text is what is told under its keys. -/
theorem settle_text (keys : List String) (members : List (String × Value)) :
    Slot.settle text? ⟨keys, none⟩ (valuesOf keys members) = (told? keys members).map (⟨keys, ·⟩) := by
  unfold told?
  match valuesOf keys members with
  | [] => rfl
  | [.string _] | [.null] | [.boolean _] | [.number _] | [.list _] | [.object _] => rfl
  | value :: _ :: _ => cases value <;> rfl

/-- The flat form by what is told under the keys of each field. -/
theorem flat?_eq : flat? members =
    (told? ["error_code"] members).bind fun code? =>
      (told? ["error_msg", "error_message"] members).bind fun message? =>
        (told? ["request_id"] members).bind fun requestId? => code?.map fun code =>
          { code, message := message?.getD "", requestId := requestId?.getD "" } := by
  have apart : Apart ([⟨["error_code"], none⟩, ⟨["error_msg", "error_message"], none⟩,
      ⟨["request_id"], none⟩] : List (Slot String)) := by
    simp [Apart]
  rw [flat?, readMembers_eq apart]
  simp only [settleAll, settle_text]
  cases told? ["error_code"] members with
  | none => rfl
  | some code? =>
    cases told? ["error_msg", "error_message"] members with
    | none => rfl
    | some message? =>
      cases told? ["request_id"] members with
      | none => rfl
      | some requestId? => cases code? <;> rfl

/-- What stands below the member of the nested form, by what is told under the keys of each field. -/
theorem nestedError?_object_eq : nestedError? (.object members) =
    (told? ["code"] members).bind fun code? =>
      (told? ["message"] members).bind fun message? => code?.map fun code =>
        { code, message := message?.getD "" } := by
  have apart : Apart ([⟨["code"], none⟩, ⟨["message"], none⟩] : List (Slot String)) := by
    simp [Apart]
  rw [nestedError?, readMembers_eq apart]
  simp only [settleAll, settle_text]
  cases told? ["code"] members with
  | none => rfl
  | some code? =>
    cases told? ["message"] members with
    | none => rfl
    | some message? => cases code? <;> rfl

/-- The nested form by the values of its member. -/
theorem nested?_eq : nested? members =
    match valuesOf ["error"] members with
    | [value] => nestedError? value
    | _ => none := by
  have apart : Apart ([⟨["error"], none⟩] : List (Slot ServiceError)) := by
    simp [Apart]
  rw [nested?, readMembers_eq apart]
  match values : valuesOf ["error"] members with
  | [] => simp [settleAll, Slot.settle, values]
  | [value] => cases found : nestedError? value <;> simp [settleAll, Slot.settle, values, found]
  | _ :: _ :: _ => simp [settleAll, Slot.settle, values]

end NodeLookup.ServiceError
