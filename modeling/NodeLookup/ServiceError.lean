import NodeLookup.Json.Tree

/-!
# Service errors

The envelope in which the cloud reports an error: either flat, with the code beside the message and
the request ID, or nested below a member of its own. A body in which no code can be found, or an
empty one, is no envelope.
-/

namespace NodeLookup

/-- An error reported by the cloud. -/
structure ServiceError where
  status : Nat := 0
  requestId : String := ""
  code : String
  message : String := ""
deriving DecidableEq, Repr, Inhabited

namespace ServiceError

/-- The words of a message for a service error. -/
def describe (error : ServiceError) : String :=
  "ECS API error " ++ error.code ++ " (" ++ toString error.status ++ "): " ++ error.message

/-- A field that is being read: the keys that it goes by, and what was read under them so far. -/
structure Slot (α : Type) where
  keys : List String
  seen : Option α := none
deriving DecidableEq, Repr, Inhabited

section Slots

variable {α : Type} (read : Json.Value → Option α)

/-- Reads a member into the slot that goes by its key, which must not have been read into before. A member
for no slot is passed over. -/
def readMember (member : String × Json.Value) : List (Slot α) → Option (List (Slot α))
  | [] => some []
  | slot :: slots =>
    if slot.keys.contains member.1 then
      match slot.seen with
      | some _ => none
      | none => (read member.2).map fun value => { slot with seen := some value } :: slots
    else (readMember member slots).map (slot :: ·)

/-- Reads the members of an object into slots, one after the other. -/
def readMembers : (members : List (String × Json.Value)) → List (Slot α) → Option (List (Slot α))
  | [], slots => some slots
  | member :: members, slots => (readMember read member slots).bind (readMembers members)

end Slots

/-- The text that a value is. -/
def text? : Json.Value → Option String
  | .string text => some text
  | _ => none

/-- The flat envelope among the members of an object. The message goes by two names, and it may be left
out, as may the request ID. -/
def flat? (members : List (String × Json.Value)) : Option ServiceError :=
  match readMembers text? members
    [⟨["error_code"], none⟩, ⟨["error_msg", "error_message"], none⟩, ⟨["request_id"], none⟩] with
  | some [⟨_, some code⟩, message, requestId] =>
    some { code, message := message.seen.getD "", requestId := requestId.seen.getD "" }
  | _ => none

/-- Code and message below the member of a nested envelope, as an object or as a list. -/
def nestedError? : Json.Value → Option ServiceError
  | .object members =>
    match readMembers text? members [⟨["code"], none⟩, ⟨["message"], none⟩] with
    | some [⟨_, some code⟩, message] => some { code, message := message.seen.getD "" }
    | _ => none
  | .list [.string code] => some { code }
  | .list [.string code, .string message] => some { code, message }
  | _ => none

/-- The nested envelope among the members of an object. -/
def nested? (members : List (String × Json.Value)) : Option ServiceError :=
  match readMembers nestedError? members [⟨["error"], none⟩] with
  | some [slot] => slot.seen
  | _ => none

/-- The envelope that a value is: the first of the two forms that fits. The code it holds must not be
empty. -/
def ofValue? : Json.Value → Option ServiceError
  | .object members =>
    ((flat? members).or (nested? members)).filter fun error => error.code != ""
  | _ => none

/-- The envelope that a body is, with no status yet. -/
def ofBody? (body : String) : Option ServiceError :=
  match Json.Value.decode body with
  | .ok value => ofValue? value
  | .error _ => none

end ServiceError

end NodeLookup
