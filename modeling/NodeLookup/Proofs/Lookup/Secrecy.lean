import NodeLookup.Proofs.Client.Sending
import NodeLookup.Proofs.Lookup.Construction
import NodeLookup.Proofs.Lookup.Questions

/-!
# What tokens show in

Two runs are compared that differ in their tokens only. `token_kept` says that their requests differ in
the token's header only, and that nothing else differs at all: not the answer, not the error nor any of
its texts. Credentials with a token are also described alike, and not like those without.
-/

namespace NodeLookup

/-- A request with its token blanked out. That it has one still shows. -/
def Request.withoutToken (request : Request) : Request where
  url := request.url
  headers := request.headers.map fun (name, value) =>
    (name, if name = "x-auth-token" then "" else value)

/-- Two backends do the same with requests that are the same but for their tokens. -/
def AnswerAlike (first second : Backend) : Prop :=
  ∀ left right : Request, left.withoutToken = right.withoutToken → first left = second right

namespace Exchanged

variable {α β : Type}

/-- Two exchanges have the same result, and their requests are the same but for their tokens. -/
structure Alike (left right : Exchanged α) : Prop where
  requests : left.requests.map Request.withoutToken = right.requests.map Request.withoutToken
  result : left.result = right.result

/-- Every exchange is like itself. -/
theorem Alike.refl (exchanged : Exchanged α) : exchanged.Alike exchanged := ⟨rfl, rfl⟩

/-- A conclusion tells no tokens apart. -/
theorem Alike.map {left right : Exchanged α} (alike : left.Alike right) (change : α → β) :
    (left.map change).Alike (right.map change) := by
  constructor
  · exact alike.requests
  · exact congrArg change alike.result

end Exchanged

namespace Client

/-- A client with another token. -/
def bearing (client : Client) (token : String) : Client :=
  { client with credentials := { client.credentials with authentication := .token token } }

variable {client : Client} {url : Url} {first second : String} {left right : Backend}

/-- Without it a request is the same for every token. -/
theorem withoutToken_request_bearing (client : Client) (url : Url) (first second : String) :
    ((client.bearing first).request url).withoutToken =
      ((client.bearing second).request url).withoutToken := by
  simp [Request.withoutToken, request, bearing, tokenHeader]

/-- Of two tokens that a header can carry, neither is in the way where the other is not. -/
theorem isSendable_bearing (firstFits : ¬HoldsControl first) (secondFits : ¬HoldsControl second) :
    ((client.bearing first).request url).isSendable =
      ((client.bearing second).request url).isSendable := by
  rw [Bool.eq_iff_iff, isSendable_request_iff, isSendable_request_iff]
  simp [bearing, firstFits, secondFits]

variable (firstFits : ¬HoldsControl first) (secondFits : ¬HoldsControl second)
  (answerAlike : AnswerAlike left right)

include firstFits secondFits answerAlike

/-- What becomes of a request does not depend on the token. -/
theorem deliver_bearing : (deliver ((client.bearing first).request url) left).Alike
    (deliver ((client.bearing second).request url) right) := by
  have masked := client.withoutToken_request_bearing url first second
  have same := answerAlike _ _ masked
  unfold deliver
  rw [isSendable_bearing firstFits secondFits, same]
  split
  · constructor
    · dsimp only
      split
      · simpa using masked
      · rfl
    · rfl
  · exact .refl _

/-- Nor does what is got. -/
theorem get_bearing {α : Type} (decode : String → Except Json.Failure α) :
    ((client.bearing first).get url decode left).Alike
      ((client.bearing second).get url decode right) :=
  (deliver_bearing firstFits secondFits answerAlike).map _

end Client

/-- Settings with another token. -/
def Settings.bearing (settings : Settings) (token : String) : Settings :=
  { settings with authToken := some token }

namespace Resolver

/-- A resolver whose client has another token. -/
def bearing (resolver : Resolver) (token : String) : Resolver :=
  { resolver with client := resolver.client.bearing token }

variable {resolver : Resolver} {first second : String}

section TwoRuns

variable (firstFits : ¬HoldsControl first) (secondFits : ¬HoldsControl second)
  {left right : Backend} (answerAlike : AnswerAlike left right)

include firstFits secondFits answerAlike

/-- A lookup does not depend on the token, nor does its error. -/
theorem lookUp_bearing (subject : Subject) :
    ((resolver.bearing first).lookUp left subject).Alike
      ((resolver.bearing second).lookUp right subject) := by
  cases subject with
  | nodeName name =>
    rw [lookUp, lookUp, byName, byName, Client.listServers_eq, Client.listServers_eq]
    exact (Client.get_bearing firstFits secondFits answerAlike _).map _
  | providerId providerId =>
    cases rejected : namesNoServer (resolver.serverId providerId) with
    | true =>
      have rejectedAs : ∀ token,
          namesNoServer ((resolver.bearing token).serverId providerId) = true := fun _ => rejected
      rw [lookUp, lookUp, byProviderId_of_namesNoServer (rejectedAs first),
        byProviderId_of_namesNoServer (rejectedAs second)]
      exact .refl _
    | false =>
      have acceptedAs : ∀ token,
          namesNoServer ((resolver.bearing token).serverId providerId) = false := fun _ => rejected
      rw [lookUp, lookUp, byProviderId_of_namesServer (acceptedAs first),
        byProviderId_of_namesServer (acceptedAs second), Client.showServer_eq, Client.showServer_eq]
      exact (Client.get_bearing firstFits secondFits answerAlike _).map _

/-- Nor does the reply to a question. -/
theorem ask_bearing {α : Type} (question : Question α) :
    ((resolver.bearing first).ask question left).Alike
      ((resolver.bearing second).ask question right) := by
  obtain ⟨subject, about⟩ | aside := question.about_or_aside
  · obtain ⟨conclude, -, asked⟩ := ask_of_about about
    rw [asked, asked]
    exact (lookUp_bearing firstFits secondFits answerAlike subject).map conclude
  · obtain ⟨result, answered⟩ := ask_of_aside aside
    rw [answered, answered]
    exact .refl _

end TwoRuns

/-- Settings with a token make what the same settings with another token make, but for the token. -/
theorem ofSettings_bearing (settings : Settings) (firstGiven : first ≠ "")
    (secondGiven : second ≠ "") :
    ofSettings (settings.bearing second) =
      (ofSettings (settings.bearing first)).map (·.bearing second) := by
  by_cases named : settings.projectId = ""
  · have namedAs : ∀ token, (settings.bearing token).projectId = "" := fun _ => named
    rw [ofSettings_of_no_project (namedAs first), ofSettings_of_no_project (namedAs second)]
    rfl
  have namedAs : ∀ token, (settings.bearing token).projectId ≠ "" := fun _ => named
  cases parsed : Url.parse settings.endpoint.toList with
  | error flaw =>
    have parsedAs : ∀ token, Url.parse (settings.bearing token).endpoint.toList = .error flaw :=
      fun _ => parsed
    rw [ofSettings_of_flaw (namedAs first) (parsedAs first),
      ofSettings_of_flaw (namedAs second) (parsedAs second)]
    rfl
  | ok endpoint =>
    have parsedAs : ∀ token, Url.parse (settings.bearing token).endpoint.toList = .ok endpoint :=
      fun _ => parsed
    cases base : endpoint.isBase with
    | false =>
      rw [ofSettings_of_not_base (namedAs first) (parsedAs first) base,
        ofSettings_of_not_base (namedAs second) (parsedAs second) base]
      rfl
    | true =>
      have tokenOf : ∀ token, (settings.bearing token).authToken = some token := fun _ => rfl
      rw [ofSettings_of_base (namedAs first) (parsedAs first) base,
        ofSettings_of_base (namedAs second) (parsedAs second) base, tokenOf, tokenOf,
        Authentication.ofToken_of_ne_empty firstGiven,
        Authentication.ofToken_of_ne_empty secondGiven]
      rfl

/-- A resolver that is made with a token bears it. -/
theorem bearing_of_ofSettings {settings : Settings} {resolver : Resolver} (given : first ≠ "")
    (made : ofSettings (settings.bearing first) = .ok resolver) :
    resolver.bearing first = resolver := by
  have same := ofSettings_bearing settings given given
  rw [made] at same
  exact (Except.ok.inj same).symm

end Resolver

/-- Credentials with a token do not show which one. -/
theorem Credentials.describe_build {projectId first second : String} (named : projectId ≠ "")
    (firstGiven : first ≠ "") (secondGiven : second ≠ "") :
    ∃ bearing other anonymous, build (some projectId) (some first) = .ok bearing ∧
      build (some projectId) (some second) = .ok other ∧
      build (some projectId) none = .ok anonymous ∧
      bearing.describe = other.describe ∧ bearing.describe ≠ anonymous.describe := by
  rw [build_of_ne_empty named, build_of_ne_empty named, build_of_ne_empty named,
    Authentication.ofToken_of_ne_empty firstGiven, Authentication.ofToken_of_ne_empty secondGiven]
  have hidden : ∀ token, (Authentication.token token).describe = "Token(<redacted>)" := fun _ => rfl
  have shown : (Authentication.ofToken none).describe = "Anonymous" := rfl
  refine ⟨_, _, _, rfl, rfl, rfl, ?_, fun same => ?_⟩
  · unfold describe
    rw [hidden, hidden]
  · unfold describe at same
    rw [hidden, shown] at same
    have words := (String.append_right_inj _).mp ((String.append_left_inj _).mp same)
    exact absurd words (by decide)

/-- Of two tokens that headers can carry, it shows in the token's header and nowhere else which one the
settings have: with both or with neither a resolver is made, and else the error is the same; and whatever
a resolver is asked, its requests are the same but for that header, and its reply is the same, as long
as the backends do the same. Credentials are described alike with any two tokens that are not empty,
and not like credentials without. -/
theorem Resolver.token_kept (settings : Settings) {first second : String}
    (firstGiven : first ≠ "") (secondGiven : second ≠ "") :
    (¬HoldsControl first → ¬HoldsControl second →
      (∀ error, ofSettings (settings.bearing first) = .error error ↔
        ofSettings (settings.bearing second) = .error error) ∧
      ∀ one other, ofSettings (settings.bearing first) = .ok one →
        ofSettings (settings.bearing second) = .ok other →
        ∀ {α : Type} (question : Question α) (left right : Backend), AnswerAlike left right →
          (one.ask question left).Alike (other.ask question right)) ∧
    ∀ projectId ≠ "", ∃ bearing other anonymous,
      Credentials.build (some projectId) (some first) = .ok bearing ∧
      Credentials.build (some projectId) (some second) = .ok other ∧
      Credentials.build (some projectId) none = .ok anonymous ∧
      bearing.describe = other.describe ∧ bearing.describe ≠ anonymous.describe := by
  have same := ofSettings_bearing settings firstGiven secondGiven
  refine ⟨fun firstFits secondFits => ⟨fun error => ?_, ?_⟩,
    fun projectId named => Credentials.describe_build named firstGiven secondGiven⟩
  · rw [same]
    cases ofSettings (settings.bearing first) <;> simp [Except.map]
  · intro one other oneMade otherMade α question left right answerAlike
    have bears := bearing_of_ofSettings firstGiven oneMade
    have isOther : one.bearing second = other := by
      rw [oneMade] at same
      exact Except.ok.inj (same.symm.trans otherMade)
    rw [← bears, ← isOther]
    exact ask_bearing firstFits secondFits answerAlike question

/-- Two tokens lead to different requests, but to the same error. -/
theorem Resolver.token_kept_unanswered :
    ofSettings (Settings.atRoot.bearing "a") = .ok (atRoot.bearing "a") ∧
      ofSettings (Settings.atRoot.bearing "b") = .ok (atRoot.bearing "b") ∧
      ((atRoot.bearing "a").ask (.instanceId "n") fun _ => .unanswered).requests ≠
        ((atRoot.bearing "b").ask (.instanceId "n") fun _ => .unanswered).requests ∧
      ((atRoot.bearing "a").ask (.instanceId "n") fun _ => .unanswered).Alike
        ((atRoot.bearing "b").ask (.instanceId "n") fun _ => .unanswered) := by
  have first : ofSettings (Settings.atRoot.bearing "a") = .ok (atRoot.bearing "a") := by decide
  have second : ofSettings (Settings.atRoot.bearing "b") = .ok (atRoot.bearing "b") := by decide
  obtain ⟨twoRuns, -⟩ := token_kept Settings.atRoot (show "a" ≠ "" by decide)
    (show "b" ≠ "" by decide)
  obtain ⟨-, alike⟩ := twoRuns (Client.isHeaderValue_iff.mp (by decide))
    (Client.isHeaderValue_iff.mp (by decide))
  refine ⟨first, second, by decide, ?_⟩
  exact alike _ _ first second (.instanceId "n") _ _ fun _ _ _ => rfl

end NodeLookup
