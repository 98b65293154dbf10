import NodeLookup.Client
import NodeLookup.Proofs.Exchange.Following
import NodeLookup.Proofs.Text.Utf16

/-!
# What a client makes of an answer

`Client.Answered` says that a request can be sent and is answered, without saying how the client goes
about it. The lemmas about `Client.get` relate each of its results to the response that arrived:
`get_result_eq_ok_iff` for a value, `get_result_eq_api_iff` for a refusal. A refusal is the only error
that can say that a server does not exist. Every question of a client is about one request.
-/

namespace NodeLookup

namespace Response

/-- A response grants its request exactly if its status is one of the two hundreds. -/
theorem isSuccess_iff {response : Response} :
    response.isSuccess = true ↔ 200 ≤ response.status ∧ response.status ≤ 299 := by
  simp [isSuccess]

/-- The response that grants a request with a text. -/
def granting (body : String) : Response where
  status := 200
  body := Text.encode body.toList

/-- Its status is one of the two hundreds. -/
theorem status_granting {body : String} : 200 ≤ (granting body).status ∧ (granting body).status ≤ 299 := by
  simp [granting]

/-- Its text is the one that it grants the request with, unless that starts with a byte order mark. -/
theorem text_granting {body : String} (unmarked : body.toList.head? ≠ some '\ufeff') :
    (granting body).text = body := by
  simp [text, granting, isBodiless, Text.decodeMarked_encode unmarked]

end Response

namespace ClientError

/-- Only a refusal whose body is an envelope with the code for it says that a server does not exist;
its status plays no part. -/
theorem isNonExistent_iff {error : ClientError} :
    error.isNonExistent = true ↔ ∃ status body envelope,
      error = .api status body ∧ ServiceError.ofBody? body = some envelope ∧
        envelope.code = nonExistentCode := by
  cases error with
  | api status body =>
    constructor
    · intro gone
      cases parsed : ServiceError.ofBody? body with
      | none => simp [isNonExistent, serviceError?, parsed] at gone
      | some envelope =>
        have code : envelope.code = nonExistentCode := by
          simpa [isNonExistent, serviceError?, parsed] using gone
        exact ⟨status, body, envelope, rfl, parsed, code⟩
    · rintro ⟨_, _, envelope, same, parsed, code⟩
      cases same
      simp [isNonExistent, serviceError?, parsed, code]
  | transport => simp [isNonExistent, serviceError?]
  | undecodable url failure => simp [isNonExistent, serviceError?]
  | invalidUrl flaw => simp [isNonExistent, serviceError?]
  | invalidConfig reason => simp [isNonExistent, serviceError?]

end ClientError

namespace Client

/-- A client for a project at the root of a host. -/
def atRoot (projectId : String) (authentication : Authentication := .anonymous)
    (user : List Char := []) : Client where
  endpoint := {
    scheme := "http".toList, authority := some { user, host := .name ['h'] }
    path := .segments [[]] }
  base := rfl
  timeout := 30
  credentials := ⟨projectId, authentication⟩

section Questions

variable {α : Type} {request : Request} {exchange : Backend → Exchanged α} {judge : Delivery → α}

/-- A judgement of what becomes of a request that can be sent asks for that request only. -/
theorem asksOnly_of_sendable (sendable : request.isSendable = true)
    (judged : ∀ backend, exchange backend = (deliver request backend).map judge) :
    AsksOnly request exchange := by
  have delivered : ∀ backend, deliver request backend =
      ⟨if (backend request).isReceived then [request] else [], backend request⟩ := by
    intro backend
    rw [deliver, if_pos sendable]
  constructor
  · intro backend
    rw [judged, delivered]
    rfl
  · intro backend other same
    rw [judged, judged, delivered, delivered, same]

/-- A request that cannot be sent is judged as one that never arrives. -/
theorem silent_of_not_sendable (unsendable : ¬request.isSendable = true)
    (judged : ∀ backend, exchange backend = (deliver request backend).map judge) (backend : Backend) :
    exchange backend = .silent (judge .unreachable) := by
  rw [judged, deliver, if_neg unsendable]
  rfl

end Questions

variable {α : Type} {client : Client} {url : Url} {decode : String → Except Json.Failure α}
  {backend : Backend}

/-- The client's request for a URL can be sent, and the backend answers it with a response. -/
structure Answered (client : Client) (url : Url) (backend : Backend) (response : Response) :
    Prop where
  sendable : (client.request url).isSendable = true
  answer : backend (client.request url) = .answered response

/-- What arrives is what the backend answers to a request that can be sent. -/
theorem deliver_eq_answered_iff {response : Response} :
    (deliver (client.request url) backend).result = .answered response ↔
      client.Answered url backend response := by
  constructor
  · intro arrived
    rw [deliver] at arrived
    split at arrived
    · next sendable => exact ⟨sendable, arrived⟩
    · cases arrived
  · intro answered
    rw [deliver, if_pos answered.sendable]
    exact answered.answer

/-- What is got from an answer is what the answer means. -/
theorem get_result_of_answered {response : Response} (answered : client.Answered url backend response) :
    (client.get url decode backend).result = interpret url decode (.answered response) := by
  rw [get, Exchanged.result_map, deliver_eq_answered_iff.mpr answered]

/-- Without an answer nothing is got. -/
theorem get_result_of_unanswered (unanswered : ∀ response, ¬client.Answered url backend response) :
    (client.get url decode backend).result = .error .transport := by
  rw [get, Exchanged.result_map]
  cases arrived : (deliver (client.request url) backend).result with
  | unreachable => rfl
  | unanswered => rfl
  | answered response => exact absurd (deliver_eq_answered_iff.mp arrived) (unanswered response)

/-- A client never asks a backend for anything but what it was told to ask for. -/
theorem requests_get {request : Request}
    (received : request ∈ (client.get url decode backend).requests) :
    request = client.request url := by
  rw [get, Exchanged.requests_map, deliver] at received
  split at received
  · dsimp only at received
    split at received
    · exact List.mem_singleton.mp received
    · cases received
  · cases received

/-- What is got, if anything arrived at all, is what some answer means. -/
theorem get_result_eq_iff {result : Except ClientError α} (notLost : result ≠ .error .transport) :
    (client.get url decode backend).result = result ↔
      ∃ response, client.Answered url backend response ∧
        interpret url decode (.answered response) = result := by
  constructor
  · intro got
    by_cases answered : ∃ response, client.Answered url backend response
    · obtain ⟨response, answered⟩ := answered
      exact ⟨response, answered, (get_result_of_answered answered).symm.trans got⟩
    · exact absurd (got.symm.trans (get_result_of_unanswered (not_exists.mp answered))) notLost
  · rintro ⟨response, answered, rfl⟩
    exact get_result_of_answered answered

/-- A value is got exactly from a granted request whose answer can be read. -/
theorem get_result_eq_ok_iff {value : α} :
    (client.get url decode backend).result = .ok value ↔
      ∃ response, client.Answered url backend response ∧ response.isSuccess = true ∧
        decode response.text = .ok value := by
  rw [get_result_eq_iff (by simp)]
  refine exists_congr fun response => and_congr_right fun _ => ?_
  cases granted : response.isSuccess with
  | true => cases read : decode response.text <;> simp [interpret, granted, read]
  | false => simp [interpret, granted]

/-- A refusal is reported exactly if an answer with another status than the two hundreds arrived, and
keeps its status and its text. -/
theorem get_result_eq_api_iff {status : Nat} {body : String} :
    (client.get url decode backend).result = .error (.api status body) ↔
      ∃ response, client.Answered url backend response ∧ response.isSuccess = false ∧
        response.status = status ∧ response.text = body := by
  rw [get_result_eq_iff (by simp)]
  refine exists_congr fun response => and_congr_right fun _ => ?_
  cases granted : response.isSuccess with
  | true => cases read : decode response.text <;> simp [interpret, granted, read]
  | false => simp [interpret, granted]

end Client

end NodeLookup
