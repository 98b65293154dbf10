import NodeLookup.Exchange.Wire
import NodeLookup.Proofs.Client.Answering
import NodeLookup.Proofs.Text.Repair

/-!
# What becomes of a question

Every question to the cloud ends in one of four ways, and which one is settled by whether the request ends
in a whole answer, by its status and by whether its text can be read, in this order. `Answer.Shows` says
which text an answer has, byte by byte and without a reader where the bytes are UTF-8;
`Client.Classifies` says of a result that it is the one that the answer calls for, with `get_classifies`
for whatever is asked for. `showServer_listServers_classifies` applies it to the two questions that there
are. After it come answers that are read, and those that are taken for no refusal, or for another text
than UTF-8 makes of them.
-/

namespace NodeLookup

namespace Answer

/-- The text that an answer shows to an HTTP client. A byte order mark comes before the content type, and
that before UTF-8. -/
inductive Shows (http : HttpClient) (answer : Answer) : String → Prop where
  | bodiless (bodiless : answer.status = 204 ∨ answer.status = 304) : Shows http answer ""
  | utf8 {rest : List UInt8} {text : List Char} (bodied : ¬(answer.status = 204 ∨ answer.status = 304))
      (marked : answer.body = some (Text.utf8Mark ++ rest)) (reads : Text.ReadsAs rest text) :
      Shows http answer (String.ofList text)
  | utf16 {order : Text.ByteOrder} {rest : List UInt8}
      (bodied : ¬(answer.status = 204 ∨ answer.status = 304))
      (marked : answer.body = some (order.mark ++ rest)) :
      Shows http answer (String.ofList (Text.decodeUtf16 order rest))
  | charset {bytes contentType : List UInt8} {read : List UInt8 → List Char}
      (bodied : ¬(answer.status = 204 ∨ answer.status = 304)) (body : answer.body = some bytes)
      (unmarked : Text.Unmarked bytes) (named : answer.header? "content-type" = some contentType)
      (known : http.charset? contentType = some read) : Shows http answer (String.ofList (read bytes))
  | unnamed {bytes : List UInt8} {text : List Char}
      (bodied : ¬(answer.status = 204 ∨ answer.status = 304)) (body : answer.body = some bytes)
      (unmarked : Text.Unmarked bytes)
      (unnamed : (answer.header? "content-type").bind http.charset? = none)
      (reads : Text.ReadsAs bytes text) : Shows http answer (String.ofList text)

/-- An answer grants its request: its status is one of the two hundreds. -/
def Grants (answer : Answer) : Prop := 200 ≤ answer.status ∧ answer.status ≤ 299

variable {http : HttpClient} {answer : Answer} {response : Response} {text : String}

/-- What is handed over of an answer has the text of its body, as the content type says. -/
theorem text_of_handOver? (handed : http.handOver? answer = some response) :
    ∃ bytes, answer.body = some bytes ∧ response.text =
      if answer.status = 204 ∨ answer.status = 304 then ""
      else String.ofList (Text.decodeMarked (http.reader answer) bytes) := by
  obtain ⟨bytes, whole, rfl⟩ := Option.map_eq_some_iff.mp handed
  exact ⟨bytes, whole, by simp [Response.text, Response.isBodiless]⟩

/-- An answer that is handed over shows the text of what is. -/
theorem shows_text (handed : http.handOver? answer = some response) :
    answer.Shows http response.text := by
  obtain ⟨bytes, whole, read⟩ := text_of_handOver? handed
  rw [read]
  split
  · next bodiless => exact .bodiless bodiless
  next bodied =>
  by_cases utf8 : Text.utf8Mark <+: bytes
  · obtain ⟨rest, rfl⟩ := utf8
    rw [Text.decodeMarked_utf8]
    exact .utf8 bodied whole (Text.decodeLenient_eq_iff.mp rfl)
  by_cases utf16 : ∃ order : Text.ByteOrder, order.mark <+: bytes
  · obtain ⟨order, rest, rfl⟩ := utf16
    rw [Text.decodeMarked_utf16]
    exact .utf16 bodied whole
  have unmarked : Text.Unmarked bytes := ⟨utf8, not_exists.mp utf16⟩
  rw [Text.decodeMarked_unmarked unmarked, HttpClient.reader]
  cases named : (answer.header? "content-type").bind http.charset? with
  | none => exact .unnamed bodied whole unmarked named (Text.decodeLenient_eq_iff.mp rfl)
  | some reader =>
    obtain ⟨contentType, named, known⟩ := Option.bind_eq_some_iff.mp named
    exact .charset bodied whole unmarked named known

/-- What is handed over of an answer has the text that the answer shows. -/
theorem Shows.text_eq (shows : answer.Shows http text)
    (handed : http.handOver? answer = some response) : response.text = text := by
  obtain ⟨bytes, whole, read⟩ := text_of_handOver? handed
  rw [read]
  cases shows with
  | bodiless bodiless => rw [if_pos bodiless]
  | utf8 bodied marked reads =>
    obtain rfl := Option.some.inj (whole.symm.trans marked)
    rw [if_neg bodied, Text.decodeMarked_utf8, Text.decodeLenient_eq_iff.mpr reads]
  | utf16 bodied marked =>
    obtain rfl := Option.some.inj (whole.symm.trans marked)
    rw [if_neg bodied, Text.decodeMarked_utf16]
  | charset bodied body unmarked named known =>
    obtain rfl := Option.some.inj (whole.symm.trans body)
    rw [if_neg bodied, Text.decodeMarked_unmarked unmarked, HttpClient.reader, named,
      Option.bind_some, known, Option.getD_some]
  | unnamed bodied body unmarked unnamed reads =>
    obtain rfl := Option.some.inj (whole.symm.trans body)
    rw [if_neg bodied, Text.decodeMarked_unmarked unmarked, HttpClient.reader, unnamed,
      Option.getD_none, Text.decodeLenient_eq_iff.mpr reads]

/-- An answer that is handed over shows one text. -/
theorem shows_iff (handed : http.handOver? answer = some response) :
    answer.Shows http text ↔ response.text = text := by
  constructor
  · intro shows
    exact shows.text_eq handed
  · rintro rfl
    exact shows_text handed

/-- A response grants its request exactly if the answer does that is handed over. -/
theorem isSuccess_iff (handed : http.handOver? answer = some response) :
    response.isSuccess = true ↔ answer.Grants := by
  obtain ⟨bytes, -, rfl⟩ := Option.map_eq_some_iff.mp handed
  exact Response.isSuccess_iff

end Answer

/-- Only a refusal carries a service error: the envelope that its body is, with its own status. -/
theorem ClientError.serviceError?_eq_some_iff {error : ClientError} {envelope : ServiceError} :
    error.serviceError? = some envelope ↔ ∃ status body parsed, error = .api status body ∧
      ServiceError.ofBody? body = some parsed ∧ envelope = { parsed with status } := by
  cases error with
  | api status body =>
    constructor
    · intro carries
      obtain ⟨parsed, ofBody, same⟩ := Option.map_eq_some_iff.mp carries
      exact ⟨status, body, parsed, rfl, ofBody, same.symm⟩
    · rintro ⟨_, _, parsed, same, ofBody, rfl⟩
      cases same
      rw [serviceError?, ofBody]
      rfl
  | transport => simp [serviceError?]
  | undecodable url failure => simp [serviceError?]
  | invalidUrl flaw => simp [serviceError?]
  | invalidConfig reason => simp [serviceError?]

namespace Client

variable {α : Type}

/-- The client's request for a URL can be sent, and ends in an answer that arrives as a whole. -/
structure Concludes (client : Client) (http : HttpClient) (network : Network) (url : Url)
    (answer : Answer) : Prop where
  sendable : (client.request url).isSendable = true
  ends : ∃ requests, http.Follows network http.limit [] (client.request url) requests (some answer)
  whole : answer.body ≠ none

/-- A result of asking for what a URL names is the one that the last answer on the network calls for: every
kind of result has one condition, and only these kinds occur. -/
structure Classifies (client : Client) (http : HttpClient) (network : Network) (url : Url)
    (decode : String → Except Json.Failure α) (result : Except ClientError α) : Prop where
  transport_iff : result = .error .transport ↔
    ∀ answer, ¬client.Concludes http network url answer
  api_iff (status : Nat) (body : String) : result = .error (.api status body) ↔
    ∃ answer, client.Concludes http network url answer ∧ ¬answer.Grants ∧
      answer.status = status ∧ answer.Shows http body
  ok_iff (value : α) : result = .ok value ↔
    ∃ answer, client.Concludes http network url answer ∧ answer.Grants ∧
      ∃ text, answer.Shows http text ∧ decode text = .ok value
  undecodable_iff (source : String) (failure : Json.Failure) :
    result = .error (.undecodable source failure) ↔
      source = String.ofList url.render ∧
        ∃ answer, client.Concludes http network url answer ∧ answer.Grants ∧
          ∃ text, answer.Shows http text ∧ decode text = .error failure
  empty (answer : Answer) (concludes : client.Concludes http network url answer)
    (grants : answer.Grants) (shows_empty : answer.Shows http "") :
    ∃ failure, result = .error (.undecodable (String.ofList url.render) failure)
  kinds : (∃ value, result = .ok value) ∨ result = .error .transport ∨
    (∃ status body, result = .error (.api status body)) ∨
    ∃ source failure, result = .error (.undecodable source failure)
  serviceError_iff (error : ClientError) (failed : result = .error error)
    (envelope : ServiceError) : error.serviceError? = some envelope ↔
      ∃ status body parsed, error = .api status body ∧
        ServiceError.ofBody? body = some parsed ∧ envelope = { parsed with status }

variable {client : Client} {url : Url} {decode : String → Except Json.Failure α}

section Backends

variable {backend : Backend}

/-- That nothing arrived is reported exactly if nothing did. -/
theorem get_result_eq_transport_iff :
    (client.get url decode backend).result = .error .transport ↔
      ∀ response, ¬client.Answered url backend response := by
  constructor
  · intro lost response answered
    rw [get_result_of_answered answered, interpret] at lost
    split at lost
    · split at lost <;> cases lost
    · cases lost
  · exact get_result_of_unanswered

/-- That an answer cannot be read is reported exactly of a granted request, with the URL asked for. -/
theorem get_result_eq_undecodable_iff {source : String} {failure : Json.Failure} :
    (client.get url decode backend).result = .error (.undecodable source failure) ↔
      source = String.ofList url.render ∧
        ∃ response, client.Answered url backend response ∧ response.isSuccess = true ∧
          decode response.text = .error failure := by
  rw [get_result_eq_iff (by simp), ← exists_and_left]
  refine exists_congr fun response => ?_
  rw [and_left_comm]
  refine and_congr_right fun _ => ?_
  cases granted : response.isSuccess with
  | true =>
    cases read : decode response.text <;> simp [interpret, granted, read, eq_comm (a := source)]
  | false => simp [interpret, granted]

/-- What is got is of one of four kinds. -/
theorem get_result_kinds (client : Client) (url : Url) (decode : String → Except Json.Failure α)
    (backend : Backend) :
    (∃ value, (client.get url decode backend).result = .ok value) ∨
      (client.get url decode backend).result = .error .transport ∨
      (∃ status body, (client.get url decode backend).result = .error (.api status body)) ∨
      ∃ source failure,
        (client.get url decode backend).result = .error (.undecodable source failure) := by
  by_cases answered : ∃ response, client.Answered url backend response
  · obtain ⟨response, answered⟩ := answered
    rw [get_result_of_answered answered, interpret]
    split
    · split
      · exact .inl ⟨_, rfl⟩
      · exact .inr (.inr (.inr ⟨_, _, rfl⟩))
    · exact .inr (.inr (.inl ⟨_, _, rfl⟩))
  · exact .inr (.inl (get_result_of_unanswered (not_exists.mp answered)))

end Backends

variable {http : HttpClient} {network : Network}

/-- Through an HTTP client a request is answered by what that hands over of the answer in which the request
ends. What is true of the one is a matter of what is true of the other. -/
theorem exists_answered_iff {holds : Response → Prop} {holdsThere : Answer → Prop}
    (same : ∀ answer response, http.handOver? answer = some response →
      (holds response ↔ holdsThere answer)) :
    (∃ response, client.Answered url (http.backend network) response ∧ holds response) ↔
      ∃ answer, client.Concludes http network url answer ∧ holdsThere answer := by
  constructor
  · rintro ⟨response, ⟨sendable, answered⟩, held⟩
    obtain ⟨requests, answer, follows, handed⟩ := HttpClient.backend_eq_answered_iff.mp answered
    obtain ⟨bytes, whole, -⟩ := Answer.text_of_handOver? handed
    exact ⟨answer, ⟨sendable, ⟨requests, follows⟩, by simp [whole]⟩, (same _ _ handed).mp held⟩
  · rintro ⟨answer, ⟨sendable, ⟨requests, follows⟩, whole⟩, held⟩
    obtain ⟨bytes, body⟩ := Option.ne_none_iff_exists'.mp whole
    have handed : http.handOver? answer = some ⟨answer.status, bytes, http.reader answer⟩ := by
      rw [HttpClient.handOver?, body, Option.map_some]
    exact ⟨_, ⟨sendable, HttpClient.backend_eq_answered_iff.mpr ⟨requests, answer, follows, handed⟩⟩,
      (same _ _ handed).mpr held⟩

/-- A granted answer is read with the same outcome as what is handed over of it. -/
theorem exists_read_iff {outcome : Except Json.Failure α} :
    (∃ response, client.Answered url (http.backend network) response ∧ response.isSuccess = true ∧
        decode response.text = outcome) ↔
      ∃ answer, client.Concludes http network url answer ∧ answer.Grants ∧
        ∃ text, answer.Shows http text ∧ decode text = outcome := by
  refine exists_answered_iff fun answer response handed => ?_
  simp only [Answer.isSuccess_iff handed, Answer.shows_iff handed, exists_eq_left']

/-- What is got over a network is what the last answer there calls for, whatever is asked for and however
it is read, as long as nothing is read from an empty text. -/
theorem get_classifies (client : Client) (http : HttpClient) (network : Network) (url : Url)
    (refuses : ∃ failure, decode "" = .error failure) :
    client.Classifies http network url decode (client.get url decode (http.backend network)).result where
  transport_iff := by
    have none : (∃ response, client.Answered url (http.backend network) response ∧ True) ↔
        ∃ answer, client.Concludes http network url answer ∧ True :=
      exists_answered_iff fun _ _ _ => Iff.rfl
    simpa [get_result_eq_transport_iff] using not_congr none
  api_iff status body := by
    rw [get_result_eq_api_iff]
    refine exists_answered_iff fun answer response handed => ?_
    have kept : response.status = answer.status := by
      obtain ⟨bytes, -, rfl⟩ := Option.map_eq_some_iff.mp handed
      rfl
    rw [← Answer.isSuccess_iff handed, Answer.shows_iff handed, Bool.not_eq_true, kept]
  ok_iff value := by rw [get_result_eq_ok_iff, exists_read_iff]
  undecodable_iff source failure := by rw [get_result_eq_undecodable_iff, exists_read_iff]
  empty answer concludes grants shows_empty := by
    obtain ⟨failure, unread⟩ := refuses
    have read := exists_read_iff.mpr ⟨answer, concludes, grants, "", shows_empty, unread⟩
    exact ⟨failure, get_result_eq_undecodable_iff.mpr ⟨rfl, read⟩⟩
  kinds := get_result_kinds client url decode (http.backend network)
  serviceError_iff _ _ _ := ClientError.serviceError?_eq_some_iff

/-- Whatever a client asks for, by ID or by name, and whatever the network does, the result is the one
that the last answer there calls for. -/
theorem showServer_listServers_classifies (client : Client) (http : HttpClient) (network : Network)
    (id name : String) :
    client.Classifies http network (client.serverUrl id) Server.decodeAnswer
        (http.run network (client.showServer id)).result ∧
      client.Classifies http network (client.listingUrl name) Listing.decode
        (http.run network (client.listServers name)).result := by
  rw [HttpClient.run, HttpClient.run, showServer_eq, listServers_eq]
  constructor
  · exact get_classifies client http network _ ⟨_, rfl⟩
  · exact get_classifies client http network _ ⟨_, rfl⟩

/-- An answer that grants a request with one server. -/
def oneServer : Answer where
  status := 200
  body := some (Text.encode "\x7b\"server\":\x7b\"id\":\"a\"\x7d\x7d".toList)

/-- A server that is answered is got. -/
theorem showServer_listServers_classifies_granted :
    (HttpClient.plain.run (fun _ _ => .answered oneServer) ((atRoot "p").showServer "a")).result =
      .ok { id := "a" } := by
  obtain ⟨classifies, -⟩ := showServer_listServers_classifies (atRoot "p") HttpClient.plain
    (fun _ _ => .answered oneServer) "a" ""
  have unmarked : Text.Unmarked (Text.encode "\x7b\"server\":\x7b\"id\":\"a\"\x7d\x7d".toList) :=
    Text.unmarked_encode_iff.mpr (by decide)
  have known : ((atRoot "p").request ((atRoot "p").serverUrl "a")).url.scheme ∈
      HttpClient.plain.schemes := by decide
  have last : ∀ next, ¬HttpClient.plain.Redirects
      ((atRoot "p").request ((atRoot "p").serverUrl "a")) oneServer next :=
    fun _ redirects => absurd redirects.status (by decide)
  refine (classifies.ok_iff _).mpr ⟨oneServer, ⟨by decide, ⟨_, .answered known rfl last⟩, by decide⟩,
    ⟨by decide, by decide⟩, _, .unnamed (by decide) rfl unmarked rfl
      (Text.decodeLenient_eq_iff.mp rfl), ?_⟩
  decide

/-- A refusal in UTF-16 is told as the text that it is, and an answer that redirects the request is told
of by no refusal. -/
theorem redirection_is_no_refusal :
    (HttpClient.plain.run (fun _ _ => .answered { status := 500, body := some [0xFF, 0xFE, 0x61, 0x00] })
        ((atRoot "p").showServer "a")).result = .error (.api 500 "a") ∧
      String.ofList (Text.decodeLenient [0xFF, 0xFE, 0x61, 0x00]) = "\ufffd\ufffda\x00" ∧
      (HttpClient.plain.run (.redirecting oneServer) ((atRoot "p").showServer "a")).result =
        .ok { id := "a" } := by
  refine ⟨by decide, by decide, by decide⟩

end Client

end NodeLookup
