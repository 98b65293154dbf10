import NodeLookup.Proofs.Client.Answering
import NodeLookup.Proofs.Client.ServerAddress

/-!
# Which project a request is for

A request names its project twice, in a header and in a segment of its path. The header keeps the
project as it is. The path passes over dots, and leaves out some characters of anything else, which can
turn into dots on the way. `requests_scoped_iff` says that the two agree exactly if the project is an
ordinary segment. The one after it is a request for another project than its header says.
-/

namespace NodeLookup

/-- Credentials that are made name a project. -/
theorem Credentials.projectId_ne_empty {projectId token : Option String} {credentials : Credentials}
    (built : build projectId token = .ok credentials) : credentials.projectId ≠ "" := by
  unfold build at built
  split at built
  · cases built
  · next project given =>
    have nonempty : project ≠ "" := by simpa using (Option.filter_eq_some_iff.mp given).2
    split at built <;> cases built <;> exact nonempty

namespace Client

open Text (encode)
open Url (Ordinary appendBase appendSegment isSpecial ownSegments percentDecode percentEncode
  segmentSet visible)

variable {client : Client} {resource : String}

/-- The word under which servers are listed is an ordinary segment. -/
theorem ordinary_detail : Ordinary "detail".toList := by decide

/-- A client that is made has its credentials. -/
theorem credentials_of_connect {config : ClientConfig} {credentials : Credentials}
    (connected : connect config credentials = .ok client) : client.credentials = credentials := by
  unfold connect at connected
  split at connected
  · cases connected
  · split at connected <;> cases connected
    rfl

/-- Behind the endpoint's own segments, a path goes on with the version, a segment that decodes to the
project, and the word for servers. -/
def PathScoped (client : Client) (project : String) (path : Url.Path) : Prop :=
  ∃ segment rest,
    path = .segments (client.endpoint.ownSegments ++
      ['v', '1'] :: segment :: "cloudservers".toList :: rest) ∧
    percentDecode (encode segment) = encode project.toList

/-- The path of a request is scoped to the project that its header names. -/
def Scoped (client : Client) (request : Request) : Prop :=
  ∃ project, request.header? "x-project-id" = some project ∧
    client.PathScoped project request.url.path

/-- What the version and the project make of the endpoint's own segments. -/
def projectSegments (client : Client) : List (List Char) :=
  appendBase (appendSegment (isSpecial client.endpoint.scheme)
    (client.endpoint.ownSegments ++ [['v', '1']]) client.credentials.projectId.toList)

/-- The path of a resource is that of the project and the word for servers, with the resource
appended. -/
theorem path_resourceUrl_eq (notSlashes : client.endpoint.path ≠ .segments [[], []])
    (resource : String) :
    (client.resourceUrl resource).path =
      .segments (appendSegment (isSpecial client.endpoint.scheme)
        (client.projectSegments ++ ["cloudservers".toList]) resource.toList) := by
  have fixed := client.written_fixed
  simp only [written] at fixed
  rw [resourceUrl, Url.path_extend client.base notSlashes ordinary_version]
  simp only [List.foldl_cons, List.foldl_nil]
  rw [Url.appendSegment_of_ordinary _ _ ordinary_servers, fixed.1, fixed.2]
  rfl

/-- The path of an ordinary resource, whatever its project is. -/
theorem path_resourceUrl_of_ordinary (notSlashes : client.endpoint.path ≠ .segments [[], []])
    (ordinary : Ordinary resource.toList) :
    (client.resourceUrl resource).path = .segments (client.projectSegments ++
      ["cloudservers".toList, client.written resource.toList]) := by
  rw [path_resourceUrl_eq notSlashes, Url.appendSegment_of_ordinary _ _ ordinary,
    Url.appendBase_append _ (by decide), List.append_assoc]
  rfl

/-- The project is appended behind the version. -/
theorem appendBase_version (client : Client) :
    appendBase (client.endpoint.ownSegments ++ [['v', '1']]) =
      client.endpoint.ownSegments ++ [['v', '1']] :=
  Url.appendBase_append _ (by decide)

/-- A dot segment for a project is passed over. -/
theorem projectSegments_of_dots
    (dots : client.credentials.projectId.toList ∈ [['.'], ['.', '.']]) :
    client.projectSegments = client.endpoint.ownSegments ++ [['v', '1']] := by
  have passed : ∀ special segments,
      appendSegment special segments client.credentials.projectId.toList = segments := by
    intro special segments
    rw [appendSegment, if_pos (by simpa using dots)]
  rw [projectSegments, passed, appendBase_version]

/-- Two hidden dots for a project take the version away. -/
theorem projectSegments_of_hidden_dots (hidden : client.credentials.projectId.toList ≠ ['.', '.'])
    (dots : visible client.credentials.projectId.toList = ['.', '.']) :
    client.projectSegments = appendBase (client.endpoint.ownSegments ++ [[]]) := by
  rw [projectSegments, Url.appendSegment_of_visible_dots _ _ hidden dots, appendBase_version,
    Url.shorten_append _ rfl]

/-- Any other project makes one segment behind the version, which decodes to what is visible of the
project, or to nothing if that is a dot. -/
theorem projectSegments_of_visible
    (notDots : client.credentials.projectId.toList ∉ [['.'], ['.', '.']])
    (shown : visible client.credentials.projectId.toList ≠ ['.', '.']) :
    ∃ segment, client.projectSegments = client.endpoint.ownSegments ++ [['v', '1'], segment] ∧
      percentDecode (encode segment) =
        if visible client.credentials.projectId.toList = ['.'] then []
        else encode (visible client.credentials.projectId.toList) := by
  simp only [List.mem_cons, List.not_mem_nil, or_false, not_or] at notDots
  have whole : ∀ segment, appendBase (client.endpoint.ownSegments ++ [['v', '1']] ++ [segment]) =
      client.endpoint.ownSegments ++ [['v', '1'], segment] := by
    intro segment
    rw [List.append_assoc, List.singleton_append, appendBase, if_neg]
    intro single
    have length := congrArg List.length single
    simp at length
  by_cases dot : visible client.credentials.projectId.toList = ['.']
  · refine ⟨[], ?_, by rw [if_pos dot]; rfl⟩
    rw [projectSegments, Url.appendSegment_of_visible_dot _ _ notDots.1 dot, appendBase_version,
      whole]
  · refine ⟨client.written (visible client.credentials.projectId.toList), ?_, ?_⟩
    · rw [projectSegments, Url.appendSegment_of_visible _ _ dot shown, appendBase_version, whole]
      rfl
    · rw [if_neg dot, written, Url.percentDecode_percentEncode (Url.reversible_segmentSet _)]

section Path

variable (notSlashes : client.endpoint.path ≠ .segments [[], []])
  (ordinary : Ordinary resource.toList)

include notSlashes ordinary

/-- A project that is a dot segment is missing from the path. -/
theorem not_pathScoped_of_dots (dots : client.credentials.projectId.toList ∈ [['.'], ['.', '.']]) :
    ¬client.PathScoped client.credentials.projectId (client.resourceUrl resource).path := by
  rintro ⟨segment, rest, path, decodes⟩
  rw [path_resourceUrl_of_ordinary notSlashes ordinary, projectSegments_of_dots dots] at path
  simp only [Url.Path.segments.injEq, List.append_assoc, List.append_cancel_left_eq,
    List.cons_append, List.nil_append, List.cons.injEq, true_and] at path
  rw [← path.1] at decodes
  simp only [List.mem_cons, List.not_mem_nil, or_false] at dots
  rcases dots with dot | dots
  · rw [dot] at decodes
    exact absurd decodes (by decide)
  · rw [dots] at decodes
    exact absurd decodes (by decide)

/-- A project of two hidden dots leaves no version in the path. -/
theorem not_pathScoped_of_hidden_dots
    (hidden : client.credentials.projectId.toList ≠ ['.', '.'])
    (dots : visible client.credentials.projectId.toList = ['.', '.']) :
    ¬client.PathScoped client.credentials.projectId (client.resourceUrl resource).path := by
  rintro ⟨segment, rest, path, -⟩
  rw [path_resourceUrl_of_ordinary notSlashes ordinary,
    projectSegments_of_hidden_dots hidden dots, Url.Path.segments.injEq, appendBase] at path
  split at path
  · next root =>
    have own : client.endpoint.ownSegments = [] := by simpa using root
    rw [own] at path
    simp at path
  · rw [List.append_assoc, List.append_cancel_left_eq] at path
    simp at path

/-- The path of an ordinary resource is scoped to the client's project exactly if that is an ordinary
segment. -/
theorem pathScoped_resourceUrl_iff (named : client.credentials.projectId ≠ "") :
    client.PathScoped client.credentials.projectId (client.resourceUrl resource).path ↔
      Ordinary client.credentials.projectId.toList := by
  have nonempty : client.credentials.projectId.toList ≠ [] := by
    rwa [ne_eq, String.toList_eq_nil_iff]
  by_cases dots : client.credentials.projectId.toList ∈ [['.'], ['.', '.']]
  · exact iff_of_false (not_pathScoped_of_dots notSlashes ordinary dots) fun project =>
      (Url.ordinary_iff_visible.mp project).2.1 dots
  by_cases shown : visible client.credentials.projectId.toList = ['.', '.']
  · have hidden : client.credentials.projectId.toList ≠ ['.', '.'] := by
      intro same
      exact dots (by simp [same])
    refine iff_of_false (not_pathScoped_of_hidden_dots notSlashes ordinary hidden shown) ?_
    intro project
    exact hidden (project.visible_eq ▸ shown)
  obtain ⟨segment, made, decodes⟩ := projectSegments_of_visible dots shown
  rw [path_resourceUrl_of_ordinary notSlashes ordinary, made, Url.ordinary_iff_visible]
  constructor
  · rintro ⟨other, rest, path, same⟩
    simp only [Url.Path.segments.injEq, List.append_assoc, List.append_cancel_left_eq,
      List.cons_append, List.nil_append, List.cons.injEq, true_and] at path
    rw [← path.1, decodes] at same
    split at same
    · exact absurd (Text.encode_injective (Text.encode_nil.trans same)).symm nonempty
    · exact ⟨nonempty, dots, Text.encode_injective same⟩
  · rintro ⟨-, -, whole⟩
    have notDot : client.credentials.projectId.toList ≠ ['.'] := by
      intro same
      exact dots (by simp [same])
    refine ⟨segment, [client.written resource.toList], by simp, ?_⟩
    rw [decodes, whole, if_neg notDot]

end Path

/-- The header of a request names the client's project. -/
theorem header?_project (client : Client) (url : Url) :
    (client.request url).header? "x-project-id" = some client.credentials.projectId := by
  simp [request, Request.header?]

/-- A request for an ordinary resource is scoped exactly if its path is. -/
theorem scoped_request_iff {url : Url} :
    client.Scoped (client.request url) ↔
      client.PathScoped client.credentials.projectId url.path := by
  simp only [Scoped, header?_project, Option.some.injEq, exists_eq_left']
  rfl

/-- Every request for a server with an ordinary ID, and every one for a listing, is scoped to the
project that its header names exactly if that project is an ordinary segment. For any other project
that credentials are made for, no request is. -/
theorem requests_scoped_iff {config : ClientConfig} {projectId token : Option String}
    {credentials : Credentials} (built : Credentials.build projectId token = .ok credentials)
    (connected : connect config credentials = .ok client)
    (notSlashes : client.endpoint.path ≠ .segments [[], []]) {id : String}
    (server : Ordinary id.toList) (name : String) (backend : Backend) {request : Request}
    (received : request ∈ (client.showServer id backend).requests ∨
      request ∈ (client.listServers name backend).requests) :
    client.Scoped request ↔ Ordinary credentials.projectId.toList := by
  obtain rfl := credentials_of_connect connected
  have named := Credentials.projectId_ne_empty built
  rw [showServer_eq, listServers_eq] at received
  rcases received with shown | listed
  · rw [requests_get shown, scoped_request_iff, serverUrl]
    exact pathScoped_resourceUrl_iff notSlashes server named
  · rw [requests_get listed, scoped_request_iff]
    exact pathScoped_resourceUrl_iff notSlashes ordinary_detail named

/-- A slash and an escape in a project do no harm. -/
theorem requests_scoped_iff_escapes :
    Credentials.build (some "p/%2e") none = .ok ⟨"p/%2e", .anonymous⟩ ∧
      connect { endpoint := "http://h" } ⟨"p/%2e", .anonymous⟩ = .ok (atRoot "p/%2e") ∧
      (atRoot "p/%2e").endpoint.path ≠ .segments [[], []] ∧ Ordinary "abc".toList ∧
      ∃ request ∈ ((atRoot "p/%2e").showServer "abc" fun _ => .unanswered).requests,
        (atRoot "p/%2e").Scoped request := by
  have built : Credentials.build (some "p/%2e") none = .ok ⟨"p/%2e", .anonymous⟩ := by decide
  have connected : connect { endpoint := "http://h" } ⟨"p/%2e", .anonymous⟩ =
      .ok (atRoot "p/%2e") := by decide
  have notSlashes : (atRoot "p/%2e").endpoint.path ≠ .segments [[], []] := by decide
  have server : Ordinary "abc".toList := by decide
  have received : (atRoot "p/%2e").request ((atRoot "p/%2e").serverUrl "abc") ∈
      ((atRoot "p/%2e").showServer "abc" fun _ => .unanswered).requests := by decide
  refine ⟨built, connected, notSlashes, server, _, received, ?_⟩
  exact (requests_scoped_iff built connected notSlashes server "" _ (.inl received)).mpr (by decide)

/-- A project with a tab is accepted, and named as it is in the header of a request for another
project. -/
theorem hidden_tab_names_other_project :
    Credentials.build (some "a\tb") none = .ok ⟨"a\tb", .anonymous⟩ ∧
      connect { endpoint := "http://h" } ⟨"a\tb", .anonymous⟩ = .ok (atRoot "a\tb") ∧
      (atRoot "a\tb").endpoint.path ≠ .segments [[], []] ∧ Ordinary "abc".toList ∧
      (((atRoot "a\tb").showServer "abc" fun _ => .unanswered).requests.map fun request =>
          (request.url.path, request.header? "x-project-id")) =
        [(.segments [['v', '1'], ['a', 'b'], "cloudservers".toList, ['a', 'b', 'c']],
          some "a\tb")] ∧
      ∀ request ∈ ((atRoot "a\tb").showServer "abc" fun _ => .unanswered).requests,
        ¬(atRoot "a\tb").Scoped request := by
  have notSlashes : (atRoot "a\tb").endpoint.path ≠ .segments [[], []] := by decide
  have server : Ordinary "abc".toList := by decide
  refine ⟨by decide, by decide, notSlashes, server, by decide, fun request received isScoped => ?_⟩
  rw [showServer_eq] at received
  rw [requests_get received, scoped_request_iff, serverUrl,
    pathScoped_resourceUrl_iff notSlashes server (by decide)] at isScoped
  exact absurd isScoped (by decide)

end Client

end NodeLookup
