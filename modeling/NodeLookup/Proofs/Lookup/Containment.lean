import NodeLookup.Proofs.Client.ServerAddress
import NodeLookup.Proofs.Lookup.Existence

/-!
# Where a provider ID can lead

A lookup refuses the IDs that would lead away from the servers of its project, but it looks at them
before the URL does: the characters that a URL leaves out still hide a dot segment, or an ID that is
empty. `staysBelow_iff` says that no other ID leads away, and where these IDs lead. The one after it
is a request for the project's own path.
-/

namespace NodeLookup.Resolver

open Url (Ordinary isDoubleDot isSingleDot visible)

variable {resolver : Resolver} {providerId : String}

/-- A provider ID is refused without a request, or leads to one segment below the collection of the
project's servers, and to nothing else. -/
def StaysBelow (resolver : Resolver) (providerId : String) : Prop :=
  (∀ backend, resolver.byProviderId providerId backend =
    .silent (.error (.invalidProviderId providerId))) ∨
  (∃ last, (last ≠ [] ∧ isSingleDot last = false ∧ isDoubleDot last = false) ∧
    (resolver.client.serverUrl (resolver.serverId providerId)).path =
      .segments (resolver.client.endpoint.ownSegments ++
        [['v', '1'], resolver.client.written resolver.client.credentials.projectId.toList,
          "cloudservers".toList, last]) ∧
    ∀ backend, ∀ request ∈ (resolver.byProviderId providerId backend).requests,
      request.url = resolver.client.serverUrl (resolver.serverId providerId))

/-- Whatever a lookup asks for, it asks at the address of the server in the provider ID. -/
theorem url_of_mem_requests {backend : Backend} {request : Request}
    (received : request ∈ (resolver.byProviderId providerId backend).requests) :
    request.url = resolver.client.serverUrl (resolver.serverId providerId) := by
  cases named : namesNoServer (resolver.serverId providerId) with
  | true =>
    rw [byProviderId_of_namesNoServer named] at received
    cases received
  | false =>
    rw [byProviderId_of_namesServer named, Exchanged.requests_map, Client.showServer_eq] at received
    rw [Client.requests_get received]
    rfl

/-- An ID that is not refused does not have the text of a dot segment. -/
theorem ne_dots_of_not_mem {id : String} (accepted : id ∉ ["", ".", ".."]) :
    id.toList ≠ [] ∧ id.toList ≠ ['.'] ∧ id.toList ≠ ['.', '.'] := by
  simp only [List.mem_cons, List.not_mem_nil, or_false, not_or, ← String.toList_inj] at accepted
  exact accepted

/-- What a client answers never makes a provider ID invalid. -/
theorem judgeServer_ne_invalidProviderId {id : String} {answer : Except ClientError Server} :
    judgeServer id answer ≠ .error (.invalidProviderId providerId) := by
  cases answer with
  | ok server => simp [judgeServer]
  | error error => cases gone : error.isNonExistent <;> simp [judgeServer, gone]

section Endpoint

variable (notSlashes : resolver.client.endpoint.path ≠ .segments [[], []])
  (project : Ordinary resolver.client.credentials.projectId.toList)

include notSlashes project

/-- An ID that does not show dots leads to the segment that it is written as. -/
theorem path_of_visible (notDot : visible (resolver.serverId providerId).toList ≠ ['.'])
    (notDots : visible (resolver.serverId providerId).toList ≠ ['.', '.']) :
    (resolver.client.serverUrl (resolver.serverId providerId)).path =
      .segments (resolver.client.collection ++
        [resolver.client.written (visible (resolver.serverId providerId).toList)]) := by
  rw [Client.serverUrl, Client.path_resourceUrl notSlashes project,
    Url.appendSegment_of_visible _ _ notDot notDots, Client.appendBase_collection]
  rfl

/-- An ID of which nothing is visible leads to the collection itself, with a slash behind it. -/
theorem path_of_hidden (empty : visible (resolver.serverId providerId).toList = []) :
    (resolver.client.serverUrl (resolver.serverId providerId)).path =
      .segments (resolver.client.collection ++ [[]]) := by
  rw [path_of_visible notSlashes project (by simp [empty]) (by simp [empty]), empty]
  rfl

/-- A hidden dot leads to the collection itself, with a slash behind it. -/
theorem path_of_hidden_dot (hidden : (resolver.serverId providerId).toList ≠ ['.'])
    (dot : visible (resolver.serverId providerId).toList = ['.']) :
    (resolver.client.serverUrl (resolver.serverId providerId)).path =
      .segments (resolver.client.collection ++ [[]]) := by
  rw [Client.serverUrl, Client.path_resourceUrl notSlashes project,
    Url.appendSegment_of_visible_dot _ _ hidden dot, Client.appendBase_collection]

/-- Two hidden dots lead to the project, with a slash behind it. -/
theorem path_of_hidden_dots (hidden : (resolver.serverId providerId).toList ≠ ['.', '.'])
    (dots : visible (resolver.serverId providerId).toList = ['.', '.']) :
    (resolver.client.serverUrl (resolver.serverId providerId)).path =
      .segments (resolver.client.projectPath ++ [[]]) := by
  rw [Client.serverUrl, Client.path_resourceUrl notSlashes project,
    Url.appendSegment_of_visible_dots _ _ hidden dots, Client.appendBase_collection,
    Client.shorten_collection]

/-- An ID that shows a server ID leads to a segment of its own. -/
theorem staysBelow_of_visible
    (shown : visible (resolver.serverId providerId).toList ∉ [[], ['.'], ['.', '.']]) :
    resolver.StaysBelow providerId := by
  simp only [List.mem_cons, List.not_mem_nil, or_false, not_or] at shown
  obtain ⟨nonempty, notDot, notDots⟩ := shown
  right
  refine ⟨resolver.client.written (visible (resolver.serverId providerId).toList),
    Url.written_of_visible _ nonempty notDot notDots, ?_, fun backend request received =>
      url_of_mem_requests received⟩
  rw [path_of_visible notSlashes project notDot notDots, Client.collection, List.append_assoc]
  rfl

/-- An ID that is not refused and shows no server ID leads away. -/
theorem not_staysBelow_of_hidden (accepted : resolver.serverId providerId ∉ ["", ".", ".."])
    (hidden : visible (resolver.serverId providerId).toList ∈ [[], ['.'], ['.', '.']]) :
    ¬resolver.StaysBelow providerId := by
  obtain ⟨-, notDot, notDots⟩ := ne_dots_of_not_mem accepted
  rintro (refused | ⟨last, ⟨nonempty, -, -⟩, path, -⟩)
  · have failed := congrArg Exchanged.result (refused fun _ => .unreachable)
    have named : namesNoServer (resolver.serverId providerId) = false := by
      rwa [← Bool.not_eq_true, namesNoServer_iff]
    rw [byProviderId_of_namesServer named] at failed
    exact judgeServer_ne_invalidProviderId failed
  · -- Every hidden ID leads to an empty last segment, which no address of a server has.
    have ends : ∀ front, (resolver.client.serverUrl (resolver.serverId providerId)).path ≠
        .segments (front ++ [[]]) := by
      intro front same
      rw [path, Url.Path.segments.injEq] at same
      have lasts := congrArg List.getLast? same
      simp at lasts
      exact nonempty lasts
    simp only [List.mem_cons, List.not_mem_nil, or_false] at hidden
    rcases hidden with empty | dot | dots
    · exact ends _ (path_of_hidden notSlashes project empty)
    · exact ends _ (path_of_hidden_dot notSlashes project notDot dot)
    · exact ends _ (path_of_hidden_dots notSlashes project notDots dots)

end Endpoint

/-- A provider ID is refused, or stays below the collection of the project's servers, exactly if it
still shows a server ID once the ignored characters are left out. Otherwise it leads to the collection
itself, or, with two dots, to the project above it. -/
theorem staysBelow_iff (notSlashes : resolver.client.endpoint.path ≠ .segments [[], []])
    (project : Ordinary resolver.client.credentials.projectId.toList) (providerId : String) :
    (resolver.StaysBelow providerId ↔
      resolver.serverId providerId ∈ ["", ".", ".."] ∨
      visible (resolver.serverId providerId).toList ∉ [[], ['.'], ['.', '.']]) ∧
    (resolver.serverId providerId ∉ ["", ".", ".."] →
      (visible (resolver.serverId providerId).toList = [] ∨
          visible (resolver.serverId providerId).toList = ['.'] →
        (resolver.client.serverUrl (resolver.serverId providerId)).path =
          .segments (resolver.client.endpoint.ownSegments ++
            [['v', '1'], resolver.client.written resolver.client.credentials.projectId.toList,
              "cloudservers".toList, []])) ∧
      (visible (resolver.serverId providerId).toList = ['.', '.'] →
        (resolver.client.serverUrl (resolver.serverId providerId)).path =
          .segments (resolver.client.endpoint.ownSegments ++
            [['v', '1'], resolver.client.written resolver.client.credentials.projectId.toList,
              []]))) := by
  refine ⟨⟨?_, ?_⟩, fun accepted => ⟨?_, ?_⟩⟩
  · intro stays
    by_contra leads
    simp only [not_or, not_not] at leads
    exact not_staysBelow_of_hidden notSlashes project leads.1 leads.2 stays
  · rintro (refused | shown)
    · left
      exact fun backend => byProviderId_of_namesNoServer (namesNoServer_iff.mpr refused)
    · exact staysBelow_of_visible notSlashes project shown
  · obtain ⟨-, notDot, -⟩ := ne_dots_of_not_mem accepted
    rintro (empty | dot)
    · rw [path_of_hidden notSlashes project empty, Client.collection, List.append_assoc]
      rfl
    · rw [path_of_hidden_dot notSlashes project notDot dot, Client.collection,
        List.append_assoc]
      rfl
  · obtain ⟨-, -, notDots⟩ := ne_dots_of_not_mem accepted
    intro dots
    rw [path_of_hidden_dots notSlashes project notDots dots, Client.projectPath,
      List.append_assoc]
    rfl

/-- A tab within an ID does no harm, and one between two dots does. -/
theorem staysBelow_iff_tab :
    atRoot.client.endpoint.path ≠ .segments [[], []] ∧
      Ordinary atRoot.client.credentials.projectId.toList ∧
      atRoot.StaysBelow "huaweicloud://a\tb" ∧ ¬atRoot.StaysBelow "huaweicloud://.\t." := by
  have notSlashes : atRoot.client.endpoint.path ≠ .segments [[], []] := by decide
  have project : Ordinary atRoot.client.credentials.projectId.toList := by decide
  refine ⟨notSlashes, project, ?_, ?_⟩
  · exact (staysBelow_iff notSlashes project _).1.mpr (by decide)
  · exact mt (staysBelow_iff notSlashes project _).1.mp (by decide)

/-- Two dots with a tab between them are not refused, and the request for them asks for the path of
the project. -/
theorem hidden_dots_reach_project :
    Ordinary atRoot.client.credentials.projectId.toList ∧
      (atRoot.byProviderId "huaweicloud://.\t." fun _ => .unanswered).requests.map (·.url.path) =
        [.segments [['v', '1'], ['p'], []]] ∧
      ¬atRoot.StaysBelow "huaweicloud://.\t." := by
  refine ⟨by decide, by decide, ?_⟩
  exact not_staysBelow_of_hidden (by decide) (by decide) (by decide) (by decide)

end NodeLookup.Resolver
