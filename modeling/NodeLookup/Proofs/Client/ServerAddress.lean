import NodeLookup.Proofs.Client.Answering
import NodeLookup.Proofs.Url.Appending

/-!
# The address of a server

A client appends four segments to the path of its endpoint: a version, its project, the word for
servers, and the resource. `path_resourceUrl` holds for every resource, and `path_serverUrl` says what
an ordinary server ID makes of it. `serverUrl_roundTrip` reads the project and the server back from
the address, so the address belongs to no other pair.
-/

namespace NodeLookup

namespace Url

/-- Parts before a slash are the same if they hold none. -/
theorem append_slash_inj {first second rest more : List Char} (firstFree : '/' ∉ first)
    (secondFree : '/' ∉ second) (same : first ++ '/' :: rest = second ++ '/' :: more) :
    first = second ∧ rest = more := by
  induction first generalizing second with
  | nil =>
    cases second with
    | nil => simpa using same
    | cons char second =>
      rw [List.nil_append, List.cons_append, List.cons.injEq] at same
      exact absurd (same.1 ▸ List.mem_cons_self) secondFree
  | cons char first ih =>
    cases second with
    | nil =>
      rw [List.nil_append, List.cons_append, List.cons.injEq] at same
      exact absurd (same.1 ▸ List.mem_cons_self) firstFree
    | cons other second =>
      simp only [List.cons_append, List.cons.injEq] at same
      obtain ⟨rfl, same⟩ := same
      obtain ⟨rfl, rfl⟩ := ih (fun member => firstFree (List.mem_cons_of_mem _ member))
        (fun member => secondFree (List.mem_cons_of_mem _ member)) same
      exact ⟨rfl, rfl⟩

/-- The guard of a path depends on its end only if there is nothing in front of that. -/
theorem renderGuard_congr {first second : Url} {own rest more : List (List Char)}
    {segment next other : List Char} (authority : first.authority = second.authority)
    (nonempty : segment ≠ []) (firstPath : first.path = .segments (own ++ segment :: next :: rest))
    (secondPath : second.path = .segments (own ++ segment :: other :: more)) :
    first.renderGuard = second.renderGuard := by
  obtain ⟨char, tail, rfl⟩ := List.exists_cons_of_ne_nil nonempty
  simp only [renderGuard, firstPath, secondPath, authority]
  cases second.authority with
  | some => rfl
  | none =>
    match own with
    | [] => rfl
    | [[]] => rfl
    | [] :: _ :: _ => rfl
    | (_ :: _) :: _ => rfl

/-- URLs that differ in their paths alone have the same path if they have the same text. -/
theorem path_render_of_render {first second : Url} (scheme : first.scheme = second.scheme)
    (authority : first.authority = second.authority) (query : first.query = second.query)
    (fragment : first.fragment = second.fragment) (guard : first.renderGuard = second.renderGuard)
    (same : first.render = second.render) : first.path.render = second.path.render := by
  simpa [render, renderAuthority, renderQuery, renderFragment, scheme, authority, query, fragment,
    guard] using same

end Url

namespace Client

open Text (encode)
open Url (Ordinary appendBase appendSegment isSpecial ownSegments percentDecode percentEncode
  segmentSet)

variable {client : Client}

/-- The written form of a segment below the client's endpoint. -/
def written (client : Client) (segment : List Char) : List Char :=
  percentEncode (segmentSet (isSpecial client.endpoint.scheme)) segment

/-- The segments of the collection of the servers of the client's project. -/
def collection (client : Client) : List (List Char) :=
  client.endpoint.ownSegments ++
    [['v', '1'], client.written client.credentials.projectId.toList, "cloudservers".toList]

/-- The first of the segments that every resource has. -/
theorem ordinary_version : Ordinary ['v', '1'] := by decide

/-- The third of the segments that every resource has. -/
theorem ordinary_servers : Ordinary "cloudservers".toList := by decide

/-- The fixed segments are written as they are. -/
theorem written_fixed (client : Client) :
    client.written ['v', '1'] = ['v', '1'] ∧
      client.written "cloudservers".toList = "cloudservers".toList := by
  unfold written
  cases isSpecial client.endpoint.scheme <;> decide

@[simp] theorem scheme_resourceUrl (client : Client) (resource : String) :
    (client.resourceUrl resource).scheme = client.endpoint.scheme :=
  Url.scheme_extend _ _

@[simp] theorem authority_resourceUrl (client : Client) (resource : String) :
    (client.resourceUrl resource).authority = client.endpoint.authority :=
  Url.authority_extend _ _

@[simp] theorem query_resourceUrl (client : Client) (resource : String) :
    (client.resourceUrl resource).query = client.endpoint.query :=
  Url.query_extend _ _

@[simp] theorem fragment_resourceUrl (client : Client) (resource : String) :
    (client.resourceUrl resource).fragment = client.endpoint.fragment :=
  Url.fragment_extend _ _

/-- The path of a resource is the path of the collection with the resource appended. -/
theorem path_resourceUrl (notSlashes : client.endpoint.path ≠ .segments [[], []])
    (project : Ordinary client.credentials.projectId.toList) (resource : String) :
    (client.resourceUrl resource).path =
      .segments (appendSegment (isSpecial client.endpoint.scheme) client.collection
        resource.toList) := by
  have fixed := client.written_fixed
  simp only [written] at fixed
  rw [resourceUrl, Url.path_extend client.base notSlashes ordinary_version]
  simp only [List.foldl_cons, List.foldl_nil]
  rw [Url.appendSegment_of_ordinary _ _ project,
    Url.appendBase_append_percentEncode _ _ ordinary_version,
    Url.appendSegment_of_ordinary _ _ ordinary_servers,
    Url.appendBase_append_percentEncode _ _ project, fixed.1, fixed.2]
  simp [collection, written]

/-- The segments of the client's project. -/
def projectPath (client : Client) : List (List Char) :=
  client.endpoint.ownSegments ++
    [['v', '1'], client.written client.credentials.projectId.toList]

/-- The collection stands under its own word below the project. -/
theorem collection_eq (client : Client) :
    client.collection = client.projectPath ++ ["cloudservers".toList] := by
  simp [collection, projectPath]

/-- Above the collection is the project. -/
theorem shorten_collection (client : Client) :
    Url.shorten client.collection = client.projectPath := by
  rw [collection_eq, Url.shorten_append _ rfl]

/-- The collection is all there to append to. -/
theorem appendBase_collection (client : Client) :
    appendBase client.collection = client.collection := by
  rw [collection_eq]
  exact Url.appendBase_append _ (by decide)

/-- The path of a server whose ID is an ordinary segment. -/
theorem path_serverUrl (notSlashes : client.endpoint.path ≠ .segments [[], []])
    (project : Ordinary client.credentials.projectId.toList) {id : String}
    (server : Ordinary id.toList) :
    (client.serverUrl id).path = .segments (client.endpoint.ownSegments ++
      [['v', '1'], client.written client.credentials.projectId.toList, "cloudservers".toList,
        client.written id.toList]) := by
  rw [serverUrl, path_resourceUrl notSlashes project, Url.appendSegment_of_ordinary _ _ server,
    appendBase_collection, collection, List.append_assoc]
  rfl

/-- Addresses below one endpoint with the same text have the same last segments. -/
theorem written_inj_of_render {other : Client} {id otherId : String}
    (endpoint : other.endpoint = client.endpoint)
    (notSlashes : client.endpoint.path ≠ .segments [[], []])
    (project : Ordinary client.credentials.projectId.toList) (server : Ordinary id.toList)
    (otherProject : Ordinary other.credentials.projectId.toList)
    (otherServer : Ordinary otherId.toList)
    (same : (other.serverUrl otherId).render = (client.serverUrl id).render) :
    client.written other.credentials.projectId.toList =
        client.written client.credentials.projectId.toList ∧
      client.written otherId.toList = client.written id.toList := by
  have path := path_serverUrl notSlashes project server
  have otherPath : (other.serverUrl otherId).path = .segments (other.endpoint.ownSegments ++
      [['v', '1'], other.written other.credentials.projectId.toList, "cloudservers".toList,
        other.written otherId.toList]) :=
    path_serverUrl (endpoint ▸ notSlashes) otherProject otherServer
  have guard : (other.serverUrl otherId).renderGuard = (client.serverUrl id).renderGuard := by
    refine Url.renderGuard_congr ?_ (by decide) (endpoint ▸ otherPath) path
    simp [serverUrl, endpoint]
  have paths : (other.serverUrl otherId).path.render = (client.serverUrl id).path.render := by
    refine Url.path_render_of_render ?_ ?_ ?_ ?_ guard same <;> simp [serverUrl, endpoint]
  have alike : ∀ segment, other.written segment = client.written segment := by
    intro segment
    simp [written, endpoint]
  rw [path, otherPath, endpoint] at paths
  simp only [Url.Path.render, List.flatMap_append, List.append_cancel_left_eq, List.flatMap_cons,
    List.flatMap_nil, List.append_nil, List.cons_append, List.cons.injEq, true_and, alike] at paths
  obtain ⟨projects, rest⟩ := Url.append_slash_inj (Url.slash_not_mem_percentEncode _ _)
    (Url.slash_not_mem_percentEncode _ _) paths
  exact ⟨projects, by simpa using rest⟩

/-- The address of a server is the endpoint with four segments behind its own: the project and the
server read back from theirs, no other pair of them has an address with the same text, and a slash at
the end of the endpoint makes no difference. -/
theorem serverUrl_roundTrip {id : String}
    (notSlashes : client.endpoint.path ≠ .segments [[], []])
    (project : Ordinary client.credentials.projectId.toList) (server : Ordinary id.toList) :
    (∃ projectSegment serverSegment,
      (client.serverUrl id).path = .segments (client.endpoint.ownSegments ++
        [['v', '1'], projectSegment, "cloudservers".toList, serverSegment]) ∧
      percentDecode (encode projectSegment) = encode client.credentials.projectId.toList ∧
      percentDecode (encode serverSegment) = encode id.toList) ∧
    ((client.serverUrl id).scheme = client.endpoint.scheme ∧
      (client.serverUrl id).authority = client.endpoint.authority ∧
      (client.serverUrl id).query = client.endpoint.query ∧
      (client.serverUrl id).fragment = client.endpoint.fragment) ∧
    (∀ (other : Client) (otherId : String), other.endpoint = client.endpoint →
      Ordinary other.credentials.projectId.toList → Ordinary otherId.toList →
      (other.serverUrl otherId).render = (client.serverUrl id).render →
      other.credentials.projectId = client.credentials.projectId ∧ otherId = id) ∧
    (∀ front last, client.endpoint.path = .segments (front ++ [last]) → last ≠ [] →
      Client.serverUrl { client with
        endpoint := { client.endpoint with path := .segments (front ++ [last] ++ [[]]) }
        base := rfl } id = client.serverUrl id) := by
  have reversible := Url.reversible_segmentSet (isSpecial client.endpoint.scheme)
  refine ⟨⟨_, _, path_serverUrl notSlashes project server,
    Url.percentDecode_percentEncode reversible _, Url.percentDecode_percentEncode reversible _⟩,
    ⟨client.scheme_resourceUrl id, client.authority_resourceUrl id, client.query_resourceUrl id,
      client.fragment_resourceUrl id⟩, ?_, ?_⟩
  · intro other otherId endpoint otherProject otherServer same
    obtain ⟨projects, ids⟩ := written_inj_of_render endpoint notSlashes project server
      otherProject otherServer same
    exact ⟨String.toList_inj.mp (Url.percentEncode_injective reversible projects),
      String.toList_inj.mp (Url.percentEncode_injective reversible ids)⟩
  · intro front last path nonempty
    have stays : Url.popEmpty (front ++ [last]) = front ++ [last] := by
      simp [Url.popEmpty, nonempty]
    have popped : Url.popEmpty (front ++ [last] ++ [[]]) = front ++ [last] := by
      rw [Url.popEmpty, if_pos (by simp), List.dropLast_concat]
    simp only [serverUrl, resourceUrl, Url.extend, path, Url.appendSegments, stays, popped]

/-- A client of a gateway, with an escape in its project and a slash behind its endpoint. -/
def ofGateway : Client :=
  let endpoint := { (atRoot "").endpoint with
    path := .segments ["gateway".toList, []], query := some ['q'] }
  { atRoot "p/%2e" (.token "t") with endpoint, base := rfl }

/-- Slashes and escapes in a project and in an ID are no other project and no other ID. -/
theorem serverUrl_roundTrip_escapes :
    ofGateway.endpoint.path ≠ .segments [[], []] ∧
      Ordinary ofGateway.credentials.projectId.toList ∧ Ordinary "a/..".toList ∧
      (∃ projectSegment serverSegment,
        (ofGateway.serverUrl "a/..").path = .segments (ofGateway.endpoint.ownSegments ++
          [['v', '1'], projectSegment, "cloudservers".toList, serverSegment]) ∧
        percentDecode (encode projectSegment) = encode "p/%2e".toList ∧
        percentDecode (encode serverSegment) = encode "a/..".toList) ∧
      (ofGateway.serverUrl "a%2F..").render ≠ (ofGateway.serverUrl "a/..").render := by
  have notSlashes : ofGateway.endpoint.path ≠ .segments [[], []] := by decide
  have project : Ordinary ofGateway.credentials.projectId.toList := by decide
  have server : Ordinary "a/..".toList := by decide
  obtain ⟨segments, -, unique, -⟩ := serverUrl_roundTrip notSlashes project server
  refine ⟨notSlashes, project, server, segments, fun same => ?_⟩
  exact absurd (unique ofGateway "a%2F.." rfl project (by decide) same).2 (by decide)

end Client

end NodeLookup
