import NodeLookup.Proofs.Client.Scope
import NodeLookup.Proofs.Lookup.Containment

/-!
# Which provider IDs lead to the listing

The listing of servers stands among the servers, under a word in the place of a server ID. Nothing
keeps that word from being an ID: `listingPath_iff` says that a lookup asks at the path of the listing
exactly for the IDs that show the word once the ignored characters are left out. The one after it is
such a lookup.
-/

namespace NodeLookup

namespace Url

variable (special : Bool) {segments : List (List Char)} {first second : List Char}

/-- No path is the same with a segment appended that is not empty. -/
theorem ne_appendBase_append (nonempty : second ≠ []) : segments ≠ appendBase segments ++ [second] := by
  intro same
  by_cases root : segments = [[]]
  · subst root
    exact nonempty (by simpa [appendBase] using same.symm)
  · rw [appendBase, if_neg root] at same
    have longer := congrArg List.length same
    simp at longer

/-- A segment makes the same path as an ordinary one exactly if the ordinary one is what is visible of
it. -/
theorem appendSegment_eq_ordinary_iff (ordinary : Ordinary second) :
    appendSegment special segments first = appendSegment special segments second ↔
      visible first = second := by
  have nonempty : percentEncode (segmentSet special) second ≠ [] := by
    rw [ne_eq, percentEncode_segment_eq_nil_iff]
    exact ordinary.nonempty
  -- Dots that act on the way leave an empty segment, which an ordinary one never does.
  have notEmpty : ∀ front : List (List Char),
      front ++ [[]] ≠ appendBase segments ++ [percentEncode (segmentSet special) second] := by
    intro front same
    have lasts := (List.append_inj' same rfl).2
    exact nonempty (by simpa using lasts.symm)
  rw [appendSegment_of_ordinary special segments ordinary]
  by_cases dots : first = ['.'] ∨ first = ['.', '.']
  · rw [appendSegment, if_pos dots]
    refine iff_of_false (ne_appendBase_append nonempty) ?_
    rcases dots with rfl | rfl
    · exact ordinary.notDot.symm
    · exact ordinary.notDots.symm
  rw [not_or] at dots
  by_cases dot : visible first = ['.']
  · rw [appendSegment_of_visible_dot special segments dots.1 dot, dot]
    exact iff_of_false (notEmpty _) ordinary.notDot.symm
  by_cases twoDots : visible first = ['.', '.']
  · rw [appendSegment_of_visible_dots special segments dots.2 twoDots, twoDots]
    exact iff_of_false (notEmpty _) ordinary.notDots.symm
  rw [appendSegment_of_visible special segments dot twoDots, List.append_cancel_left_eq,
    List.singleton_inj, writtenSegment_eq]
  exact (percentEncode_injective (reversible_segmentSet special)).eq_iff

end Url

namespace Client

open Url (Ordinary visible)

variable {client : Client}

/-- A resource has the path of an ordinary one exactly if it shows the same segment, whatever the
endpoint and the project are. -/
theorem path_resourceUrl_eq_iff {resource other : String} (ordinary : Ordinary other.toList) :
    (client.resourceUrl resource).path = (client.resourceUrl other).path ↔
      visible resource.toList = other.toList := by
  match path : client.endpoint.path with
  | .plain text =>
    have base := client.base
    simp [Url.isBase, path] at base
  | .segments segments =>
    simp only [resourceUrl, Url.extend, path, Url.appendSegments, List.foldl_cons, List.foldl_nil,
      Url.Path.segments.injEq]
    exact Url.appendSegment_eq_ordinary_iff _ ordinary

end Client

namespace Resolver

open Url (visible)

/-- The URL of a provider ID has the path of the listing exactly if the ID shows the word of the listing
once the ignored characters are left out, and then the ID is looked up. Whatever is asked for any other
ID is asked at another path than any listing. -/
theorem listingPath_iff (resolver : Resolver) (providerId name : String) :
    ((resolver.client.serverUrl (resolver.serverId providerId)).path =
        (resolver.client.listingUrl name).path ↔
      visible (resolver.serverId providerId).toList = "detail".toList) ∧
    (visible (resolver.serverId providerId).toList = "detail".toList →
      resolver.serverId providerId ∉ ["", ".", ".."]) ∧
    ∀ backend other,
      ∀ request ∈ (resolver.byProviderId providerId backend).requests,
      ∀ listing ∈ (resolver.client.listServers name other).requests,
        (request.url.path = listing.url.path ↔
          visible (resolver.serverId providerId).toList = "detail".toList) := by
  have same : (resolver.client.serverUrl (resolver.serverId providerId)).path =
        (resolver.client.listingUrl name).path ↔
      visible (resolver.serverId providerId).toList = "detail".toList :=
    Client.path_resourceUrl_eq_iff Client.ordinary_detail
  refine ⟨same, fun shows refused => ?_, fun backend other request asked listing listed => ?_⟩
  · simp only [List.mem_cons, List.not_mem_nil, or_false] at refused
    rcases refused with empty | dot | dots
    · rw [empty] at shows
      exact absurd shows (by decide)
    · rw [dot] at shows
      exact absurd shows (by decide)
    · rw [dots] at shows
      exact absurd shows (by decide)
  · rw [Client.listServers_eq] at listed
    rw [url_of_mem_requests asked, Client.requests_get listed]
    exact same

/-- An ID that only holds the word leads elsewhere, and one with a tab in the word leads to the
listing. -/
theorem listingPath_iff_tab :
    (atRoot.client.serverUrl (atRoot.serverId "huaweicloud://details")).path ≠
        (atRoot.client.listingUrl "node-1").path ∧
      (atRoot.client.serverUrl (atRoot.serverId "huaweicloud://de\ttail")).path =
        (atRoot.client.listingUrl "node-1").path := by
  constructor
  · exact mt (listingPath_iff atRoot _ _).1.mp (by decide)
  · exact (listingPath_iff atRoot _ _).1.mpr (by decide)

/-- The word of the listing is not refused for an ID, and the request for it asks for the path of the
listing. -/
theorem detail_reaches_listing :
    Client.connect { endpoint := "http://h" } ⟨"p", .anonymous⟩ = .ok atRoot.client ∧
      (atRoot.byProviderId "huaweicloud://detail" fun _ => .unanswered).result ≠
        .error (.invalidProviderId "huaweicloud://detail") ∧
      (atRoot.byProviderId "huaweicloud://detail" fun _ => .unanswered).requests.map (·.url.path) =
        [.segments [['v', '1'], ['p'], "cloudservers".toList, "detail".toList]] ∧
      (atRoot.client.listServers "node-1" fun _ => .unanswered).requests.map (·.url.path) =
        [.segments [['v', '1'], ['p'], "cloudservers".toList, "detail".toList]] := by
  decide

end Resolver

end NodeLookup
