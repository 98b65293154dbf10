import NodeLookup.Proofs.Client.Scope
import NodeLookup.Proofs.Lookup.Construction
import NodeLookup.Proofs.Settings.Merging
import NodeLookup.Proofs.Url.Reading

/-!
# Where a region leads

Without an endpoint, requests start from the public endpoint of a region. That is a text around the
region, which is read as a URL only afterwards, so a region can say where its own host ends. By
`parse_regionEndpoint` a region that holds nothing of that kind is one part of a host or is refused.
`keepTo_iff` says for which regions no request leads elsewhere, and `region_names_other_host` is a region
that takes the token to a host of its choice.
-/

namespace NodeLookup

namespace Url

/-- A segment that hides two dots takes the one before it away. -/
def HidesDots (segment : List Char) : Prop :=
  segment ≠ ['.', '.'] ∧ visible segment = ['.', '.']

end Url

namespace Client

open Url (HidesDots appendBase appendSegment isSpecial visible)

variable {client : Client}

/-- A request that a client makes, for a server or for a search. Whether it is sent is up to its scheme
and its headers. -/
inductive Makes (client : Client) : Request → Prop where
  | server (id : String) : Makes client (client.request (client.serverUrl id))
  | listing (name : String) : Makes client (client.request (client.listingUrl name))

/-- The version stays in front of a project that hides no dots. -/
theorem exists_projectSegments_eq (shown : ¬HidesDots client.credentials.projectId.toList) :
    ∃ rest, client.projectSegments = client.endpoint.ownSegments ++ ['v', '1'] :: rest := by
  by_cases dots : client.credentials.projectId.toList ∈ [['.'], ['.', '.']]
  · exact ⟨[], projectSegments_of_dots dots⟩
  · have notDots : client.credentials.projectId.toList ≠ ['.', '.'] := by
      intro same
      exact dots (by simp [same])
    have kept : visible client.credentials.projectId.toList ≠ ['.', '.'] :=
      fun hidden => shown ⟨notDots, hidden⟩
    obtain ⟨segment, made, -⟩ := projectSegments_of_visible dots kept
    exact ⟨[segment], made⟩

section Root

variable (root : client.endpoint.path = .segments [[]])

include root

/-- An endpoint at the root of its host has no segments of its own. -/
theorem ownSegments_of_root : client.endpoint.ownSegments = [] := by
  rw [Url.ownSegments, root]
  rfl

/-- Its path is not two slashes. -/
theorem notSlashes_of_root : client.endpoint.path ≠ .segments [[], []] := by
  rw [root]
  decide

/-- Below the root of a host, the path of every resource starts with the version, and goes on, unless
the project hides dots. -/
theorem version_prefix_path (shown : ¬HidesDots client.credentials.projectId.toList)
    (resource : String) : "/v1/".toList <+: (client.resourceUrl resource).path.render := by
  obtain ⟨rest, project⟩ := exists_projectSegments_eq shown
  rw [ownSegments_of_root root, List.nil_append] at project
  obtain ⟨next, more, path⟩ := Url.exists_appendSegment_eq (isSpecial client.endpoint.scheme)
    (['v', '1'] :: rest) (by decide : "cloudservers".toList ≠ []) resource.toList
  rw [path_resourceUrl_eq (notSlashes_of_root root), project, path]
  cases rest with
  | nil => exact ⟨next ++ more.flatMap fun segment => '/' :: segment, by simp [Url.Path.render]⟩
  | cons segment rest =>
    exact ⟨segment ++ (rest ++ next :: more).flatMap fun segment => '/' :: segment,
      by simp [Url.Path.render]⟩

/-- A project that hides dots leaves no version in the path of a search. -/
theorem not_version_prefix_path (hidden : HidesDots client.credentials.projectId.toList) :
    ¬"/v1/".toList <+: (client.resourceUrl "detail").path.render := by
  rw [path_resourceUrl_of_ordinary (notSlashes_of_root root) ordinary_detail,
    projectSegments_of_hidden_dots hidden.1 hidden.2, ownSegments_of_root root]
  rintro ⟨behind, same⟩
  simp [Url.Path.render, appendBase] at same

end Root

end Client

namespace Settings

open Text (Ascii)
open Url (Allowed HidesDots Unbroken endsInNumber hostOf isMargin lowerChar)

variable {region : String}

/-- The host of the public endpoint of a region. -/
def regionHost (region : String) : List Char :=
  "ecs.".toList ++ region.toList ++ ".myhuaweicloud.com".toList

/-- The public endpoint of a region: its host, over a secure connection, and nothing else. -/
def publicEndpoint (region : String) : Url where
  scheme := "https".toList
  authority := some { host := .name ((regionHost region).map lowerChar) }
  path := .segments [[]]

/-- The text of the public endpoint of a region is that of its host behind the scheme. -/
theorem toList_regionEndpoint (region : String) :
    (regionEndpoint region).toList = "https://".toList ++ regionHost region := by
  have scheme : "https://ecs.".toList = "https://".toList ++ "ecs.".toList := by decide
  simp only [regionEndpoint, regionHost, String.toList_append, scheme, List.append_assoc]

/-- The host of a region as it is said. -/
theorem toList_host (region : String) :
    ("ecs." ++ region ++ ".myhuaweicloud.com").toList = regionHost region := by
  simp only [regionHost, String.toList_append]

/-- What the host of a region holds, the region holds, or the texts around it. -/
theorem forall_mem_regionHost_iff {holds : Char → Prop} :
    (∀ char ∈ regionHost region, holds char) ↔
      (∀ char ∈ "ecs.".toList ++ ".myhuaweicloud.com".toList, holds char) ∧
        ∀ char ∈ region.toList, holds char := by
  simp only [regionHost, List.mem_append, or_imp, forall_and]
  tauto

/-- The host of a region can be a name exactly if the region can. -/
theorem allowed_regionHost_iff : Allowed (regionHost region) ↔ Allowed region.toList := by
  have around : Allowed ("ecs.".toList ++ ".myhuaweicloud.com".toList) := by decide
  exact forall_mem_regionHost_iff.trans (and_iff_right around)

/-- Nothing breaks the host of a region if nothing breaks the region. -/
theorem unbroken_regionHost (unbroken : Unbroken region.toList) : Unbroken (regionHost region) := by
  have around : Unbroken ("ecs.".toList ++ ".myhuaweicloud.com".toList) := by decide
  exact forall_mem_regionHost_iff.mpr ⟨around, unbroken⟩

/-- The host of a region ends in a word, so that it is no address. -/
theorem endsInNumber_regionHost (region : String) :
    endsInNumber ((regionHost region).map lowerChar) = false := by
  have behind : ".myhuaweicloud.com".toList.map lowerChar =
      ".myhuaweicloud".toList ++ '.' :: "com".toList := by decide
  rw [regionHost, List.map_append, behind, ← List.append_assoc,
    Url.endsInNumber_append (by decide) (by decide)]
  decide

/-- What is read for the host of a region of ASCII in which nothing breaks a host. -/
theorem hostOf_regionHost (ascii : Ascii region.toList) (unbroken : Unbroken region.toList) :
    hostOf (regionHost region) =
      if Allowed region.toList then .ok (.name ((regionHost region).map lowerChar))
      else .error .invalidName := by
  have noBracket : (regionHost region).head? ≠ some '[' := by rintro ⟨⟩
  have around : Ascii ("ecs.".toList ++ ".myhuaweicloud.com".toList) := by decide
  have inAscii : Ascii (regionHost region) := forall_mem_regionHost_iff.mpr ⟨around, ascii⟩
  rw [Url.hostOf_eq_bind noBracket,
    Url.nameOf_of_ascii inAscii ((unbroken_regionHost unbroken).not_mem (by decide))]
  by_cases allowed : Allowed region.toList
  · have nonempty : ((regionHost region).map lowerChar).isEmpty = false := rfl
    rw [if_pos allowed, if_pos (allowed_regionHost_iff.mpr allowed), Except.bind, Url.hostOfName,
      nonempty, endsInNumber_regionHost]
    rfl
  · rw [if_neg allowed, if_neg (mt allowed_regionHost_iff.mp allowed)]
    rfl

/-- The public endpoint of such a region is read as it is meant, or refused for its name. -/
theorem parse_regionEndpoint (ascii : Ascii region.toList) (unbroken : Unbroken region.toList) :
    Url.parse (regionEndpoint region).toList =
      if Allowed region.toList then .ok (publicEndpoint region) else .error .invalidName := by
  have last : ∀ char ∈ (regionHost region).getLast?, isMargin char = false := by
    rw [regionHost, List.getLast?_append_of_ne_nil _ (by decide)]
    rintro char ⟨⟩
    decide
  rw [toList_regionEndpoint, Url.parse_https (unbroken_regionHost unbroken) (by rintro ⟨⟩) last,
    hostOf_regionHost ascii unbroken]
  split <;> rfl

end Settings

/-- A URL is at the public endpoint of a region: over a secure connection, for no user and at no port of
its own, at the host of the region in whatever case, and below the version. -/
structure Url.AtRegion (region : String) (url : Url) : Prop where
  secure : url.scheme = "https".toList
  host : ∃ name, url.authority = some { host := .name name } ∧
    name.map lowerChar = ("ecs." ++ region ++ ".myhuaweicloud.com").toList.map lowerChar
  version : "/v1/".toList <+: url.path.render

namespace Client

open Settings (publicEndpoint regionHost)
open Url (Allowed HidesDots)

variable {client : Client} {request : Request} {region : String}

/-- Every request that a client makes is for a resource below its endpoint. -/
theorem Makes.exists_resource (makes : client.Makes request) :
    ∃ resource, request.url.scheme = (client.resourceUrl resource).scheme ∧
      request.url.authority = (client.resourceUrl resource).authority ∧
      request.url.path = (client.resourceUrl resource).path := by
  cases makes with
  | server id => exact ⟨id, rfl, rfl, rfl⟩
  | listing name => exact ⟨"detail", rfl, rfl, rfl⟩

/-- The requests below the public endpoint of a region stay there if the project hides no dots. -/
theorem Makes.atRegion (makes : client.Makes request)
    (endpoint : client.endpoint = publicEndpoint region)
    (shown : ¬HidesDots client.credentials.projectId.toList) : request.url.AtRegion region := by
  obtain ⟨resource, scheme, authority, path⟩ := makes.exists_resource
  have root : client.endpoint.path = .segments [[]] := by rw [endpoint]; rfl
  refine ⟨?_, ⟨(regionHost region).map Url.lowerChar, ?_, ?_⟩, ?_⟩
  · rw [scheme, scheme_resourceUrl, endpoint]
    rfl
  · rw [authority, authority_resourceUrl, endpoint]
    rfl
  · rw [List.map_map, Settings.toList_host]
    exact List.map_congr_left fun char _ => Url.lowerChar_lowerChar char
  · rw [path]
    exact version_prefix_path root shown resource

/-- A region of whose endpoint one request is made can be part of a name. -/
theorem Makes.allowed_of_atRegion (makes : client.Makes request) {text : List Char}
    (parsed : Url.parse text = .ok client.endpoint) (stays : request.url.AtRegion region) :
    Allowed region.toList := by
  obtain ⟨resource, scheme, authority, -⟩ := makes.exists_resource
  obtain ⟨secure, ⟨name, isHost, same⟩, -⟩ := stays
  rw [authority, authority_resourceUrl] at isHost
  rw [scheme, scheme_resourceUrl] at secure
  have named : Allowed name :=
    Url.allowed_of_parse parsed (by rw [secure]; decide) isHost rfl
  rw [Settings.toList_host] at same
  exact Settings.allowed_regionHost_iff.mp (named.of_map_lowerChar_eq same)

end Client

namespace Settings

open Text (Ascii)
open Url (Allowed HidesDots Unbroken)

variable {merged : PartialSettings} {settings : Settings} {region : String}

/-- Settings keep to a region: no resolver is made of them, or one of which every request is for the
public endpoint of the region. -/
def KeepTo (settings : Settings) (region : String) : Prop :=
  (∃ error, Resolver.ofSettings settings = .error error) ∨
    ∃ resolver, Resolver.ofSettings settings = .ok resolver ∧
      ∀ request, resolver.client.Makes request → request.url.AtRegion region

/-- Without an endpoint, settings have the public one of their region. -/
theorem endpoint_of_region (complete : ofMerged merged = .ok settings)
    (noEndpoint : nonempty? merged.endpoint = none) (given : nonempty? merged.region = some region) :
    settings.endpoint = regionEndpoint region := by
  have locates := PartialSettings.locates_iff.mp (ofMerged_eq_ok_iff.mp complete).endpoint
  rw [noEndpoint, given] at locates
  exact (Option.some.inj locates).symm

/-- Settings that have no endpoint but that of a region of ASCII keep to it exactly if no resolver is made
of them, or if the region can be part of a name and their project hides no dots. If nothing breaks a
region that cannot be part of a name, no resolver is made for that reason. If one is made for such a
region all the same, not one of its requests is for the endpoint of the region. -/
theorem keepTo_iff (complete : ofMerged merged = .ok settings)
    (noEndpoint : nonempty? merged.endpoint = none) (given : nonempty? merged.region = some region)
    (ascii : Ascii region.toList) :
    (settings.KeepTo region ↔
      (∃ error, Resolver.ofSettings settings = .error error) ∨
        Allowed region.toList ∧ ¬HidesDots settings.projectId.toList) ∧
    (Unbroken region.toList → ¬Allowed region.toList →
      Resolver.ofSettings settings = .error (.invalidUrl .invalidName)) ∧
    (∀ resolver request, Resolver.ofSettings settings = .ok resolver →
      resolver.client.Makes request → request.url.AtRegion region → Allowed region.toList) := by
  have endpoint := endpoint_of_region complete noEndpoint given
  have named : settings.projectId ≠ "" :=
    (nonempty?_eq_some_iff.mp (ofMerged_eq_ok_iff.mp complete).project).2
  have parsed : Allowed region.toList →
      Url.parse settings.endpoint.toList = .ok (publicEndpoint region) := by
    intro allowed
    rw [endpoint, parse_regionEndpoint ascii allowed.unbroken, if_pos allowed]
  have only : ∀ resolver request, Resolver.ofSettings settings = .ok resolver →
      resolver.client.Makes request → request.url.AtRegion region → Allowed region.toList := by
    intro resolver request made makes atRegion
    exact makes.allowed_of_atRegion (Resolver.ofSettings_eq_ok_iff.mp made).parsed atRegion
  refine ⟨⟨?_, ?_⟩, ?_, only⟩
  · rintro (failed | ⟨resolver, made, keeps⟩)
    · exact .inl failed
    · right
      have search := keeps _ (.listing "")
      have allowed := only resolver _ made (.listing "") search
      refine ⟨allowed, fun hidden => ?_⟩
      have describes := Resolver.ofSettings_eq_ok_iff.mp made
      have root : resolver.client.endpoint.path = .segments [[]] := by
        rw [Except.ok.inj (describes.parsed.symm.trans (parsed allowed))]
        rfl
      have project : resolver.client.credentials.projectId = settings.projectId := by
        rw [describes.credentials]
      exact Client.not_version_prefix_path root (project ▸ hidden) search.version
  · rintro (failed | ⟨allowed, shown⟩)
    · exact .inl failed
    · right
      refine ⟨_, Resolver.ofSettings_of_base named (parsed allowed) rfl, fun request makes => ?_⟩
      exact makes.atRegion rfl shown
  · intro unbroken notAllowed
    apply Resolver.ofSettings_of_flaw named
    rw [endpoint, parse_regionEndpoint ascii unbroken, if_neg notAllowed]

/-- Settings with a token for a region. -/
def ofRegion (region : String) : Settings where
  providerName := "huaweicloud"
  endpoint := regionEndpoint region
  region := some region
  projectId := "p"
  authToken := some "t"
  requestTimeout := 30

/-- A region in capital letters is kept to. -/
theorem keepTo_iff_capitals :
    ofMerged { region := some "EU-West-101", projectId := some "p", authToken := some "t" } =
        .ok (ofRegion "EU-West-101") ∧
      nonempty? none = none ∧ nonempty? (some "EU-West-101") = some "EU-West-101" ∧
      Ascii "EU-West-101".toList ∧ Unbroken "EU-West-101".toList ∧ Allowed "EU-West-101".toList ∧
      (ofRegion "EU-West-101").KeepTo "EU-West-101" := by
  have complete : ofMerged
      { region := some "EU-West-101", projectId := some "p", authToken := some "t" } =
        .ok (ofRegion "EU-West-101") := by decide
  have given : nonempty? (some "EU-West-101") = some "EU-West-101" := by decide
  have ascii : Ascii "EU-West-101".toList := by decide
  have allowed : Allowed "EU-West-101".toList := by decide
  have shown : ¬HidesDots (ofRegion "EU-West-101").projectId.toList := by
    rintro ⟨-, hidden⟩
    exact absurd hidden (by decide)
  refine ⟨complete, rfl, given, ascii, allowed.unbroken, allowed, ?_⟩
  exact (keepTo_iff complete rfl given ascii).1.mpr (.inr ⟨allowed, shown⟩)

/-- The resolver of a region in which a user ends, and then a host. -/
def elsewhere : Resolver :=
  let endpoint : Url := {
    scheme := "https".toList
    authority := some { user := "ecs.x".toList, host := .name "ecs.example.com".toList }
    path := .segments [".myhuaweicloud.com".toList] }
  ⟨{ Client.atRoot "p" (.token "t") with endpoint, base := rfl }, "huaweicloud"⟩

/-- A region with an at sign and a slash is accepted, and its requests take the token to the host between
these. -/
theorem region_names_other_host :
    ofMerged { region := some "x@ecs.example.com/", projectId := some "p", authToken := some "t" } =
        .ok (ofRegion "x@ecs.example.com/") ∧
      nonempty? none = none ∧ nonempty? (some "x@ecs.example.com/") = some "x@ecs.example.com/" ∧
      Ascii "x@ecs.example.com/".toList ∧
      Resolver.ofSettings (ofRegion "x@ecs.example.com/") = .ok elsewhere ∧
      String.ofList (elsewhere.client.serverUrl "abc").render =
        "https://ecs.x@ecs.example.com/.myhuaweicloud.com/v1/p/cloudservers/abc" ∧
      (elsewhere.client.request (elsewhere.client.serverUrl "abc")).header? "x-auth-token" = some "t" ∧
      ¬(ofRegion "x@ecs.example.com/").KeepTo "x@ecs.example.com/" := by
  have parsed : Url.parse (regionEndpoint "x@ecs.example.com/").toList =
      .ok elsewhere.client.endpoint := by decide
  have made : Resolver.ofSettings (ofRegion "x@ecs.example.com/") = .ok elsewhere :=
    Resolver.ofSettings_of_base (by decide) parsed rfl
  refine ⟨by decide, rfl, by decide, by decide, made, by decide, by decide, ?_⟩
  rintro (⟨error, failed⟩ | ⟨resolver, isMade, keeps⟩)
  · cases failed.symm.trans made
  · cases isMade.symm.trans made
    have allowed := (Client.Makes.listing "").allowed_of_atRegion parsed (keeps _ (.listing ""))
    exact absurd allowed (by decide)

end Settings

end NodeLookup
