import NodeLookup.Proofs.Lookup.Addresses

/-!
# The type and the state of a node, from the answer to the reply

What is told of a node's type is the ID of its server's flavor, and whether it is shut down is a matter of
its server's status. Both come from an answer that is decoded first, where a member may be left out, null,
empty, or written in a list. `typeAndState_told` reads both off the form of the answer, and keeps a server
without a flavor apart from one whose flavor has no ID.
-/

namespace NodeLookup

open Json

/-! ## Flavors -/

/-- The ID of a flavor is decided by its member. -/
theorem Flavor.decides_id : Flavor.record.Decides "id" 0 stringValue (·.id) where
  position := rfl
  puts := ⟨false, _, List.mem_cons_self, fun _ _ => rfl⟩
  keeps := by simp [Flavor.record, Member.keeps_of, judges_text, judges_text?]

/-- A flavor has no ID where its form holds none, and otherwise that of its form. -/
theorem Flavor.id_of_means {form : Form} {flavor : Flavor} (means : Flavor.record.Means form flavor) :
    (form.member? "id" 0 = none ∧ flavor.id = "") ∨
      form.member? "id" 0 = some (.string (some flavor.id)) :=
  Flavor.decides_id.of_means_text Flavor.lawful means

/-- A form of a flavor holds a text as its ID exactly if that is the ID of the flavor, unless it is empty. -/
theorem Flavor.member?_id_iff {form : Form} {flavor : Flavor} (means : Flavor.record.Means form flavor)
    {name : String} (nonempty : name ≠ "") :
    form.member? "id" 0 = some (.string (some name)) ↔ flavor.id = name := by
  rcases Flavor.id_of_means means with ⟨absent, empty⟩ | stated
  · simp [absent, empty, nonempty.symm]
  · simp [stated]

/-- A flavor has no ID exactly if its form holds none or an empty one. -/
theorem Flavor.id_eq_empty_iff {form : Form} {flavor : Flavor} (means : Flavor.record.Means form flavor) :
    flavor.id = "" ↔
      form.member? "id" 0 = none ∨ form.member? "id" 0 = some (.string (some "")) := by
  rcases Flavor.id_of_means means with ⟨absent, empty⟩ | stated
  · simp [absent, empty]
  · simp [stated]

/-! ## Servers -/

/-- The ID of a server is decided by its member. -/
theorem Server.decides_id : Server.record.Decides "id" 0 stringValue (·.id) where
  position := rfl
  puts := ⟨true, _, List.mem_cons_self, fun _ _ => rfl⟩
  keeps := by
    have groups := AddressGroup.judges_read.judgesForms
    simp [Server.record, Member.keeps_of, judges_text, judges_text?, groups, Flavor.judges_optional]

/-- So is the status. -/
theorem Server.decides_status : Server.record.Decides "status" 2 stringValue (·.status) where
  position := rfl
  puts := ⟨false, _, .tail _ (.tail _ List.mem_cons_self), fun _ _ => rfl⟩
  keeps := by
    have groups := AddressGroup.judges_read.judgesForms
    simp [Server.record, Member.keeps_of, judges_text, judges_text?, groups, Flavor.judges_optional]

/-- So is the flavor. -/
theorem Server.decides_flavor :
    Server.record.Decides "flavor" 4 (Json.optional Flavor.record.read) (·.flavor) where
  position := rfl
  puts := ⟨false, _, .tail _ (.tail _ (.tail _ (.tail _ List.mem_cons_self))), fun _ _ => rfl⟩
  keeps := by
    have groups := AddressGroup.judges_read.judgesForms
    simp [Server.record, Member.keeps_of, judges_text, judges_text?, groups]

/-- A form of a server says nothing of a flavor: it leaves the member out, or has a null there. -/
def Json.Form.NoFlavor (record : Form) : Prop :=
  record.member? "flavor" 4 = none ∨ record.member? "flavor" 4 = some .null

variable {form : Form} {server : Server}

/-- A server has no flavor where its form says nothing of one, and otherwise the one that stands there. -/
theorem Server.flavor_of_means (means : Server.record.Means form server) :
    (form.NoFlavor ∧ server.flavor = none) ∨ ∃ inner flavor, form.member? "flavor" 4 = some inner ∧
      inner ≠ .null ∧ Flavor.record.Means inner flavor ∧ server.flavor = some flavor := by
  obtain ⟨absent, blank⟩ | ⟨inner, stated, reads⟩ :=
    Server.decides_flavor.of_means Server.lawful Flavor.judges_optional means
  · exact .inl ⟨.inl absent, blank⟩
  · have judges := judges_optional (Record.judges_means Flavor.lawful)
    obtain ⟨rfl, isNone⟩ | ⟨notNull, flavor, meansFlavor, isSome⟩ := judges.reads_iff.mp reads
    · exact .inl ⟨.inr stated, isNone⟩
    · exact .inr ⟨inner, flavor, stated, notNull, meansFlavor, isSome⟩

/-- A server is shut down exactly if its form holds the one status for it. -/
theorem Server.isShutDown_iff (means : Server.record.Means form server) :
    server.isShutDown = true ↔ form.member? "status" 2 = some (.string (some "SHUTOFF")) := by
  have shutOff : server.isShutDown = true ↔ server.status = "SHUTOFF" := beq_iff_eq
  rw [shutOff]
  obtain ⟨absent, blank⟩ | stated := Server.decides_status.of_means_text Server.lawful means
  · have empty : server.status = "" := blank
    simp [absent, empty]
  · simp [stated]

/-- The ID of a server stands in its form. -/
theorem Server.member?_id (means : Server.record.Means form server) :
    form.member? "id" 0 = some (.string (some server.id)) := by
  have present : form.member? "id" 0 ≠ none :=
    means.member?_ne_none Server.lawful List.mem_cons_self rfl rfl
  exact (Server.decides_id.of_means_text Server.lawful means).resolve_left fun absent => present absent.1

/-! ## Replies about the type -/

/-- What is replied about the type of a node by the form of its server: the type, or which part of the form
keeps it from being told. -/
inductive Json.Form.TypeReply (record : Form) (serverId : String) : Except ContractError String → Prop where
  | named {flavor : Form} {name : String} (given : record.member? "flavor" 4 = some flavor)
      (isId : flavor.member? "id" 0 = some (.string (some name))) (nonempty : name ≠ "") :
      TypeReply record serverId (.ok name)
  | missing (noFlavor : record.NoFlavor) :
      TypeReply record serverId (.error (.other (.missingFlavor serverId)))
  | unnamed {flavor : Form} (given : record.member? "flavor" 4 = some flavor) (notNull : flavor ≠ .null)
      (noId : flavor.member? "id" 0 = none ∨ flavor.member? "id" 0 = some (.string (some ""))) :
      TypeReply record serverId (.error (.other (.emptyFlavorId serverId)))

/-- A flavor that is given is one, unless it is null. -/
theorem Json.Form.NoFlavor.eq_null {record flavor : Form} (noFlavor : record.NoFlavor)
    (given : record.member? "flavor" 4 = some flavor) : flavor = .null := by
  rcases noFlavor with absent | null
  · cases given.symm.trans absent
  · exact Option.some.inj (given.symm.trans null)

/-- The reply about the type of a server is one that its form calls for. -/
theorem Server.typeReply_instanceType (means : Server.record.Means form server) :
    form.TypeReply server.id (server.instanceType.mapError ContractError.ofLookup) := by
  rw [Server.instanceType]
  obtain ⟨noFlavor, isNone⟩ | ⟨inner, flavor, given, notNull, meansFlavor, isSome⟩ :=
    Server.flavor_of_means means
  · rw [isNone]
    exact .missing noFlavor
  · rw [isSome]
    dsimp only
    split
    · next empty => exact .unnamed given notNull ((Flavor.id_eq_empty_iff meansFlavor).mp empty)
    · next nonempty => exact .named given ((Flavor.member?_id_iff meansFlavor nonempty).mpr rfl) nonempty

/-- The form calls for no other. -/
theorem Server.instanceType_of_typeReply (means : Server.record.Means form server)
    {outcome : Except ContractError String} (replies : form.TypeReply server.id outcome) :
    server.instanceType.mapError ContractError.ofLookup = outcome := by
  obtain ⟨noFlavor, isNone⟩ | ⟨inner, flavor, stated, isFlavor, meansFlavor, isSome⟩ :=
    Server.flavor_of_means means
  · rw [Server.instanceType, isNone]
    cases replies with
    | named given isId =>
      cases noFlavor.eq_null given
      cases isId
    | missing => rfl
    | unnamed given notNull => exact absurd (noFlavor.eq_null given) notNull
  · rw [Server.instanceType, isSome]
    dsimp only
    cases replies with
    | @named _ name given isId nonempty =>
      cases given.symm.trans stated
      obtain rfl : flavor.id = name := (Flavor.member?_id_iff meansFlavor nonempty).mp isId
      rw [if_neg nonempty]
      rfl
    | missing noFlavor => exact absurd (noFlavor.eq_null stated) isFlavor
    | unnamed given notNull noId =>
      cases given.symm.trans stated
      rw [if_pos ((Flavor.id_eq_empty_iff meansFlavor).mpr noId)]
      rfl

/-! ## The replies to a cluster -/

namespace Resolver

variable {resolver : Resolver} {providerId : String} {backend : Backend}

/-- The type and the state that are told for a granted answer that can be read are those that the form of
its server calls for, be that an object or a list, and failures name the ID that stands there. The node is
shut down exactly if the one status for it stands there, and running with any other and without one. -/
theorem typeAndState_told {response : Response} {server : Server}
    (answered : resolver.Answered providerId backend response)
    (granted : 200 ≤ response.status ∧ response.status ≤ 299)
    (decoded : Server.decodeAnswer response.text = .ok server) :
    let typed := ((resolver.instances backend).instanceTypeByProviderId providerId).result
    let stopped := ((resolver.instances backend).instanceShutdownByProviderId providerId).result
    (∃ form, IsText response.text.toList form) ∧
    ∀ form, IsText response.text.toList form → ∃ record id,
      form.member? "server" 0 = some record ∧ record.member? "id" 0 = some (.string (some id)) ∧
      (∀ outcome, typed = outcome ↔ record.TypeReply id outcome) ∧
      (stopped = .ok true ↔ record.member? "status" 2 = some (.string (some "SHUTOFF"))) ∧
      (stopped = .ok false ↔ record.member? "status" 2 ≠ some (.string (some "SHUTOFF"))) := by
  intro typed stopped
  have judges := Record.judges_means Server.answer_lawful
  have found := byProviderId_of_decoded answered granted decoded
  have isType : typed = server.instanceType.mapError ContractError.ofLookup := reply_of_found found
  have isState : stopped = .ok server.isShutDown := reply_of_found found
  refine ⟨judges.exists_isText decoded, fun form isText => ?_⟩
  obtain ⟨record, stated, means⟩ := Server.exists_record_of_answer ((judges.decode_iff isText).mp decoded)
  refine ⟨record, server.id, stated, Server.member?_id means, fun outcome => ?_, ?_, ?_⟩
  · rw [isType]
    constructor
    · rintro rfl
      exact Server.typeReply_instanceType means
    · exact Server.instanceType_of_typeReply means
  · rw [isState, ← Server.isShutDown_iff means, Except.ok.injEq]
  · rw [isState, ne_eq, ← Server.isShutDown_iff means, Except.ok.injEq, Bool.not_eq_true]

/-- An answer in which the flavor is written as a list, and the status with an escape. -/
def stoppedServer : String :=
  "\x7b\"server\":\x7b\"id\":\"a\",\"status\":\"SHUT\\u004fFF\",\"flavor\":[\"s3\"]\x7d\x7d"

/-- The type is the first item of the list, and the escape makes no difference to the state. -/
theorem typeAndState_told_list :
    let asked := atRoot.instances fun _ => .answered (.granting stoppedServer)
    (asked.instanceTypeByProviderId "huaweicloud://a").result = .ok "s3" ∧
      (asked.instanceShutdownByProviderId "huaweicloud://a").result = .ok true ∧
      ∃ form record flavor, IsText stoppedServer.toList form ∧ form.member? "server" 0 = some record ∧
        record.member? "flavor" 4 = some flavor ∧ flavor.member? "id" 0 = some (.string (some "s3")) ∧
        record.member? "status" 2 = some (.string (some "SHUTOFF")) := by
  intro asked
  have text : (Response.granting stoppedServer).text = stoppedServer :=
    Response.text_granting (by decide +kernel)
  have answered : atRoot.Answered "huaweicloud://a" (fun _ => .answered (.granting stoppedServer))
      (.granting stoppedServer) := ⟨by decide, by decide, rfl⟩
  have decoded : Server.decodeAnswer (Response.granting stoppedServer).text =
      .ok { id := "a", status := "SHUTOFF", flavor := some { id := "s3" } } := by
    rw [text]
    decide +kernel
  have typed : (asked.instanceTypeByProviderId "huaweicloud://a").result = .ok "s3" :=
    reply_of_found (byProviderId_of_decoded answered Response.status_granting decoded)
  have stopped : (asked.instanceShutdownByProviderId "huaweicloud://a").result = .ok true :=
    reply_of_found (byProviderId_of_decoded answered Response.status_granting decoded)
  obtain ⟨⟨form, isText⟩, told⟩ := typeAndState_told answered Response.status_granting decoded
  obtain ⟨record, id, stated, -, type, state, -⟩ := told form isText
  rw [text] at isText
  obtain ⟨given, isId, -⟩ := (type _).mp typed
  exact ⟨typed, stopped, form, record, _, isText, stated, given, isId, state.mp stopped⟩

end Resolver

end NodeLookup
