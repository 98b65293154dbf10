import NodeLookup.Proofs.Json.Recovery
import NodeLookup.Server.Reading
import NodeLookup.Server.Writing

/-!
# Reading back server records

What the writers of server records write, the readers of answers read back: each record by
`recovers_record`, address groups member by member, so that their order and repeated networks
survive. `decode_encode` says so of every server there can be, and of the servers in every answer
that decodes.
-/

namespace NodeLookup

open Json (Recovers Fills OpensItem recovers_of recovers_string recovers_string?)

/-! ## Addresses -/

/-- A written address is read back. -/
theorem Address.recovers_toValue (address : Address) :
    Recovers Address.record.read address.toValue.compact address := by
  have distinct : (Address.record.members.map (·.key)).Nodup := by decide
  have fills : Fills Address.record.members
      [("addr", .string address.addr), ("version", .ofString? address.version),
        ("OS-EXT-IPS:type", .string address.attachment),
        ("OS-EXT-IPS-MAC:mac_addr", .ofString? address.macAddress)]
      Address.record.blank address := by
    refine .cons (recovers_of _ _ _ (recovers_string address.addr)) ?_
    refine .cons (recovers_of _ _ _ (recovers_string? address.version)) ?_
    refine .cons (recovers_of _ _ _ (recovers_string address.attachment)) ?_
    refine .cons (recovers_of _ _ _ (recovers_string? address.macAddress)) ?_
    exact .nil
  exact Address.record.recovers_record distinct fills

/-- A written list of addresses is read back. -/
theorem Address.recovers_list (addresses : List Address) :
    Recovers (Json.listOf Address.record.read)
      (Json.Value.list (addresses.map Address.toValue)).compact addresses := by
  apply Json.recovers_list
  · rw [List.forall₂_map_left_iff, List.forall₂_same]
    exact fun address _ => address.recovers_toValue
  · simp only [List.mem_map, forall_exists_index, and_imp, forall_apply_eq_imp_iff₂]
    exact fun address _ => Json.opensItem_object _

/-- Written address groups are read back, in their order and with repeated networks. -/
theorem AddressGroup.recovers_toValue (groups : List AddressGroup) :
    Recovers AddressGroup.read (AddressGroup.toValue groups).compact groups := by
  intro rest
  let members : List (String × Json.Value) :=
    groups.map fun group => (group.network, .list (group.addresses.map Address.toValue))
  have recovers : List.Forall₂ (fun member (entry : String × List Address) =>
      member.1 = entry.1 ∧ Recovers (Json.listOf Address.record.read) member.2.compact entry.2)
      members (groups.map fun group => (group.network, group.addresses)) := by
    rw [List.forall₂_map_left_iff, List.forall₂_map_right_iff, List.forall₂_same]
    exact fun group _ => ⟨rfl, Address.recovers_list group.addresses⟩
  have whole := Json.entries_joined recovers true (Json.members_length_lt members rest) rest
  have same : (groups.map fun group => (group.network, group.addresses)).map
      (fun entry => AddressGroup.mk entry.1 entry.2) = groups := by
    rw [List.map_map]
    exact List.map_id groups
  have brace : Json.isBlank '\x7b' = false := by decide
  rw [AddressGroup.toValue, Json.compact_object_append]
  simp only [AddressGroup.read, Json.skipBlank_cons brace]
  rw [whole]
  simp only [bind, Except.bind, same]

/-! ## Servers -/

/-- A written flavor is read back. -/
theorem Flavor.recovers_toValue (flavor : Flavor) :
    Recovers Flavor.record.read flavor.toValue.compact flavor := by
  have distinct : (Flavor.record.members.map (·.key)).Nodup := by decide
  have fills : Fills Flavor.record.members
      [("id", .string flavor.id), ("name", .string flavor.name),
        ("vcpus", .ofString? flavor.vcpus), ("ram", .ofString? flavor.ram)]
      Flavor.record.blank flavor := by
    refine .cons (recovers_of _ _ _ (recovers_string flavor.id)) ?_
    refine .cons (recovers_of _ _ _ (recovers_string flavor.name)) ?_
    refine .cons (recovers_of _ _ _ (recovers_string? flavor.vcpus)) ?_
    refine .cons (recovers_of _ _ _ (recovers_string? flavor.ram)) ?_
    exact .nil
  exact Flavor.record.recovers_record distinct fills

/-- A flavor that may be absent is read back. -/
theorem Flavor.recovers_toValue? (flavor : Option Flavor) :
    Recovers (Json.optional Flavor.record.read)
      ((flavor.map Flavor.toValue).getD .null).compact flavor := by
  cases flavor with
  | none => exact Json.recovers_null Flavor.record.read
  | some flavor => exact Json.recovers_some flavor.recovers_toValue (by decide) (by decide)

namespace Server

/-- A written server is read back. -/
theorem recovers_toValue (server : Server) :
    Recovers Server.record.read server.toValue.compact server := by
  have distinct : (Server.record.members.map (·.key)).Nodup := by decide
  have fills : Fills Server.record.members
      [("id", .string server.id), ("name", .string server.name), ("status", .string server.status),
        ("addresses", AddressGroup.toValue server.addresses),
        ("flavor", (server.flavor.map Flavor.toValue).getD .null),
        ("OS-EXT-AZ:availability_zone", .ofString? server.zone),
        ("created", .ofString? server.created), ("updated", .ofString? server.updated)]
      Server.record.blank server := by
    refine .cons (recovers_of _ _ _ (recovers_string server.id)) ?_
    refine .cons (recovers_of _ _ _ (recovers_string server.name)) ?_
    refine .cons (recovers_of _ _ _ (recovers_string server.status)) ?_
    refine .cons (recovers_of _ _ _ (AddressGroup.recovers_toValue server.addresses)) ?_
    refine .cons (recovers_of _ _ _ (Flavor.recovers_toValue? server.flavor)) ?_
    refine .cons (recovers_of _ _ _ (recovers_string? server.zone)) ?_
    refine .cons (recovers_of _ _ _ (recovers_string? server.created)) ?_
    refine .cons (recovers_of _ _ _ (recovers_string? server.updated)) ?_
    exact .nil
  exact Server.record.recovers_record distinct fills

/-- Encoding a server and decoding the text yields the server. -/
theorem decode_encode (server : Server) : decode server.encode = .ok server :=
  Json.decode_of_recovers server.recovers_toValue

/-- A server is a fixed point of the round trip: its text decodes to it, and whatever that text
decodes to is encoded as the same text again. -/
structure RoundTrips (server : Server) : Prop where
  decoded : decode server.encode = .ok server
  encoded : (decode server.encode).map encode = .ok server.encode

/-- Every server round-trips. -/
theorem roundTrips (server : Server) : server.RoundTrips where
  decoded := server.decode_encode
  encoded := by rw [server.decode_encode, Except.map]

/-- Server records read back: whatever a server holds, its text decodes to it, and every server in
an answer that decodes, be it the answer to a question for one server or to a search, round-trips. -/
theorem readsBack :
    (∀ server : Server, decode server.encode = .ok server) ∧
      (∀ body server, decodeAnswer body = .ok server → server.RoundTrips) ∧
      (∀ body listing, Listing.decode body = .ok listing →
        ∀ server ∈ listing.servers, server.RoundTrips) := by
  refine ⟨decode_encode, ?_, ?_⟩
  · intro body server _
    exact server.roundTrips
  · intro body listing _ server _
    exact server.roundTrips

/-- An answer with an escape, absent members and a network that occurs twice. -/
def repeatedNetwork : String :=
  "\x7b\"server\":\x7b\"id\":\"a\\u0007\",\"addresses\":\x7b\"n\":[],\"n\":[\x7b\"addr\":\"1\"\x7d]\x7d\x7d\x7d"

/-- The answer decodes to a server with both occurrences of the network, which round-trips. -/
theorem readsBack_repeatedNetwork :
    decodeAnswer repeatedNetwork =
        .ok { id := "a\x07", addresses := [⟨"n", []⟩, ⟨"n", [{ addr := "1" }]⟩] } ∧
      RoundTrips { id := "a\x07", addresses := [⟨"n", []⟩, ⟨"n", [{ addr := "1" }]⟩] } := by
  have decodes : decodeAnswer repeatedNetwork =
      .ok { id := "a\x07", addresses := [⟨"n", []⟩, ⟨"n", [{ addr := "1" }]⟩] } := by decide
  exact ⟨decodes, readsBack.2.1 _ _ decodes⟩

end Server

end NodeLookup
