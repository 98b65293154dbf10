import NodeLookup.Proofs.Lookup.Questions

/-!
# Repeated prefixes of a provider ID

A provider ID may carry the prefix of its provider any number of times. `ProviderId.serverId_eq_iff` says
which server ID it holds: the one text behind copies of the prefix that does not start with another copy.
`Resolver.prefixed_agrees` adds that further copies make no difference to what is asked about a node and
to what comes of it, but that an ID which names no server is quoted as it was given.
-/

namespace NodeLookup

namespace ProviderId

/-! ## Copies of a text -/

/-- A text behind copies of another. -/
def behind (lead : List Char) : (count : Nat) → (text : List Char) → List Char
  | 0, text => text
  | count + 1, text => lead ++ behind lead count text

variable {lead text : List Char}

/-- Nothing but copies is removed. -/
theorem exists_behind_dropCopies (lead : List Char) (limit : Nat) (text : List Char) :
    ∃ count, text = behind lead count (dropCopies lead limit text) := by
  induction limit generalizing text with
  | zero => exact ⟨0, rfl⟩
  | succ limit inductionHypothesis =>
    rw [dropCopies]
    split
    · next leads =>
      obtain ⟨rest, rfl⟩ := List.isPrefixOf_iff_prefix.mp leads
      rw [List.drop_left]
      obtain ⟨count, same⟩ := inductionHypothesis rest
      exact ⟨count + 1, congrArg (lead ++ ·) same⟩
    · exact ⟨0, rfl⟩

/-- Every copy is removed, if as many may be as the text has characters. -/
theorem not_prefix_dropCopies (nonempty : lead ≠ []) {limit : Nat} (enough : text.length ≤ limit) :
    ¬lead <+: dropCopies lead limit text := by
  induction limit generalizing text with
  | zero =>
    rw [List.eq_nil_of_length_eq_zero (Nat.le_zero.mp enough), dropCopies, List.prefix_nil]
    exact nonempty
  | succ limit inductionHypothesis =>
    rw [dropCopies]
    split
    · next leads =>
      obtain ⟨rest, rfl⟩ := List.isPrefixOf_iff_prefix.mp leads
      have shorter : 0 < lead.length := List.length_pos_iff.mpr nonempty
      rw [List.length_append] at enough
      rw [List.drop_left]
      exact inductionHypothesis (by omega)
    · next leads => exact mt List.isPrefixOf_iff_prefix.mpr leads

/-- What stands behind all copies is determined, however many there are. -/
theorem behind_inj {first second : List Char} (firstBare : ¬lead <+: first)
    (secondBare : ¬lead <+: second) {count other : Nat}
    (same : behind lead count first = behind lead other second) : first = second := by
  induction count generalizing other with
  | zero =>
    cases other with
    | zero => exact same
    | succ other => exact absurd ⟨_, same.symm⟩ firstBare
  | succ count inductionHypothesis =>
    cases other with
    | zero => exact absurd ⟨_, same⟩ secondBare
    | succ other => exact inductionHypothesis (List.append_cancel_left same)

/-- What is left of an ID is what stands behind all copies of the prefix. -/
theorem strip_eq_iff {providerName providerId id : List Char} :
    strip providerName providerId = id ↔
      (∃ count, providerId = behind (prefixOf providerName) count id) ∧
        ¬prefixOf providerName <+: id := by
  have nonempty : prefixOf providerName ≠ [] := by simp [prefixOf, separator]
  have copies : ∃ count, providerId =
      behind (prefixOf providerName) count (strip providerName providerId) :=
    exists_behind_dropCopies ..
  have bare : ¬prefixOf providerName <+: strip providerName providerId :=
    not_prefix_dropCopies nonempty (Nat.le_refl _)
  constructor
  · rintro rfl
    exact ⟨copies, bare⟩
  · rintro ⟨⟨other, same⟩, otherBare⟩
    obtain ⟨count, stripped⟩ := copies
    exact behind_inj bare otherBare (stripped.symm.trans same)

/-! ## Prefixes of an ID -/

/-- A provider ID behind further copies of the provider's prefix. -/
def prefixed (providerName : String) : (count : Nat) → (providerId : String) → String
  | 0, providerId => providerId
  | count + 1, providerId => providerName ++ "://" ++ prefixed providerName count providerId

variable {providerName providerId : String}

/-- Copies behind copies are copies. -/
theorem prefixed_prefixed (providerName : String) (count more : Nat) (providerId : String) :
    prefixed providerName count (prefixed providerName more providerId) =
      prefixed providerName (count + more) providerId := by
  induction count with
  | zero => rw [Nat.zero_add, prefixed]
  | succ count inductionHypothesis => rw [Nat.succ_add, prefixed, prefixed, inductionHypothesis]

/-- The copies in front of an ID are those of its characters. -/
theorem toList_prefixed (providerName : String) (count : Nat) (providerId : String) :
    (prefixed providerName count providerId).toList =
      behind (prefixOf providerName.toList) count providerId.toList := by
  induction count with
  | zero => rfl
  | succ count inductionHypothesis =>
    rw [prefixed, String.toList_append, String.toList_append, inductionHypothesis]
    rfl

/-- An ID starts with the prefix exactly if it is the prefix with something behind it. -/
theorem prefixOf_prefix_iff :
    prefixOf providerName.toList <+: providerId.toList ↔
      ∃ rest, providerId = providerName ++ "://" ++ rest := by
  constructor
  · rintro ⟨rest, same⟩
    refine ⟨String.ofList rest, String.toList_inj.mp ?_⟩
    simp only [String.toList_append, String.toList_ofList]
    exact same.symm
  · rintro ⟨rest, rfl⟩
    exact ⟨rest.toList, by rw [String.toList_append, String.toList_append]; rfl⟩

/-- The server ID in a provider ID is the text behind copies of the prefix that does not start with
another copy. -/
theorem serverId_eq_iff {id : String} : serverId providerName providerId = id ↔
    (∃ count, providerId = prefixed providerName count id) ∧
      ∀ rest, id ≠ providerName ++ "://" ++ rest := by
  have copies : ∀ count, providerId.toList = behind (prefixOf providerName.toList) count id.toList ↔
      providerId = prefixed providerName count id := by
    intro count
    rw [← toList_prefixed, String.toList_inj]
  rw [serverId, ← String.toList_inj, String.toList_ofList, strip_eq_iff, prefixOf_prefix_iff, not_exists]
  simp only [copies, ne_eq]

/-- Further copies of the prefix do not change the server ID. -/
theorem serverId_prefixed (providerName : String) (count : Nat) (providerId : String) :
    serverId providerName (prefixed providerName count providerId) = serverId providerName providerId := by
  have isServerId : serverId providerName providerId = serverId providerName providerId := rfl
  obtain ⟨⟨more, copies⟩, bare⟩ := serverId_eq_iff.mp isServerId
  refine serverId_eq_iff.mpr ⟨⟨count + more, ?_⟩, bare⟩
  rw [← prefixed_prefixed, ← copies]

/-- An ID is its own server ID exactly if it does not start with the prefix. -/
theorem serverId_eq_self_iff : serverId providerName providerId = providerId ↔
    ∀ rest, providerId ≠ providerName ++ "://" ++ rest :=
  serverId_eq_iff.trans (and_iff_right ⟨0, rfl⟩)

/-- A server ID holds no further copies. -/
theorem serverId_serverId (providerName providerId : String) :
    serverId providerName (serverId providerName providerId) = serverId providerName providerId :=
  serverId_eq_self_iff.mpr (serverId_eq_iff.mp rfl).2

end ProviderId

namespace Resolver

open ProviderId (prefixed)

variable {α : Type} {resolver : Resolver}

/-- Two replies to a question about two provider IDs are the same in requests and outcome, but that IDs
which name no server are refused each by its own text. -/
inductive AgreeButQuote (first second : String) : Reply α → Reply α → Prop where
  | same (reply : Reply α) : AgreeButQuote first second reply reply
  | refused : AgreeButQuote first second (.silent (.error (.other (.invalidProviderId first))))
      (.silent (.error (.other (.invalidProviderId second))))

/-- Provider IDs of the same server lead to the same lookup, or are both refused. -/
theorem agreeButQuote_of_serverId {first second : String}
    (same : resolver.serverId first = resolver.serverId second)
    {conclude : Except LookupError Server → Except ContractError α} (passesOn : PassesOn conclude)
    (backend : Backend) :
    AgreeButQuote first second ((resolver.byProviderId first backend).map conclude)
      ((resolver.byProviderId second backend).map conclude) := by
  cases named : namesNoServer (resolver.serverId second) with
  | true =>
    have refused : ∀ providerId,
        Exchanged.map conclude (.silent (.error (.invalidProviderId providerId))) =
          .silent (.error (.other (.invalidProviderId providerId))) := by
      intro providerId
      exact congrArg Exchanged.silent (passesOn _ (by simp))
    rw [byProviderId_of_namesNoServer (same ▸ named), byProviderId_of_namesNoServer named, refused, refused]
    exact .refused
  | false =>
    rw [byProviderId_of_namesServer (same ▸ named), byProviderId_of_namesServer named, same]
    exact .same _

/-- The server ID in a provider ID is the one text behind copies of the provider's prefix that does not
start with another copy, whatever the provider is called. So removing the prefix twice is removing it
once, a further copy changes nothing, and an ID stays as it is exactly if it does not start with the
prefix. Each question about a provider ID makes the same requests and has the same outcome whatever
number of copies stands in front of the ID, but that an ID which names no server is refused by its own
text. -/
theorem prefixed_agrees (providerName providerId : String) :
    let serverId := ProviderId.serverId providerName
    (∀ id, serverId providerId = id ↔ (∃ count, providerId = prefixed providerName count id) ∧
      ∀ rest, id ≠ providerName ++ "://" ++ rest) ∧
    serverId (serverId providerId) = serverId providerId ∧
    serverId (providerName ++ "://" ++ providerId) = serverId providerId ∧
    (serverId providerId = providerId ↔ ∀ rest, providerId ≠ providerName ++ "://" ++ rest) ∧
    ∀ (client : Client) (count : Nat) (backend : Backend),
      let asked := instances ⟨client, providerName⟩ backend
      let longer := prefixed providerName count providerId
      AgreeButQuote providerId longer (asked.nodeAddressesByProviderId providerId)
        (asked.nodeAddressesByProviderId longer) ∧
      AgreeButQuote providerId longer (asked.instanceTypeByProviderId providerId)
        (asked.instanceTypeByProviderId longer) ∧
      AgreeButQuote providerId longer (asked.instanceExistsByProviderId providerId)
        (asked.instanceExistsByProviderId longer) ∧
      AgreeButQuote providerId longer (asked.instanceShutdownByProviderId providerId)
        (asked.instanceShutdownByProviderId longer) := by
  intro serverId
  refine ⟨fun id => ProviderId.serverId_eq_iff, ProviderId.serverId_serverId _ _,
    ProviderId.serverId_prefixed providerName 1 providerId, ProviderId.serverId_eq_self_iff, ?_⟩
  intro client count backend asked longer
  have same : Resolver.serverId ⟨client, providerName⟩ providerId =
      Resolver.serverId ⟨client, providerName⟩ longer :=
    (ProviderId.serverId_prefixed providerName count providerId).symm
  exact ⟨agreeButQuote_of_serverId same (passesOn_reply _) backend,
    agreeButQuote_of_serverId same (passesOn_reply _) backend,
    agreeButQuote_of_serverId same passesOn_existence backend,
    agreeButQuote_of_serverId same (passesOn_reply _) backend⟩

end Resolver

end NodeLookup
