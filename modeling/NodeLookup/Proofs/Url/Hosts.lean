import NodeLookup.Proofs.Url.PercentEncoding
import NodeLookup.Url.Parse

/-!
# Which names hosts have

A host is a name in lower case unless it spells an address. A name never holds a character that stands
for something else in a URL, whatever its text held: `allowed_of_hostOf` says so for a host on its own,
and `allowed_of_parse` for the host that is found in the text of a whole URL.
-/

namespace NodeLookup.Url

open Text (Ascii isDigit)

/-! ## Names -/

/-- A text holds nothing that cannot occur in a name. -/
def Allowed (text : List Char) : Prop := ∀ char ∈ text, isForbidden char = false

instance (text : List Char) : Decidable (Allowed text) :=
  List.decidableBAll (fun char => isForbidden char = false) text

/-- Lower case changes nothing but capital letters of ASCII. -/
theorem lowerChar_cases (char : Char) :
    lowerChar char = char ∨
      ∃ number, 0x41 ≤ number ∧ number < 0x5B ∧ char = Char.ofNat number ∧
        lowerChar char = Char.ofNat (number + 32) := by
  by_cases capital : 'A' ≤ char ∧ char ≤ 'Z'
  · right
    have high : char.toNat ≤ 0x5A := capital.2
    refine ⟨char.toNat, capital.1, by omega, (Char.ofNat_toNat char).symm, ?_⟩
    rw [lowerChar, if_pos capital]
  · exact .inl (if_neg capital)

/-- Lower case makes no difference to whether a character can occur in a name. -/
theorem isForbidden_lowerChar (char : Char) : isForbidden (lowerChar char) = isForbidden char := by
  have capitals : ∀ number < 0x5B, 0x41 ≤ number →
      isForbidden (Char.ofNat (number + 32)) = isForbidden (Char.ofNat number) := by decide
  obtain same | ⟨number, low, high, isCapital, lowered⟩ := lowerChar_cases char
  · rw [same]
  · rw [lowered, isCapital, capitals number high low]

/-- A character in lower case stays as it is. -/
theorem lowerChar_lowerChar (char : Char) : lowerChar (lowerChar char) = lowerChar char := by
  have capitals : ∀ number < 0x5B, 0x41 ≤ number →
      lowerChar (Char.ofNat (number + 32)) = Char.ofNat (number + 32) := by decide
  obtain same | ⟨number, low, high, -, lowered⟩ := lowerChar_cases char
  · rw [same, same]
  · rw [lowered, capitals number high low]

/-- Whether a text can be a name does not hang on its case. -/
theorem allowed_map_lowerChar_iff {text : List Char} :
    Allowed (text.map lowerChar) ↔ Allowed text := by
  simp [Allowed, isForbidden_lowerChar]

/-- Texts that differ in their case alone can be names together. -/
theorem Allowed.of_map_lowerChar_eq {first second : List Char} (allowed : Allowed first)
    (same : first.map lowerChar = second.map lowerChar) : Allowed second := by
  rw [← allowed_map_lowerChar_iff] at allowed ⊢
  rwa [← same]

/-- A name that is read can be one. -/
theorem allowed_of_nameOf {text name : List Char} (read : nameOf text = .ok name) :
    Allowed name := by
  rw [nameOf] at read
  split at read
  · cases read
  · next decoded _ =>
    split at read
    · cases read
    · next clean =>
      cases read
      rw [allowed_map_lowerChar_iff]
      intro char member
      apply Bool.eq_false_iff.mpr
      intro forbidden
      refine clean (List.any_eq_true.mpr ⟨char, member, ?_⟩)
      rw [forbidden, Bool.true_or]

/-- A text of ASCII without a percent sign is refused as a name for what is forbidden in it, and read
in lower case otherwise. -/
theorem nameOf_of_ascii {text : List Char} (ascii : Ascii text) (noPercent : '%' ∉ text) :
    nameOf text = if Allowed text then .ok (text.map lowerChar) else .error .invalidName := by
  have refused : (text.any fun char => isForbidden char || 0x7F < char.toNat) = true ↔
      ¬Allowed text := by
    simp only [List.any_eq_true, Bool.or_eq_true, decide_eq_true_eq, Allowed, not_forall,
      Bool.not_eq_false, exists_prop]
    refine exists_congr fun char => and_congr_right fun member => or_iff_left ?_
    have small := ascii char member
    omega
  rw [nameOf, percentDecode_encode ascii noPercent, Text.decode?_encode]
  by_cases allowed : Allowed text
  · rw [if_pos allowed]
    exact if_neg (mt refused.mp (not_not_intro allowed))
  · rw [if_neg allowed]
    exact if_pos (refused.mpr allowed)

/-! ## Hosts -/

/-- A host is a name unless it spells an address. -/
def hostOfName (name : List Char) : Except Flaw Host :=
  if name.isEmpty then .error .emptyHost
  else if endsInNumber name then (ipv4Of name).map .ipv4
  else .ok (.name name)

/-- A text that does not start with a bracket is a host for the name that it spells. -/
theorem hostOf_eq_bind {text : List Char} (noBracket : text.head? ≠ some '[') :
    hostOf text = (nameOf text).bind hostOfName := by
  unfold hostOf
  split
  · next rest => exact absurd rfl noBracket
  · rfl

/-- The name of a host is the one that its text spells, and can be one. -/
theorem allowed_of_hostOf {text name : List Char} (read : hostOf text = .ok (.name name)) :
    Allowed name := by
  by_cases bracket : text.head? = some '['
  · obtain ⟨rest, rfl⟩ := List.head?_eq_some_iff.mp bracket
    rw [hostOf, bracketed] at read
    split at read
    · cases groups : ipv6Of rest.dropLast <;> rw [groups] at read <;> cases read
    · cases read
  · rw [hostOf_eq_bind bracket] at read
    cases spelled : nameOf text with
    | error flaw =>
      rw [spelled] at read
      cases read
    | ok other =>
      rw [spelled, Except.bind, hostOfName] at read
      split at read
      · cases read
      split at read
      · cases address : ipv4Of other <;> rw [address] at read <;> cases read
      · cases read
        exact allowed_of_nameOf spelled

/-- Whether a name is an address hangs on the word behind its last dot. -/
theorem endsInNumber_append {front word : List Char} (whole : '.' ∉ word) (nonempty : word ≠ []) :
    endsInNumber (front ++ '.' :: word) = (word.all isDigit || (ipv4Number? word).isSome) := by
  have parts : dotParts (front ++ '.' :: word) = front.splitOn '.' ++ [word] := by
    rw [dotParts, List.splitOn_append_cons_self, List.splitOn_eq_singleton whole]
  have kept : addressParts (front ++ '.' :: word) = front.splitOn '.' ++ [word] := by
    rw [addressParts, parts, List.getLast?_concat, if_neg (by simpa using nonempty)]
  have notEmpty : word.isEmpty = false := List.isEmpty_eq_false_iff.mpr nonempty
  rw [endsInNumber, kept, List.getLast?_concat]
  simp [notEmpty]

/-! ## Authorities -/

/-- The host of an authority that is read is one, if the scheme has rules of its own. -/
theorem exists_hostOf_of_authorityOf {scheme text left : List Char} {last : Bool}
    {authority : Authority} (special : isSpecial scheme = true)
    (read : authorityOf scheme text last = .ok (authority, left)) :
    ∃ hostText, hostOf hostText = .ok authority.host := by
  simp only [authorityOf, special, if_true] at read
  split at read
  · cases read
  split at read
  · cases read
  cases isHost : hostOf (hostPart false (splitUser text).2).1 with
  | error flaw =>
    rw [isHost] at read
    cases read
  | ok host =>
    simp only [isHost, bind, Except.bind] at read
    split at read
    · cases read
    split at read
    · cases read
    split at read
    · cases read
    · cases read
      exact ⟨_, isHost⟩

/-- So is the host of a URL with an authority. -/
theorem exists_hostOf_of_withAuthority {scheme text : List Char} {url : Url} {authority : Authority}
    (special : isSpecial scheme = true) (read : withAuthority scheme text = .ok url)
    (asks : url.authority = some authority) : ∃ hostText, hostOf hostText = .ok authority.host := by
  simp only [withAuthority, bind, Except.bind] at read
  split at read
  · cases read
  · next parts isRead =>
    cases read
    cases asks
    exact exists_hostOf_of_authorityOf special isRead

/-- A URL keeps the scheme in front of its authority. -/
theorem scheme_of_withAuthority {scheme text : List Char} {url : Url}
    (read : withAuthority scheme text = .ok url) : url.scheme = scheme := by
  simp only [withAuthority, bind, Except.bind] at read
  split at read
  · cases read
  · cases read
    rfl

/-- The host of a file is one, or is not named. -/
theorem host_of_fileUrl {scheme text : List Char} {url : Url} {authority : Authority}
    (read : fileUrl scheme text = .ok url) (asks : url.authority = some authority) :
    authority.host = .name [] ∨ ∃ hostText, hostOf hostText = .ok authority.host := by
  unfold fileUrl at read
  -- A host is read between two slashes and a path, unless a drive stands there.
  split at read
  · dsimp only at read
    split at read
    · split at read
      · cases read
        cases asks
        exact .inl rfl
      split at read
      · cases read
        cases asks
        exact .inl rfl
      simp only [bind, Except.bind] at read
      split at read
      · cases read
      · next host isHost =>
        cases read
        cases asks
        dsimp only
        split
        · exact .inl rfl
        · exact .inr ⟨_, isHost⟩
    · cases read
      cases asks
      exact .inl rfl
  · cases read
    cases asks
    exact .inl rfl

/-- A name that the host of a URL is can be one, if the scheme has rules of its own. -/
theorem allowed_of_parse {text name : List Char} {url : Url} {authority : Authority}
    (parsed : parse text = .ok url) (special : isSpecial url.scheme = true)
    (asks : url.authority = some authority) (named : authority.host = .name name) :
    Allowed name := by
  unfold parse at parsed
  split at parsed
  · cases parsed
  · next scheme rest _ =>
    -- Files, other schemes with rules of their own, and schemes without.
    split at parsed
    · rcases host_of_fileUrl parsed asks with isHost | ⟨hostText, isHost⟩
      · cases named.symm.trans isHost
        exact List.forall_mem_nil _
      · exact allowed_of_hostOf (named ▸ isHost)
    split at parsed
    · next hasRules =>
      obtain ⟨hostText, isHost⟩ := exists_hostOf_of_withAuthority hasRules parsed asks
      exact allowed_of_hostOf (named ▸ isHost)
    · next noRules =>
      refine absurd ?_ noRules
      split at parsed
      · rw [← scheme_of_withAuthority parsed]
        exact special
      · cases parsed
        exact special
      · cases parsed
        exact special

end NodeLookup.Url
