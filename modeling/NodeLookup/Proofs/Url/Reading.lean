import NodeLookup.Proofs.Url.Hosts
import Mathlib.Data.List.Basic
import Mathlib.Data.List.TakeWhile

/-!
# A text that is read as a host

What stands behind the scheme of a URL is cut at some characters, others are left out of it, and a
percent sign may start an escape. `parse_https` says that a text without any of these is read as one
host, with no user and no port, at the root.
-/

namespace NodeLookup.Url

/-- Whether a character behind a scheme is read as something else than a part of the host: it is left
out, starts an escape, or sets a user, a port or a path apart. -/
def breaksHost (char : Char) : Bool :=
  ['\t', '\n', '\r', '%', '@', ':', '/', '\\', '?', '#'].contains char

/-- What ends an authority breaks a host. -/
theorem breaksHost_of_endsAuthority {special : Bool} {char : Char}
    (ends : endsAuthority special char = true) : breaksHost char = true := by
  simp only [endsAuthority, Bool.or_eq_true, Bool.and_eq_true, List.contains_iff_mem, List.mem_cons,
    List.not_mem_nil, or_false, beq_iff_eq] at ends
  rcases ends with (rfl | rfl | rfl) | ⟨-, rfl⟩ <;> decide

/-- So does what is left out wherever it stands. -/
theorem breaksHost_of_isIgnored {char : Char} (ignored : isIgnored char = true) :
    breaksHost char = true := by
  simp only [isIgnored, Bool.or_eq_true, beq_iff_eq] at ignored
  rcases ignored with (rfl | rfl) | rfl <;> decide

/-- What breaks a host cannot occur in a name. -/
theorem isForbidden_of_breaksHost {char : Char} (breaks : breaksHost char = true) :
    isForbidden char = true := by
  have each : ['\t', '\n', '\r', '%', '@', ':', '/', '\\', '?', '#'].all isForbidden = true := by
    decide
  exact List.all_eq_true.mp each char (List.contains_iff_mem.mp breaks)

/-- A text holds nothing that breaks a host. -/
def Unbroken (text : List Char) : Prop := ∀ char ∈ text, breaksHost char = false

instance (text : List Char) : Decidable (Unbroken text) :=
  List.decidableBAll (fun char => breaksHost char = false) text

/-- Nothing in a text that can be a name breaks a host. -/
theorem Allowed.unbroken {text : List Char} (allowed : Allowed text) : Unbroken text := by
  intro char member
  apply Bool.eq_false_iff.mpr
  intro breaks
  exact Bool.false_ne_true ((allowed char member).symm.trans (isForbidden_of_breaksHost breaks))

/-- None of the characters that break hosts is in a text that they do not break. -/
theorem Unbroken.not_mem {text : List Char} {mark : Char} (unbroken : Unbroken text)
    (breaks : breaksHost mark = true) : mark ∉ text := by
  intro member
  exact Bool.false_ne_true ((unbroken mark member).symm.trans breaks)

/-- A text without a colon is all host. -/
theorem hostPart_of_no_colon {text : List Char} (noColon : ':' ∉ text) (inBrackets : Bool) :
    hostPart inBrackets text = (text, []) := by
  induction text generalizing inBrackets with
  | nil => rfl
  | cons char text ih =>
    rw [List.mem_cons, not_or] at noColon
    rw [hostPart, if_neg (fun colon => noColon.1 colon.1.symm), ih noColon.2]

/-- A text without an at sign names no user. -/
theorem splitUser_of_no_at {text : List Char} (noAt : '@' ∉ text) : splitUser text = (none, text) := by
  have dropped : text.reverse.dropWhile (· != '@') = [] := by
    apply List.dropWhile_eq_nil_iff.mpr
    intro char member
    apply bne_iff_ne.mpr
    rintro rfl
    exact noAt (List.mem_reverse.mp member)
  rw [splitUser, dropped]

/-- An authority that nothing breaks is a host and nothing else. -/
theorem authorityOf_of_unbroken {scheme text : List Char} (special : isSpecial scheme = true)
    (unbroken : Unbroken text) (nonempty : text ≠ []) (last : Bool) :
    authorityOf scheme text last = (hostOf text).map fun host => ({ host }, []) := by
  have notEmpty : text.isEmpty = false := List.isEmpty_eq_false_iff.mpr nonempty
  simp only [authorityOf, splitUser_of_no_at (unbroken.not_mem (by decide)),
    hostPart_of_no_colon (unbroken.not_mem (by decide)), special, notEmpty]
  cases hostOf text <;> rfl

/-- A text that nothing breaks goes on to its end as an authority. -/
theorem withAuthority_of_unbroken {scheme text : List Char} (special : isSpecial scheme = true)
    (unbroken : Unbroken text) (nonempty : text ≠ []) :
    withAuthority scheme text = (hostOf text).map fun host =>
      { scheme, authority := some { host }, path := .segments [[]] } := by
  have goesOn : ∀ char ∈ text, (!endsAuthority (isSpecial scheme) char) = true := by
    intro char member
    rw [Bool.not_eq_true']
    apply Bool.eq_false_iff.mpr
    intro ends
    exact unbroken.not_mem (breaksHost_of_endsAuthority ends) member
  have taken : (text.takeWhile fun char => !endsAuthority (isSpecial scheme) char) = text :=
    List.takeWhile_eq_self_iff.mpr goesOn
  have dropped : (text.dropWhile fun char => !endsAuthority (isSpecial scheme) char) = [] :=
    List.dropWhile_eq_nil_iff.mpr goesOn
  simp only [withAuthority, taken, dropped, authorityOf_of_unbroken special unbroken nonempty]
  cases hostOf text with
  | error flaw => rfl
  | ok host =>
    simp only [Except.map, bind, Except.bind, List.append_nil, withPath, special]
    rfl

/-- A text that starts and ends with visible characters, and in which nothing is left out, is read as it
is. -/
theorem cleaned_eq_self {text : List Char} (first : ∀ char ∈ text.head?, isMargin char = false)
    (last : ∀ char ∈ text.getLast?, isMargin char = false)
    (kept : ∀ char ∈ text, isIgnored char = false) : cleaned text = text := by
  have atStart : ∀ {text : List Char}, (∀ char ∈ text.head?, isMargin char = false) →
      text.dropWhile isMargin = text := by
    intro text visible
    cases text with
    | nil => rfl
    | cons char text => exact List.dropWhile_cons_of_neg (by simp [visible char rfl])
  rw [← List.head?_reverse] at last
  simp only [cleaned, atStart first, atStart last, List.reverse_reverse]
  apply List.filter_eq_self.mpr
  intro char member
  rw [kept char member]
  rfl

/-- A text behind the scheme that nothing breaks is a host and nothing else. -/
theorem parse_https {text : List Char} (unbroken : Unbroken text) (nonempty : text ≠ [])
    (last : ∀ char ∈ text.getLast?, isMargin char = false) :
    parse ("https://".toList ++ text) = (hostOf text).map fun host =>
      { scheme := "https".toList, authority := some { host }, path := .segments [[]] } := by
  have kept : ∀ char ∈ "https://".toList ++ text, isIgnored char = false := by
    have scheme : ("https://".toList.all fun char => !isIgnored char) = true := by decide
    intro char member
    rcases List.mem_append.mp member with inScheme | inText
    · simpa using List.all_eq_true.mp scheme char inScheme
    · apply Bool.eq_false_iff.mpr
      intro ignored
      exact unbroken.not_mem (breaksHost_of_isIgnored ignored) inText
  have clean : cleaned ("https://".toList ++ text) = "https://".toList ++ text := by
    have letter : isMargin 'h' = false := by decide
    refine cleaned_eq_self (by rintro char ⟨⟩; exact letter) ?_ kept
    rwa [List.getLast?_append_of_ne_nil _ nonempty]
  have split : splitScheme? ("https://".toList ++ text) =
      some ("https".toList, '/' :: '/' :: text) := by
    rfl
  have behind : ('/' :: '/' :: text).dropWhile (fun char => char == '/' || char == '\\') = text := by
    obtain ⟨first, rest, rfl⟩ := List.exists_cons_of_ne_nil nonempty
    have apart : ∀ mark, breaksHost mark = true → first ≠ mark := by
      rintro mark breaks rfl
      exact unbroken.not_mem breaks List.mem_cons_self
    simp [apart '/' (by decide), apart '\\' (by decide)]
  rw [parse, clean, split]
  dsimp only
  rw [if_neg (by decide), if_pos (by decide), behind]
  exact withAuthority_of_unbroken (by decide) unbroken nonempty

end NodeLookup.Url
