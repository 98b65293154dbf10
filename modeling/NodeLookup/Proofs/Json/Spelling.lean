import Mathlib.Tactic.Common
import NodeLookup.Json.Lexeme

/-!
# What a string is

A string may be spelled in many ways: a character by itself, by a letter behind a backslash, by its
number, or by the two halves of a surrogate pair. `string_eq_ok_iff` says that the reader accepts the
spellings and no other text, up to the quote that closes the string.
-/

namespace NodeLookup.Json

open Text (hexValue? isLeading isTrailing pairChar)

/-- A step of reading that goes on with another one succeeds exactly if both do. -/
theorem bind_eq_ok_iff {α β : Type} {step : Except Fault α} {next : α → Except Fault β} {result : β} :
    (step >>= next) = .ok result ↔ ∃ value, step = .ok value ∧ next value = .ok result := by
  cases step with
  | error fault => simp [bind, Except.bind]
  | ok value => simp [bind, Except.bind]

/-- Four hexadecimal digits that spell a number. -/
def SpellsUnit (digits : List Char) (unit : Nat) : Prop :=
  ∃ first second third fourth, digits = [first, second, third, fourth] ∧
    hexValue4? first second third fourth = some unit

/-- How a character may be spelled in a string. -/
inductive SpellsChar : List Char → Char → Prop where
  | plain {char : Char} (visible : isControl char = false) (notQuote : char ≠ '"')
      (notBackslash : char ≠ '\\') : SpellsChar [char] char
  | letter {letter char : Char} (stands : letterEscape? letter = some char) :
      SpellsChar ['\\', letter] char
  | unit {digits : List Char} {unit : Nat} (spelled : SpellsUnit digits unit)
      (notLeading : isLeading unit = false) (notTrailing : isTrailing unit = false) :
      SpellsChar ('\\' :: 'u' :: digits) (Char.ofNat unit)
  | pair {first second : List Char} {leading trailing : Nat} (firstSpelled : SpellsUnit first leading)
      (secondSpelled : SpellsUnit second trailing) (isLeading : isLeading leading = true)
      (isTrailing : isTrailing trailing = true) :
      SpellsChar ('\\' :: 'u' :: (first ++ '\\' :: 'u' :: second)) (pairChar leading trailing)

/-- A text that spells the characters of a string, one after the other. -/
inductive SpellsChars : List Char → List Char → Prop where
  | nil : SpellsChars [] []
  | cons {written text : List Char} {char : Char} {chars : List Char}
      (head : SpellsChar written char) (tail : SpellsChars text chars) :
      SpellsChars (written ++ text) (char :: chars)

/-- A hexadecimal digit is a single byte. -/
theorem utf8Size_of_hexValue? {char : Char} {value : Nat} (digit : hexValue? char = some value) :
    char.utf8Size = 1 := by
  have bound : ∀ last : Char, last.val ≤ 0x7F → char ≤ last → char.val ≤ 0x7F :=
    fun last ascii below => UInt32.le_trans (Char.le_def.mp below) ascii
  rw [Char.utf8Size_eq_one_iff]
  unfold hexValue? at digit
  split at digit
  · next range => exact bound '9' (by decide) range.2
  split at digit
  · next range => exact bound 'f' (by decide) range.2
  split at digit
  · next range => exact bound 'F' (by decide) range.2
  · cases digit

/-- Each of four hexadecimal digits that spell a number is a single byte. -/
theorem byteLength_of_hexValue4? {first second third fourth : Char} {unit : Nat}
    (spelled : hexValue4? first second third fourth = some unit) :
    byteLength [first, second, third, fourth] = 4 := by
  unfold hexValue4? at spelled
  split at spelled
  · next a b c d =>
    simp [byteLength, utf8Size_of_hexValue? a, utf8Size_of_hexValue? b, utf8Size_of_hexValue? c,
      utf8Size_of_hexValue? d]
  · cases spelled

/-- The four digits of an escape are read exactly if they spell a number. -/
theorem hexEscape_eq_ok_iff {text rest : List Char} {unit : Nat} :
    hexEscape text = .ok (unit, rest) ↔ ∃ digits, SpellsUnit digits unit ∧ text = digits ++ rest := by
  constructor
  · intro accepted
    unfold hexEscape at accepted
    split at accepted
    · cases accepted
    split at accepted
    · next first second third fourth more _ =>
      split at accepted
      · next value spelled =>
        cases accepted
        exact ⟨_, ⟨first, second, third, fourth, rfl, spelled⟩, rfl⟩
      · cases accepted
    · cases accepted
  · rintro ⟨_, ⟨first, second, third, fourth, rfl, spelled⟩, rfl⟩
    simp [hexEscape, byteLength_of_hexValue4? spelled, spelled]

/-- An escape by number is read exactly if it spells a character. -/
theorem numberEscape_eq_ok_iff {text rest : List Char} {char : Char} :
    numberEscape text = .ok (char, rest) ↔
      ∃ written, SpellsChar ('\\' :: 'u' :: written) char ∧ text = written ++ rest := by
  simp only [numberEscape, bind_eq_ok_iff, Prod.exists, hexEscape_eq_ok_iff]
  constructor
  · rintro ⟨unit, after, ⟨digits, spelled, rfl⟩, accepted⟩
    split at accepted
    · cases accepted
    next notTrailing =>
      split at accepted
      · next leading =>
        split at accepted
        · cases accepted
        · cases accepted
        · next more =>
          simp only [bind_eq_ok_iff, Prod.exists, hexEscape_eq_ok_iff] at accepted
          obtain ⟨second, after, ⟨secondDigits, secondSpelled, rfl⟩, accepted⟩ := accepted
          split at accepted
          · next trailing =>
            simp only [Except.ok.injEq, Prod.mk.injEq] at accepted
            obtain ⟨rfl, rfl⟩ := accepted
            exact ⟨_, .pair spelled secondSpelled leading trailing, by simp⟩
          · cases accepted
        · cases accepted
        · cases accepted
      · next notLeading =>
        cases accepted
        exact ⟨digits, .unit spelled (by simpa using notLeading) (by simpa using notTrailing), rfl⟩
  · rintro ⟨written, spells, rfl⟩
    cases spells with
    | letter stands => cases stands
    | @unit digits unit spelled notLeading notTrailing =>
      refine ⟨unit, rest, ⟨written, spelled, rfl⟩, ?_⟩
      simp [notLeading, notTrailing]
    | @pair first second leading trailing firstSpelled secondSpelled isLeading isTrailing =>
      refine ⟨leading, '\\' :: 'u' :: (second ++ rest), ⟨first, firstSpelled, by simp⟩, ?_⟩
      have notTrailing : Text.isTrailing leading = false := by
        simp only [Text.isLeading, Text.isTrailing, Bool.and_eq_true, decide_eq_true_eq,
          Bool.and_eq_false_iff, decide_eq_false_iff_not] at isLeading ⊢
        omega
      have readSecond : hexEscape (second ++ rest) = .ok (trailing, rest) :=
        hexEscape_eq_ok_iff.mpr ⟨second, secondSpelled, rfl⟩
      simp [bind_eq_ok_iff, readSecond, isLeading, isTrailing, notTrailing]

/-- An escape is read exactly if it spells a character. -/
theorem escape_eq_ok_iff {text rest : List Char} {char : Char} :
    escape text = .ok (char, rest) ↔
      ∃ written, SpellsChar ('\\' :: written) char ∧ text = written ++ rest := by
  constructor
  · intro accepted
    unfold escape at accepted
    split at accepted
    · cases accepted
    · obtain ⟨written, spells, rfl⟩ := numberEscape_eq_ok_iff.mp accepted
      exact ⟨_, spells, rfl⟩
    · next letter more _ =>
      split at accepted
      · next value stands =>
        cases accepted
        exact ⟨[letter], .letter stands, rfl⟩
      · cases accepted
  · rintro ⟨written, spells, rfl⟩
    cases spells with
    | plain _ _ notBackslash => exact absurd rfl notBackslash
    | @letter letter _ stands =>
      have notNumber : letter ≠ 'u' := by
        rintro rfl
        cases stands
      simp [escape, stands]
    | unit spelled notLeading notTrailing =>
      exact numberEscape_eq_ok_iff.mpr ⟨_, .unit spelled notLeading notTrailing, rfl⟩
    | pair first second leading trailing =>
      exact numberEscape_eq_ok_iff.mpr ⟨_, .pair first second leading trailing, rfl⟩

/-- A character that is spelled is read in front of the characters after it. -/
theorem stringChars_of_spellsChar {limit : Nat} {written text rest chars : List Char} {char : Char}
    (spells : SpellsChar written char) (more : stringChars limit text = .ok (chars, rest)) :
    stringChars (limit + 1) (written ++ text) = .ok (char :: chars, rest) := by
  have escaped : ∀ {tail}, SpellsChar ('\\' :: tail) char →
      stringChars (limit + 1) ('\\' :: tail ++ text) = .ok (char :: chars, rest) := by
    intro tail spells
    have read : escape (tail ++ text) = .ok (char, text) :=
      escape_eq_ok_iff.mpr ⟨tail, spells, rfl⟩
    simp [stringChars, read, more, bind, Except.bind]
  cases spells with
  | plain visible notQuote notBackslash =>
    simp [stringChars, visible, more, bind, Except.bind]
  | letter stands => exact escaped (.letter stands)
  | unit spelled notLeading notTrailing => exact escaped (.unit spelled notLeading notTrailing)
  | pair first second leading trailing => exact escaped (.pair first second leading trailing)

/-- Characters that are spelled are read up to the closing quote. -/
theorem stringChars_of_spells {written chars : List Char} (spells : SpellsChars written chars)
    {limit : Nat} (enough : chars.length < limit) (rest : List Char) :
    stringChars limit (written ++ '"' :: rest) = .ok (chars, rest) := by
  induction spells generalizing limit with
  | nil =>
    obtain ⟨limit, rfl⟩ := Nat.exists_eq_add_one_of_ne_zero (Nat.ne_zero_of_lt enough)
    rfl
  | cons head tail inductionHypothesis =>
    obtain ⟨limit, rfl⟩ := Nat.exists_eq_add_one_of_ne_zero (Nat.ne_zero_of_lt enough)
    rw [List.append_assoc]
    exact stringChars_of_spellsChar head (inductionHypothesis (Nat.lt_of_succ_lt_succ enough))

/-- The characters of a string that are read are spelled up to a quote. -/
theorem spells_of_stringChars {limit : Nat} {text rest chars : List Char}
    (accepted : stringChars limit text = .ok (chars, rest)) :
    ∃ written, SpellsChars written chars ∧ text = written ++ '"' :: rest := by
  induction limit generalizing text chars with
  | zero => cases accepted
  | succ limit inductionHypothesis =>
    match text with
    | [] => cases accepted
    | char :: after =>
      by_cases quote : char = '"'
      · subst quote
        cases accepted
        exact ⟨[], .nil, rfl⟩
      by_cases backslash : char = '\\'
      · subst backslash
        simp only [stringChars, bind_eq_ok_iff, Prod.exists] at accepted
        obtain ⟨char, middle, escaped, more, last, read, same⟩ := accepted
        cases same
        obtain ⟨head, spells, rfl⟩ := escape_eq_ok_iff.mp escaped
        obtain ⟨tail, tailSpells, rfl⟩ := inductionHypothesis read
        exact ⟨_, .cons spells tailSpells, by simp⟩
      · simp only [stringChars] at accepted
        split at accepted
        · cases accepted
        next visible =>
          simp only [bind_eq_ok_iff, Prod.exists] at accepted
          obtain ⟨more, last, read, same⟩ := accepted
          cases same
          obtain ⟨tail, tailSpells, rfl⟩ := inductionHypothesis read
          exact ⟨_, .cons (.plain (by simpa using visible) quote backslash) tailSpells, rfl⟩

/-- A spelled character takes at least one character. -/
theorem SpellsChar.length_pos {written : List Char} {char : Char} (spells : SpellsChar written char) :
    0 < written.length := by
  cases spells <;> simp

/-- A string is no shorter spelled than read. -/
theorem SpellsChars.length_le {written chars : List Char} (spells : SpellsChars written chars) :
    chars.length ≤ written.length := by
  induction spells with
  | nil => exact Nat.le_refl 0
  | cons head tail inductionHypothesis =>
    have one := head.length_pos
    rw [List.length_append, List.length_cons]
    omega

/-- A string is read exactly if its characters are spelled up to a quote. -/
theorem string_eq_ok_iff {text rest : List Char} {value : String} :
    string text = .ok (value, rest) ↔
      ∃ written, SpellsChars written value.toList ∧ text = written ++ '"' :: rest := by
  simp only [string, bind_eq_ok_iff, Prod.exists]
  constructor
  · rintro ⟨chars, after, read, accepted⟩
    cases accepted
    simpa using spells_of_stringChars read
  · rintro ⟨written, spells, rfl⟩
    have enough : value.toList.length < (written ++ '"' :: rest).length + 1 := by
      have short := spells.length_le
      rw [List.length_append]
      omega
    exact ⟨value.toList, rest, stringChars_of_spells spells enough rest, by simp⟩

end NodeLookup.Json
