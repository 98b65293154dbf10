import NodeLookup.Proofs.Json.Form

/-!
# What is skipped

The value of an unknown member is passed over by a machine with a stack of open brackets.
`skipValue_eq_ok` and `exists_of_skipValue` say that it passes over the texts that write a form, each as
a whole, and over nothing else: a written part takes the machine from one stage to another in a number
of steps that its length bounds, and a machine that comes to its end has passed over written parts on
the way.
-/

namespace NodeLookup.Json

open Text (isDigit)

/-! ## Strings -/

/-- A glyph is passed over in one step. -/
theorem skipString_glyph {written : List Char} (glyph : WritesGlyph written) (limit : Nat)
    (text : List Char) : skipString (limit + 1) (written ++ text) = skipString limit text := by
  cases glyph with
  | @plain char visible notQuote notBackslash =>
    rw [List.singleton_append, skipString]
    · simp [visible]
    · exact notQuote
    · intro backslash
      exact absurd backslash notBackslash
    · intro _ backslash
      exact absurd backslash notBackslash
    · intro _ _ backslash
      exact absurd backslash notBackslash
  | @letter letter char stands =>
    have notNumber : letter ≠ 'u' := by
      rintro rfl
      cases stands
    rw [List.cons_append, List.singleton_append, skipString]
    · simp [stands]
    · exact notNumber
  | @unit digits unit spelled =>
    have read : hexEscape (digits ++ text) = .ok (unit, text) :=
      hexEscape_eq_ok_iff.mpr ⟨digits, spelled, rfl⟩
    simp [skipString, read, bind, Except.bind]

/-- A glyph is no shorter than one character. -/
theorem WritesGlyph.length_pos {written : List Char} (glyph : WritesGlyph written) :
    0 < written.length := by
  cases glyph <;> simp

/-- Glyphs are passed over up to the closing quote. -/
theorem skipString_of_writes {written : List Char} (glyphs : WritesGlyphs written) {limit : Nat}
    (enough : written.length < limit) (rest : List Char) :
    skipString limit (written ++ '"' :: rest) = .ok rest := by
  induction glyphs generalizing limit with
  | nil =>
    obtain ⟨limit, rfl⟩ := Nat.exists_eq_add_one_of_ne_zero (Nat.ne_zero_of_lt enough)
    rfl
  | @cons written text head tail inductionHypothesis =>
    obtain ⟨limit, rfl⟩ := Nat.exists_eq_add_one_of_ne_zero (Nat.ne_zero_of_lt enough)
    have long := head.length_pos
    rw [List.length_append] at enough
    rw [List.append_assoc, skipString_glyph head]
    exact inductionHypothesis (by omega)

/-- What is passed over up to a closing quote is glyphs. -/
theorem exists_of_skipString {limit : Nat} {text rest : List Char}
    (skipped : skipString limit text = .ok rest) :
    ∃ written, WritesGlyphs written ∧ text = written ++ '"' :: rest := by
  induction limit generalizing text with
  | zero => cases skipped
  | succ limit inductionHypothesis =>
    have glyph : ∀ {written more}, WritesGlyph written → text = written ++ more →
        skipString limit more = .ok rest →
        ∃ written, WritesGlyphs written ∧ text = written ++ '"' :: rest := by
      rintro written more glyph rfl skipped
      obtain ⟨others, glyphs, rfl⟩ := inductionHypothesis skipped
      exact ⟨written ++ others, .cons glyph glyphs, by simp⟩
    unfold skipString at skipped
    split at skipped
    · cases skipped
    · cases skipped
    · next same =>
      cases same
      cases skipped
      exact ⟨[], .nil, rfl⟩
    · cases skipped
    · next same =>
      cases same
      simp only [bind_eq_ok_iff, Prod.exists, hexEscape_eq_ok_iff] at skipped
      obtain ⟨unit, more, ⟨digits, spelled, rfl⟩, skipped⟩ := skipped
      exact glyph (.unit spelled) rfl skipped
    · next letter more _ same =>
      cases same
      split at skipped
      · next stands => exact glyph (.letter stands) rfl skipped
      · cases skipped
    · next char more notQuote notLast notNumber notLetter same =>
      cases same
      split at skipped
      · cases skipped
      · next visible =>
        refine glyph (.plain (by simpa using visible) notQuote ?_) rfl skipped
        rintro rfl
        cases more with
        | nil => exact notLast rfl rfl
        | cons letter more => exact notLetter letter more rfl rfl

/-! ## Numerals -/

/-- An exponent is passed over exactly if one is written, up to its last digit. -/
theorem skipExponent_eq_ok_iff {text rest : List Char} (upper : Bool) :
    skipExponent text = .ok rest ↔
      ∃ exponent : Exponent, exponent.upper = upper ∧ text = exponent.tail ++ rest ∧ NoDigit rest := by
  constructor
  · intro skipped
    unfold skipExponent at skipped
    dsimp only at skipped
    split at skipped
    · cases skipped
    next digit more unsigned =>
      split at skipped
      · next isOne =>
        cases skipped
        obtain ⟨parts, -, stops⟩ := span_isDigit_iff.mp ⟨rfl, rfl⟩
        have written : ∀ sign, text = Sign.text sign ++ digit :: more →
            ∃ exponent : Exponent, exponent.upper = upper ∧
              text = exponent.tail ++ more.dropWhile isDigit ∧ NoDigit (more.dropWhile isDigit) := by
          intro sign signed
          refine ⟨⟨upper, sign, .ofRun isOne more⟩, rfl, ?_, stops⟩
          rw [signed, Exponent.tail, Digits.text, List.append_assoc, List.cons_append, Digits.ofRun,
            ← parts]
        split at unsigned
        · exact written (some .plus) (by rw [unsigned]; rfl)
        · exact written (some .minus) (by rw [unsigned]; rfl)
        · exact written none unsigned
      · cases skipped
  · rintro ⟨⟨upper, sign, digits⟩, rfl, rfl, stops⟩
    have isOne := digits.isDigit_head
    obtain ⟨-, after⟩ := digits.span_tail stops
    have notPlus : digits.head ≠ '+' := by
      intro same
      rw [same] at isOne
      cases isOne
    have notMinus : digits.head ≠ '-' := by
      intro same
      rw [same] at isOne
      cases isOne
    cases sign with
    | none =>
      simp [skipExponent, Exponent.tail, Sign.text, Digits.text, notPlus, notMinus, isOne, after]
    | some sign =>
      cases sign <;> simp [skipExponent, Exponent.tail, Sign.text, Digits.text, isOne, after]

/-- Passes over the exponent that may follow the digits of a numeral. -/
def skipExponentAfter : List Char → Except Fault (List Char)
  | 'e' :: rest => skipExponent rest
  | 'E' :: rest => skipExponent rest
  | rest => .ok rest

/-- Without the letter of an exponent, nothing is passed over. -/
theorem skipExponentAfter_plain {text : List Char}
    (plain : ∀ char ∈ text.head?, char ≠ 'e' ∧ char ≠ 'E') : skipExponentAfter text = .ok text := by
  unfold skipExponentAfter
  split
  · exact absurd rfl (plain _ rfl).1
  · exact absurd rfl (plain _ rfl).2
  · rfl

/-- The exponent behind digits is passed over exactly as it is written, if there is one. -/
theorem skipExponentAfter_eq_ok_iff {text rest : List Char} (stops : NoDigit text) :
    skipExponentAfter text = .ok rest ↔
      ∃ exponent : Option Exponent, text = Exponent.text exponent ++ rest ∧
        EndsNumber exponent rest := by
  constructor
  · intro skipped
    unfold skipExponentAfter at skipped
    split at skipped
    · obtain ⟨exponent, lower, rfl, ends⟩ := (skipExponent_eq_ok_iff false).mp skipped
      refine ⟨some exponent, ?_, ⟨ends, by simp⟩⟩
      simp [Exponent.text, Exponent.letter, lower]
    · obtain ⟨exponent, upper, rfl, ends⟩ := (skipExponent_eq_ok_iff true).mp skipped
      refine ⟨some exponent, ?_, ⟨ends, by simp⟩⟩
      simp [Exponent.text, Exponent.letter, upper]
    · next notLower notUpper =>
      cases skipped
      refine ⟨none, rfl, ⟨stops, fun _ char first => ?_⟩⟩
      exact ⟨ne_of_mem_head? notLower char first, ne_of_mem_head? notUpper char first⟩
  · rintro ⟨exponent, rfl, ends⟩
    cases exponent with
    | none => exact skipExponentAfter_plain (ends.noExponent rfl)
    | some exponent =>
      have skipped := (skipExponent_eq_ok_iff exponent.upper).mpr
        ⟨exponent, rfl, rfl, ends.noDigit⟩
      cases letter : exponent.upper <;>
        simpa [skipExponentAfter, Exponent.text, Exponent.letter, letter] using skipped

/-- Behind a point, digits and an exponent are passed over. -/
theorem skipAfterWhole_point (text : List Char) :
    skipAfterWhole ('.' :: text) =
      if text.head?.any isDigit then skipExponentAfter (text.dropWhile isDigit)
      else .error (.within .invalidNumber text) := by
  unfold skipAfterWhole skipExponentAfter
  rfl

/-- Without a point, only an exponent is. -/
theorem skipAfterWhole_plain {text : List Char} (plain : ∀ char ∈ text.head?, char ≠ '.') :
    skipAfterWhole text = skipExponentAfter text := by
  unfold skipAfterWhole
  split
  · exact absurd rfl (plain _ rfl)
  · rfl
  · rfl
  · next notLower notUpper =>
    refine (skipExponentAfter_plain fun char first => ?_).symm
    exact ⟨ne_of_mem_head? notLower char first, ne_of_mem_head? notUpper char first⟩

/-- What follows the whole part of a numeral is passed over exactly as it is written. -/
theorem skipAfterWhole_eq_ok_iff {text rest : List Char} (stops : NoDigit text) {whole : Digits}
    (noLeadingZero : whole.head = '0' → whole.tail = []) (below : Bool) :
    skipAfterWhole text = .ok rest ↔
      ∃ numeral : Numeral, numeral.below = below ∧ numeral.whole = whole ∧
        text = Digits.fractionText numeral.fraction ++ (Exponent.text numeral.exponent ++ rest) ∧
        numeral.Ends rest := by
  constructor
  · intro skipped
    by_cases point : ∃ more, text = '.' :: more
    · obtain ⟨more, rfl⟩ := point
      rw [skipAfterWhole_point] at skipped
      split at skipped
      · next any =>
        obtain ⟨digit, first, isOne⟩ := (Option.any_eq_true ..).mp any
        obtain ⟨tail, rfl⟩ := List.head?_eq_some_iff.mp first
        obtain ⟨parts, -, stopped⟩ : tail = tail.takeWhile isDigit ++ tail.dropWhile isDigit ∧
            (∀ char ∈ tail.takeWhile isDigit, isDigit char = true) ∧
            NoDigit (tail.dropWhile isDigit) := span_isDigit_iff.mp ⟨rfl, rfl⟩
        rw [List.dropWhile_cons_of_pos isOne, skipExponentAfter_eq_ok_iff stopped] at skipped
        obtain ⟨exponent, after, ends⟩ := skipped
        refine ⟨⟨below, whole, some (.ofRun isOne tail), exponent, noLeadingZero⟩, rfl, rfl, ?_,
          ⟨ends, by simp⟩⟩
        rw [← after, Digits.fractionText, Digits.text, Digits.ofRun, List.cons_append,
          List.cons_append, ← parts]
      · cases skipped
    · have noPoint : ∀ char ∈ text.head?, char ≠ '.' :=
        ne_of_mem_head? fun more same => point ⟨more, same⟩
      rw [skipAfterWhole_plain noPoint, skipExponentAfter_eq_ok_iff stops] at skipped
      obtain ⟨exponent, rfl, ends⟩ := skipped
      refine ⟨⟨below, whole, none, exponent, noLeadingZero⟩, rfl, rfl, rfl, ⟨ends, ?_⟩⟩
      rintro - rfl
      exact noPoint
  · rintro ⟨⟨below, whole, fraction, exponent, _⟩, rfl, rfl, rfl, ends⟩
    cases fraction with
    | some digits =>
      obtain ⟨-, after⟩ := span_isDigit_iff.mpr ⟨rfl, digits.allDigits, ends.noDigit_exponent⟩
      rw [Digits.fractionText, List.cons_append, skipAfterWhole_point]
      rw [← Digits.text] at after
      rw [after, if_pos (by simp [Digits.text, digits.isDigit_head]),
        skipExponentAfter_eq_ok_iff ends.noDigit_exponent]
      exact ⟨exponent, rfl, ends.toEndsNumber⟩
    | none =>
      have noPoint : ∀ char ∈ (Exponent.text exponent ++ rest).head?, char ≠ '.' := by
        cases exponent with
        | none => exact ends.noFraction rfl rfl
        | some exponent =>
          rintro char ⟨⟩
          cases upper : exponent.upper <;> simp only [Exponent.letter, upper] <;> decide
      rw [Digits.fractionText, List.nil_append, skipAfterWhole_plain noPoint,
        skipExponentAfter_eq_ok_iff ends.noDigit_exponent]
      exact ⟨exponent, rfl, ends.toEndsNumber⟩

/-- The whole part of a numeral is passed over to its last digit. -/
theorem skipNumeral_whole {whole : Digits} (noLeadingZero : whole.head = '0' → whole.tail = [])
    {rest : List Char} (stops : NoDigit rest) :
    skipNumeral (whole.text ++ rest) = skipAfterWhole rest := by
  by_cases zero : whole.head = '0'
  · have text : whole.text = ['0'] := by rw [Digits.text, zero, noLeadingZero zero]
    simp [text, skipNumeral, noDigit_iff.mp stops]
  · obtain ⟨-, after⟩ := whole.span_tail stops
    rw [Digits.text, List.cons_append, skipNumeral]
    · rw [if_pos whole.isDigit_head, after]
    · exact zero

/-- What is passed over as a numeral has a whole part without a leading zero. -/
theorem exists_whole_of_skipNumeral {text rest : List Char} (skipped : skipNumeral text = .ok rest) :
    ∃ (whole : Digits) (after : List Char), text = whole.text ++ after ∧ NoDigit after ∧
      (whole.head = '0' → whole.tail = []) := by
  unfold skipNumeral at skipped
  split at skipped
  · cases skipped
  · next more =>
    split at skipped
    · cases skipped
    · next lone =>
      exact ⟨⟨'0', [], by simp [isDigit]⟩, more, rfl, noDigit_iff.mpr lone, fun _ => rfl⟩
  · next digit more notZero =>
    split at skipped
    · next isOne =>
      obtain ⟨parts, -, stops⟩ := span_isDigit_iff.mp ⟨rfl, rfl⟩
      exact ⟨.ofRun isOne more, _, congrArg (digit :: ·) parts, stops,
        fun zero => absurd zero notZero⟩
    · cases skipped

/-- A numeral is passed over exactly if one is written, and as far as it goes. -/
theorem skipNumeral_eq_ok_iff {text rest : List Char} (below : Bool) :
    skipNumeral text = .ok rest ↔
      ∃ numeral : Numeral, numeral.below = below ∧ text = numeral.magnitude ++ rest ∧
        numeral.Ends rest := by
  constructor
  · intro skipped
    obtain ⟨whole, after, rfl, stops, noLeadingZero⟩ := exists_whole_of_skipNumeral skipped
    rw [skipNumeral_whole noLeadingZero stops,
      skipAfterWhole_eq_ok_iff stops noLeadingZero below] at skipped
    obtain ⟨numeral, isBelow, rfl, rfl, ends⟩ := skipped
    exact ⟨numeral, isBelow, by simp [Numeral.magnitude], ends⟩
  · rintro ⟨numeral, rfl, rfl, ends⟩
    have stops := ends.noDigit_fraction
    rw [Numeral.magnitude, List.append_assoc, List.append_assoc,
      skipNumeral_whole numeral.noLeadingZero stops,
      skipAfterWhole_eq_ok_iff stops numeral.noLeadingZero numeral.below]
    exact ⟨numeral, rfl, rfl, rfl, ends⟩

/-! ## Keys -/

/-- A key and its colon are passed over exactly if they are written. -/
theorem skipKey_eq_ok_iff {text rest : List Char} :
    skipKey text = .ok rest ↔ ∃ before written after, Blank before ∧ WritesGlyphs written ∧
      Blank after ∧ text = before ++ '"' :: (written ++ '"' :: (after ++ ':' :: rest)) := by
  constructor
  · intro skipped
    unfold skipKey at skipped
    split at skipped
    · next opens =>
      obtain ⟨-, before, blankBefore, rfl⟩ := skipBlank_eq_cons_iff.mp opens
      simp only [bind_eq_ok_iff] at skipped
      obtain ⟨more, key, skipped⟩ := skipped
      obtain ⟨written, glyphs, rfl⟩ := exists_of_skipString key
      split at skipped
      · next colon =>
        cases skipped
        obtain ⟨-, after, blankAfter, rfl⟩ := skipBlank_eq_cons_iff.mp colon
        exact ⟨before, written, after, blankBefore, glyphs, blankAfter, rfl⟩
      · cases skipped
      · cases skipped
    · cases skipped
    · cases skipped
  · rintro ⟨before, written, after, blankBefore, glyphs, blankAfter, rfl⟩
    have key : ∀ more : List Char,
        skipString ((written ++ '"' :: more).length + 1) (written ++ '"' :: more) = .ok more :=
      fun more => skipString_of_writes glyphs (by rw [List.length_append]; omega) more
    have quote : isBlank '"' = false := by decide
    have colon : isBlank ':' = false := by decide
    rw [skipKey, skipBlank_append blankBefore, skipBlank_cons quote]
    simp only [key, bind, Except.bind, skipBlank_append blankAfter, skipBlank_cons colon]

/-! ## Steps -/

/-- The character that opens a bracket. -/
def Bracket.opening : Bracket → Char
  | list => '['
  | object => '\x7b'

/-- What closes a bracket is no blank. -/
theorem Bracket.isBlank_closing (bracket : Bracket) : isBlank bracket.closing = false := by
  cases bracket <;> decide

/-- The stage in front of a first part, or of another one. -/
def stageOf (first : Bool) : Stage := if first then .opened else .complete

section Steps

variable {limit : Nat} {first : Bool} {bracket : Bracket} {outer : List Bracket}
  {text rest : List Char}

/-- Between the parts of a bracket, the next character that is no blank decides. -/
theorem skipFrom_between :
    skipFrom (limit + 1) (stageOf first) (bracket :: outer) text =
      match skipBlank text with
      | [] => .error (.before bracket.endCause [])
      | char :: rest =>
        if char = bracket.closing then skipFrom limit .complete outer rest
        else if first then do
          skipFrom limit .value (bracket :: outer) (← skipToValue bracket (char :: rest))
        else if char = ',' then do
          skipFrom limit .value (bracket :: outer) (← skipToValue bracket rest)
        else .error (.within bracket.commaCause (char :: rest)) := by
  cases first <;> rfl

/-- A bracket closes behind blanks. -/
theorem skipFrom_closing {after : List Char} (blank : Blank after) :
    skipFrom (limit + 1) (stageOf first) (bracket :: outer) (after ++ bracket.closing :: rest) =
      skipFrom limit .complete outer rest := by
  rw [skipFrom_between, skipBlank_append blank, skipBlank_cons bracket.isBlank_closing]
  simp

/-- A part goes on behind its lead. -/
theorem skipFrom_lead {lead : List Char} (leads : Leads first lead) {head : Char} {tail : List Char}
    (visible : isBlank head = false) (inside : head ≠ bracket.closing) :
    ∃ before, Blank before ∧
      skipFrom (limit + 1) (stageOf first) (bracket :: outer) (lead ++ head :: tail) =
        (skipToValue bracket (before ++ head :: tail) >>=
          skipFrom limit .value (bracket :: outer)) := by
  rw [skipFrom_between]
  cases leads with
  | first blank =>
    refine ⟨[], blank_nil, ?_⟩
    simp [skipBlank_append blank, visible, inside]
  | @later after before blankAfter blankBefore =>
    have comma : isBlank ',' = false := by decide
    have notClosing : ',' ≠ bracket.closing := by cases bracket <;> decide
    refine ⟨before, blankBefore, ?_⟩
    rw [List.append_assoc, skipBlank_append blankAfter, List.cons_append, skipBlank_cons comma]
    simp [notClosing]

/-- Between the parts of a bracket, the machine goes on behind the closing character, or with the next
part. -/
theorem exists_of_skipFrom_between {done : List Char}
    (skipped : skipFrom (limit + 1) (stageOf first) (bracket :: outer) text = .ok done) :
    (∃ after more, Blank after ∧ text = after ++ bracket.closing :: more ∧
      skipFrom limit .complete outer more = .ok done) ∨
    ∃ lead part more, Leads first lead ∧ text = lead ++ part ∧ skipToValue bracket part = .ok more ∧
      skipFrom limit .value (bracket :: outer) more = .ok done := by
  rw [skipFrom_between] at skipped
  split at skipped
  · cases skipped
  next char more visible =>
    obtain ⟨-, before, blank, rfl⟩ := skipBlank_eq_cons_iff.mp visible
    split at skipped
    · next closes =>
      subst closes
      exact .inl ⟨before, more, blank, rfl, skipped⟩
    split at skipped
    · next isFirst =>
      obtain ⟨part, reached, skipped⟩ := bind_eq_ok_iff.mp skipped
      rw [isFirst]
      exact .inr ⟨before, _, part, .first blank, rfl, reached, skipped⟩
    · next notFirst =>
      split at skipped
      · next comma =>
        subst comma
        obtain ⟨part, reached, skipped⟩ := bind_eq_ok_iff.mp skipped
        rw [Bool.not_eq_true] at notFirst
        rw [notFirst]
        exact .inr ⟨before ++ [','], more, part, .later blank blank_nil, by simp, reached, skipped⟩
      · cases skipped

end Steps

/-! ## What is written -/

/-- A text that is passed over where a value has to stand, in less than two steps a character. -/
def Passes (word : List Char) : Prop :=
  ∃ steps, steps < 2 * word.length ∧ ∀ {limit before rest brackets}, Blank before → Delimits rest →
    skipFrom (limit + steps) .value brackets (before ++ (word ++ rest)) =
      skipFrom limit .complete brackets rest

/-- A text that is passed over where a part of a bracket may stand. -/
structure PassesIn (bracket : Bracket) (text : List Char) : Prop where
  opens : ∃ head tail, text = head :: tail ∧ isBlank head = false ∧ head ≠ bracket.closing
  passes : ∃ steps, steps < 2 * text.length ∧
    ∀ {limit before rest brackets}, Blank before → Delimits rest →
      (skipToValue bracket (before ++ (text ++ rest)) >>=
        skipFrom (limit + steps) .value brackets) = skipFrom limit .complete brackets rest

/-- A value that starts with a digit is passed over as a numeral. -/
theorem skipFrom_digit {limit : Nat} {brackets : List Bracket} {digit : Char} {more rest : List Char}
    (isOne : isDigit digit = true) (skipped : skipNumeral (digit :: more) = .ok rest) :
    skipFrom (limit + 1) .value brackets (digit :: more) = skipFrom limit .complete brackets rest := by
  rw [skipFrom, skipBlank_cons (isBlank_of_isDigit isOne)]
  split
  case h_9 same =>
    cases same
    simp [isOne, skipped, bind, Except.bind]
  all_goals next same => cases same <;> cases isOne

/-- Blanks in front of a value are passed over. -/
theorem skipFrom_blank {limit : Nat} {brackets : List Bracket} {before : List Char}
    (blank : Blank before) (text : List Char) :
    skipFrom (limit + 1) .value brackets (before ++ text) =
      skipFrom (limit + 1) .value brackets text := by
  simp only [skipFrom, skipBlank_append blank]

/-- A form that holds no others is passed over in one step. -/
theorem WritesScalar.passes {word : List Char} {form : Form} (scalar : WritesScalar word form) :
    Passes word := by
  have long := (scalar.writes 0).length_pos
  refine ⟨1, by omega, ?_⟩
  intro limit before rest brackets blank delimits
  rw [skipFrom_blank blank]
  cases scalar with
  | null => simp [skipFrom, isBlank, word, bind, Except.bind]
  | boolean value => cases value <;> simp [skipFrom, writtenBool, isBlank, word, bind, Except.bind]
  | number numeral =>
    have skipped := (skipNumeral_eq_ok_iff numeral.below).mpr
      ⟨numeral, rfl, rfl, delimits.ends numeral⟩
    cases sign : numeral.below with
    | true => simp [Numeral.text, sign, skipFrom, isBlank, skipped, bind, Except.bind]
    | false =>
      have unsigned : numeral.text = numeral.magnitude := by simp [Numeral.text, sign]
      rw [unsigned]
      exact skipFrom_digit numeral.whole.isDigit_head skipped
  | @string written content writes =>
    have skipped : skipString ((written ++ '"' :: rest).length + 1) (written ++ '"' :: rest) =
        .ok rest := skipString_of_writes writes.formed (by rw [List.length_append]; omega) rest
    have quote : isBlank '"' = false := by decide
    rw [List.cons_append, List.append_assoc, skipFrom, skipBlank_cons quote]
    simp only [List.singleton_append, skipped, bind, Except.bind]

/-- Where a value is passed over, an item of a list is. -/
theorem passesIn_list {word : List Char} (opens : OpensItem word) (passes : Passes word) :
    PassesIn .list word where
  opens := opens
  passes := passes

/-- Where a value is passed over, a member is. -/
theorem passesIn_object {writes : List Char → Form → Prop} {text : List Char}
    {member : Option String × Form} (writesMember : WritesMember writes text member)
    (passes : ∀ {word form}, writes word form → Passes word) : PassesIn .object text := by
  obtain @⟨written, after, between, word, key, form, writesKey, blankAfter, blankBetween, writesForm⟩ :=
    writesMember
  refine ⟨⟨'"', _, rfl, by decide, by decide⟩, ?_⟩
  obtain ⟨steps, few, passes⟩ := passes writesForm
  refine ⟨steps, by simp only [List.length_cons, List.length_append]; omega, ?_⟩
  intro limit before rest brackets blank delimits
  have key : skipKey (before ++ ('"' :: (written ++ '"' :: (after ++ ':' :: (between ++ word))) ++
      rest)) = .ok (between ++ (word ++ rest)) :=
    skipKey_eq_ok_iff.mpr
      ⟨before, written, after, blank, writesKey.formed, blankAfter, by simp⟩
  simp only [skipToValue, key, bind, Except.bind]
  exact passes blankBetween delimits

/-- The parts of a bracket are passed over up to its end. -/
theorem skipFrom_parts {α : Type} {spells : List Char → α → Prop} {bracket : Bracket}
    (passes : ∀ {text value}, spells text value → PassesIn bracket text) {first : Bool}
    {body : List Char} {values : List α} (parts : SpellsParts spells first body values) :
    ∃ steps, steps ≤ 2 * body.length + 1 ∧ ∀ {limit outer} (rest : List Char),
      skipFrom (limit + steps) (stageOf first) (bracket :: outer) (body ++ bracket.closing :: rest) =
        skipFrom limit .complete outer rest := by
  have closes : bracket.closing ∈ [']', '\x7d'] := by cases bracket <;> decide
  induction parts with
  | done blank => exact ⟨1, by omega, fun rest => skipFrom_closing blank⟩
  | @part first lead text more value values leads head tail inductionHypothesis =>
    obtain ⟨⟨char, others, rfl, visible, inside⟩, one, few, passOne⟩ := passes head
    obtain ⟨other, fewOther, passOther⟩ := inductionHypothesis
    refine ⟨other + one + 1, ?_, ?_⟩
    · simp only [List.length_append] at few ⊢
      omega
    intro limit outer rest
    have delimits := tail.delimits closes rest
    obtain ⟨before, blank, step⟩ := skipFrom_lead leads visible inside
    rw [List.append_assoc, List.append_assoc, List.cons_append, ← Nat.add_assoc, ← Nat.add_assoc,
      step, ← List.cons_append, passOne blank delimits]
    exact passOther rest

/-- A form that holds others is passed over if those are. -/
theorem WritesNested.passes {writes : List Char → Form → Prop}
    (opens : ∀ {word form}, writes word form → OpensItem word)
    (passes : ∀ {word form}, writes word form → Passes word) {word : List Char} {form : Form}
    (nested : WritesNested writes word form) : Passes word := by
  have around : ∀ (bracket : Bracket) (body : List Char),
      (∃ steps, steps ≤ 2 * body.length + 1 ∧ ∀ {limit outer} (rest : List Char),
        skipFrom (limit + steps) .opened (bracket :: outer) (body ++ bracket.closing :: rest) =
          skipFrom limit .complete outer rest) →
      Passes (bracket.opening :: (body ++ [bracket.closing])) := by
    rintro bracket body ⟨steps, few, passed⟩
    refine ⟨steps + 1, by simp only [List.length_cons, List.length_append, List.length_nil]; omega, ?_⟩
    intro limit before rest brackets blank delimits
    rw [← Nat.add_assoc, skipFrom_blank blank, ← passed rest]
    cases bracket <;> simp [skipFrom, Bracket.opening, isBlank]
  cases nested with
  | list parts =>
    exact around .list _ (skipFrom_parts (fun writes => passesIn_list (opens writes) (passes writes)) parts)
  | object parts =>
    exact around .object _ (skipFrom_parts (fun member => passesIn_object member passes) parts)

/-- Everything that is written is passed over. -/
theorem Writes.passes {levels : Nat} {word : List Char} {form : Form}
    (writes : Writes levels word form) : Passes word := by
  induction levels generalizing word form with
  | zero => exact WritesScalar.passes writes
  | succ levels inductionHypothesis =>
    rcases writes with scalar | nested
    · exact scalar.passes
    · exact nested.passes Writes.opensItem inductionHypothesis

/-- A written value is passed over, behind blanks and in front of what may stand behind it. -/
theorem skipValue_eq_ok {levels : Nat} {before word rest : List Char} {form : Form}
    (blank : Blank before) (writes : Writes levels word form) (delimits : Delimits rest) :
    skipValue (before ++ (word ++ rest)) = .ok rest := by
  obtain ⟨steps, few, passed⟩ := writes.passes
  obtain ⟨limit, enough⟩ : ∃ limit,
      2 * (before ++ (word ++ rest)).length + 2 = limit + 1 + steps :=
    ⟨2 * (before ++ (word ++ rest)).length + 1 - steps, by
      simp only [List.length_append]
      omega⟩
  rw [skipValue, enough, passed blank delimits]
  rfl

/-! ## What is passed over -/

/-- The parts of a bracket are written. -/
def Bracket.HasParts (bracket : Bracket) (levels : Nat) (first : Bool) (body : List Char) : Prop :=
  match bracket with
  | list => ∃ items, SpellsParts (Writes levels) first body items
  | object => ∃ members, SpellsParts (WritesMember (Writes levels)) first body members

/-- Blanks are no parts. -/
theorem Bracket.hasParts_blank (bracket : Bracket) (levels : Nat) (first : Bool) {after : List Char}
    (blank : Blank after) : bracket.HasParts levels first after := by
  cases bracket with
  | list => exact ⟨[], .done blank⟩
  | object => exact ⟨[], .done blank⟩

/-- Parts that are written on some levels are written on more. -/
theorem Bracket.HasParts.mono {bracket : Bracket} {levels more : Nat} {first : Bool}
    {body : List Char} (parts : bracket.HasParts levels first body) (fewer : levels ≤ more) :
    bracket.HasParts more first body := by
  cases bracket with
  | list =>
    obtain ⟨items, parts⟩ := parts
    exact ⟨items, parts.mono fun writes => writes.mono fewer⟩
  | object =>
    obtain ⟨members, parts⟩ := parts
    exact ⟨members, parts.mono fun member => member.mono fun writes => writes.mono fewer⟩

/-- A written value in front of other parts is a part, together with what leads up to it. -/
theorem Bracket.HasParts.part {bracket : Bracket} {levels : Nat} {first : Bool}
    {lead part before word rest body : List Char} {form : Form} (leads : Leads first lead)
    (reached : skipToValue bracket part = .ok (before ++ (word ++ rest))) (blank : Blank before)
    (writes : Writes levels word form) (parts : bracket.HasParts levels false body) :
    ∃ text, part = text ++ rest ∧ bracket.HasParts levels first (lead ++ (text ++ body)) := by
  cases bracket with
  | list =>
    cases reached
    obtain ⟨items, parts⟩ := parts
    have extended := SpellsParts.part (leads.append blank) writes parts
    exact ⟨before ++ word, by simp, _, by simpa using extended⟩
  | object =>
    obtain ⟨blanks, written, after, blankBefore, glyphs, blankAfter, rfl⟩ :=
      skipKey_eq_ok_iff.mp reached
    obtain ⟨key, writesKey⟩ := glyphs.exists_content
    obtain ⟨members, parts⟩ := parts
    have extended := SpellsParts.part (leads.append blankBefore)
      (.mk writesKey blankAfter blank writes) parts
    exact ⟨blanks ++ '"' :: (written ++ '"' :: (after ++ ':' :: (before ++ word))), by simp, _,
      by simpa using extended⟩

/-- A text starts with a written value, and the machine passes over the rest of it in fewer steps than
the limit. -/
def StartsWithValue (limit : Nat) (brackets : List Bracket) (text done : List Char) : Prop :=
  ∃ before levels word form rest remaining, Blank before ∧ Writes levels word form ∧
    text = before ++ (word ++ rest) ∧ remaining < limit ∧
    skipFrom remaining .complete brackets rest = .ok done

/-- A text starts with the written parts of a bracket up to its end, and the machine passes over the rest
of it in fewer steps than the limit. -/
def StartsWithParts (limit : Nat) (first : Bool) (bracket : Bracket) (outer : List Bracket)
    (text done : List Char) : Prop :=
  ∃ levels body rest remaining, bracket.HasParts levels first body ∧
    text = body ++ bracket.closing :: rest ∧ remaining < limit ∧
    skipFrom remaining .complete outer rest = .ok done

/-- What the machine passes over in a number of steps is written, be it a value, or the parts of the
innermost bracket up to its end. -/
structure SkipsWritten (limit : Nat) : Prop where
  value : ∀ {brackets text done}, skipFrom limit .value brackets text = .ok done →
    StartsWithValue limit brackets text done
  parts : ∀ {first bracket outer text done},
    skipFrom limit (stageOf first) (bracket :: outer) text = .ok done →
    StartsWithParts limit first bracket outer text done

section Values

variable {limit : Nat} {brackets : List Bracket} {text more done : List Char}

/-- A text that shows a value that holds no others starts with it. -/
theorem StartsWithValue.of_scalar {char : Char} {word rest : List Char} {form : Form}
    (visible : skipBlank text = char :: more) (scalar : WritesScalar word form)
    (split : char :: more = word ++ rest) (complete : skipFrom limit .complete brackets rest = .ok done) :
    StartsWithValue (limit + 1) brackets text done := by
  obtain ⟨-, before, blank, parts⟩ := skipBlank_eq_cons_iff.mp visible
  exact ⟨before, 0, word, form, rest, limit, blank, scalar, by rw [parts, split], by omega, complete⟩

/-- A text that shows an opening bracket starts with a value if the parts of the bracket are written. -/
theorem StartsWithValue.of_parts
    (written : ∀ {first bracket outer text done},
      skipFrom limit (stageOf first) (bracket :: outer) text = .ok done →
      StartsWithParts limit first bracket outer text done)
    (bracket : Bracket) (visible : skipBlank text = bracket.opening :: more)
    (opened : skipFrom limit (stageOf true) (bracket :: brackets) more = .ok done) :
    StartsWithValue (limit + 1) brackets text done := by
  obtain ⟨-, before, blank, rfl⟩ := skipBlank_eq_cons_iff.mp visible
  obtain ⟨levels, body, rest, remaining, parts, rfl, fewer, complete⟩ := written opened
  refine ⟨before, levels + 1, bracket.opening :: (body ++ [bracket.closing]), ?_⟩
  cases bracket with
  | list =>
    obtain ⟨items, parts⟩ := parts
    exact ⟨_, rest, remaining, blank, .inr (.list parts), by simp, by omega, complete⟩
  | object =>
    obtain ⟨members, parts⟩ := parts
    exact ⟨_, rest, remaining, blank, .inr (.object parts), by simp, by omega, complete⟩

/-- A value that is passed over is written if the parts in it are. -/
theorem SkipsWritten.value_succ (inner : SkipsWritten limit)
    (skipped : skipFrom (limit + 1) .value brackets text = .ok done) :
    StartsWithValue (limit + 1) brackets text done := by
  unfold skipFrom at skipped
  split at skipped
  · cases skipped
  · next visible =>
    obtain ⟨rest, literal, complete⟩ := bind_eq_ok_iff.mp skipped
    rw [word_eq_ok_iff.mp literal] at visible
    exact .of_scalar visible .null rfl complete
  · next visible =>
    obtain ⟨rest, literal, complete⟩ := bind_eq_ok_iff.mp skipped
    rw [word_eq_ok_iff.mp literal] at visible
    exact .of_scalar visible (.boolean true) rfl complete
  · next visible =>
    obtain ⟨rest, literal, complete⟩ := bind_eq_ok_iff.mp skipped
    rw [word_eq_ok_iff.mp literal] at visible
    exact .of_scalar visible (.boolean false) rfl complete
  · next visible =>
    obtain ⟨rest, closed, complete⟩ := bind_eq_ok_iff.mp skipped
    obtain ⟨written, glyphs, rfl⟩ := exists_of_skipString closed
    obtain ⟨content, writes⟩ := glyphs.exists_content
    exact .of_scalar visible (.string writes) (by simp) complete
  · next visible => exact .of_parts inner.parts .list visible skipped
  · next visible => exact .of_parts inner.parts .object visible skipped
  · next visible =>
    obtain ⟨rest, ended, complete⟩ := bind_eq_ok_iff.mp skipped
    obtain ⟨numeral, below, rfl, -⟩ := (skipNumeral_eq_ok_iff true).mp ended
    exact .of_scalar visible (.number numeral) (by simp [Numeral.text, below]) complete
  · next visible =>
    split at skipped
    · obtain ⟨rest, ended, complete⟩ := bind_eq_ok_iff.mp skipped
      obtain ⟨numeral, below, unsigned, -⟩ := (skipNumeral_eq_ok_iff false).mp ended
      exact .of_scalar visible (.number numeral) (by simp [Numeral.text, below, unsigned]) complete
    · cases skipped

end Values

/-- Parts that are passed over are written if the values in them and the parts behind them are. -/
theorem SkipsWritten.parts_succ {limit : Nat} (inner : ∀ smaller ≤ limit, SkipsWritten smaller)
    {first : Bool} {bracket : Bracket} {outer : List Bracket} {text done : List Char}
    (skipped : skipFrom (limit + 1) (stageOf first) (bracket :: outer) text = .ok done) :
    StartsWithParts (limit + 1) first bracket outer text done := by
  obtain ⟨after, more, blank, rfl, complete⟩ | ⟨lead, part, more, leads, rfl, reached, value⟩ :=
    exists_of_skipFrom_between skipped
  · exact ⟨0, after, more, limit, bracket.hasParts_blank 0 first blank, rfl, by omega, complete⟩
  · obtain ⟨before, one, word, form, rest, remaining, blank, writes, rfl, fewer, complete⟩ :=
      (inner limit (Nat.le_refl limit)).value value
    have between : skipFrom remaining (stageOf false) (bracket :: outer) rest = .ok done := complete
    obtain ⟨other, body, behind, last, parts, rfl, fewest, complete⟩ :=
      (inner remaining (by omega)).parts between
    obtain ⟨text, rfl, whole⟩ := Bracket.HasParts.part leads reached blank
      (writes.mono (Nat.le_max_left one other)) (parts.mono (Nat.le_max_right one other))
    exact ⟨_, _, behind, last, whole, by simp, by omega, complete⟩

/-- Whatever is passed over is written. -/
theorem skipsWritten (limit : Nat) : SkipsWritten limit := by
  induction limit using Nat.strong_induction_on with
  | _ limit inner =>
    cases limit with
    | zero => constructor <;> intros <;> contradiction
    | succ limit =>
      exact ⟨(inner limit (Nat.lt_succ_self limit)).value_succ,
        SkipsWritten.parts_succ fun smaller few => inner smaller (by omega)⟩

/-- A value that is passed over is written, behind blanks. -/
theorem exists_of_skipValue {text rest : List Char} (skipped : skipValue text = .ok rest) :
    ∃ before levels word form, Blank before ∧ Writes levels word form ∧
      text = before ++ (word ++ rest) := by
  obtain ⟨before, levels, word, form, behind, remaining, blank, writes, split, -, complete⟩ :=
    (skipsWritten _).value skipped
  cases remaining with
  | zero => cases complete
  | succ remaining =>
    cases complete
    exact ⟨before, levels, word, form, blank, writes, split⟩

end NodeLookup.Json
