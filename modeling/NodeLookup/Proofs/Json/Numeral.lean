import Mathlib.Data.List.TakeWhile
import Mathlib.Tactic.Common
import NodeLookup.Json.Lexeme

/-!
# What a numeral is

A numeral is a record of its written parts, so that a text is one exactly if it is the text of such a
record. `numeral_eq_ok_iff` says that the reader accepts the numerals that stand for a number in range,
each of them as far as it goes, and `Numeral.number?` says which number that is: the reader judges an
exponent while its digits come in, the numeral judges it as a whole.
-/

namespace NodeLookup.Json

open Text (isDigit digitValue)

/-! ## Parts -/

/-- At least one decimal digit. -/
structure Digits where
  head : Char
  tail : List Char
  allDigits : ∀ char ∈ head :: tail, isDigit char = true

/-- The text of digits. -/
def Digits.text (digits : Digits) : List Char := digits.head :: digits.tail

/-- The number that decimal digits spell, behind those that spell a value. -/
def spelledValue (value : Nat) (digits : List Char) : Nat :=
  digits.foldl (fun value digit => value * 10 + digitValue digit) value

/-- The sign of an exponent. -/
inductive Sign where
  | plus
  | minus
deriving DecidableEq

/-- The text of a sign that may be left out. -/
def Sign.text : Option Sign → List Char
  | none => []
  | some plus => ['+']
  | some minus => ['-']

/-- The exponent of a numeral, as it is written. -/
structure Exponent where
  upper : Bool
  sign : Option Sign
  digits : Digits

namespace Exponent

/-- The letter in front of an exponent. -/
def letter (exponent : Exponent) : Char := if exponent.upper then 'E' else 'e'

/-- The text of an exponent behind its letter. -/
def tail (exponent : Exponent) : List Char := Sign.text exponent.sign ++ exponent.digits.text

/-- Whether an exponent raises the number. -/
def raises (exponent : Exponent) : Bool := exponent.sign != some .minus

/-- The number that the digits of an exponent spell. -/
def value (exponent : Exponent) : Nat := spelledValue 0 exponent.digits.text

/-- The text of an exponent that may be left out. -/
def text : Option Exponent → List Char
  | none => []
  | some exponent => exponent.letter :: exponent.tail

end Exponent

/-- A numeral, as it is written. -/
structure Numeral where
  below : Bool
  whole : Digits
  fraction : Option Digits
  exponent : Option Exponent
  /-- Only a single zero starts with a zero. -/
  noLeadingZero : whole.head = '0' → whole.tail = []

/-- The text of a fraction that may be left out. -/
def Digits.fractionText : Option Digits → List Char
  | none => []
  | some digits => '.' :: digits.text

namespace Numeral

/-- The text of a numeral behind its sign. -/
def magnitude (numeral : Numeral) : List Char :=
  numeral.whole.text ++ (Digits.fractionText numeral.fraction ++ Exponent.text numeral.exponent)

/-- The text of a numeral. -/
def text (numeral : Numeral) : List Char :=
  if numeral.below then '-' :: numeral.magnitude else numeral.magnitude

end Numeral

/-! ## Numbers -/

/-- The double-precision number with a sign and a decimal magnitude, unless that is too great. -/
def Number.floating? (below : Bool) (significand : Nat) (exponent : Int) : Option Number :=
  (Number.scale? significand exponent).map (Number.floating below)

/-- The number that a significand stands for with an exponent given by its direction and its
digits. One that is too great to be read makes the number too great as well, or zero. -/
def Number.shifted? (below : Bool) (significand : Nat) (shift : Int) (raises : Bool)
    (exponent : Nat) : Option Number :=
  if greatestExponent < exponent then
    if significand ≠ 0 ∧ raises then none else some (.floating below .zero)
  else floating? below significand (if raises then shift + exponent else shift - exponent)

/-- The number that a significand stands for with an exponent as it is written, if there is one. -/
def Number.raised? (below : Bool) (significand : Nat) (shift : Int) :
    Option Exponent → Option Number
  | none => floating? below significand shift
  | some exponent => shifted? below significand shift exponent.raises exponent.value

/-- The number that a numeral stands for, unless it is out of range. -/
def Numeral.number? (numeral : Numeral) : Option Number :=
  let (significand, dropped) := extend 0 numeral.whole.text
  match numeral.fraction with
  | none =>
    if numeral.exponent.isNone ∧ dropped = 0 then some (.ofWhole numeral.below significand)
    else Number.raised? numeral.below significand dropped numeral.exponent
  | some digits =>
    let (extended, cut) := extend significand digits.text
    Number.raised? numeral.below extended (dropped - (digits.text.length - cut : Nat))
      numeral.exponent

/-! ## Digits -/

/-- A text that does not go on with a digit. -/
def NoDigit (rest : List Char) : Prop := ∀ char ∈ rest.head?, isDigit char = false

/-- Whether a text goes on with a digit is decided by its first character. -/
theorem noDigit_iff {rest : List Char} : NoDigit rest ↔ ¬rest.head?.any isDigit = true := by
  rw [Bool.not_eq_true, Option.any_eq_false]
  simp [NoDigit]

/-- A digit is at most nine. -/
theorem digitValue_le {digit : Char} (isOne : isDigit digit = true) : digitValue digit ≤ 9 := by
  simp only [isDigit, Bool.and_eq_true, decide_eq_true_eq, Char.le_def,
    UInt32.le_iff_toNat_le] at isOne
  have nine : ('9' : Char).val.toNat = 57 := rfl
  have number : digit.toNat = digit.val.toNat := rfl
  simp only [digitValue]
  omega

/-- A number only grows with further digits. -/
theorem le_spelledValue (value : Nat) (digits : List Char) : value ≤ spelledValue value digits := by
  induction digits generalizing value with
  | nil => exact Nat.le_refl value
  | cons digit digits inductionHypothesis =>
    have longer := inductionHypothesis (value * 10 + digitValue digit)
    rw [spelledValue, List.foldl_cons, ← spelledValue]
    omega

/-- A run of digits is read as far as it goes. -/
theorem span_isDigit_iff {text digits rest : List Char} :
    text.takeWhile isDigit = digits ∧ text.dropWhile isDigit = rest ↔
      text = digits ++ rest ∧ (∀ char ∈ digits, isDigit char = true) ∧ NoDigit rest := by
  constructor
  · rintro ⟨rfl, rfl⟩
    refine ⟨List.takeWhile_append_dropWhile.symm, fun char => List.mem_takeWhile_imp, ?_⟩
    intro char first
    have stopped := List.head?_dropWhile_not isDigit text
    rw [Option.mem_def.mp first] at stopped
    simpa using stopped
  · rintro ⟨rfl, allDigits, stops⟩
    have stopped : rest.takeWhile isDigit = [] ∧ rest.dropWhile isDigit = rest := by
      cases rest with
      | nil => exact ⟨rfl, rfl⟩
      | cons char rest =>
        have other : isDigit char = false := stops char rfl
        simp [other]
    rw [List.takeWhile_append_of_pos allDigits, List.dropWhile_append_of_pos allDigits, stopped.1,
      stopped.2, List.append_nil]
    exact ⟨rfl, rfl⟩

/-- The digits from one on. -/
def Digits.ofRun {head : Char} (isOne : isDigit head = true) (text : List Char) : Digits where
  head := head
  tail := text.takeWhile isDigit
  allDigits := by
    intro char member
    rcases List.mem_cons.mp member with rfl | later
    · exact isOne
    · exact List.mem_takeWhile_imp later

namespace Digits

variable (digits : Digits) {rest : List Char}

theorem isDigit_head : isDigit digits.head = true := digits.allDigits _ List.mem_cons_self

/-- Digits in front of something else are the run that is read. -/
theorem span_tail (stops : NoDigit rest) :
    (digits.tail ++ rest).takeWhile isDigit = digits.tail ∧
      (digits.tail ++ rest).dropWhile isDigit = rest :=
  span_isDigit_iff.mpr
    ⟨rfl, fun char later => digits.allDigits char (List.mem_cons_of_mem _ later), stops⟩

end Digits

/-! ## Exponents -/

variable {below : Bool} {significand : Nat} {shift : Int} {text rest : List Char} {number : Number}

/-- A number is scaled without anything being read. -/
theorem floatingNumber_eq_ok_iff :
    floatingNumber below significand shift text = .ok (number, rest) ↔
      Number.floating? below significand shift = some number ∧ text = rest := by
  unfold floatingNumber Number.floating?
  cases Number.scale? significand shift with
  | none => simp
  | some magnitude => simp

/-- An exponent that can be read only scales the number. -/
theorem Number.shifted?_of_le {raises : Bool} {exponent : Nat} (small : exponent ≤ greatestExponent) :
    shifted? below significand shift raises exponent =
      floating? below significand (if raises then shift + exponent else shift - exponent) :=
  if_neg (Nat.not_lt.mpr small)

/-- The digits of an exponent are read to their end, whether or not they can be. -/
theorem exponentDigits_eq_ok_iff {raises : Bool} {exponent : Nat}
    (small : exponent ≤ greatestExponent) :
    exponentDigits below significand shift raises exponent text = .ok (number, rest) ↔
      Number.shifted? below significand shift raises
          (spelledValue exponent (text.takeWhile isDigit)) = some number ∧
        text.dropWhile isDigit = rest := by
  induction text generalizing exponent with
  | nil =>
    rw [exponentDigits, floatingNumber_eq_ok_iff, ← Number.shifted?_of_le small]
    rfl
  | cons digit text inductionHypothesis =>
    rw [exponentDigits]
    by_cases more : isDigit digit = true
    · rw [if_pos more, List.takeWhile_cons_of_pos more, List.dropWhile_cons_of_pos more,
        spelledValue, List.foldl_cons, ← spelledValue]
      dsimp only
      by_cases great : greatestExponent < exponent * 10 + digitValue digit
      · have greater : greatestExponent <
            spelledValue (exponent * 10 + digitValue digit) (text.takeWhile isDigit) :=
          Nat.lt_of_lt_of_le great (le_spelledValue _ _)
        rw [if_pos great, Number.shifted?, if_pos greater]
        split <;> simp
      · rw [if_neg great]
        exact inductionHypothesis (Nat.not_lt.mp great)
    · rw [if_neg more, List.takeWhile_cons_of_neg more, List.dropWhile_cons_of_neg more,
        floatingNumber_eq_ok_iff, ← Number.shifted?_of_le small]
      rfl

/-- An exponent is read digit by digit behind its sign. -/
theorem exponentPart_digit (sign : Option Sign) {digit : Char} (isOne : isDigit digit = true)
    (more : List Char) :
    exponentPart below significand shift (Sign.text sign ++ digit :: more) =
      exponentDigits below significand shift (sign != some .minus) (digitValue digit) more := by
  have notPlus : digit ≠ '+' := by
    rintro rfl
    cases isOne
  have notMinus : digit ≠ '-' := by
    rintro rfl
    cases isOne
  match sign with
  | none =>
    have raises : (some digit != some '-') = true := by simpa using notMinus
    simp [exponentPart, Sign.text, isOne, notPlus, notMinus, raises]
    rfl
  | some .plus =>
    simp [exponentPart, Sign.text, isOne]
    rfl
  | some .minus => simp [exponentPart, Sign.text, isOne]

/-- An exponent that is read has a digit behind its sign. -/
theorem exists_digit_of_exponentPart {read : Number × List Char}
    (accepted : exponentPart below significand shift text = .ok read) :
    ∃ sign digit more, text = Sign.text sign ++ digit :: more ∧ isDigit digit = true := by
  unfold exponentPart at accepted
  dsimp only at accepted
  split at accepted
  · cases accepted
  next digit more unsigned =>
    split at accepted
    · next isOne =>
      split at unsigned
      · exact ⟨some .plus, digit, more, by rw [unsigned]; rfl, isOne⟩
      · exact ⟨some .minus, digit, more, by rw [unsigned]; rfl, isOne⟩
      · exact ⟨none, digit, more, unsigned, isOne⟩
    · cases accepted

/-- An exponent is read exactly if one is written, up to its last digit. -/
theorem exponentPart_eq_ok_iff (upper : Bool) :
    exponentPart below significand shift text = .ok (number, rest) ↔
      ∃ exponent : Exponent, exponent.upper = upper ∧ text = exponent.tail ++ rest ∧
        NoDigit rest ∧ Number.raised? below significand shift (some exponent) = some number := by
  have readable : ∀ {digit}, isDigit digit = true → digitValue digit ≤ greatestExponent :=
    fun isOne => Nat.le_trans (digitValue_le isOne) (by decide)
  have first : ∀ digit digits, spelledValue (digitValue digit) digits =
      spelledValue 0 (digit :: digits) := by
    intro digit digits
    simp [spelledValue]
  constructor
  · intro accepted
    obtain ⟨sign, digit, more, rfl, isOne⟩ := exists_digit_of_exponentPart accepted
    rw [exponentPart_digit sign isOne, exponentDigits_eq_ok_iff (readable isOne), first] at accepted
    obtain ⟨value, rfl⟩ := accepted
    obtain ⟨parts, -, stops⟩ := span_isDigit_iff.mp ⟨rfl, rfl⟩
    refine ⟨⟨upper, sign, .ofRun isOne more⟩, rfl, ?_, stops, value⟩
    rw [Exponent.tail, Digits.text, List.append_assoc, List.cons_append, Digits.ofRun, ← parts]
  · rintro ⟨⟨upper, sign, digits⟩, rfl, rfl, stops, value⟩
    obtain ⟨run, after⟩ := digits.span_tail stops
    rw [Exponent.tail, Digits.text, List.append_assoc, List.cons_append,
      exponentPart_digit sign digits.isDigit_head,
      exponentDigits_eq_ok_iff (readable digits.isDigit_head), run, after, first]
    exact ⟨value, rfl⟩

/-! ## Fractions -/

/-- What must not follow a numeral, or the numeral would go on: a digit, and the letter of an
exponent if there is none yet. -/
structure EndsNumber (exponent : Option Exponent) (rest : List Char) : Prop where
  noDigit : NoDigit rest
  noExponent : exponent = none → ∀ char ∈ rest.head?, char ≠ 'e' ∧ char ≠ 'E'

/-- An exponent does not go on with the digits in front of it. -/
theorem EndsNumber.noDigit_exponent {exponent : Option Exponent} (ends : EndsNumber exponent rest) :
    NoDigit (Exponent.text exponent ++ rest) := by
  match exponent with
  | none => exact ends.noDigit
  | some exponent =>
    intro char first
    cases first
    cases upper : exponent.upper <;> simp only [Exponent.letter, upper] <;> decide

/-- Reads the exponent that may follow the digits of a numeral. -/
def exponentAfter (below : Bool) (significand : Nat) (shift : Int) : Reader Number
  | 'e' :: rest => exponentPart below significand shift rest
  | 'E' :: rest => exponentPart below significand shift rest
  | rest => floatingNumber below significand shift rest

/-- A text of another form does not start with the character of that form. -/
theorem ne_of_mem_head? {wanted : Char} (other : ∀ more, text = wanted :: more → False) :
    ∀ char ∈ text.head?, char ≠ wanted := by
  rintro char first rfl
  obtain ⟨more, split⟩ := List.head?_eq_some_iff.mp (Option.mem_def.mp first)
  exact other more split

/-- Without the letter of an exponent, there is none. -/
theorem exponentAfter_plain (plain : ∀ char ∈ text.head?, char ≠ 'e' ∧ char ≠ 'E') :
    exponentAfter below significand shift text = floatingNumber below significand shift text := by
  unfold exponentAfter
  split
  · exact absurd rfl (plain _ rfl).1
  · exact absurd rfl (plain _ rfl).2
  · rfl

/-- The exponent behind the digits of a numeral is read exactly as it is written, if there is one. -/
theorem exponentAfter_eq_ok_iff (stops : NoDigit text) :
    exponentAfter below significand shift text = .ok (number, rest) ↔
      ∃ exponent : Option Exponent, text = Exponent.text exponent ++ rest ∧
        EndsNumber exponent rest ∧ Number.raised? below significand shift exponent = some number := by
  constructor
  · intro accepted
    unfold exponentAfter at accepted
    split at accepted
    · obtain ⟨exponent, lower, rfl, ends, value⟩ := (exponentPart_eq_ok_iff false).mp accepted
      refine ⟨some exponent, ?_, ⟨ends, by simp⟩, value⟩
      simp [Exponent.text, Exponent.letter, lower]
    · obtain ⟨exponent, upper, rfl, ends, value⟩ := (exponentPart_eq_ok_iff true).mp accepted
      refine ⟨some exponent, ?_, ⟨ends, by simp⟩, value⟩
      simp [Exponent.text, Exponent.letter, upper]
    · next notLower notUpper =>
      obtain ⟨value, rfl⟩ := floatingNumber_eq_ok_iff.mp accepted
      refine ⟨none, rfl, ⟨stops, fun _ char first => ?_⟩, value⟩
      exact ⟨ne_of_mem_head? notLower char first, ne_of_mem_head? notUpper char first⟩
  · rintro ⟨exponent, rfl, ends, value⟩
    match exponent with
    | none =>
      rw [Exponent.text, List.nil_append, exponentAfter_plain (ends.noExponent rfl),
        floatingNumber_eq_ok_iff]
      exact ⟨value, rfl⟩
    | some exponent =>
      have read := (exponentPart_eq_ok_iff exponent.upper).mpr
        ⟨exponent, rfl, rfl, ends.noDigit, value⟩
      cases letter : exponent.upper <;>
        simpa [exponentAfter, Exponent.text, Exponent.letter, letter] using read

/-- A fraction with a digit is read to its last digit, and then its exponent is. -/
theorem fractionPart_eq_exponentAfter {head : Char} {tail after : List Char}
    (run : text.takeWhile isDigit = head :: tail) (stop : text.dropWhile isDigit = after) :
    fractionPart below significand shift text =
      exponentAfter below (extend significand (head :: tail)).1
        (shift - ((head :: tail).length - (extend significand (head :: tail)).2 : Nat)) after := by
  simp only [fractionPart, run, stop]
  split
  · contradiction
  · contradiction
  · rfl
  · rfl
  · next notLower notUpper _ _ =>
    refine (exponentAfter_plain fun char first => ?_).symm
    exact ⟨ne_of_mem_head? notLower char first, ne_of_mem_head? notUpper char first⟩

/-- A fraction is read exactly if one is written, with the exponent behind it. -/
theorem fractionPart_eq_ok_iff :
    fractionPart below significand shift text = .ok (number, rest) ↔
      ∃ (digits : Digits) (exponent : Option Exponent),
        text = digits.text ++ (Exponent.text exponent ++ rest) ∧ EndsNumber exponent rest ∧
        Number.raised? below (extend significand digits.text).1
          (shift - (digits.text.length - (extend significand digits.text).2 : Nat)) exponent =
            some number := by
  constructor
  · intro accepted
    cases run : text.takeWhile isDigit with
    | nil =>
      simp only [fractionPart, run] at accepted
      split at accepted <;> first | cases accepted | contradiction
    | cons head tail =>
      obtain ⟨-, -, stops⟩ := span_isDigit_iff.mp ⟨run, rfl⟩
      rw [fractionPart_eq_exponentAfter run rfl, exponentAfter_eq_ok_iff stops] at accepted
      obtain ⟨exponent, after, ends, value⟩ := accepted
      obtain ⟨parts, allDigits, -⟩ := span_isDigit_iff.mp ⟨run, after⟩
      exact ⟨⟨head, tail, allDigits⟩, exponent, parts, ends, value⟩
  · rintro ⟨digits, exponent, rfl, ends, value⟩
    have stops := ends.noDigit_exponent
    obtain ⟨run, after⟩ := span_isDigit_iff.mpr ⟨rfl, digits.allDigits, stops⟩
    rw [← Digits.text] at run after
    rw [fractionPart_eq_exponentAfter run after, exponentAfter_eq_ok_iff stops]
    exact ⟨exponent, rfl, ends, value⟩

/-! ## Whole numerals -/

/-- What must not follow a numeral, or the numeral would go on: besides what must not follow its
exponent, the point of a fraction if it has neither. -/
structure Numeral.Ends (numeral : Numeral) (rest : List Char) : Prop extends
    EndsNumber numeral.exponent rest where
  noFraction : numeral.fraction = none → numeral.exponent = none → ∀ char ∈ rest.head?, char ≠ '.'

/-- Without a fraction and an exponent, a numeral is a whole number if its digits fit. -/
theorem afterWhole_plain {dropped : Nat}
    (plain : ∀ char ∈ text.head?, char ≠ '.' ∧ char ≠ 'e' ∧ char ≠ 'E') :
    afterWhole below significand dropped text =
      if dropped = 0 then .ok (.ofWhole below significand, text)
      else floatingNumber below significand dropped text := by
  unfold afterWhole
  split
  · exact absurd rfl (plain _ rfl).1
  · exact absurd rfl (plain _ rfl).2.1
  · exact absurd rfl (plain _ rfl).2.2
  · rfl

/-- The number of a numeral without a fraction and an exponent. -/
theorem Numeral.number?_plain {whole : Digits} (noLeadingZero : whole.head = '0' → whole.tail = []) :
    number? ⟨below, whole, none, none, noLeadingZero⟩ =
      if (extend 0 whole.text).2 = 0 then some (.ofWhole below (extend 0 whole.text).1)
      else Number.floating? below (extend 0 whole.text).1 (extend 0 whole.text).2 := by
  simp [number?, Number.raised?]

/-- Without a fraction and an exponent, the whole part is all that is read. -/
theorem afterWhole_plain_eq_ok_iff
    (plain : ∀ char ∈ text.head?, char ≠ '.' ∧ char ≠ 'e' ∧ char ≠ 'E') {whole : Digits}
    (noLeadingZero : whole.head = '0' → whole.tail = []) :
    afterWhole below (extend 0 whole.text).1 (extend 0 whole.text).2 text = .ok (number, rest) ↔
      text = rest ∧ Numeral.number? ⟨below, whole, none, none, noLeadingZero⟩ = some number := by
  rw [afterWhole_plain plain, Numeral.number?_plain]
  split
  · simp [and_comm]
  · rw [floatingNumber_eq_ok_iff, and_comm]

/-- What follows the whole part of a numeral is read exactly as it is written, and makes a numeral
together with the whole part. -/
theorem afterWhole_eq_ok_iff (stops : NoDigit text) {whole : Digits}
    (noLeadingZero : whole.head = '0' → whole.tail = []) :
    afterWhole below (extend 0 whole.text).1 (extend 0 whole.text).2 text = .ok (number, rest) ↔
      ∃ numeral : Numeral, numeral.below = below ∧ numeral.whole = whole ∧
        text = Digits.fractionText numeral.fraction ++ (Exponent.text numeral.exponent ++ rest) ∧
        numeral.Ends rest ∧ numeral.number? = some number := by
  constructor
  · intro accepted
    unfold afterWhole at accepted
    split at accepted
    · obtain ⟨digits, exponent, rfl, ends, value⟩ := fractionPart_eq_ok_iff.mp accepted
      exact ⟨⟨below, whole, some digits, exponent, noLeadingZero⟩, rfl, rfl, rfl,
        ⟨ends, by simp⟩, value⟩
    · obtain ⟨exponent, lower, rfl, ends, value⟩ := (exponentPart_eq_ok_iff false).mp accepted
      refine ⟨⟨below, whole, none, some exponent, noLeadingZero⟩, rfl, rfl, ?_,
        ⟨⟨ends, by simp⟩, by simp⟩, by simpa [Numeral.number?] using value⟩
      simp [Digits.fractionText, Exponent.text, Exponent.letter, lower]
    · obtain ⟨exponent, upper, rfl, ends, value⟩ := (exponentPart_eq_ok_iff true).mp accepted
      refine ⟨⟨below, whole, none, some exponent, noLeadingZero⟩, rfl, rfl, ?_,
        ⟨⟨ends, by simp⟩, by simp⟩, by simpa [Numeral.number?] using value⟩
      simp [Digits.fractionText, Exponent.text, Exponent.letter, upper]
    · next notPoint notLower notUpper =>
      have noPoint := ne_of_mem_head? notPoint
      have noLetter : ∀ char ∈ text.head?, char ≠ 'e' ∧ char ≠ 'E' := fun char first =>
        ⟨ne_of_mem_head? notLower char first, ne_of_mem_head? notUpper char first⟩
      have plain : ∀ char ∈ text.head?, char ≠ '.' ∧ char ≠ 'e' ∧ char ≠ 'E' :=
        fun char first => ⟨noPoint char first, noLetter char first⟩
      rw [← afterWhole_plain plain] at accepted
      obtain ⟨rfl, value⟩ := (afterWhole_plain_eq_ok_iff plain noLeadingZero).mp accepted
      exact ⟨⟨below, whole, none, none, noLeadingZero⟩, rfl, rfl, rfl,
        ⟨⟨stops, fun _ => noLetter⟩, fun _ _ => noPoint⟩, value⟩
  · rintro ⟨⟨below, whole, fraction, exponent, _⟩, rfl, rfl, rfl, ends, value⟩
    match fraction, exponent with
    | some digits, exponent =>
      exact fractionPart_eq_ok_iff.mpr ⟨digits, exponent, rfl, ends.toEndsNumber, value⟩
    | none, some exponent =>
      have read := (exponentPart_eq_ok_iff exponent.upper).mpr
        ⟨exponent, rfl, rfl, ends.noDigit, by simpa [Numeral.number?] using value⟩
      cases letter : exponent.upper <;>
        simpa [afterWhole, Digits.fractionText, Exponent.text, Exponent.letter, letter] using read
    | none, none =>
      exact (afterWhole_plain_eq_ok_iff (fun char first =>
        ⟨ends.noFraction rfl rfl char first, ends.noExponent rfl char first⟩) noLeadingZero).mpr
          ⟨rfl, value⟩

/-- The whole part of a numeral is read to its last digit. -/
theorem numeral_whole {whole : Digits} (noLeadingZero : whole.head = '0' → whole.tail = [])
    (stops : NoDigit rest) :
    numeral below (whole.text ++ rest) =
      afterWhole below (extend 0 whole.text).1 (extend 0 whole.text).2 rest := by
  by_cases zero : whole.head = '0'
  · have text : whole.text = ['0'] := by rw [Digits.text, zero, noLeadingZero zero]
    simp [text, numeral, noDigit_iff.mp stops, extend, digitValue, Number.greatestNatural]
  · obtain ⟨run, after⟩ := whole.span_tail stops
    rw [Digits.text, List.cons_append, numeral]
    · rw [if_pos whole.isDigit_head, run, after]
    · exact zero

/-- A numeral that is read has a whole part without a leading zero. -/
theorem exists_whole_of_numeral {read : Number × List Char} (accepted : numeral below text = .ok read) :
    ∃ (whole : Digits) (after : List Char), text = whole.text ++ after ∧ NoDigit after ∧
      (whole.head = '0' → whole.tail = []) := by
  unfold numeral at accepted
  split at accepted
  · cases accepted
  · next more =>
    split at accepted
    · cases accepted
    · next lone =>
      exact ⟨⟨'0', [], by simp [isDigit]⟩, more, rfl, noDigit_iff.mpr lone, fun _ => rfl⟩
  · next digit more notZero =>
    split at accepted
    · next isOne =>
      obtain ⟨parts, -, stops⟩ := span_isDigit_iff.mp ⟨rfl, rfl⟩
      exact ⟨.ofRun isOne more, _, congrArg (digit :: ·) parts, stops,
        fun zero => absurd zero notZero⟩
    · cases accepted

/-- A numeral is read exactly if one is written that stands for a number in range, and as far as it
goes. -/
theorem numeral_eq_ok_iff :
    numeral below text = .ok (number, rest) ↔
      ∃ numeral : Numeral, numeral.below = below ∧ text = numeral.magnitude ++ rest ∧
        numeral.Ends rest ∧ numeral.number? = some number := by
  constructor
  · intro accepted
    obtain ⟨whole, after, rfl, stops, noLeadingZero⟩ := exists_whole_of_numeral accepted
    rw [numeral_whole noLeadingZero stops, afterWhole_eq_ok_iff stops noLeadingZero] at accepted
    obtain ⟨numeral, rfl, rfl, rfl, ends, value⟩ := accepted
    exact ⟨numeral, rfl, by simp [Numeral.magnitude], ends, value⟩
  · rintro ⟨numeral, rfl, rfl, ends, value⟩
    have stops : NoDigit (Digits.fractionText numeral.fraction ++
        (Exponent.text numeral.exponent ++ rest)) := by
      match numeral.fraction with
      | none => exact ends.noDigit_exponent
      | some digits =>
        intro char first
        cases first
        decide
    rw [Numeral.magnitude, List.append_assoc, List.append_assoc,
      numeral_whole numeral.noLeadingZero stops, afterWhole_eq_ok_iff stops numeral.noLeadingZero]
    exact ⟨numeral, rfl, rfl, rfl, ends, value⟩

/-! ## No text is two numerals -/

/-- The whole part of a numeral does not go on with what follows it. -/
theorem Numeral.Ends.noDigit_fraction {numeral : Numeral} {rest : List Char}
    (ends : numeral.Ends rest) :
    NoDigit (Digits.fractionText numeral.fraction ++ (Exponent.text numeral.exponent ++ rest)) := by
  match numeral.fraction with
  | none => exact ends.noDigit_exponent
  | some digits =>
    rintro char ⟨⟩
    decide

/-- Digits are told by the text that they start. -/
theorem Digits.unique {one other : Digits} {more : List Char}
    (same : one.text ++ rest = other.text ++ more) (stops : NoDigit rest) (stopsOther : NoDigit more) :
    one = other ∧ rest = more := by
  obtain ⟨run, after⟩ := span_isDigit_iff.mpr ⟨rfl, one.allDigits, stops⟩
  obtain ⟨runOther, afterOther⟩ := span_isDigit_iff.mpr ⟨rfl, other.allDigits, stopsOther⟩
  rw [← text] at run after runOther afterOther
  rw [same] at run after
  obtain ⟨head, tail, allDigits⟩ := one
  obtain ⟨otherHead, otherTail, otherDigits⟩ := other
  have digits := run.symm.trans runOther
  cases digits
  exact ⟨rfl, after.symm.trans afterOther⟩

/-- So are an exponent's sign and digits. -/
theorem Exponent.unique_tail {one other : Exponent} {more : List Char}
    (same : one.tail ++ rest = other.tail ++ more) (stops : NoDigit rest) (stopsOther : NoDigit more) :
    one.sign = other.sign ∧ one.digits = other.digits ∧ rest = more := by
  have unsigned : ∀ digits : Digits, digits.head ≠ '+' ∧ digits.head ≠ '-' := by
    intro digits
    have isOne := digits.isDigit_head
    constructor <;> intro same <;> rw [same] at isOne <;> cases isOne
  have text : ∀ digits : Digits, digits.text = digits.head :: digits.tail := fun _ => rfl
  obtain ⟨upper, sign, digits⟩ := one
  obtain ⟨otherUpper, otherSign, otherDigits⟩ := other
  simp only [tail, List.append_assoc] at same
  match sign, otherSign with
  | none, none =>
    obtain ⟨rfl, rfl⟩ := Digits.unique same stops stopsOther
    exact ⟨rfl, rfl, rfl⟩
  | some .plus, some .plus | some .minus, some .minus =>
    obtain ⟨rfl, rfl⟩ := Digits.unique (List.append_cancel_left same) stops stopsOther
    exact ⟨rfl, rfl, rfl⟩
  | none, some .plus | none, some .minus =>
    rw [Sign.text, Sign.text, text] at same
    have heads := (List.cons.inj same).1
    simp [unsigned digits] at heads
  | some .plus, none | some .minus, none =>
    rw [Sign.text, Sign.text, text otherDigits] at same
    have heads := (List.cons.inj same).1
    simp [Ne.symm (unsigned otherDigits).1, Ne.symm (unsigned otherDigits).2] at heads
  | some .plus, some .minus | some .minus, some .plus =>
    have heads := (List.cons.inj same).1
    simp at heads

/-- So is an exponent, if there is one. -/
theorem Exponent.unique {one other : Option Exponent} {more : List Char}
    (same : Exponent.text one ++ rest = Exponent.text other ++ more) (ends : EndsNumber one rest)
    (endsOther : EndsNumber other more) : one = other ∧ rest = more := by
  have letters : ∀ exponent : Exponent, exponent.letter = 'e' ∨ exponent.letter = 'E' := by
    intro exponent
    cases upper : exponent.upper <;> simp [letter, upper]
  match one, other with
  | none, none => exact ⟨rfl, same⟩
  | none, some exponent =>
    obtain ⟨notLower, notUpper⟩ := ends.noExponent rfl exponent.letter (by
      rw [Exponent.text, List.nil_append] at same
      simp [same, Exponent.text])
    rcases letters exponent with lower | upper
    · exact absurd lower notLower
    · exact absurd upper notUpper
  | some exponent, none =>
    obtain ⟨notLower, notUpper⟩ := endsOther.noExponent rfl exponent.letter (by
      rw [Exponent.text, Exponent.text, List.nil_append] at same
      simp [← same])
    rcases letters exponent with lower | upper
    · exact absurd lower notLower
    · exact absurd upper notUpper
  | some one, some other =>
    obtain ⟨letter, tail⟩ := List.cons.inj same
    obtain ⟨sign, digits, rfl⟩ := unique_tail tail ends.noDigit endsOther.noDigit
    obtain ⟨upper, oneSign, oneDigits⟩ := one
    obtain ⟨otherUpper, otherSign, otherDigits⟩ := other
    cases sign
    cases digits
    cases upper <;> cases otherUpper <;> simp [Exponent.letter] at letter <;> exact ⟨rfl, rfl⟩

/-- So is a numeral. -/
theorem Numeral.unique {one other : Numeral} {more : List Char} (sign : one.below = other.below)
    (same : one.magnitude ++ rest = other.magnitude ++ more) (ends : one.Ends rest)
    (endsOther : other.Ends more) : one = other ∧ rest = more := by
  simp only [magnitude, List.append_assoc] at same
  obtain ⟨whole, same⟩ := Digits.unique same ends.noDigit_fraction endsOther.noDigit_fraction
  obtain ⟨below, oneWhole, fraction, exponent, noLeadingZero⟩ := one
  obtain ⟨otherBelow, otherWhole, otherFraction, otherExponent, otherNoLeadingZero⟩ := other
  cases sign
  cases whole
  have noPoint : ∀ {exponent : Option Exponent} {behind : List Char},
      (exponent = none → ∀ char ∈ behind.head?, char ≠ '.') →
      ∀ char ∈ (Exponent.text exponent ++ behind).head?, char ≠ '.' := by
    intro exponent behind free
    match exponent with
    | none => exact free rfl
    | some exponent =>
      rintro char ⟨⟩
      cases upper : exponent.upper <;> simp only [Exponent.letter, upper] <;> decide
  match fraction, otherFraction with
  | none, none =>
    obtain ⟨rfl, rfl⟩ := Exponent.unique same ends.toEndsNumber endsOther.toEndsNumber
    exact ⟨rfl, rfl⟩
  | some digits, some otherDigits =>
    obtain ⟨rfl, same⟩ := Digits.unique (List.cons.inj same).2 ends.noDigit_exponent
      endsOther.noDigit_exponent
    obtain ⟨rfl, rfl⟩ := Exponent.unique same ends.toEndsNumber endsOther.toEndsNumber
    exact ⟨rfl, rfl⟩
  | none, some digits =>
    refine absurd rfl (noPoint (ends.noFraction rfl) '.' ?_)
    simp only [Digits.fractionText, List.nil_append, List.cons_append] at same
    simp [same]
  | some digits, none =>
    refine absurd rfl (noPoint (endsOther.noFraction rfl) '.' ?_)
    simp only [Digits.fractionText, List.nil_append, List.cons_append] at same
    simp [← same]

/-- A numeral is read as the number that it stands for, and not at all if it stands for none. -/
theorem numeral_of_ends {numeral : Numeral} (ends : numeral.Ends rest) {after : List Char} :
    Json.numeral numeral.below (numeral.magnitude ++ rest) = .ok (number, after) ↔
      numeral.number? = some number ∧ rest = after := by
  rw [numeral_eq_ok_iff]
  constructor
  · rintro ⟨other, sign, same, endsOther, value⟩
    obtain ⟨rfl, rfl⟩ := Numeral.unique sign.symm same ends endsOther
    exact ⟨value, rfl⟩
  · rintro ⟨value, rfl⟩
    exact ⟨numeral, rfl, rfl, ends, value⟩

end NodeLookup.Json
