import Mathlib.Data.List.Induction
import Mathlib.Tactic.Common
import NodeLookup.Yaml.Value

/-!
# Which plain scalars are numbers

`WritesNatural` says without any reading which texts a plain scalar writes a natural number with:
decimal digits without zeros before them, or digits of another base behind their mark, after a plus sign
at most. A second plus sign and the zeros below zero are let through as well.
`plainNatural?_eq_some_iff` says that exactly these are read, and as the number that their digits spell.
-/

namespace NodeLookup.Yaml

open Text (hexValue? isDigit numberOf?)

/-! ## Digits of a base -/

/-- A run of digits of a base spells a number, the last digit counting least. -/
inductive DigitsOf (base : Nat) : List Char → Nat → Prop where
  | empty : DigitsOf base [] 0
  | more {digits : List Char} {value : Nat} {char : Char} {digit : Nat}
      (before : DigitsOf base digits value) (isDigit : hexValue? char = some digit)
      (small : digit < base) : DigitsOf base (digits ++ [char]) (value * base + digit)

variable {base value : Nat} {digits text : List Char}

/-- Every character of a run is a digit of the base. -/
theorem DigitsOf.digit (spells : DigitsOf base digits value) {char : Char} (isMember : char ∈ digits) :
    ∃ digit, hexValue? char = some digit ∧ digit < base := by
  induction spells with
  | empty => cases isMember
  | more before isDigit small inductionHypothesis =>
    rcases List.mem_append.mp isMember with isMember | isLast
    · exact inductionHypothesis isMember
    · cases List.mem_singleton.mp isLast
      exact ⟨_, isDigit, small⟩

/-- One more digit is read on top of the number that those before it spell. -/
theorem numberOf?_append (digits : List Char) (char : Char) :
    numberOf? base (digits ++ [char]) = some value ↔
      ∃ before, numberOf? base digits = some before ∧
        ∃ digit, hexValue? char = some digit ∧ digit < base ∧ before * base + digit = value := by
  simp only [numberOf?, List.foldlM_append, List.foldlM_cons, List.foldlM_nil, Option.bind_eq_bind,
    Option.bind_eq_some_iff, Option.pure_def, Option.some.injEq]
  refine exists_congr fun before => and_congr_right fun _ => ?_
  cases hexValue? char with
  | none => simp
  | some digit => simp

/-- Digits are read as the number that they spell. -/
theorem numberOf?_eq_some_iff : numberOf? base digits = some value ↔ DigitsOf base digits value := by
  constructor
  · intro read
    induction digits using List.reverseRecOn generalizing value with
    | nil =>
      cases read
      exact .empty
    | append_singleton digits char inductionHypothesis =>
      obtain ⟨before, readBefore, digit, isDigit, small, rfl⟩ := (numberOf?_append digits char).mp read
      exact .more (inductionHypothesis readBefore) isDigit small
  · intro spells
    induction spells with
    | empty => rfl
    | more before isDigit small inductionHypothesis =>
      exact (numberOf?_append _ _).mpr ⟨_, inductionHypothesis, _, isDigit, small, rfl⟩

/-! ## Signs and marks -/

/-- A text is another one, or that one after a plus sign. -/
def AfterPlus (text rest : List Char) : Prop := text = rest ∨ text = '+' :: rest

/-- A mark that stands for a base. -/
inductive BaseMark : Char → Nat → Prop where
  | hexadecimal : BaseMark 'x' 16
  | octal : BaseMark 'o' 8
  | binary : BaseMark 'b' 2

/-- The three marks are those of a base. -/
theorem exists_baseMark {mark : Char} (isMark : ['x', 'o', 'b'].contains mark = true) :
    ∃ base, BaseMark mark base := by
  simp only [List.contains_iff_mem, List.mem_cons, List.not_mem_nil, or_false] at isMark
  rcases isMark with rfl | rfl | rfl
  · exact ⟨16, .hexadecimal⟩
  · exact ⟨8, .octal⟩
  · exact ⟨2, .binary⟩

/-- A run does not start with a sign, nor with anything else that is no digit. -/
theorem DigitsOf.hexValue?_head {char : Char} (spells : DigitsOf base (char :: digits) value) :
    hexValue? char ≠ none := by
  obtain ⟨digit, isDigit, -⟩ := spells.digit List.mem_cons_self
  rw [isDigit]
  exact Option.some_ne_none digit

/-- A mark of a base is no decimal digit. -/
theorem DigitsOf.not_mark {mark : Char} {marked : Nat} (isMark : BaseMark mark marked)
    (spells : DigitsOf 10 digits value) : mark ∉ digits := by
  intro isMember
  obtain ⟨digit, isDigit, small⟩ := spells.digit isMember
  cases isMark
  case hexadecimal => cases isDigit
  case octal => cases isDigit
  case binary =>
    cases isDigit
    exact absurd small (by decide)

/-- Digits that follow a sign, or follow none, are read as digits. -/
theorem unsigned?_of_digitsOf (nonempty : digits ≠ []) (spells : DigitsOf base digits value)
    (signed : AfterPlus text digits) : unsigned? base text = some value := by
  have read := numberOf?_eq_some_iff.mpr spells
  rcases signed with rfl | rfl
  · unfold unsigned?
    split
    · exact absurd rfl nonempty
    · exact absurd rfl spells.hexValue?_head
    · exact absurd rfl spells.hexValue?_head
    · exact read
  · cases digits with
    | nil => exact absurd rfl nonempty
    | cons first rest => exact read

/-- Digits are read after a plus sign at most, and only if there are any. -/
theorem unsigned?_eq_some_iff : unsigned? base text = some value ↔
    ∃ digits, AfterPlus text digits ∧ digits ≠ [] ∧ DigitsOf base digits value := by
  constructor
  · intro read
    unfold unsigned? at read
    split at read
    · cases read
    · cases read
    · next digits nonempty =>
      exact ⟨digits, .inr rfl, nonempty, numberOf?_eq_some_iff.mp read⟩
    · next nonempty _ _ => exact ⟨text, .inl rfl, nonempty, numberOf?_eq_some_iff.mp read⟩
  · rintro ⟨digits, signed, nonempty, spells⟩
    exact unsigned?_of_digitsOf nonempty spells signed

/-! ## Numbers -/

/-- A text writes a natural number. -/
inductive WritesNatural : List Char → Nat → Prop where
  | decimal {text digits : List Char} {value : Nat} (signed : AfterPlus text digits)
      (nonempty : digits ≠ []) (spells : DigitsOf 10 digits value)
      (unpadded : digits.length ≤ 1 ∨ digits.head? ≠ some '0') : WritesNatural text value
  | twicePlus {digits : List Char} {value : Nat} (nonempty : digits ≠ [])
      (spells : DigitsOf 10 digits value) : WritesNatural ('+' :: '+' :: digits) value
  /-- Digits of a base behind a zero and the mark of the base, each after a plus sign at most. -/
  | based {text rest digits : List Char} {mark : Char} {base value : Nat}
      (signed : AfterPlus text ('0' :: mark :: rest)) (isMark : BaseMark mark base)
      (restSigned : AfterPlus rest digits) (nonempty : digits ≠ []) (spells : DigitsOf base digits value) :
      WritesNatural text value
  | minusZero : WritesNatural ['-', '0'] 0
  | minusZeros {zeros : List Char} {mark : Char} {base : Nat} (isMark : BaseMark mark base)
      (nonempty : zeros ≠ []) (allZero : ∀ char ∈ zeros, char = '0') :
      WritesNatural ('-' :: '0' :: mark :: zeros) 0

/-! ## Reading them -/

/-- A text without the plus sign that it may start with. -/
def withoutPlus : List Char → List Char
  | '+' :: rest => rest
  | rest => rest

/-- A text is what is left of it, or that after a plus sign. -/
theorem afterPlus_of_withoutPlus {rest : List Char} (stripped : withoutPlus text = rest) :
    AfterPlus text rest := by
  subst stripped
  unfold withoutPlus
  split
  · exact .inr rfl
  · exact .inl rfl

/-- Of a text only a single plus sign is left out. -/
theorem withoutPlus_of_afterPlus {rest : List Char} (signed : AfterPlus text rest)
    (noPlus : rest.head? ≠ some '+') : withoutPlus text = rest := by
  rcases signed with rfl | rfl
  · unfold withoutPlus
    split
    · exact absurd rfl noPlus
    · rfl
  · rfl

/-- A decimal digit is one of the ten. -/
theorem isDigit_of_hexValue? {char : Char} {digit : Nat} (isValue : hexValue? char = some digit)
    (small : digit < 10) : isDigit char = true := by
  unfold hexValue? at isValue
  split at isValue
  · next isDigit => simpa [Text.isDigit] using isDigit
  · split at isValue
    · next letter =>
      cases isValue
      have : 97 ≤ char.toNat := letter.1
      omega
    · split at isValue
      · next letter =>
        cases isValue
        have : 65 ≤ char.toNat := letter.1
        omega
      · cases isValue

/-- Decimal digits count as padded if there are several and the first is a zero. -/
theorem isPadded_iff (signed : AfterPlus text digits) (spells : DigitsOf 10 digits value) :
    isPadded text = true ↔ ¬(digits.length ≤ 1 ∨ digits.head? ≠ some '0') := by
  have allDigits : digits.all isDigit = true := by
    refine List.all_eq_true.mpr fun char isMember => ?_
    obtain ⟨digit, isValue, small⟩ := spells.digit isMember
    exact isDigit_of_hexValue? isValue small
  have isPadded : isPadded text =
      (1 < digits.length && digits.head? == some '0' && digits.all isDigit) := by
    rcases signed with rfl | rfl
    · unfold Yaml.isPadded
      split
      · exact absurd rfl spells.hexValue?_head
      · exact absurd rfl spells.hexValue?_head
      · rfl
    · rfl
  simp [isPadded, allDigits]

/-- What is read behind the mark of a base is a number that the text writes. -/
theorem writesNatural_of_based {rest : List Char} {mark : Char}
    (signed : AfterPlus text ('0' :: mark :: rest)) (isMark : BaseMark mark base)
    (read : unsigned? base rest = some value) : WritesNatural text value := by
  obtain ⟨digits, restSigned, nonempty, spells⟩ := unsigned?_eq_some_iff.mp read
  exact .based signed isMark restSigned nonempty spells

/-- What is read is a number that the text writes. -/
theorem writesNatural_of_plainNatural? (read : plainNatural? text = some value) :
    WritesNatural text value := by
  unfold plainNatural? at read
  dsimp only at read
  -- What follows the plus sign decides how the text is read.
  split at read
  case h_1 isRest => exact writesNatural_of_based (afterPlus_of_withoutPlus isRest) .hexadecimal read
  case h_2 isRest => exact writesNatural_of_based (afterPlus_of_withoutPlus isRest) .octal read
  case h_3 isRest => exact writesNatural_of_based (afterPlus_of_withoutPlus isRest) .binary read
  case h_4 mark zeros isRest =>
    split at read
    · next below =>
      cases read
      obtain ⟨isMinus, isMark, nonempty, allZero⟩ := below
      rcases afterPlus_of_withoutPlus isRest with rfl | rfl
      · obtain ⟨base, isMark⟩ := exists_baseMark isMark
        exact .minusZeros isMark (by simpa using nonempty) (by simpa using allZero)
      · cases isMinus
    · cases read
  case h_5 isRest =>
    split at read
    · next isMinus =>
      cases read
      rcases afterPlus_of_withoutPlus isRest with rfl | rfl
      · exact .minusZero
      · cases isMinus
    · cases read
  case h_6 =>
    split at read
    · cases read
    · next unpadded =>
      obtain ⟨digits, signed, nonempty, spells⟩ := unsigned?_eq_some_iff.mp read
      rcases signed with isRest | isRest
      · have signed := afterPlus_of_withoutPlus isRest
        rw [isPadded_iff signed spells, not_not] at unpadded
        exact .decimal signed nonempty spells unpadded
      · rcases afterPlus_of_withoutPlus isRest with rfl | rfl
        · cases isRest
        · exact .twicePlus nonempty spells

/-- Decimal digits without zeros before them are read, after a plus sign at most. -/
theorem plainNatural?_of_decimal (signed : AfterPlus text digits) (nonempty : digits ≠ [])
    (spells : DigitsOf 10 digits value) (unpadded : digits.length ≤ 1 ∨ digits.head? ≠ some '0') :
    plainNatural? text = some value := by
  have noPlus : digits.head? ≠ some '+' := by
    intro isPlus
    obtain ⟨rest, rfl⟩ := List.head?_eq_some_iff.mp isPlus
    exact absurd rfl spells.hexValue?_head
  have stripped := withoutPlus_of_afterPlus signed noPlus
  unfold plainNatural?
  dsimp only
  split
  case h_1 isRest =>
    cases stripped.symm.trans isRest
    exact (spells.not_mark .hexadecimal (by simp)).elim
  case h_2 isRest =>
    cases stripped.symm.trans isRest
    exact (spells.not_mark .octal (by simp)).elim
  case h_3 isRest =>
    cases stripped.symm.trans isRest
    exact (spells.not_mark .binary (by simp)).elim
  case h_4 isRest =>
    cases stripped.symm.trans isRest
    exact absurd rfl spells.hexValue?_head
  case h_5 isRest =>
    cases stripped.symm.trans isRest
    exact absurd rfl spells.hexValue?_head
  case h_6 =>
    rw [if_neg ((isPadded_iff signed spells).not_left.mpr unpadded)]
    exact unsigned?_of_digitsOf nonempty spells (.inl stripped)

/-- Decimal digits are read after two plus signs, whatever zeros they start with. -/
theorem plainNatural?_of_twicePlus (nonempty : digits ≠ []) (spells : DigitsOf 10 digits value) :
    plainNatural? ('+' :: '+' :: digits) = some value := by
  have unpadded : ¬isPadded ('+' :: '+' :: digits) = true := by
    simp [isPadded, isDigit]
  calc
    plainNatural? ('+' :: '+' :: digits) = unsigned? 10 ('+' :: digits) := if_neg unpadded
    _ = some value := unsigned?_of_digitsOf nonempty spells (.inr rfl)

/-- A number that a text writes is read. -/
theorem plainNatural?_of_writesNatural (writes : WritesNatural text value) :
    plainNatural? text = some value := by
  cases writes with
  | decimal signed nonempty spells unpadded =>
    exact plainNatural?_of_decimal signed nonempty spells unpadded
  | twicePlus nonempty spells => exact plainNatural?_of_twicePlus nonempty spells
  | based signed isMark restSigned nonempty spells =>
    have read := unsigned?_of_digitsOf nonempty spells restSigned
    rcases signed with rfl | rfl
    · cases isMark <;> exact read
    · cases isMark <;> exact read
  | minusZero => rfl
  | @minusZeros zeros mark base isMark nonempty allZero =>
    have isSome : (!zeros.isEmpty) = true := by simpa using nonempty
    have areZeros : zeros.all (· == '0') = true := by simpa using allZero
    cases isMark <;> exact if_pos ⟨rfl, by decide, isSome, areZeros⟩

/-- Exactly the texts that write a natural number are read as one. -/
theorem plainNatural?_eq_some_iff : plainNatural? text = some value ↔ WritesNatural text value :=
  ⟨writesNatural_of_plainNatural?, plainNatural?_of_writesNatural⟩

end NodeLookup.Yaml
