import NodeLookup.Proofs.Json.Values

/-!
# What a count is

A numeral is read into sixty-four bits and judged to be a count afterwards. `Counts` says without any
reading which forms are counts: a null or nothing at all counts nothing, and a numeral counts the number
that all its digits spell if it has no sign, no fraction and no exponent and the number fits into
thirty-two bits. So no greater number is ever taken for a small one. `NoCount` lists the other forms.
-/

namespace NodeLookup.Json

/-! ## Whole numbers -/

/-- A numeral writes a natural number as its digits, without a sign, a fraction or an exponent. -/
structure Numeral.Whole (numeral : Numeral) (value : Nat) : Prop where
  unsigned : numeral.below = false
  noFraction : numeral.fraction = none
  noExponent : numeral.exponent = none
  spells : spelledValue 0 numeral.whole.text = value

/-- Digits are read as the number that they spell if it fits. -/
theorem extend_of_le {significand : Nat} {digits : List Char}
    (fits : spelledValue significand digits ≤ Number.greatestNatural) :
    extend significand digits = (spelledValue significand digits, 0) := by
  induction digits generalizing significand with
  | nil => rfl
  | cons digit digits inductionHypothesis =>
    rw [spelledValue, List.foldl_cons, ← spelledValue] at fits ⊢
    have small := le_spelledValue (significand * 10 + Text.digitValue digit) digits
    rw [extend, if_neg (Nat.not_lt.mpr (small.trans fits))]
    exact inductionHypothesis fits

/-- Digits of which none is dropped are read as the number that they spell. -/
theorem extend_eq_of_snd {significand : Nat} {digits : List Char}
    (complete : (extend significand digits).2 = 0) :
    (extend significand digits).1 = spelledValue significand digits := by
  induction digits generalizing significand with
  | nil => rfl
  | cons digit digits inductionHypothesis =>
    rw [spelledValue, List.foldl_cons, ← spelledValue]
    rw [extend] at complete ⊢
    split at complete
    · cases complete
    · next fits =>
      rw [if_neg fits]
      exact inductionHypothesis complete

/-- A number with an exponent, or with digits that were dropped, is no natural number. -/
theorem Number.raised?_ne_natural {below : Bool} {significand value : Nat} {shift : Int}
    {exponent : Option Exponent} : raised? below significand shift exponent ≠ some (.natural value) := by
  have floating : ∀ shift, floating? below significand shift ≠ some (.natural value) := by
    intro shift
    simp [floating?]
  cases exponent with
  | none => exact floating shift
  | some exponent =>
    rw [raised?, shifted?]
    split
    · split <;> simp
    · exact floating _

/-- Up to thirty-two bits, a numeral stands for a natural number exactly if it writes it as its digits. -/
theorem Numeral.number?_eq_natural_iff {numeral : Numeral} {value : Nat} :
    numeral.number? = some (.natural value) ∧ value ≤ greatestCount ↔
      numeral.Whole value ∧ value < 4294967296 := by
  have bound : value ≤ greatestCount ↔ value < 4294967296 := by
    rw [greatestCount]
    omega
  rw [bound]
  refine and_congr_left fun small => ⟨fun stands => ?_, fun whole => ?_⟩
  · rw [number?] at stands
    dsimp only at stands
    split at stands
    · next noFraction =>
      split at stands
      · next complete =>
        rw [Number.ofWhole] at stands
        split at stands
        · split at stands <;> simp at stands
        · next positive =>
          simp only [Option.some.injEq, Number.natural.injEq] at stands
          exact ⟨by simpa using positive, noFraction, by simpa using complete.1, by
            rw [← extend_eq_of_snd complete.2, stands]⟩
      · exact absurd stands Number.raised?_ne_natural
    · exact absurd stands Number.raised?_ne_natural
  · obtain ⟨unsigned, noFraction, noExponent, spells⟩ := whole
    have fits : spelledValue 0 numeral.whole.text ≤ Number.greatestNatural := by
      rw [spells, Number.greatestNatural]
      omega
    simp [number?, extend_of_le fits, unsigned, noFraction, noExponent, spells, Number.ofWhole]

/-! ## Counts -/

/-- What a record says of a count, and the count that it says. -/
inductive Counts : Option Form → Option Nat → Prop where
  | absent : Counts none none
  | null : Counts (some .null) none
  | whole {numeral : Numeral} {value : Nat} (whole : numeral.Whole value) (fits : value < 4294967296) :
      Counts (some (.number numeral)) (some value)

/-- What counts nothing and is not null either. -/
inductive NoCount : Form → Prop where
  | other {form : Form} (notNull : form ≠ .null) (notNumber : ∀ numeral, form ≠ .number numeral) :
      NoCount form
  | signed {numeral : Numeral} (below : numeral.below = true) : NoCount (.number numeral)
  | fraction {numeral : Numeral} (fraction : numeral.fraction ≠ none) : NoCount (.number numeral)
  | exponent {numeral : Numeral} (exponent : numeral.exponent ≠ none) : NoCount (.number numeral)
  | great {numeral : Numeral} (great : 4294967296 ≤ spelledValue 0 numeral.whole.text) :
      NoCount (.number numeral)

/-- Nothing is read as a count but what counts, and as that. -/
theorem reads_count_iff {form : Form} {count? : Option Nat} :
    Reads (Json.optional countValue) form count? ↔ Counts (some form) count? := by
  rw [(judges_optional judges_countValue).reads_iff]
  constructor
  · rintro (⟨rfl, rfl⟩ | ⟨-, value, ⟨numeral, rfl, stands⟩, rfl⟩)
    · exact .null
    · obtain ⟨whole, fits⟩ := Numeral.number?_eq_natural_iff.mp stands
      exact .whole whole fits
  · intro counts
    cases counts with
    | null => exact .inl ⟨rfl, rfl⟩
    | @whole numeral value whole fits =>
      exact .inr ⟨nofun, value, ⟨numeral, rfl, Numeral.number?_eq_natural_iff.mpr ⟨whole, fits⟩⟩, rfl⟩

/-- What is no count counts nothing. -/
theorem NoCount.not_counts {form : Form} (noCount : NoCount form) (count? : Option Nat) :
    ¬Counts (some form) count? := by
  intro counts
  cases counts with
  | null =>
    cases noCount with
    | other notNull notNumber => exact notNull rfl
  | whole whole fits =>
    cases noCount with
    | other notNull notNumber => exact notNumber _ rfl
    | signed below => simp [whole.unsigned] at below
    | fraction fraction => exact fraction whole.noFraction
    | exponent exponent => exact exponent whole.noExponent
    | great great =>
      rw [whole.spells] at great
      omega

end NodeLookup.Json
