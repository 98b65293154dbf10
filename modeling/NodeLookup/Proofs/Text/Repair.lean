import NodeLookup.Proofs.Text.Utf8
import Mathlib.Data.List.Induction

/-!
# Malformed text

What a lenient reading makes of bytes, said without the reader. Bytes are cut into those of characters
and malformed parts: a part with which a character could have started goes on for as long as that is
so, and a byte with which none starts is a part of its own. `ReadsAs` puts a replacement character for
each malformed part, and `decodeLenient_eq_iff` shows that the reader does just that. `Awaits` follows
the reader into a character: `begins_append_iff` says that it waits exactly for the bytes with which
some character goes on.
-/

namespace NodeLookup.Text

/-- Some character starts with these bytes. -/
def Begins (bytes : List UInt8) : Prop := ∃ char, bytes <+: String.utf8EncodeChar char

/-- A part of some bytes is malformed where a rest follows it: it is no character, and either one could
have started with it or it is a single byte; with the byte that follows none can start. -/
structure Malformed (part rest : List UInt8) : Prop where
  nonempty : part ≠ []
  single : Begins part ∨ part.length = 1
  incomplete : ∀ char, part ≠ String.utf8EncodeChar char
  maximal : ∀ byte, rest.head? = some byte → ¬Begins (part ++ [byte])

/-- The text that bytes are read as, with a replacement character for each malformed part. -/
inductive ReadsAs : List UInt8 → List Char → Prop where
  | done : ReadsAs [] []
  | char {rest : List UInt8} {text : List Char} (char : Char) (reads : ReadsAs rest text) :
      ReadsAs (String.utf8EncodeChar char ++ rest) (char :: text)
  | malformed {part rest : List UInt8} {text : List Char} (malformed : Malformed part rest)
      (reads : ReadsAs rest text) : ReadsAs (part ++ rest) ('\ufffd' :: text)

/-! ## The bytes of characters by their numbers -/

/-- The number of a character that is made from a number. -/
theorem toNat_ofNat_of_valid (value : Nat) (valid : value.isValidChar) :
    (Char.ofNat value).val.toNat = value := by
  rw [Char.ofNat, dif_pos valid]
  rfl

/-- A byte that is a character of its own is all of it. -/
theorem encodeChar_one {byte : UInt8} (small : byte.toNat < 0x80) :
    String.utf8EncodeChar (Char.ofNat byte.toNat) = [byte] := by
  simp only [String.utf8EncodeChar, toNat_ofNat_of_valid byte.toNat (.inl (by omega))]
  rw [if_pos (by omega), UInt8.ofNat_toNat]

/-- Two bytes, of which the second continues the first, are a character. -/
theorem encodeChar_two {first second : UInt8} {bits low : Nat} (lead : first.toNat = bits + 0xC0)
    (range : 2 ≤ bits ∧ bits < 0x20) (tail : second.toNat = low + 0x80) (small : low < 0x40) :
    String.utf8EncodeChar (Char.ofNat (bits * 0x40 + low)) = [first, second] := by
  have top : (bits * 0x40 + low) / 64 % 0x20 = bits := by omega
  have bottom : (bits * 0x40 + low) % 0x40 = low := by omega
  simp only [String.utf8EncodeChar, toNat_ofNat_of_valid (bits * 0x40 + low) (.inl (by omega))]
  rw [if_neg (by omega), if_pos (by omega), top, bottom, ← lead, ← tail]
  simp only [UInt8.ofNat_toNat]

/-- Three bytes, of which two continue the first, are a character, unless they spell a number that fits
two bytes or half of a pair. -/
theorem encodeChar_three {first second third : UInt8} {bits middle low : Nat}
    (lead : first.toNat = bits + 0xE0) (leadSmall : bits < 0x10)
    (next : second.toNat = middle + 0x80) (small : middle < 0x40)
    (long : bits = 0 → 0x20 ≤ middle) (whole : bits = 0xD → middle < 0x20)
    (tail : third.toNat = low + 0x80) (tailSmall : low < 0x40) :
    String.utf8EncodeChar (Char.ofNat ((bits * 0x40 + middle) * 0x40 + low)) =
      [first, second, third] := by
  have top : ((bits * 0x40 + middle) * 0x40 + low) / 4096 % 0x10 = bits := by omega
  have center : ((bits * 0x40 + middle) * 0x40 + low) / 64 % 0x40 = middle := by omega
  have bottom : ((bits * 0x40 + middle) * 0x40 + low) % 0x40 = low := by omega
  have valid : ((bits * 0x40 + middle) * 0x40 + low).isValidChar := by
    unfold Nat.isValidChar
    omega
  simp only [String.utf8EncodeChar, toNat_ofNat_of_valid _ valid]
  rw [if_neg (by omega), if_neg (by omega), if_pos (by omega), top, center, bottom,
    ← lead, ← next, ← tail]
  simp only [UInt8.ofNat_toNat]

/-- Four bytes, of which three continue the first, are a character, unless they spell a number that
fits three bytes or one beyond the last character. -/
theorem encodeChar_four {first second third fourth : UInt8} {bits upper lower low : Nat}
    (lead : first.toNat = bits + 0xF0) (leadSmall : bits < 5)
    (next : second.toNat = upper + 0x80) (small : upper < 0x40)
    (long : bits = 0 → 0x10 ≤ upper) (whole : bits = 4 → upper < 0x10)
    (further : third.toNat = lower + 0x80) (furtherSmall : lower < 0x40)
    (tail : fourth.toNat = low + 0x80) (tailSmall : low < 0x40) :
    String.utf8EncodeChar (Char.ofNat (((bits * 0x40 + upper) * 0x40 + lower) * 0x40 + low)) =
      [first, second, third, fourth] := by
  have top : (((bits * 0x40 + upper) * 0x40 + lower) * 0x40 + low) / 262144 % 0x08 = bits := by
    omega
  have second' : (((bits * 0x40 + upper) * 0x40 + lower) * 0x40 + low) / 4096 % 0x40 = upper := by
    omega
  have third' : (((bits * 0x40 + upper) * 0x40 + lower) * 0x40 + low) / 64 % 0x40 = lower := by
    omega
  have bottom : (((bits * 0x40 + upper) * 0x40 + lower) * 0x40 + low) % 0x40 = low := by omega
  have valid : (((bits * 0x40 + upper) * 0x40 + lower) * 0x40 + low).isValidChar := by
    unfold Nat.isValidChar
    omega
  simp only [String.utf8EncodeChar, toNat_ofNat_of_valid _ valid]
  rw [if_neg (by omega), if_neg (by omega), if_neg (by omega), top, second', third', bottom,
    ← lead, ← next, ← further, ← tail]
  simp only [UInt8.ofNat_toNat]

/-! ## Within a character -/

/-- After the first bytes of a character the reader waits for more. -/
inductive Awaits : List UInt8 → Pending → Prop where
  | lead {byte : UInt8} {needed code low high : Nat}
      (starts : leadByte byte = .starts needed code low high) :
      Awaits [byte] ⟨needed, code, low, high⟩
  | next {part : List UInt8} {byte : UInt8} {needed code low high : Nat}
      (prior : Awaits part ⟨needed + 2, code, low, high⟩)
      (fits : low ≤ byte.toNat ∧ byte.toNat ≤ high) :
      Awaits (part ++ [byte]) ⟨needed + 1, code * 0x40 + (byte.toNat - 0x80), 0x80, 0xBF⟩

variable {part rest bytes : List UInt8} {pending : Pending} {byte : UInt8}

/-- What a byte with which a character starts says about the bytes to come: their number, the first bits
of the number of the character, and where the next byte has to be. -/
inductive Leads (byte : UInt8) (code low high : Nat) : (needed : Nat) → Prop where
  | two (lead : byte.toNat = code + 0xC0) (range : 2 ≤ code ∧ code < 0x20)
      (bounds : 0x80 ≤ low ∧ low ≤ high ∧ high ≤ 0xBF) : Leads byte code low high 1
  /-- A character of three bytes, that is too long for two and no half of a pair. -/
  | three (lead : byte.toNat = code + 0xE0) (small : code < 0x10)
      (bounds : 0x80 ≤ low ∧ low ≤ high ∧ high ≤ 0xBF) (long : code = 0 → 0xA0 ≤ low)
      (whole : code = 0xD → high ≤ 0x9F) : Leads byte code low high 2
  /-- A character of four bytes, that is too long for three and not beyond the last. -/
  | four (lead : byte.toNat = code + 0xF0) (small : code < 5)
      (bounds : 0x80 ≤ low ∧ low ≤ high ∧ high ≤ 0xBF) (long : code = 0 → 0x90 ≤ low)
      (whole : code = 4 → high ≤ 0x8F) : Leads byte code low high 3

/-- The reader knows what a byte says with which a character starts. -/
theorem leads_of_leadByte {needed code low high : Nat}
    (starts : leadByte byte = .starts needed code low high) : Leads byte code low high needed := by
  simp only [leadByte] at starts
  split at starts
  · cases starts
  split at starts
  · cases starts
  split at starts
  · cases starts
    exact .two (by omega) (by omega) (by omega)
  split at starts
  · cases starts
    exact .three (by omega) (by omega) (by split <;> split <;> omega) (by split <;> omega)
      (by split <;> omega)
  split at starts
  · cases starts
    exact .four (by omega) (by omega) (by split <;> split <;> omega) (by split <;> omega)
      (by split <;> omega)
  · cases starts

/-- A byte that is a character of its own is all of it. -/
theorem encodeChar_of_single {char : Char} (single : leadByte byte = .single char) :
    String.utf8EncodeChar char = [byte] := by
  simp only [leadByte] at single
  split at single
  · next small =>
    cases single
    exact encodeChar_one small
  all_goals
    repeat' split at single
    all_goals cases single

/-- One to three bytes are missing, and there is a next one, which only continues a character. -/
structure Continues (pending : Pending) : Prop where
  needed_pos : 0 < pending.needed
  needed_le : pending.needed ≤ 3
  le_low : 0x80 ≤ pending.low
  low_le_high : pending.low ≤ pending.high
  high_le : pending.high ≤ 0xBF

/-- What the reader waits for continues a character. -/
theorem continues_of_awaits (awaits : Awaits part pending) : Continues pending := by
  induction awaits with
  | lead starts =>
    obtain ⟨-, -, bounds⟩ | ⟨-, -, bounds, -, -⟩ | ⟨-, -, bounds, -, -⟩ :=
      leads_of_leadByte starts <;>
      exact ⟨by simp, by simp, bounds.1, bounds.2.1, bounds.2.2⟩
  | next _ _ ih => exact ⟨by simp, Nat.le_of_succ_le ih.needed_le, by simp, by simp, by simp⟩

/-- A byte that continues a character holds six bits of its number. -/
theorem toNat_continuing {low high : Nat} (atLeast : 0x80 ≤ low) (atMost : high ≤ 0xBF)
    (fits : low ≤ byte.toNat ∧ byte.toNat ≤ high) :
    byte.toNat = (byte.toNat - 0x80) + 0x80 ∧ byte.toNat - 0x80 < 0x40 := by
  omega

/-- A byte that the reader waits for as the last one completes a character. -/
theorem exists_char_of_awaits {code low high : Nat} (awaits : Awaits part ⟨1, code, low, high⟩)
    (fits : low ≤ byte.toNat ∧ byte.toNat ≤ high) :
    ∃ char, String.utf8EncodeChar char = part ++ [byte] := by
  -- One case for each number of bytes, from the last byte back to the first.
  cases awaits with
  | lead starts =>
    obtain ⟨lead, range, atLeast, -, atMost⟩ | _ | _ := leads_of_leadByte starts
    obtain ⟨last, lastSmall⟩ := toNat_continuing atLeast atMost fits
    exact ⟨_, encodeChar_two lead range last lastSmall⟩
  | next prior within =>
    obtain ⟨last, lastSmall⟩ := toNat_continuing (Nat.le_refl _) (Nat.le_refl _) fits
    cases prior with
    | lead starts =>
      obtain _ | ⟨lead, small, bounds, long, whole⟩ | _ := leads_of_leadByte starts
      obtain ⟨next, nextSmall⟩ := toNat_continuing bounds.1 bounds.2.2 within
      exact ⟨_, encodeChar_three lead small next nextSmall (by omega) (by omega) last lastSmall⟩
    | next prior before =>
      obtain ⟨third, thirdSmall⟩ := toNat_continuing (Nat.le_refl _) (Nat.le_refl _) within
      cases prior with
      | lead starts =>
        obtain _ | _ | ⟨lead, small, bounds, long, whole⟩ := leads_of_leadByte starts
        obtain ⟨next, nextSmall⟩ := toNat_continuing bounds.1 bounds.2.2 before
        exact ⟨_, encodeChar_four lead small next nextSmall (by omega) (by omega) third thirdSmall
          last lastSmall⟩
      | next prior => exact absurd (continues_of_awaits prior).needed_le (by simp)

/-- The beginning of a beginning is one. -/
theorem Begins.of_append {more : List UInt8} (begins : Begins (part ++ more)) : Begins part := by
  obtain ⟨char, starts⟩ := begins
  exact ⟨char, (List.prefix_append part more).trans starts⟩

/-- While the reader waits, what it has read is the beginning of a character. -/
theorem begins_of_awaits (awaits : Awaits part pending) : Begins part := by
  -- The least byte that fits takes the place of each missing one.
  obtain ⟨needed, code, low, high⟩ := pending
  induction needed generalizing part code low high with
  | zero => exact absurd (continues_of_awaits awaits).needed_pos (by simp)
  | succ needed ih =>
    have ordered : low ≤ high := (continues_of_awaits awaits).low_le_high
    have atMost : high ≤ 0xBF := (continues_of_awaits awaits).high_le
    have least : (UInt8.ofNat low).toNat = low := by
      rw [UInt8.toNat_ofNat', Nat.mod_eq_of_lt (by omega)]
    have fits : low ≤ (UInt8.ofNat low).toNat ∧ (UInt8.ofNat low).toNat ≤ high := by omega
    cases needed with
    | zero =>
      obtain ⟨char, complete⟩ := exists_char_of_awaits awaits fits
      exact ⟨char, complete ▸ List.prefix_append part _⟩
    | succ needed => exact (ih _ _ _ (awaits.next fits)).of_append

/-! ## What the reader makes of a part -/

/-- Only no bytes, with none before them, stand for nothing. -/
theorem units_eq_nil_iff {pending : Option Pending} :
    units pending bytes = [] ↔ pending = none ∧ bytes = [] := by
  fun_induction units pending bytes <;> simp_all

/-- Bytes of which the reader waits for more are read with those that follow. -/
theorem units_awaits (awaits : Awaits part pending) (rest : List UInt8) :
    units none (part ++ rest) = units (some pending) rest := by
  induction awaits generalizing rest with
  | lead starts => exact units_start starts rest
  | next _ fits ih =>
    rw [List.append_assoc, ih, List.singleton_append, units]
    dsimp only
    rw [if_pos fits, if_neg (by omega)]
    rfl

/-- A byte that does not fit ends a malformed part, and is read anew. -/
theorem units_mismatch (outside : ¬(pending.low ≤ byte.toNat ∧ byte.toNat ≤ pending.high))
    (rest : List UInt8) :
    units (some pending) (byte :: rest) = none :: units none (byte :: rest) := by
  rw [units, units]
  dsimp only
  rw [if_neg outside]
  cases leadByte byte <;> rfl

/-- A byte with which no character starts is a malformed part. -/
theorem units_malformed (malformed : leadByte byte = .malformed) (rest : List UInt8) :
    units none (byte :: rest) = none :: units none rest := by
  rw [units, malformed]

/-- Where some character starts, it is all that is read. -/
theorem exists_units_of_begins (begins : Begins part) :
    ∃ char rest, units none (part ++ rest) = [some char] := by
  obtain ⟨char, rest, complete⟩ := begins
  refine ⟨char, rest, ?_⟩
  rw [complete]
  simpa [units] using units_encodeChar char []

/-! ## What the reader waits for -/

/-- A byte that fits completes a character, or the reader waits on. -/
theorem complete_or_awaits (awaits : Awaits part pending)
    (fits : pending.low ≤ byte.toNat ∧ byte.toNat ≤ pending.high) :
    (∃ char, String.utf8EncodeChar char = part ++ [byte]) ∨
      ∃ more, Awaits (part ++ [byte]) more := by
  obtain ⟨needed, code, low, high⟩ := pending
  match needed, awaits with
  | 0, awaits => exact absurd (continues_of_awaits awaits).needed_pos (by simp)
  | 1, awaits => exact .inl (exists_char_of_awaits awaits fits)
  | needed + 2, awaits => exact .inr ⟨_, awaits.next fits⟩

/-- The reader waits for the bytes with which some character goes on. -/
theorem begins_append_iff (awaits : Awaits part pending) :
    Begins (part ++ [byte]) ↔ pending.low ≤ byte.toNat ∧ byte.toNat ≤ pending.high := by
  constructor
  · intro begins
    obtain ⟨char, rest, read⟩ := exists_units_of_begins begins
    rw [List.append_assoc, units_awaits awaits, List.singleton_append] at read
    by_contra outside
    rw [units_mismatch outside] at read
    cases read
  · intro fits
    obtain ⟨char, complete⟩ | ⟨more, awaits⟩ := complete_or_awaits awaits fits
    · exact ⟨char, complete ▸ List.prefix_rfl⟩
    · exact begins_of_awaits awaits

/-- With a byte that the reader takes for malformed no character starts, and with no other. -/
theorem leadByte_eq_malformed_iff : leadByte byte = .malformed ↔ ¬Begins [byte] := by
  constructor
  · intro malformed begins
    obtain ⟨char, rest, read⟩ := exists_units_of_begins begins
    rw [List.singleton_append, units_malformed malformed] at read
    cases read
  · intro stray
    cases lead : leadByte byte with
    | single char => exact absurd ⟨char, encodeChar_of_single lead ▸ List.prefix_rfl⟩ stray
    | starts needed code low high => exact absurd (begins_of_awaits (.lead lead)) stray
    | malformed => rfl

/-- No character is the beginning of another. -/
theorem eq_nil_of_begins {char : Char} (begins : Begins (String.utf8EncodeChar char ++ part)) :
    part = [] := by
  obtain ⟨other, rest, read⟩ := exists_units_of_begins begins
  rw [List.append_assoc, units_encodeChar] at read
  have nothing : units none (part ++ rest) = [] := (List.cons.inj read).2
  exact (List.append_eq_nil_iff.mp (units_eq_nil_iff.mp nothing).2).1

/-- After a beginning that is no character yet the reader waits for more. -/
theorem exists_awaits (nonempty : part ≠ []) (begins : Begins part)
    (incomplete : ∀ char, part ≠ String.utf8EncodeChar char) : ∃ pending, Awaits part pending := by
  induction part using List.reverseRec with
  | nil => exact absurd rfl nonempty
  | append_singleton init byte ih =>
    by_cases first : init = []
    · subst first
      cases lead : leadByte byte with
      | single char => exact absurd (encodeChar_of_single lead).symm (incomplete char)
      | starts needed code low high => exact ⟨_, .lead lead⟩
      | malformed => exact absurd begins (leadByte_eq_malformed_iff.mp lead)
    · have unfinished : ∀ char, init ≠ String.utf8EncodeChar char := by
        rintro char rfl
        cases eq_nil_of_begins begins
      obtain ⟨pending, awaits⟩ := ih first begins.of_append unfinished
      have fits := (begins_append_iff awaits).mp begins
      obtain ⟨char, complete⟩ | waits := complete_or_awaits awaits fits
      · exact absurd complete.symm (incomplete char)
      · exact waits

/-! ## Reading -/

/-- A malformed part stands for nothing, and the rest is read anew. -/
theorem units_append_of_malformed (malformed : Malformed part rest) :
    units none (part ++ rest) = none :: units none rest := by
  by_cases begins : Begins part
  · obtain ⟨pending, awaits⟩ := exists_awaits malformed.nonempty begins malformed.incomplete
    rw [units_awaits awaits]
    cases rest with
    | nil => rfl
    | cons byte rest =>
      exact units_mismatch (mt (begins_append_iff awaits).mpr (malformed.maximal byte rfl)) rest
  · obtain ⟨byte, rfl⟩ := List.length_eq_one_iff.mp (malformed.single.resolve_left begins)
    exact units_malformed (leadByte_eq_malformed_iff.mpr begins) rest

/-- What bytes can be read as is what the reader reads. -/
theorem decodeLenient_of_readsAs {text : List Char} (reads : ReadsAs bytes text) :
    decodeLenient bytes = text := by
  induction reads with
  | done => rfl
  | char char _ ih => rw [decodeLenient, units_encodeChar, List.map_cons, ← decodeLenient, ih]; rfl
  | malformed malformed _ ih =>
    rw [decodeLenient, units_append_of_malformed malformed, List.map_cons, ← decodeLenient, ih]; rfl

/-- A part of which the reader waits for more is malformed where the next byte does not fit. -/
theorem malformed_of_awaits (awaits : Awaits part pending)
    (ends : ∀ byte, rest.head? = some byte →
      ¬(pending.low ≤ byte.toNat ∧ byte.toNat ≤ pending.high)) :
    Malformed part rest where
  nonempty := by cases awaits <;> simp
  single := .inl (begins_of_awaits awaits)
  incomplete char complete := by
    have read := units_awaits awaits []
    rw [complete, units_encodeChar] at read
    cases read
  maximal byte next := mt (begins_append_iff awaits).mp (ends byte next)

/-- A byte with which no character starts is a malformed part, whatever follows it. -/
theorem malformed_singleton (stray : ¬Begins [byte]) : Malformed [byte] rest where
  nonempty := List.cons_ne_nil _ _
  single := .inr rfl
  incomplete char complete := stray ⟨char, complete ▸ List.prefix_rfl⟩
  maximal _ _ begins := stray begins.of_append

/-- All bytes can be read, also after the first bytes of a character. -/
theorem exists_readsAs (bytes : List UInt8) :
    (∃ text, ReadsAs bytes text) ∧
      ∀ part pending, Awaits part pending → ∃ text, ReadsAs (part ++ bytes) text := by
  induction bytes with
  | nil =>
    refine ⟨⟨[], .done⟩, fun part pending awaits => ?_⟩
    exact ⟨_, .malformed (malformed_of_awaits awaits (by simp)) .done⟩
  | cons byte rest ih =>
    obtain ⟨⟨text, reads⟩, within⟩ := ih
    have anew : ∃ text, ReadsAs (byte :: rest) text := by
      cases lead : leadByte byte with
      | single char =>
        have complete := ReadsAs.char char reads
        rw [encodeChar_of_single lead] at complete
        exact ⟨_, complete⟩
      | starts needed code low high => exact within [byte] _ (.lead lead)
      | malformed =>
        exact ⟨_, .malformed (malformed_singleton (leadByte_eq_malformed_iff.mp lead)) reads⟩
    refine ⟨anew, fun part pending awaits => ?_⟩
    by_cases fits : pending.low ≤ byte.toNat ∧ byte.toNat ≤ pending.high
    · rw [List.append_cons]
      obtain ⟨char, complete⟩ | ⟨more, awaits⟩ := complete_or_awaits awaits fits
      · exact ⟨_, complete ▸ ReadsAs.char char reads⟩
      · exact within _ more awaits
    · obtain ⟨text, reads⟩ := anew
      exact ⟨_, .malformed (malformed_of_awaits awaits (by simpa using fits)) reads⟩

/-- The reader puts one replacement character for each malformed part, and nothing else. -/
theorem decodeLenient_eq_iff {text : List Char} : decodeLenient bytes = text ↔ ReadsAs bytes text := by
  constructor
  · rintro rfl
    obtain ⟨text, reads⟩ := (exists_readsAs bytes).1
    rwa [decodeLenient_of_readsAs reads]
  · exact decodeLenient_of_readsAs

-- Two of the three bytes of a character are one part, a byte that continues none is another.
example : decodeLenient [0xE2, 0x82, 0x41, 0x82] = ['\ufffd', 'A', '\ufffd'] := by decide

end NodeLookup.Text
