import NodeLookup.Proofs.Url.PercentEncoding
import NodeLookup.Url.Query

/-!
# Query pairs read back

What is written into a pair is percent-encoded by `formSet`, with a plus sign for each space. Since a
plus sign is itself encoded, none of those that are read was meant as one, so `formDecode_formEncode`
holds for every text. Nothing that is written holds one of the characters that end a value, a pair or a
query: a pair that is appended to a query stands behind the pairs that were there, which stay as they
were (`pairsOf_appendPairTo`).
-/

namespace NodeLookup.Url

open Text (encode)

/-! ## Texts within a pair -/

/-- What is encoded within a pair. A space is written otherwise and is not among it. -/
def formSet : EncodeSet := fun char => !isFormPlain char && char != ' '

/-- The byte that a byte of a pair stands for: a plus sign is a space. -/
def unplus (byte : UInt8) : UInt8 := if byte = 0x2B then 0x20 else byte

/-- A character that stands for itself in a pair is one of ASCII. -/
theorem toNat_of_isFormPlain {char : Char} (plain : isFormPlain char = true) :
    char.toNat ≤ 0x7E := by
  simp only [isFormPlain, Bool.or_eq_true, Bool.and_eq_true, decide_eq_true_eq,
    List.contains_iff_mem, List.mem_cons, List.not_mem_nil, or_false] at plain
  rcases plain with ((lower | upper) | digit) | (rfl | rfl | rfl | rfl)
  · exact Nat.le_trans (Char.le_def.mp lower.2) (by decide)
  · exact Nat.le_trans (Char.le_def.mp upper.2) (by decide)
  · exact Nat.le_trans (Char.le_def.mp digit.2) (by decide)
  all_goals decide

/-- The encoding of what is encoded within a pair can be undone. -/
theorem reversible_formSet : Reversible formSet where
  percent := by decide
  beyondAscii := by
    intro char beyond
    have foreign : isFormPlain char = false := by
      by_contra plain
      have ascii := toNat_of_isFormPlain (Bool.not_eq_false _ ▸ plain)
      omega
    have notSpace : char ≠ ' ' := by
      rintro rfl
      exact absurd beyond (by decide)
    simp [formSet, foreign, notSpace]

/-- No hexadecimal digit is read as a space. -/
theorem unplus_hexDigit {value : Nat} (small : value < 16) :
    (String.utf8EncodeChar (upperHexDigit value)).map unplus =
      String.utf8EncodeChar (upperHexDigit value) := by
  obtain ⟨byte, isByte, isDigit⟩ := hexByte?_upperHexDigit small
  have notPlus : byte ≠ 0x2B := by
    rintro rfl
    cases isDigit
  rw [isByte, List.map_singleton, unplus, if_neg notPlus]

/-- An encoded byte holds no plus sign. -/
theorem unplus_percentByte (byte : UInt8) :
    (encode (percentByte byte)).map unplus = encode (percentByte byte) := by
  have bounded : byte.toNat < 256 := byte.toNat_lt
  have percent : (String.utf8EncodeChar '%').map unplus = String.utf8EncodeChar '%' := by decide
  simp only [percentByte, Text.encode_cons, Text.encode_nil, List.map_append, List.map_nil, percent]
  rw [unplus_hexDigit (by omega), unplus_hexDigit (by omega)]

/-- A character that is written in a pair is read as its encoded form, a space as itself. -/
theorem unplus_formChar (char : Char) :
    (encode (formChar char)).map unplus = encode (percentChar formSet char) := by
  unfold formChar
  split
  · next space =>
    subst space
    decide
  · next notSpace =>
    split
    · next plain =>
      have kept : formSet char = false := by simp [formSet, plain]
      have notPlus : UInt8.ofNat char.toNat ≠ 0x2B := by
        intro same
        have number : char.toNat = 0x2B := by
          have ascii := toNat_of_isFormPlain plain
          have value := congrArg UInt8.toNat same
          rwa [UInt8.toNat_ofNat', Nat.mod_eq_of_lt (by omega)] at value
        have isPlus : char = '+' := Char.toNat_inj.mp number
        exact absurd plain (by rw [isPlus]; decide)
      have ascii := toNat_of_isFormPlain plain
      rw [percentChar, if_neg (by simp [kept]), Text.encode_cons, Text.encode_nil, List.append_nil,
        encodeChar_ascii (by omega), List.map_singleton, unplus, if_neg notPlus]
    · next foreign =>
      have encoded : formSet char = true := by simp [formSet, foreign, notSpace]
      rw [percentChar, if_pos encoded]
      induction String.utf8EncodeChar char with
      | nil => rfl
      | cons byte bytes ih =>
        rw [List.flatMap_cons, Text.encode_append, List.map_append, unplus_percentByte, ih]

/-- A text that is written in a pair is read as its encoded form, each space as itself. -/
theorem unplus_formEncode (text : List Char) :
    (encode (formEncode text)).map unplus = encode (percentEncode formSet text) := by
  induction text with
  | nil => rfl
  | cons char text ih =>
    rw [formEncode, percentEncode, List.flatMap_cons, List.flatMap_cons, Text.encode_append,
      Text.encode_append, List.map_append, unplus_formChar, ← formEncode, ← percentEncode, ih]

/-- Every text that is written in a pair reads back as it was. -/
theorem formDecode_formEncode (text : List Char) : formDecode (formEncode text) = text := by
  have read : (encode (formEncode text)).map (fun byte => if byte = 0x2B then 0x20 else byte) =
      encode (percentEncode formSet text) := unplus_formEncode text
  rw [formDecode, read, percentDecode_percentEncode reversible_formSet, Text.decodeLenient_encode]

/-- A text that is written in a pair holds only what stands for itself there, plus signs, percent signs
and hexadecimal digits. -/
theorem not_mem_formEncode {char : Char} (notPlus : char ≠ '+') (notPlain : isFormPlain char = false)
    (foreign : ∀ byte, char ∉ percentByte byte) (text : List Char) : char ∉ formEncode text := by
  intro member
  obtain ⟨source, _, written⟩ := List.mem_flatMap.mp member
  rw [formChar] at written
  split at written
  · exact notPlus (List.mem_singleton.mp written)
  split at written
  · next plain =>
    rw [← List.mem_singleton.mp written, notPlain] at plain
    cases plain
  · obtain ⟨byte, _, digit⟩ := List.mem_flatMap.mp written
    exact foreign byte digit

/-- A text that is written in a pair ends neither the pair nor its name nor the query. -/
theorem separators_not_mem_formEncode (text : List Char) :
    '&' ∉ formEncode text ∧ '=' ∉ formEncode text ∧ '#' ∉ formEncode text := by
  refine ⟨?_, ?_, ?_⟩
  all_goals
    exact not_mem_formEncode (by decide) (by decide)
      (not_mem_percentByte (by decide) (by decide)) text

/-! ## Pairs within a query -/

variable (name value : List Char)

/-- The written form of a pair. -/
def writtenPair : List Char := formEncode name ++ '=' :: formEncode value

/-- A pair that is written reads back as it was. -/
theorem pairOf_writtenPair : pairOf (writtenPair name value) = (name, value) := by
  have kept : ∀ char ∈ formEncode name, (char != '=') = true := by
    intro char member
    rw [bne_iff_ne]
    rintro rfl
    exact (separators_not_mem_formEncode name).2.1 member
  rw [pairOf, writtenPair, List.takeWhile_append_of_pos kept, List.dropWhile_append_of_pos kept]
  simp [formDecode_formEncode]

/-- A pair that is written is one part of a query, and not an empty one. -/
theorem splitOn_writtenPair : (writtenPair name value).splitOn '&' = [writtenPair name value] := by
  apply List.splitOn_eq_singleton
  simp [writtenPair, separators_not_mem_formEncode]

/-- A pair that is written is all that a query of it alone stands for. -/
theorem pairsOf_writtenPair : pairsOf (writtenPair name value) = [(name, value)] := by
  have nonempty : (writtenPair name value).isEmpty = false := by simp [writtenPair]
  simp [pairsOf, splitOn_writtenPair, nonempty, pairOf_writtenPair]

/-- The pairs of a query that is cut at a separator are those of its parts. -/
theorem pairsOf_append (first second : List Char) :
    pairsOf (first ++ '&' :: second) = pairsOf first ++ pairsOf second := by
  simp only [pairsOf, List.splitOn_append_cons_self, List.filter_append, List.map_append]

/-- A pair that is appended to a query is read behind those that were there. -/
theorem pairsOf_appendPairTo (query : Option (List Char)) :
    pairsOf (appendPairTo query name value) = pairsOf (query.getD []) ++ [(name, value)] := by
  match query with
  | none => exact pairsOf_writtenPair name value
  | some [] => exact pairsOf_writtenPair name value
  | some (char :: rest) =>
    rw [Option.getD_some, ← pairsOf_writtenPair, ← pairsOf_append]
    rfl

/-- A pair that is appended to a query brings no sign that would end the query. -/
theorem hash_of_mem_appendPairTo {query : Option (List Char)}
    (member : '#' ∈ appendPairTo query name value) : '#' ∈ query.getD [] := by
  have free : '#' ∉ writtenPair name value := by
    simp [writtenPair, separators_not_mem_formEncode]
  match query with
  | none => exact absurd member free
  | some [] => exact absurd member free
  | some (char :: rest) =>
    have split : '#' ∈ (char :: rest) ++ '&' :: writtenPair name value := member
    rcases List.mem_append.mp split with own | appended
    · exact own
    · exact absurd (List.mem_of_ne_of_mem (by decide) appended) free

end NodeLookup.Url
