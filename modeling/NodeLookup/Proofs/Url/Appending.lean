import NodeLookup.Proofs.Url.PercentEncoding

/-!
# Segments appended to a path

What appending one segment does depends only on what is visible of it once the ignored characters are
left out. `appendSegment_of_visible` covers every segment of which something other than dots is
visible, or nothing; the two lemmas after it cover the segments that turn into dots on the way.
`path_extend` starts from an endpoint, of whose path `ownSegments` is the part that stays.
-/

namespace NodeLookup.Url

/-- What is left of a segment without the characters that URLs leave out. -/
def visible (segment : List Char) : List Char := segment.filter fun char => !isIgnored char

/-- A text that is one segment of a path just as it stands. -/
structure Ordinary (segment : List Char) : Prop where
  nonempty : segment ≠ []
  notDot : segment ≠ ['.']
  notDots : segment ≠ ['.', '.']
  allVisible : ∀ char ∈ segment, isIgnored char = false

/-- An ordinary segment is visible in full. -/
theorem Ordinary.visible_eq {segment : List Char} (ordinary : Ordinary segment) :
    visible segment = segment := by
  apply List.filter_eq_self.mpr
  intro char member
  simp [ordinary.allVisible char member]

/-- An ordinary segment is one that is visible in full, apart from nothing and from the dots. -/
theorem ordinary_iff_visible {segment : List Char} :
    Ordinary segment ↔ segment ≠ [] ∧ segment ∉ [['.'], ['.', '.']] ∧ visible segment = segment := by
  constructor
  · intro ordinary
    exact ⟨ordinary.nonempty, by simpa using ⟨ordinary.notDot, ordinary.notDots⟩, ordinary.visible_eq⟩
  · rintro ⟨nonempty, notDots, whole⟩
    simp only [List.mem_cons, List.not_mem_nil, or_false, not_or] at notDots
    refine ⟨nonempty, notDots.1, notDots.2, fun char member => ?_⟩
    simpa using List.filter_eq_self.mp whole char member

/-- Whether a segment is ordinary, as a condition that is decided by going through it once. -/
theorem ordinary_iff {segment : List Char} :
    Ordinary segment ↔ segment ≠ [] ∧ segment ≠ ['.'] ∧ segment ≠ ['.', '.'] ∧
      (segment.all fun char => !isIgnored char) = true := by
  simp only [List.all_eq_true, Bool.not_eq_true']
  constructor
  · intro ordinary
    exact ⟨ordinary.nonempty, ordinary.notDot, ordinary.notDots, ordinary.allVisible⟩
  · rintro ⟨nonempty, notDot, notDots, allVisible⟩
    exact ⟨nonempty, notDot, notDots, allVisible⟩

instance (segment : List Char) : Decidable (Ordinary segment) := decidable_of_iff' _ ordinary_iff

/-! ## One segment -/

variable (special : Bool) (segments : List (List Char)) {segment : List Char}

/-- The written form of a segment is the encoded form of what is visible of it. -/
theorem writtenSegment_eq (segment : List Char) :
    writtenSegment special segment = percentEncode (segmentSet special) (visible segment) := rfl

/-- A segment that shows no dots is added, encoded, as one segment. -/
theorem appendSegment_of_visible (notDot : visible segment ≠ ['.'])
    (notDots : visible segment ≠ ['.', '.']) :
    appendSegment special segments segment =
      appendBase segments ++ [writtenSegment special segment] := by
  have kept : ¬(segment = ['.'] ∨ segment = ['.', '.']) := by
    rintro (rfl | rfl)
    · exact notDot rfl
    · exact notDots rfl
  simp [appendSegment, kept, writtenSegment_eq, notDot, notDots]

/-- A segment that only shows a dot leaves an empty segment. -/
theorem appendSegment_of_visible_dot (hidden : segment ≠ ['.']) (dot : visible segment = ['.']) :
    appendSegment special segments segment = appendBase segments ++ [[]] := by
  have kept : ¬(segment = ['.'] ∨ segment = ['.', '.']) := by
    rintro (rfl | rfl)
    · exact hidden rfl
    · cases dot
  simp [appendSegment, kept, writtenSegment_eq, dot]

/-- A last segment that names no drive can be taken away. -/
theorem shorten_append {last : List Char} (noDrive : isDrive last = false) :
    shorten (segments ++ [last]) = segments := by
  simp [shorten, noDrive]

/-- A segment that only shows two dots takes the last segment away and leaves an empty one. -/
theorem appendSegment_of_visible_dots (hidden : segment ≠ ['.', '.'])
    (dots : visible segment = ['.', '.']) :
    appendSegment special segments segment = shorten (appendBase segments) ++ [[]] := by
  have kept : ¬(segment = ['.'] ∨ segment = ['.', '.']) := by
    rintro (rfl | rfl)
    · cases dots
    · exact hidden rfl
  simp [appendSegment, kept, writtenSegment_eq, dots]

/-- The written form of an ordinary segment is neither empty nor read as a dot segment. -/
theorem written_of_visible (nonempty : visible segment ≠ []) (notDot : visible segment ≠ ['.'])
    (notDots : visible segment ≠ ['.', '.']) :
    writtenSegment special segment ≠ [] ∧ isSingleDot (writtenSegment special segment) = false ∧
      isDoubleDot (writtenSegment special segment) = false := by
  rw [writtenSegment_eq]
  refine ⟨?_, ?_, ?_⟩
  · rwa [ne_eq, percentEncode_segment_eq_nil_iff]
  · rwa [← Bool.not_eq_true, isSingleDot_percentEncode]
  · rwa [← Bool.not_eq_true, isDoubleDot_percentEncode]

/-- An ordinary segment is added, encoded, as one segment. -/
theorem appendSegment_of_ordinary (ordinary : Ordinary segment) :
    appendSegment special segments segment =
      appendBase segments ++ [percentEncode (segmentSet special) segment] := by
  have shown := ordinary.visible_eq
  rw [appendSegment_of_visible special segments (shown.symm ▸ ordinary.notDot)
    (shown.symm ▸ ordinary.notDots), writtenSegment_eq, shown]

/-- A path with a segment that is not empty is all there to append to. -/
theorem appendBase_append {last : List Char} (nonempty : last ≠ []) :
    appendBase (segments ++ [last]) = segments ++ [last] := by
  rw [appendBase, if_neg]
  intro single
  cases segments with
  | nil => exact nonempty (by simpa using single)
  | cons first rest => simp at single

/-- An ordinary segment makes the next one start behind it. -/
theorem appendBase_append_percentEncode (ordinary : Ordinary segment) :
    appendBase (segments ++ [percentEncode (segmentSet special) segment]) =
      segments ++ [percentEncode (segmentSet special) segment] := by
  apply appendBase_append
  rw [ne_eq, percentEncode_segment_eq_nil_iff]
  exact ordinary.nonempty

/-- Whatever is appended, only the last segment can be taken away, and another one comes in its place. -/
theorem exists_appendSegment_eq (front : List (List Char)) {last : List Char} (nonempty : last ≠ [])
    (segment : List Char) :
    ∃ next rest, appendSegment special (front ++ [last]) segment = front ++ next :: rest := by
  have base : appendBase (front ++ [last]) = front ++ [last] := appendBase_append _ nonempty
  by_cases dots : segment = ['.'] ∨ segment = ['.', '.']
  · exact ⟨last, [], by rw [appendSegment, if_pos dots]⟩
  rw [not_or] at dots
  by_cases dot : visible segment = ['.']
  · refine ⟨last, [[]], ?_⟩
    rw [appendSegment_of_visible_dot special _ dots.1 dot, base, List.append_assoc]
    rfl
  by_cases twoDots : visible segment = ['.', '.']
  · rw [appendSegment_of_visible_dots special _ dots.2 twoDots, base]
    cases drive : isDrive last with
    | true => exact ⟨last, [[]], by simp [shorten, drive]⟩
    | false => exact ⟨[], [], by rw [shorten_append front drive]⟩
  · refine ⟨last, [writtenSegment special segment], ?_⟩
    rw [appendSegment_of_visible special _ dot twoDots, base, List.append_assoc]
    rfl

/-! ## URLs -/

/-- The segments of a URL that stay when segments are appended: all but one empty last segment. -/
def ownSegments (url : Url) : List (List Char) :=
  match url.path with
  | .plain _ => []
  | .segments segments => if segments.getLast? = some [] then segments.dropLast else segments

/-- Appending starts behind the segments that stay, unless the path is two slashes. -/
theorem appendBase_popEmpty {url : Url} {segments : List (List Char)}
    (path : url.path = .segments segments) (notSlashes : segments ≠ [[], []]) :
    appendBase (popEmpty segments) = url.ownSegments := by
  simp only [ownSegments, path, popEmpty]
  by_cases empty : segments.getLast? = some []
  · obtain ⟨front, rfl⟩ := List.getLast?_eq_some_iff.mp empty
    rw [if_pos empty, List.dropLast_concat]
    cases front with
    | nil => rfl
    | cons first rest =>
      have single : first :: rest ≠ [[]] := by
        intro same
        exact notSlashes (by rw [same]; rfl)
      rw [if_pos ⟨by simp, empty⟩, appendBase, if_neg single]
  · have notSingle : segments ≠ [[]] := by
      rintro rfl
      exact empty rfl
    simp [empty, appendBase, notSingle]

/-- The path of an endpoint that is extended by segments of which the first is ordinary. -/
theorem path_extend {url : Url} (base : url.isBase = true)
    (notSlashes : url.path ≠ .segments [[], []])
    (ordinary : Ordinary segment) (added : List (List Char)) :
    (url.extend (segment :: added)).path =
      .segments (added.foldl (appendSegment (isSpecial url.scheme))
        (url.ownSegments ++ [percentEncode (segmentSet (isSpecial url.scheme)) segment])) := by
  match path : url.path with
  | .plain text => simp [isBase, path] at base
  | .segments segments =>
    have notEmpty : segments ≠ [[], []] := by
      rintro rfl
      exact notSlashes path
    simp only [extend, path, appendSegments, List.foldl_cons]
    rw [appendSegment_of_ordinary _ _ ordinary, appendBase_popEmpty path notEmpty]

@[simp] theorem scheme_extend (url : Url) (added : List (List Char)) :
    (url.extend added).scheme = url.scheme := by
  unfold extend
  split <;> rfl

@[simp] theorem authority_extend (url : Url) (added : List (List Char)) :
    (url.extend added).authority = url.authority := by
  unfold extend
  split <;> rfl

@[simp] theorem query_extend (url : Url) (added : List (List Char)) :
    (url.extend added).query = url.query := by
  unfold extend
  split <;> rfl

@[simp] theorem fragment_extend (url : Url) (added : List (List Char)) :
    (url.extend added).fragment = url.fragment := by
  unfold extend
  split <;> rfl

end NodeLookup.Url
