import LabelExpansion.Proofs.Path.Flaw

/-!
# The verdict on a path

A path is passed when it is empty or made of plain segments, and otherwise it is refused for one
reason: a slash in front, a slash at the end, or the leftmost bad segment, in this order. The
verdict looks at a path through its segments alone. Plain segments therefore take no part in it,
whatever dots they are made of, and one may be put in the place of another.
-/
namespace LabelExpansion

theorem Text.joined_append (separator : Char) (left right : List Text) (leftInhabited : left ≠ [])
    (rightInhabited : right ≠ []) :
    joined separator (left ++ right) =
      joined separator left ++ separator :: joined separator right := by
  induction left with
  | nil => exact absurd rfl leftInhabited
  | cons first others ih =>
    cases others with
    | nil =>
      obtain ⟨second, more, rfl⟩ := List.exists_cons_of_ne_nil rightInhabited
      rw [List.singleton_append, joined_cons_cons, joined_singleton]
    | cons second more =>
      rw [List.cons_append, List.cons_append, joined_cons_cons, joined_cons_cons,
        ← List.cons_append, ih (by simp), List.append_assoc, List.cons_append]

namespace Path

/-! ## Slashes at the ends, seen in the segments -/

theorem head?_segments_iff {path : Text} (inhabited : path ≠ []) :
    (segments path).head? = some [] ↔ path.head? = some '/' := by
  cases path with
  | nil => exact absurd rfl inhabited
  | cons c rest =>
    rw [segments, Text.pieces]
    cases cut : Text.pieces '/' rest with
    | nil => exact absurd cut (Text.pieces_ne_nil '/' rest)
    | cons first others =>
      by_cases slash : c = '/'
      · simp [slash]
      · simp [slash]

theorem getLast?_segments_iff {path : Text} (inhabited : path ≠ []) :
    (segments path).getLast? = some [] ↔ path.getLast? = some '/' := by
  constructor
  · intro ended
    obtain ⟨name, last⟩ := exists_lastSegment path
    rw [last.getLast?_segments, Option.some.injEq] at ended
    rcases last.ending with rfl | ⟨directory, rfl⟩
    · exact absurd ended inhabited
    · rw [ended, List.getLast?_concat]
  · intro slash
    obtain ⟨front, rfl⟩ := List.getLast?_eq_some_iff.mp slash
    rw [segments, Text.pieces_append_cons]
    simp [Text.pieces]

theorem segments_eq_iff (path : Text) : segments path = [[]] ↔ path = [] := by
  constructor
  · intro cut
    rw [← Text.joined_pieces '/' path]
    rw [segments] at cut
    rw [cut, Text.joined_singleton]
  · rintro rfl
    rfl

/-- The verdict on a path by its segments. -/
theorem flaw?_eq_of_segments (path : Text) :
    flaw? path =
      if segments path = [[]] then none
      else if (segments path).head? = some [] then some .leadingSlash
      else if (segments path).getLast? = some [] then some .trailingSlash
      else (segments path).findSome? segmentFlaw? := by
  by_cases empty : path = []
  · rw [flaw?, if_pos empty, if_pos ((segments_eq_iff path).mpr empty)]
  · simp only [flaw?, empty, if_false, segments_eq_iff, head?_segments_iff empty,
      getLast?_segments_iff empty]

theorem segments_joined {before after : List Text} {segment : Text}
    (unbroken : ∀ part ∈ before ++ after, '/' ∉ part) (whole : '/' ∉ segment) :
    segments (Text.joined '/' (before ++ segment :: after)) = before ++ segment :: after := by
  refine Text.pieces_joined '/' _ (by simp) ?_
  intro part member
  simp only [List.mem_append, List.mem_cons] at member unbroken
  rcases member with front | rfl | back
  · exact unbroken part (.inl front)
  · exact whole
  · exact unbroken part (.inr back)

/-- Around a plain segment the verdict is that on the segments before and behind it. -/
theorem flaw?_joined_plain {before after : List Text} {segment : Text}
    (unbroken : ∀ part ∈ before ++ after, '/' ∉ part) (plain : Plain segment) :
    flaw? (Text.joined '/' (before ++ segment :: after)) =
      if before.head? = some [] then some .leadingSlash
      else if after.getLast? = some [] then some .trailingSlash
      else (before.findSome? segmentFlaw?).or (after.findSome? segmentFlaw?) := by
  -- The segment is not empty, so it is neither a slash at an end nor the empty path.
  have inhabited := plain.inhabited
  have front : (before ++ segment :: after).head? = some [] ↔ before.head? = some [] := by
    cases before <;> simp [inhabited]
  have back : (before ++ segment :: after).getLast? = some [] ↔ after.getLast? = some [] := by
    cases after <;> simp [inhabited]
  have several : before ++ segment :: after ≠ [[]] := by
    intro alone
    have member : segment ∈ before ++ segment :: after := by simp
    rw [alone, List.mem_singleton] at member
    exact inhabited member
  rw [flaw?_eq_of_segments, segments_joined unbroken plain.unbroken, if_neg several]
  simp only [front, back, List.findSome?_append, List.findSome?_cons, segmentFlaw?_of_plain plain]

theorem plain_dot_cons {rest : Text} (inhabited : rest ≠ []) (unbroken : '/' ∉ rest)
    (notDot : rest ≠ ['.']) : Plain ('.' :: rest) where
  inhabited := by simp
  unbroken := by simp [unbroken]
  notDot := by simp [inhabited]
  notDotDot := by simp [notDot]

/-! ## The leftmost bad segment -/

/-- The leftmost segment of a path that is no plain name, and what it is instead. -/
def LeftmostBad (path : Text) (flaw : PathFlaw) : Prop :=
  ∃ before bad after, path = Text.joined '/' (before ++ bad :: after) ∧
    (∀ segment ∈ before, Plain segment) ∧ BadSegment bad flaw ∧ ∀ segment ∈ after, '/' ∉ segment

theorem BadSegment.unbroken {segment : Text} {flaw : PathFlaw} (bad : BadSegment segment flaw) :
    '/' ∉ segment := by
  cases bad <;> decide

theorem leftmostBad_iff (path : Text) (flaw : PathFlaw) :
    LeftmostBad path flaw ↔ ∃ before bad after, segments path = before ++ bad :: after ∧
      (∀ segment ∈ before, Plain segment) ∧ BadSegment bad flaw := by
  constructor
  · rintro ⟨before, bad, after, rfl, plain, wrong, unbroken⟩
    refine ⟨before, bad, after, segments_joined ?_ wrong.unbroken, plain, wrong⟩
    exact List.forall_mem_append.mpr ⟨fun part front => (plain part front).unbroken, unbroken⟩
  · rintro ⟨before, bad, after, cut, plain, wrong⟩
    refine ⟨before, bad, after, by rw [← cut]; exact (Text.joined_pieces '/' path).symm, plain,
      wrong, ?_⟩
    intro segment member
    apply Text.separator_not_mem_pieces '/' path
    change segment ∈ segments path
    rw [cut]
    simp [member]

/-- Between the slashes of both ends, an empty segment lies between two slashes. -/
theorem slashes_of_leftmostBad {path : Text} (inhabited : path ≠ [])
    (front : path.head? ≠ some '/') (back : path.getLast? ≠ some '/')
    (bad : LeftmostBad path .emptySegment) : ['/', '/'] <:+: path := by
  obtain ⟨before, _, after, rfl, -, ⟨⟩, -⟩ := bad
  cases before with
  | nil =>
    cases after with
    | nil => simp at inhabited
    | cons second more => simp at front
  | cons first others =>
    rw [Text.joined_append '/' _ _ (by simp) (by simp)] at back ⊢
    cases after with
    | nil => simp at back
    | cons second more =>
      rw [Text.joined_cons_cons, List.nil_append]
      exact ⟨Text.joined '/' (first :: others), Text.joined '/' (second :: more), by simp⟩

theorem flaw?_eq_some_segment_iff (path : Text) (flaw : PathFlaw)
    (notLeading : flaw ≠ .leadingSlash) (notTrailing : flaw ≠ .trailingSlash) :
    flaw? path = some flaw ↔ path ≠ [] ∧ path.head? ≠ some '/' ∧ path.getLast? ≠ some '/' ∧
      LeftmostBad path flaw := by
  rw [flaw?_eq_some_iff, leftmostBad_iff]
  constructor
  · intro flawed
    cases flawed with
    | leadingSlash => exact absurd rfl notLeading
    | trailingSlash => exact absurd rfl notTrailing
    | segment before bad after _ inhabited front back cut plain wrong =>
      exact ⟨inhabited, front, back, before, bad, after, cut, plain, wrong⟩
  · rintro ⟨inhabited, front, back, before, bad, after, cut, plain, wrong⟩
    exact .segment before bad after flaw inhabited front back cut plain wrong

theorem flaw?_eq_leadingSlash_iff (path : Text) :
    flaw? path = some .leadingSlash ↔ path.head? = some '/' := by
  rw [flaw?_eq_some_iff]
  constructor
  · intro flawed
    cases flawed with
    | leadingSlash front => exact front
    | segment _ _ _ _ _ _ _ _ _ wrong => cases wrong
  · exact .leadingSlash

theorem flaw?_eq_trailingSlash_iff (path : Text) :
    flaw? path = some .trailingSlash ↔ path.head? ≠ some '/' ∧ path.getLast? = some '/' := by
  rw [flaw?_eq_some_iff]
  constructor
  · intro flawed
    cases flawed with
    | trailingSlash front back => exact ⟨front, back⟩
    | segment _ _ _ _ _ _ _ _ _ wrong => cases wrong
  · rintro ⟨front, back⟩
    exact .trailingSlash front back

/-- A path is passed when it is empty or one or more plain segments with a slash between each two.
Otherwise it is refused for a slash in front, before a slash at the end, before the leftmost bad
segment. Plain segments never change what is said, and all that begin with a dot are plain but `.`
and `..`. -/
theorem verdict_tells_first_reason (path : Text) :
    (flaw? path = none ↔ path = [] ∨ Segmented path) ∧
    (flaw? path = some .leadingSlash ↔ path.head? = some '/') ∧
    (flaw? path = some .trailingSlash ↔ path.head? ≠ some '/' ∧ path.getLast? = some '/') ∧
    (∀ flaw, flaw ≠ .leadingSlash → flaw ≠ .trailingSlash → (flaw? path = some flaw ↔
      path ≠ [] ∧ path.head? ≠ some '/' ∧ path.getLast? ≠ some '/' ∧ LeftmostBad path flaw)) ∧
    (flaw? path = some .emptySegment → ['/', '/'] <:+: path) ∧
    (∀ before segment other after, path = Text.joined '/' (before ++ segment :: after) →
      (∀ part ∈ before ++ after, '/' ∉ part) → Plain segment → Plain other →
      flaw? (Text.joined '/' (before ++ other :: after)) = flaw? path) ∧
    (∀ rest : Text, rest ≠ [] → '/' ∉ rest → rest ≠ ['.'] → Plain ('.' :: rest)) := by
  refine ⟨flaw?_eq_none_iff path, flaw?_eq_leadingSlash_iff path, flaw?_eq_trailingSlash_iff path,
    flaw?_eq_some_segment_iff path, ?_, ?_, fun rest => plain_dot_cons⟩
  · intro refused
    obtain ⟨inhabited, front, back, bad⟩ :=
      (flaw?_eq_some_segment_iff path _ (by decide) (by decide)).mp refused
    exact slashes_of_leftmostBad inhabited front back bad
  · rintro before segment other after rfl unbroken plain plainToo
    rw [flaw?_joined_plain unbroken plain, flaw?_joined_plain unbroken plainToo]

end Path

end LabelExpansion
