import LabelExpansion.Proofs.Path.Segmented

/-!
# The flaw of a path

The flaw that is reported of a path, said without the search for it. A slash at the front comes
before a slash at the end, and both before the segments, of which the leftmost that is no plain name
counts.
-/
namespace LabelExpansion.Path

/-- What a segment is that is no plain name. -/
inductive BadSegment : Text → PathFlaw → Prop where
  | empty : BadSegment [] .emptySegment
  | dot : BadSegment ['.'] .dotSegment
  | dotDot : BadSegment ['.', '.'] .dotDotSegment

/-- The flaw of a path, slashes at the ends first and then segments from left to right. -/
inductive Flawed (path : Text) : PathFlaw → Prop where
  | leadingSlash : path.head? = some '/' → Flawed path .leadingSlash
  | trailingSlash : path.head? ≠ some '/' → path.getLast? = some '/' → Flawed path .trailingSlash
  | segment (before : List Text) (bad : Text) (after : List Text) (flaw : PathFlaw) :
      path ≠ [] → path.head? ≠ some '/' → path.getLast? ≠ some '/' →
      segments path = before ++ bad :: after → (∀ segment ∈ before, Plain segment) →
      BadSegment bad flaw → Flawed path flaw

theorem segmentFlaw?_eq_some_iff (segment : Text) (flaw : PathFlaw) :
    segmentFlaw? segment = some flaw ↔ BadSegment segment flaw := by
  constructor
  · intro found
    rw [segmentFlaw?.eq_def] at found
    split at found
    · cases found
      exact .empty
    · cases found
      exact .dot
    · cases found
      exact .dotDot
    · cases found
  · intro bad
    cases bad <;> rfl

theorem plain_of_segmentFlaw? {path segment : Text} (member : segment ∈ segments path)
    (fine : segmentFlaw? segment = none) : Plain segment := by
  obtain ⟨inhabited, notDot, notDotDot⟩ := (segmentFlaw?_eq_none_iff segment).mp fine
  exact ⟨inhabited, Text.separator_not_mem_pieces '/' path segment member, notDot, notDotDot⟩

theorem segmentFlaw?_of_plain {segment : Text} (plain : Plain segment) :
    segmentFlaw? segment = none :=
  (segmentFlaw?_eq_none_iff segment).mpr ⟨plain.inhabited, plain.notDot, plain.notDotDot⟩

/-- The flaw of the segments is that of the leftmost one that is no plain name. -/
theorem findSome?_segmentFlaw?_eq_some_iff (path : Text) (flaw : PathFlaw) :
    (segments path).findSome? segmentFlaw? = some flaw ↔
      ∃ before bad after, segments path = before ++ bad :: after ∧
        (∀ segment ∈ before, Plain segment) ∧ BadSegment bad flaw := by
  rw [List.findSome?_eq_some_iff]
  constructor
  · rintro ⟨before, bad, after, cut, found, fine⟩
    refine ⟨before, bad, after, cut, ?_, (segmentFlaw?_eq_some_iff bad flaw).mp found⟩
    intro segment member
    have inside : segment ∈ segments path := by
      rw [cut]
      exact List.mem_append_left _ member
    exact plain_of_segmentFlaw? inside (fine segment member)
  · rintro ⟨before, bad, after, cut, plain, found⟩
    exact ⟨before, bad, after, cut, (segmentFlaw?_eq_some_iff bad flaw).mpr found,
      fun segment member => segmentFlaw?_of_plain (plain segment member)⟩

theorem flaw?_eq_some_iff (path : Text) (flaw : PathFlaw) :
    flaw? path = some flaw ↔ Flawed path flaw := by
  constructor
  · intro found
    rw [flaw?] at found
    split at found
    · cases found
    next inhabited =>
      split at found
      next front =>
        cases found
        exact .leadingSlash front
      next front =>
        split at found
        next back =>
          cases found
          exact .trailingSlash front back
        next back =>
          obtain ⟨before, bad, after, cut, plain, wrong⟩ :=
            (findSome?_segmentFlaw?_eq_some_iff path flaw).mp found
          exact .segment before bad after flaw inhabited front back cut plain wrong
  · intro flawed
    -- A path with a slash at one of its ends is not empty.
    have inhabited : path ≠ [] := by
      rintro rfl
      cases flawed with
      | leadingSlash front => cases front
      | trailingSlash front back => cases back
      | segment before bad after flaw inhabited front back cut plain wrong =>
        exact inhabited rfl
    rw [flaw?, if_neg inhabited]
    cases flawed with
    | leadingSlash front => rw [if_pos front]
    | trailingSlash front back => rw [if_neg front, if_pos back]
    | segment before bad after flaw inhabited front back cut plain wrong =>
      rw [if_neg front, if_neg back, findSome?_segmentFlaw?_eq_some_iff]
      exact ⟨before, bad, after, cut, plain, wrong⟩

end LabelExpansion.Path
