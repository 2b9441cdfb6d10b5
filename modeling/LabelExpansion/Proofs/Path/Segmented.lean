import LabelExpansion.Path.Normal

/-!
# Segmented paths

A path is segmented when it is one or more plain names with a slash between each two. Segmented
paths are exactly the normalized paths that are not empty, and what stands behind the last slash of
one is a plain name again. The pieces of a path carry both arguments: cutting at a slash distributes
over putting two paths together, so a slash at either end shows up as an empty piece.
-/
namespace LabelExpansion

namespace Text

variable (separator : Char)

theorem pieces_of_unbroken (text : Text) (unbroken : separator ∉ text) :
    pieces separator text = [text] := by
  have cut := pieces_append separator text [] [] [] unbroken rfl
  rwa [List.append_nil] at cut

/-- The pieces on both sides of a separator are cut independently. -/
theorem pieces_append_cons (left right : Text) :
    pieces separator (left ++ separator :: right) =
      pieces separator left ++ pieces separator right := by
  -- A character joins the first piece behind it, and a separator starts a new one.
  induction left with
  | nil =>
    cases cut : pieces separator right with
    | nil => exact absurd cut (pieces_ne_nil separator right)
    | cons first others => simp [pieces, cut]
  | cons c rest ih =>
    rw [List.cons_append]
    cases cut : pieces separator rest with
    | nil => exact absurd cut (pieces_ne_nil separator rest)
    | cons first others =>
      rw [cut, List.cons_append] at ih
      simp only [pieces, ih, cut]
      split <;> rfl

end Text

namespace Path

/-- A segment that names a file or a directory below the one before it. -/
structure Plain (segment : Text) : Prop where
  inhabited : segment ≠ []
  unbroken : '/' ∉ segment
  notDot : segment ≠ ['.']
  notDotDot : segment ≠ ['.', '.']

/-- One or more plain segments with a slash between each two. -/
def Segmented (path : Text) : Prop :=
  ∃ segments : List Text, segments ≠ [] ∧ (∀ segment ∈ segments, Plain segment) ∧
    path = Text.joined '/' segments

/-- What stands behind the last slash of a path, or the whole path if it has none. -/
structure LastSegment (path name : Text) : Prop where
  unbroken : '/' ∉ name
  ending : path = name ∨ ∃ directory, path = directory ++ '/' :: name

theorem segmentFlaw?_eq_none_iff (segment : Text) :
    segmentFlaw? segment = none ↔ segment ≠ [] ∧ segment ≠ ['.'] ∧ segment ≠ ['.', '.'] := by
  rw [segmentFlaw?.eq_def]
  split <;> simp_all

/-- The segments of a segmented path are the pieces between its slashes. -/
theorem segmented_iff (path : Text) :
    Segmented path ↔ ∀ segment ∈ segments path, Plain segment := by
  constructor
  · rintro ⟨parts, inhabited, plain, rfl⟩
    have unbroken : ∀ part ∈ parts, '/' ∉ part := fun part member => (plain part member).unbroken
    rw [segments, Text.pieces_joined '/' parts inhabited unbroken]
    exact plain
  · intro plain
    exact ⟨segments path, Text.pieces_ne_nil '/' path, plain, (Text.joined_pieces '/' path).symm⟩

theorem not_segmented_nil : ¬ Segmented [] := by
  intro segmented
  have plain := (segmented_iff []).mp segmented [] (by simp [segments, Text.pieces])
  exact plain.inhabited rfl

theorem Segmented.ne_nil {path : Text} (segmented : Segmented path) : path ≠ [] := by
  rintro rfl
  exact not_segmented_nil segmented

/-- Two paths joined by a slash are segmented when both are. -/
theorem segmented_append_iff (left right : Text) :
    Segmented (left ++ '/' :: right) ↔ Segmented left ∧ Segmented right := by
  rw [segmented_iff, segmented_iff, segmented_iff, segments, Text.pieces_append_cons]
  constructor
  · intro plain
    exact ⟨fun segment member => plain segment (List.mem_append_left _ member),
      fun segment member => plain segment (List.mem_append_right _ member)⟩
  · rintro ⟨leftPlain, rightPlain⟩ segment member
    rcases List.mem_append.mp member with inLeft | inRight
    · exact leftPlain segment inLeft
    · exact rightPlain segment inRight

theorem Segmented.head?_ne {path : Text} (segmented : Segmented path) :
    path.head? ≠ some '/' := by
  intro slash
  cases path with
  | nil => cases slash
  | cons c rest =>
    rw [List.head?_cons, Option.some.injEq] at slash
    subst slash
    -- In front of the slash there is nothing, which is no segment.
    exact not_segmented_nil ((segmented_append_iff [] rest).mp segmented).1

theorem Segmented.getLast?_ne {path : Text} (segmented : Segmented path) :
    path.getLast? ≠ some '/' := by
  intro slash
  obtain ⟨front, rfl⟩ := List.getLast?_eq_some_iff.mp slash
  exact not_segmented_nil ((segmented_append_iff front []).mp segmented).2

/-- Normalized paths are the segmented ones and the empty one. -/
theorem flaw?_eq_none_iff (path : Text) : flaw? path = none ↔ path = [] ∨ Segmented path := by
  by_cases empty : path = []
  · simp [flaw?, empty]
  · rw [flaw?, if_neg empty]
    constructor
    · intro normal
      right
      -- Slashes at the ends have messages of their own, but are flaws of a segment in any case.
      split at normal
      · cases normal
      · split at normal
        · cases normal
        · rw [segmented_iff]
          intro segment member
          have plain := (segmentFlaw?_eq_none_iff segment).mp
            (List.findSome?_eq_none_iff.mp normal segment member)
          have unbroken := Text.separator_not_mem_pieces '/' path segment member
          exact ⟨plain.1, unbroken, plain.2.1, plain.2.2⟩
    · intro shape
      have segmented := shape.resolve_left empty
      rw [if_neg segmented.head?_ne, if_neg segmented.getLast?_ne, List.findSome?_eq_none_iff]
      intro segment member
      have plain := (segmented_iff path).mp segmented segment member
      exact (segmentFlaw?_eq_none_iff segment).mpr ⟨plain.inhabited, plain.notDot, plain.notDotDot⟩

theorem exists_lastSegment (path : Text) : ∃ name, LastSegment path name := by
  -- The induction is on what stands in front, so a slash there ends the directory of the rest.
  induction path with
  | nil => exact ⟨[], by simp, .inl rfl⟩
  | cons c rest ih =>
    obtain ⟨name, unbroken, rfl | ⟨directory, rfl⟩⟩ := ih
    · by_cases slash : c = '/'
      · exact ⟨rest, unbroken, .inr ⟨[], by rw [slash, List.nil_append]⟩⟩
      · exact ⟨c :: rest, by simp [unbroken, Ne.symm slash], .inl rfl⟩
    · exact ⟨name, unbroken, .inr ⟨c :: directory, rfl⟩⟩

theorem LastSegment.getLast?_segments {path name : Text} (last : LastSegment path name) :
    (segments path).getLast? = some name := by
  have own := Text.pieces_of_unbroken '/' name last.unbroken
  rcases last.ending with rfl | ⟨directory, rfl⟩
  · rw [segments, own]
    rfl
  · rw [segments, Text.pieces_append_cons, own, List.getLast?_append]
    rfl

theorem fileName?_eq_some_iff (path name : Text) (inhabited : path ≠ []) :
    fileName? path = some name ↔ LastSegment path name := by
  rw [fileName?, if_neg inhabited]
  constructor
  · intro named
    -- There is a last segment in any case, and it is the one that was found.
    obtain ⟨other, last⟩ := exists_lastSegment path
    rw [last.getLast?_segments, Option.some.injEq] at named
    exact named ▸ last
  · exact LastSegment.getLast?_segments

theorem LastSegment.subset {path name : Text} (last : LastSegment path name) : name ⊆ path := by
  rcases last.ending with rfl | ⟨directory, rfl⟩
  · exact List.Subset.refl _
  · intro c member
    exact List.mem_append_right _ (List.mem_cons_of_mem _ member)

/-- The last segment of a segmented path is segmented by itself. -/
theorem LastSegment.segmented {path name : Text} (last : LastSegment path name)
    (segmented : Segmented path) : Segmented name := by
  rcases last.ending with rfl | ⟨directory, rfl⟩
  · exact segmented
  · exact ((segmented_append_iff directory name).mp segmented).2

end Path

end LabelExpansion
