import LabelExpansion.Text.Basic

/-!
# Pieces between separators

A text is cut at every separator, so a text with `n` separators has `n + 1` pieces and the empty
text has one empty piece. Joining the pieces gives the text back, and cutting a join of pieces
without separators gives back the pieces.
-/
namespace LabelExpansion.Text

/-- The pieces of a text between its separators, first to last. -/
def pieces (separator : Char) : Text → List Text
  | [] => [[]]
  | c :: rest =>
    match pieces separator rest with
    | [] => [[c]]
    | first :: others =>
      if c = separator then [] :: first :: others else (c :: first) :: others

/-- Pieces with a separator between each two neighbours. -/
def joined (separator : Char) (parts : List Text) : Text :=
  [separator].intercalate parts

variable (separator : Char)

theorem pieces_ne_nil (text : Text) : pieces separator text ≠ [] := by
  cases text with
  | nil => simp [pieces]
  | cons c rest =>
    simp only [pieces]
    split
    · simp
    · split <;> simp

@[simp] theorem joined_singleton (part : Text) : joined separator [part] = part := by
  simp [joined, List.intercalate]

@[simp] theorem joined_cons_cons (first second : Text) (others : List Text) :
    joined separator (first :: second :: others) =
      first ++ separator :: joined separator (second :: others) := by
  simp [joined, List.intercalate, List.intersperse]

/-- Cutting loses nothing. -/
@[simp] theorem joined_pieces (text : Text) : joined separator (pieces separator text) = text := by
  induction text with
  | nil => simp [pieces]
  | cons c rest ih =>
    cases cut : pieces separator rest with
    | nil => exact absurd cut (pieces_ne_nil separator rest)
    | cons first others =>
      rw [cut] at ih
      by_cases same : c = separator
      · simp [pieces, cut, same, ih]
      · cases others with
        | nil => simpa [pieces, cut, same] using ih
        | cons second more =>
          rw [joined_cons_cons] at ih
          simp [pieces, cut, same, ih]

theorem separator_not_mem_pieces (text part : Text) (member : part ∈ pieces separator text) :
    separator ∉ part := by
  induction text generalizing part with
  | nil => simp_all [pieces]
  | cons c rest ih =>
    cases cut : pieces separator rest with
    | nil => exact absurd cut (pieces_ne_nil separator rest)
    | cons first others =>
      rw [cut] at ih
      -- A separator starts a piece of its own; any other character goes to the first one.
      by_cases same : c = separator
      · simp only [pieces, cut, same, if_pos, List.mem_cons] at member
        rcases member with rfl | rfl | later
        · simp
        · exact ih _ (by simp)
        · exact ih _ (by simp [later])
      · simp only [pieces, cut, same, if_neg, not_false_eq_true, List.mem_cons] at member
        rcases member with rfl | later
        · simpa [Ne.symm same] using ih first (by simp)
        · exact ih _ (by simp [later])

/-- A beginning without separators ends up in the first piece. -/
theorem pieces_append (front rest first : Text) (others : List Text)
    (unbroken : separator ∉ front) (cut : pieces separator rest = first :: others) :
    pieces separator (front ++ rest) = (front ++ first) :: others := by
  induction front with
  | nil => simpa using cut
  | cons c more ih =>
    simp only [List.mem_cons, not_or] at unbroken
    simp [pieces, ih unbroken.2, Ne.symm unbroken.1]

theorem pieces_joined (parts : List Text) (inhabited : parts ≠ [])
    (unbroken : ∀ part ∈ parts, separator ∉ part) :
    pieces separator (joined separator parts) = parts := by
  induction parts with
  | nil => exact absurd rfl inhabited
  | cons first others ih =>
    have headUnbroken := unbroken first (by simp)
    cases others with
    | nil => simpa using pieces_append separator first [] [] [] headUnbroken rfl
    | cons second more =>
      have tail := ih (by simp) fun part member => unbroken part (by simp_all)
      rw [joined_cons_cons]
      have cut : pieces separator (separator :: joined separator (second :: more)) =
          [] :: second :: more := by
        simp [pieces, tail]
      simpa using pieces_append separator first _ [] _ headUnbroken cut

end LabelExpansion.Text
