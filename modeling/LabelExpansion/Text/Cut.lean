import LabelExpansion.Text.Basic

/-!
# Cutting a text at a byte offset

Offsets that come from a search in the bytes of a text need not fall between two characters. A cut
therefore gives nothing for an offset inside a character or past the end. The main statement says
that the offsets at which it succeeds are exactly the lengths of the beginnings of the text.
-/
namespace LabelExpansion.Text

/-- Cuts a text at a byte offset; `none` if the offset falls inside a character or past the end. -/
def cutAt? : Text → Nat → Option (Text × Text)
  | text, 0 => some ([], text)
  | [], _ + 1 => none
  | c :: rest, offset + 1 =>
    if c.utf8Size ≤ offset + 1 then
      (cutAt? rest (offset + 1 - c.utf8Size)).map fun (before, after) => (c :: before, after)
    else none

/-- A cut succeeds exactly between the bytes of two texts that make up the whole. -/
theorem cutAt?_eq_some_iff (text before after : Text) (offset : Nat) :
    cutAt? text offset = some (before, after) ↔
      text = before ++ after ∧ offset = (utf8 before).length := by
  induction text generalizing before offset with
  | nil =>
    cases offset with
    | zero =>
      cases before with
      | nil => simp [cutAt?, eq_comm]
      | cons c rest => simp [cutAt?]
    | succ offset =>
      cases before with
      | nil => simp [cutAt?]
      | cons c rest => simp [cutAt?]
  | cons c rest ih =>
    cases offset with
    | zero =>
      cases before with
      | nil => simp [cutAt?, eq_comm]
      | cons d others =>
        -- No front is cut off at the start, since every character has a byte.
        have positive := Char.utf8Size_pos d
        simp only [cutAt?, Option.some.injEq, Prod.mk.injEq, List.nil_eq, reduceCtorEq,
          false_and, false_iff, not_and, utf8_cons, List.length_append,
          String.length_utf8EncodeChar]
        omega
    | succ offset =>
      cases before with
      | nil =>
        simp only [cutAt?, utf8_nil, List.length_nil, Nat.add_one_ne_zero, and_false,
          iff_false]
        split <;> simp
      | cons d others =>
        simp only [cutAt?, utf8_cons, List.length_append, String.length_utf8EncodeChar,
          List.cons_append, List.cons.injEq]
        -- The first character is part of the front when all its bytes are.
        split
        next fits =>
          rw [Option.map_eq_some_iff]
          constructor
          · rintro ⟨⟨front, back⟩, cut, whole⟩
            simp only [Prod.mk.injEq, List.cons.injEq] at whole
            obtain ⟨⟨rfl, rfl⟩, rfl⟩ := whole
            obtain ⟨rfl, length⟩ := (ih _ _).mp cut
            exact ⟨⟨rfl, rfl⟩, by omega⟩
          · rintro ⟨⟨rfl, rfl⟩, length⟩
            exact ⟨(others, after), (ih _ _).mpr ⟨rfl, by omega⟩, rfl⟩
        next long =>
          simp only [reduceCtorEq, false_iff, not_and]
          rintro ⟨rfl, -⟩ length
          omega

end LabelExpansion.Text
