import LabelExpansion.Text.Quotation

/-!
# JSON strings determine their texts

A character is written inside a JSON string in one of three ways: as itself, as a backslash with a
letter, or as a backslash with `u` and four digits. The front of what is written shows which way it
is and where it ends, so characters are told apart one after another.
-/
namespace LabelExpansion.Quotation

/-- The letters of the short escapes, each with the character that it stands for. -/
def shortEscapes : List (Char × Char) :=
  [('"', '"'), ('\\', '\\'), ('b', '\x08'), ('t', '\x09'), ('n', '\x0a'), ('f', '\x0c'),
    ('r', '\x0d')]

/-- The three ways in which a character is written inside a JSON string. -/
inductive Written (c : Char) : Text → Prop where
  | plain : c ≠ '\\' → Written c [c]
  | short (letter : Char) : (letter, c) ∈ shortEscapes → Written c ['\\', letter]
  | coded : c.toNat < 0x20 → Written c ('\\' :: 'u' :: fourDigits c.toNat)

theorem written_jsonCharacter (c : Char) : Written c (jsonCharacter c) := by
  unfold jsonCharacter
  split
  next => exact .short _ (by decide)
  next => exact .short _ (by decide)
  next => exact .short _ (by decide)
  next => exact .short _ (by decide)
  next => exact .short _ (by decide)
  next => exact .short _ (by decide)
  next => exact .short _ (by decide)
  next notBackslash _ _ _ _ _ =>
    split
    next small => exact .coded small
    next => exact .plain notBackslash

theorem eq_of_shortEscapes {letter c d : Char} (first : (letter, c) ∈ shortEscapes)
    (second : (letter, d) ∈ shortEscapes) : c = d := by
  have functional : ∀ left ∈ shortEscapes, ∀ right ∈ shortEscapes,
      left.1 = right.1 → left.2 = right.2 := by decide
  exact functional _ first _ second rfl

theorem eq_of_fourDigits {c d : Char} (smallLeft : c.toNat < 0x20) (smallRight : d.toNat < 0x20)
    (same : fourDigits c.toNat = fourDigits d.toNat) : c = d := by
  have injective : ∀ left < 0x20, ∀ right < 0x20,
      fourDigits left = fourDigits right → left = right := by decide
  exact Char.toNat_inj.mp (injective _ smallLeft _ smallRight same)

/-- What follows a written character does not change which character it is. -/
theorem Written.append_inj {c d : Char} {left right xs ys : Text} (first : Written c left)
    (second : Written d right) (same : left ++ xs = right ++ ys) : c = d ∧ xs = ys := by
  have notShort : ∀ d, ('u', d) ∉ shortEscapes := by
    intro d member
    simp [shortEscapes] at member
  -- A backslash starts an escape, and the sign behind it tells a short one from a coded one.
  cases first with
  | plain notBackslash =>
    cases second with
    | plain => simpa using same
    | short letter => exact absurd (List.cons.inj same).1 notBackslash
    | coded => exact absurd (List.cons.inj same).1 notBackslash
  | short letter listed =>
    cases second with
    | plain notBackslash => exact absurd (List.cons.inj same).1.symm notBackslash
    | short other again =>
      simp only [List.cons_append, List.nil_append, List.cons.injEq, true_and] at same
      obtain ⟨rfl, behind⟩ := same
      exact ⟨eq_of_shortEscapes listed again, behind⟩
    | coded =>
      simp only [List.cons_append, List.cons.injEq, true_and] at same
      obtain ⟨rfl, -⟩ := same
      exact absurd listed (notShort c)
  | coded small =>
    cases second with
    | plain notBackslash => exact absurd (List.cons.inj same).1.symm notBackslash
    | short letter listed =>
      simp only [List.cons_append, List.cons.injEq, true_and] at same
      obtain ⟨rfl, -⟩ := same
      exact absurd listed (notShort d)
    | coded again =>
      simp only [List.cons_append, List.cons.injEq, true_and] at same
      obtain ⟨digits, behind⟩ := List.append_inj same rfl
      exact ⟨eq_of_fourDigits small again digits, behind⟩

theorem Written.ne_nil {c : Char} {text : Text} (written : Written c text) : text ≠ [] := by
  cases written <;> exact List.cons_ne_nil _ _

/-- Different texts have different JSON strings. -/
theorem json_injective {left right : Text} (same : json left = json right) : left = right := by
  have inner : left.flatMap jsonCharacter = right.flatMap jsonCharacter :=
    List.append_cancel_right (List.cons.inj same).2
  clear same
  induction left generalizing right with
  | nil =>
    cases right with
    | nil => rfl
    | cons d others =>
      have empty := (List.append_eq_nil_iff.mp inner.symm).1
      exact absurd empty (written_jsonCharacter d).ne_nil
  | cons c rest ih =>
    cases right with
    | nil =>
      have empty := (List.append_eq_nil_iff.mp inner).1
      exact absurd empty (written_jsonCharacter c).ne_nil
    | cons d others =>
      -- No way to write a character is the beginning of another one.
      obtain ⟨rfl, later⟩ :=
        (written_jsonCharacter c).append_inj (written_jsonCharacter d) inner
      rw [ih later]

end LabelExpansion.Quotation
