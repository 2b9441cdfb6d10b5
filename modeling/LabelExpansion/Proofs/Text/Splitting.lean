import LabelExpansion.Proofs.Text.Occurrence

/-!
# Splitting at a pattern

Each kind of pattern has searches of its own: a single character is compared with one byte at a
time, two characters with every pair of neighbours, overlapping ones included. The main statement
says that the offsets which these searches report are valid positions of the string, so that
cutting there never fails; that a text is split at the first occurrence of the pattern, or does not
hold the pattern; and that stripping is splitting with nothing in front.
-/
namespace LabelExpansion

namespace Text

theorem length_utf8 (text : Text) : (utf8 text).length = (spell text).utf8ByteSize := by
  rw [spell, ← String.size_toByteArray, ← toByteArray_utf8, List.size_toByteArray]

/-- A text can be cut at the valid positions of its string and at no other offsets. -/
theorem cutAt?_isSome_iff (text : Text) (offset : Nat) :
    (cutAt? text offset).isSome ↔ String.Pos.Raw.IsValid (spell text) ⟨offset⟩ := by
  rw [spell, String.Pos.Raw.isValid_ofList]
  constructor
  · intro cut
    obtain ⟨⟨before, after⟩, cut⟩ := Option.isSome_iff_exists.mp cut
    obtain ⟨rfl, rfl⟩ := (cutAt?_eq_some_iff _ _ _ _).mp cut
    refine ⟨before.length, ?_⟩
    rw [List.take_left, length_utf8, spell]
  · rintro ⟨count, size⟩
    have cut := (cutAt?_eq_some_iff text (text.take count) (text.drop count) offset).mpr
      ⟨(List.take_append_drop count text).symm, by rw [length_utf8, spell]; exact size⟩
    rw [cut]
    rfl

/-- What stands in front of one offset and behind another, both of which are valid positions of the
string, so that slicing it there succeeds. -/
structure Sliced (text : Text) (start stop : Nat) (before after : Text) : Prop where
  startValid : String.Pos.Raw.IsValid (spell text) ⟨start⟩
  stopValid : String.Pos.Raw.IsValid (spell text) ⟨stop⟩
  before_eq : utf8 before = (utf8 text).take start
  after_eq : utf8 after = (utf8 text).drop stop

end Text

namespace AsciiPattern

/-! ## The searches of each kind -/

/-- The first hit of a search that looks at single bytes for one character and at pairs of
neighbours for two. -/
def hit? : AsciiPattern → List UInt8 → Option Nat
  | one c, bytes => bytes.findIdx? (· == c.byte)
  | two c d, bytes => (bytes.zip bytes.tail).findIdx? (· == (c.byte, d.byte))

/-- Whether as many bytes in front as a pattern has are those of the pattern. -/
def opens : AsciiPattern → List UInt8 → Bool
  | one c, bytes => bytes.head? == some c.byte
  | two c d, bytes => bytes.take 2 == [c.byte, d.byte]

theorem firstOffset?_singleton (needle : UInt8) (bytes : List UInt8) :
    firstOffset? [needle] bytes = bytes.findIdx? (· == needle) := by
  induction bytes with
  | nil => rfl
  | cons byte rest ih =>
    rw [firstOffset?, ih, List.findIdx?_cons, List.isPrefixOf_cons_cons, List.isPrefixOf_nil_left,
      Bool.and_true, Bool.beq_comm]

theorem firstOffset?_pair (first second : UInt8) (bytes : List UInt8) :
    firstOffset? [first, second] bytes =
      (bytes.zip bytes.tail).findIdx? (· == (first, second)) := by
  induction bytes with
  | nil => rfl
  | cons byte rest ih =>
    cases rest with
    | nil => simp [firstOffset?]
    | cons next more =>
      rw [firstOffset?, ih, List.tail_cons, List.tail_cons, List.zip_cons_cons, List.findIdx?_cons]
      -- A pattern stands in front when the first pair is that of its bytes.
      simp only [List.isPrefixOf_cons_cons, List.isPrefixOf_nil_left, Bool.and_true,
        Bool.and_eq_true, beq_iff_eq, Prod.mk.injEq, eq_comm (a := byte), eq_comm (a := next)]

/-- Searching from byte to byte for all of a pattern finds what the search of its kind finds. -/
theorem firstIndex?_eq_hit? (pattern : AsciiPattern) (text : Text) :
    pattern.firstIndex? text = pattern.hit? (Text.utf8 text) := by
  cases pattern with
  | one c => exact firstOffset?_singleton c.byte _
  | two c d => exact firstOffset?_pair c.byte d.byte _

theorem begins_eq_opens (pattern : AsciiPattern) (text : Text) :
    pattern.begins text = pattern.opens (Text.utf8 text) := by
  rw [begins, Bool.eq_iff_iff, List.isPrefixOf_iff_prefix, List.prefix_iff_eq_take]
  cases pattern with
  | one c =>
    cases Text.utf8 text with
    | nil => simp [bytes, opens]
    | cons byte rest => simp [bytes, opens, eq_comm (a := c.byte)]
  | two c d => rw [opens, beq_iff_eq, bytes, eq_comm, List.length_cons, List.length_singleton]

/-! ## Cuts that do not fail -/

variable {pattern : AsciiPattern}

theorem FirstOccurrence.sliced {text before after : Text}
    (found : pattern.FirstOccurrence text before after) :
    Text.Sliced text (Text.utf8 before).length
      ((Text.utf8 before).length + pattern.byteLength) before after where
  startValid := by
    rw [← Text.cutAt?_isSome_iff, found.cutAt?_start]
    rfl
  stopValid := by
    rw [← Text.cutAt?_isSome_iff, found.cutAt?_stop]
    rfl
  before_eq := by
    rw [found.whole, Text.utf8_append, List.take_left]
  after_eq := by
    -- The second offset counts the bytes of what stands in front together with the pattern.
    rw [found.whole, byteLength_eq, ← List.length_append, ← Text.utf8_append, ← List.append_assoc,
      Text.utf8_append (before ++ pattern.text), List.drop_left]

theorem split?_of_firstIndex? {text : Text} {offset : Nat}
    (hit : pattern.firstIndex? text = some offset) :
    ∃ before after, pattern.split? text = some (before, after) ∧
      Text.Sliced text offset (offset + pattern.byteLength) before after := by
  obtain ⟨before, after, found, rfl⟩ := (firstIndex?_eq_some_iff text offset).mp hit
  exact ⟨before, after, (split?_eq_some_iff text before after).mpr found, found.sliced⟩

/-- Stripping is splitting with nothing in front. -/
theorem strip?_eq_some_iff_split? (text rest : Text) :
    pattern.strip? text = some rest ↔ pattern.split? text = some ([], rest) := by
  rw [strip?_eq_some_iff, split?_eq_some_iff]
  constructor
  · rintro rfl
    exact (firstOccurrence_of_begins rest [] rest).mpr ⟨rfl, rfl⟩
  · exact FirstOccurrence.whole

theorem begins_iff_firstIndex? (text : Text) :
    pattern.begins text = true ↔ pattern.firstIndex? text = some 0 := by
  constructor
  · exact pattern.firstIndex?_of_begins text
  · intro hit
    obtain ⟨before, after, found, start⟩ := (firstIndex?_eq_some_iff text 0).mp hit
    have empty : before = [] := by
      apply Text.utf8_injective before []
      exact List.eq_nil_of_length_eq_zero start.symm
    rw [begins_iff, found.whole, empty]
    exact List.prefix_append pattern.text after

theorem strip?_of_begins {text : Text} (begun : pattern.begins text = true) :
    ∃ rest, pattern.strip? text = some rest ∧ Text.Sliced text 0 pattern.byteLength [] rest := by
  obtain ⟨rest, whole⟩ := (pattern.begins_iff text).mp begun
  have stripped := (strip?_eq_some_iff text rest).mpr whole.symm
  have found := (split?_eq_some_iff text [] rest).mp
    ((strip?_eq_some_iff_split? text rest).mp stripped)
  refine ⟨rest, stripped, ?_⟩
  simpa using found.sliced

/-- A text is split at the first occurrence of a pattern, also where occurrences overlap or wider
characters stand around it, and it is not split when it does not hold the pattern. The searches
agree: what is stripped is split with nothing in front, and every hit is a place to slice at. -/
theorem patterns_split_at_first_occurrence (pattern : AsciiPattern) (text : Text) :
    (∀ before after, pattern.split? text = some (before, after) ↔
      pattern.FirstOccurrence text before after) ∧
    (pattern.split? text = none ↔ ¬ pattern.text <:+: text) ∧
    (∀ rest, pattern.strip? text = some rest ↔ text = pattern.text ++ rest) ∧
    (∀ rest, pattern.strip? text = some rest ↔ pattern.split? text = some ([], rest)) ∧
    (∀ offset, pattern.firstIndex? text = some offset → ∃ before after,
      pattern.split? text = some (before, after) ∧
      Text.Sliced text offset (offset + pattern.byteLength) before after) ∧
    (pattern.begins text = true → ∃ rest, pattern.strip? text = some rest ∧
      Text.Sliced text 0 pattern.byteLength [] rest) ∧
    (pattern.begins text = true ↔ pattern.firstIndex? text = some 0) ∧
    pattern.firstIndex? text = pattern.hit? (Text.utf8 text) ∧
    pattern.begins text = pattern.opens (Text.utf8 text) := by
  refine ⟨split?_eq_some_iff text, split?_eq_none_iff text, strip?_eq_some_iff text,
    strip?_eq_some_iff_split? text, ?_, strip?_of_begins, begins_iff_firstIndex? text,
    firstIndex?_eq_hit? pattern text, begins_eq_opens pattern text⟩
  intro offset hit
  exact split?_of_firstIndex? hit

/-- Of the two places at which slashes meet, the first is taken. -/
example : slashes.split? "é///ü".toList = some (['é'], ['/', 'ü']) := by decide

end AsciiPattern

end LabelExpansion
