import LabelExpansion.Text.AsciiPattern

/-!
# Occurrences of patterns

Patterns are searched in bytes and found in characters. The first byte of a pattern is below 128,
every byte of a wider character is not, so a hit starts where a character starts and the search may
be followed character by character. The main statements say that a text is split at the first
occurrence of a pattern, and that it begins with a pattern exactly when the pattern can be stripped.
-/
namespace LabelExpansion

namespace Text

theorem toNat_ofNat_ascii (c : Char) (ascii : c.toNat < 128) :
    (UInt8.ofNat c.toNat).toNat = c.toNat := by
  rw [UInt8.toNat_ofNat']
  exact Nat.mod_eq_of_lt (by omega)

/-- The bytes of a character outside ASCII are outside ASCII too. -/
theorem wide_of_mem_utf8EncodeChar (c : Char) (wide : 128 ≤ c.toNat) (byte : UInt8)
    (member : byte ∈ String.utf8EncodeChar c) : 128 ≤ byte.toNat := by
  have large : ¬ c.val.toNat ≤ 0x7f := by
    intro small
    have code : c.toNat = c.val.toNat := rfl
    omega
  -- Each byte is its leading bits, which count 128 at least, plus less than what they leave.
  have tail (n : Nat) : 128 ≤ (UInt8.ofNat (n % 0x40 + 0x80)).toNat := by
    rw [UInt8.toNat_ofNat']
    omega
  have lead (n : Nat) (small : n % 256 = n) (high : 128 ≤ n) : 128 ≤ (UInt8.ofNat n).toNat := by
    rw [UInt8.toNat_ofNat']
    omega
  -- Two, three or four bytes, of which the first leads and the others follow.
  simp only [String.utf8EncodeChar, if_neg large] at member
  split at member
  · rcases List.mem_cons.mp member with rfl | later
    · exact lead _ (by omega) (by omega)
    · simp only [List.mem_singleton] at later
      rw [later]
      exact tail _
  · split at member
    · rcases List.mem_cons.mp member with rfl | later
      · exact lead _ (by omega) (by omega)
      · simp only [List.mem_cons, List.not_mem_nil, or_false] at later
        rcases later with rfl | rfl <;> exact tail _
    · rcases List.mem_cons.mp member with rfl | later
      · exact lead _ (by omega) (by omega)
      · simp only [List.mem_cons, List.not_mem_nil, or_false] at later
        rcases later with rfl | rfl | rfl <;> exact tail _

/-- An ASCII byte at the front of a text is the front character. -/
theorem eq_of_utf8_cons (first c : Char) (rest : Text) (bytes : List UInt8)
    (ascii : first.toNat < 128)
    (front : UInt8.ofNat first.toNat :: bytes <+: utf8 (c :: rest)) :
    first = c ∧ bytes <+: utf8 rest := by
  rw [utf8_cons] at front
  by_cases small : c.toNat < 128
  · rw [utf8EncodeChar_ascii c small, List.singleton_append, List.cons_prefix_cons] at front
    obtain ⟨same, later⟩ := front
    have codes := congrArg UInt8.toNat same
    rw [toNat_ofNat_ascii first ascii, toNat_ofNat_ascii c small] at codes
    exact ⟨Char.toNat_inj.mp codes, later⟩
  · -- A wider character has no byte that an ASCII one could be.
    exfalso
    have wide := wide_of_mem_utf8EncodeChar c (Nat.not_lt.mp small)
    cases encoded : String.utf8EncodeChar c with
    | nil => exact String.utf8EncodeChar_ne_nil encoded
    | cons byte others =>
      rw [encoded, List.cons_append, List.cons_prefix_cons] at front
      have bound := wide byte (by simp [encoded])
      rw [← front.1, toNat_ofNat_ascii first ascii] at bound
      omega

/-- ASCII texts stand at the front of a text exactly when their bytes do. -/
theorem utf8_prefix_iff (needle text : Text) (ascii : ∀ c ∈ needle, c.toNat < 128) :
    utf8 needle <+: utf8 text ↔ needle <+: text := by
  constructor
  · -- The needle is followed byte by byte, each of which uses up one character of the text.
    intro front
    induction needle generalizing text with
    | nil => exact List.nil_prefix
    | cons first others ih =>
      have small := ascii first (by simp)
      rw [utf8_cons, utf8EncodeChar_ascii first small, List.singleton_append] at front
      cases text with
      | nil => simp at front
      | cons c rest =>
        obtain ⟨rfl, later⟩ := eq_of_utf8_cons first c rest _ small front
        have tail := ih rest (fun c member => ascii c (by simp [member])) later
        exact (List.cons_prefix_cons).mpr ⟨rfl, tail⟩
  · rintro ⟨rest, rfl⟩
    exact ⟨utf8 rest, (utf8_append needle rest).symm⟩

end Text

namespace AsciiPattern

variable (pattern : AsciiPattern)

theorem text_ne_nil : pattern.text ≠ [] := by
  cases pattern <;> simp [text]

theorem ascii_of_mem_text (c : Char) (member : c ∈ pattern.text) : c.toNat < 128 := by
  cases pattern with
  | one first =>
    simp only [text, List.mem_singleton] at member
    rw [member]
    exact first.ascii
  | two first second =>
    simp only [text, List.mem_cons, List.not_mem_nil, or_false] at member
    rcases member with rfl | rfl
    · exact first.ascii
    · exact second.ascii

theorem begins_iff (text : Text) : pattern.begins text = true ↔ pattern.text <+: text := by
  rw [begins, ← utf8_text, List.isPrefixOf_iff_prefix,
    Text.utf8_prefix_iff _ _ pattern.ascii_of_mem_text]

/-- A search passes over bytes at which the needle does not begin. -/
theorem firstOffset?_append (needle front rest : List UInt8)
    (clear : ∀ byte ∈ front, ∀ bytes, ¬ needle <+: byte :: bytes) :
    firstOffset? needle (front ++ rest) = (firstOffset? needle rest).map (· + front.length) := by
  induction front with
  | nil => simp
  | cons byte others ih =>
    have absent : needle.isPrefixOf (byte :: (others ++ rest)) = false := by
      rw [← Bool.not_eq_true, List.isPrefixOf_iff_prefix]
      exact clear byte (by simp) _
    have tail := ih fun later member => clear later (by simp [member])
    simp only [List.cons_append, firstOffset?, absent, Bool.false_eq_true, if_false, tail,
      Option.map_map, List.length_cons]
    congr 1

/-- No pattern begins inside a character that takes several bytes. -/
theorem not_prefix_of_wide (c : Char) (wide : 128 ≤ c.toNat) (byte : UInt8)
    (member : byte ∈ String.utf8EncodeChar c) (bytes : List UInt8) :
    ¬ pattern.bytes <+: byte :: bytes := by
  intro front
  have bound := Text.wide_of_mem_utf8EncodeChar c wide byte member
  have first : ∃ a : AsciiChar, ∃ others, pattern.bytes = a.byte :: others := by
    cases pattern with
    | one a => exact ⟨a, [], rfl⟩
    | two a b => exact ⟨a, [b.byte], rfl⟩
  obtain ⟨a, others, spelled⟩ := first
  rw [spelled, List.cons_prefix_cons] at front
  have small := Text.toNat_ofNat_ascii a.char a.ascii
  have same : a.byte.toNat = byte.toNat := congrArg UInt8.toNat front.1
  rw [AsciiChar.byte, small] at same
  have ascii := a.ascii
  omega

theorem firstIndex?_of_begins (text : Text) (begun : pattern.begins text = true) :
    pattern.firstIndex? text = some 0 := by
  rw [begins] at begun
  rw [firstIndex?]
  cases spelled : Text.utf8 text with
  | nil =>
    rw [spelled, List.isPrefixOf_iff_prefix, List.prefix_nil] at begun
    rw [begun]
    rfl
  | cons byte others =>
    rw [spelled] at begun
    rw [firstOffset?, if_pos begun]

/-- The search in bytes goes on one character at a time. -/
theorem firstIndex?_cons (c : Char) (rest : Text) (absent : pattern.begins (c :: rest) = false) :
    pattern.firstIndex? (c :: rest) = (pattern.firstIndex? rest).map (· + c.utf8Size) := by
  rw [begins, Text.utf8_cons] at absent
  rw [firstIndex?, firstIndex?, Text.utf8_cons]
  -- In one byte there is one place to begin; in several, no place but the first could be one.
  by_cases small : c.toNat < 128
  · have narrow : c.utf8Size = 1 := by
      rw [← String.length_utf8EncodeChar, Text.utf8EncodeChar_ascii c small]
      rfl
    rw [Text.utf8EncodeChar_ascii c small, List.singleton_append] at absent ⊢
    rw [firstOffset?, if_neg (by simp [absent]), narrow]
  · have clear := pattern.not_prefix_of_wide c (Nat.not_lt.mp small)
    rw [firstOffset?_append _ _ _ clear, String.length_utf8EncodeChar]

/-- The text is `before`, then the pattern, then `after`, and the pattern does not end any earlier
than at the end of `before` and the pattern. -/
structure FirstOccurrence (text before after : Text) : Prop where
  whole : text = before ++ (pattern.text ++ after)
  leftmost : ∀ front back, before ++ pattern.text = front ++ (pattern.text ++ back) → back = []

variable {pattern}

theorem firstOccurrence_nil (before after : Text) :
    ¬ pattern.FirstOccurrence [] before after := by
  intro found
  have empty := List.append_eq_nil_iff.mp found.whole.symm
  exact pattern.text_ne_nil (List.append_eq_nil_iff.mp empty.2).1

/-- A pattern at the front of a text is its first occurrence. -/
theorem firstOccurrence_of_begins (rest before after : Text) :
    pattern.FirstOccurrence (pattern.text ++ rest) before after ↔ before = [] ∧ after = rest := by
  constructor
  · intro found
    -- The text that ends with the found occurrence begins with the pattern too, so it is no longer.
    have front : pattern.text <+: before ++ pattern.text := by
      apply List.prefix_of_prefix_length_le (List.prefix_append _ rest)
      · rw [found.whole, ← List.append_assoc]
        exact List.prefix_append _ after
      · simp
    obtain ⟨back, split⟩ := front
    have ended := found.leftmost [] back (by simpa using split.symm)
    rw [ended, List.append_nil] at split
    have empty : before = [] := by
      have lengths := congrArg List.length split
      rw [List.length_append] at lengths
      exact List.eq_nil_of_length_eq_zero (by omega)
    have whole := found.whole
    rw [empty, List.nil_append] at whole
    exact ⟨empty, (List.append_cancel_left whole).symm⟩
  · rintro ⟨rfl, rfl⟩
    refine ⟨rfl, ?_⟩
    intro front back split
    have lengths := congrArg List.length split
    simp only [List.nil_append, List.length_append] at lengths
    exact List.eq_nil_of_length_eq_zero (by omega)

/-- A first occurrence behind a character at which the pattern does not begin. -/
theorem firstOccurrence_cons (c : Char) (rest before after : Text)
    (absent : ¬ pattern.text <+: c :: rest) :
    pattern.FirstOccurrence (c :: rest) before after ↔
      ∃ front, before = c :: front ∧ pattern.FirstOccurrence rest front after := by
  constructor
  · rintro ⟨whole, leftmost⟩
    cases before with
    | nil => exact absurd ⟨after, whole.symm⟩ absent
    | cons d front =>
      rw [List.cons_append, List.cons.injEq] at whole
      obtain ⟨rfl, whole⟩ := whole
      refine ⟨front, rfl, whole, ?_⟩
      intro head back split
      exact leftmost (c :: head) back (by rw [List.cons_append, split, List.cons_append])
  · rintro ⟨front, rfl, whole, leftmost⟩
    refine ⟨by rw [whole, List.cons_append], ?_⟩
    intro head back split
    cases head with
    | nil =>
      -- Here the pattern would begin at `c`.
      exfalso
      apply absent
      rw [whole, ← List.append_assoc, ← List.cons_append, ← List.cons_append, split]
      exact (List.prefix_append pattern.text back).trans (List.prefix_append _ after)
    | cons d others =>
      rw [List.cons_append, List.cons_append, List.cons.injEq] at split
      exact leftmost others back split.2

/-- The offset of a hit is the length in bytes of what stands before the first occurrence. -/
theorem firstIndex?_eq_some_iff (text : Text) (offset : Nat) :
    pattern.firstIndex? text = some offset ↔
      ∃ before after, pattern.FirstOccurrence text before after ∧
        offset = (Text.utf8 before).length := by
  induction text generalizing offset with
  | nil =>
    have absent : pattern.firstIndex? [] = none := by
      cases pattern <;> rfl
    rw [absent]
    constructor
    · intro found
      cases found
    · rintro ⟨before, after, found, -⟩
      exact absurd found (firstOccurrence_nil before after)
  | cons c rest ih =>
    cases begun : pattern.begins (c :: rest) with
    | true =>
      -- The hit is at the front, and nothing else is a first occurrence.
      rw [pattern.firstIndex?_of_begins _ begun, Option.some.injEq]
      obtain ⟨tail, whole⟩ := (pattern.begins_iff _).mp begun
      rw [← whole]
      constructor
      · rintro rfl
        exact ⟨[], tail, (firstOccurrence_of_begins tail [] tail).mpr ⟨rfl, rfl⟩, rfl⟩
      · rintro ⟨before, after, found, rfl⟩
        obtain ⟨rfl, -⟩ := (firstOccurrence_of_begins tail before after).mp found
        rfl
    | false =>
      -- Hit and first occurrence both move on by the character in front.
      rw [pattern.firstIndex?_cons c rest begun, Option.map_eq_some_iff]
      have absent : ¬ pattern.text <+: c :: rest := by
        rw [← begins_iff, begun]
        exact Bool.false_ne_true
      constructor
      · rintro ⟨shift, hit, rfl⟩
        obtain ⟨front, after, found, rfl⟩ := (ih shift).mp hit
        refine ⟨c :: front, after, (firstOccurrence_cons c rest _ after absent).mpr
          ⟨front, rfl, found⟩, ?_⟩
        rw [Text.utf8_cons, List.length_append, String.length_utf8EncodeChar, Nat.add_comm]
      · rintro ⟨before, after, found, rfl⟩
        obtain ⟨front, rfl, later⟩ := (firstOccurrence_cons c rest before after absent).mp found
        refine ⟨(Text.utf8 front).length, (ih _).mpr ⟨front, after, later, rfl⟩, ?_⟩
        rw [Text.utf8_cons, List.length_append, String.length_utf8EncodeChar, Nat.add_comm]

theorem byteLength_eq : pattern.byteLength = (Text.utf8 pattern.text).length := by
  rw [byteLength, utf8_text]

/-- The cut in front of the first occurrence falls between two characters. -/
theorem FirstOccurrence.cutAt?_start {text before after : Text}
    (found : pattern.FirstOccurrence text before after) :
    Text.cutAt? text (Text.utf8 before).length = some (before, pattern.text ++ after) :=
  (Text.cutAt?_eq_some_iff _ _ _ _).mpr ⟨found.whole, rfl⟩

/-- The cut behind the first occurrence does so too. -/
theorem FirstOccurrence.cutAt?_stop {text before after : Text}
    (found : pattern.FirstOccurrence text before after) :
    Text.cutAt? text ((Text.utf8 before).length + pattern.byteLength) =
      some (before ++ pattern.text, after) := by
  rw [Text.cutAt?_eq_some_iff, List.append_assoc, Text.utf8_append, List.length_append,
    byteLength_eq]
  exact ⟨found.whole, rfl⟩

/-- A text is split at the first occurrence of a pattern. -/
theorem split?_eq_some_iff (text before after : Text) :
    pattern.split? text = some (before, after) ↔ pattern.FirstOccurrence text before after := by
  have cuts (front back : Text) (found : pattern.FirstOccurrence text front back) :
      pattern.split? text = some (front, back) := by
    have hit := (firstIndex?_eq_some_iff text _).mpr ⟨front, back, found, rfl⟩
    simp only [split?, hit, Option.bind_eq_bind, Option.bind_some, found.cutAt?_start,
      found.cutAt?_stop, Option.pure_def]
  constructor
  · intro split
    cases hit : pattern.firstIndex? text with
    | none => simp [split?, hit] at split
    | some offset =>
      -- The hit is a first occurrence, so the cuts are known and are those that were made.
      obtain ⟨front, back, found, -⟩ := (firstIndex?_eq_some_iff text offset).mp hit
      rw [cuts front back found, Option.some.injEq, Prod.mk.injEq] at split
      obtain ⟨rfl, rfl⟩ := split
      exact found
  · exact cuts before after

/-- A text is cut at the first occurrence of a pattern in one way. -/
theorem FirstOccurrence.unique {text before after front back : Text}
    (first : pattern.FirstOccurrence text before after)
    (again : pattern.FirstOccurrence text front back) : before = front ∧ after = back := by
  have cut := (split?_eq_some_iff text before after).mpr first
  rw [(split?_eq_some_iff text front back).mpr again, Option.some.injEq, Prod.mk.injEq] at cut
  exact ⟨cut.1.symm, cut.2.symm⟩

/-- Wherever a pattern occurs, it has a first occurrence. -/
theorem split?_isSome_iff (text : Text) :
    (pattern.split? text).isSome ↔ pattern.text <:+: text := by
  constructor
  · intro found
    obtain ⟨⟨before, after⟩, split⟩ := Option.isSome_iff_exists.mp found
    have occurrence := (split?_eq_some_iff text before after).mp split
    exact ⟨before, after, by rw [List.append_assoc, ← occurrence.whole]⟩
  · intro contained
    -- Characters are taken off until the pattern begins, which it does before they are used up.
    suffices occurs : ∃ before after, pattern.FirstOccurrence text before after by
      obtain ⟨before, after, found⟩ := occurs
      rw [(split?_eq_some_iff text before after).mpr found]
      rfl
    induction text with
    | nil => exact absurd (List.eq_nil_of_infix_nil contained) pattern.text_ne_nil
    | cons c rest ih =>
      by_cases begun : pattern.text <+: c :: rest
      · obtain ⟨tail, whole⟩ := begun
        rw [← whole]
        exact ⟨[], tail, (firstOccurrence_of_begins tail [] tail).mpr ⟨rfl, rfl⟩⟩
      · have later := (List.infix_cons_iff.mp contained).resolve_left begun
        obtain ⟨front, after, found⟩ := ih later
        exact ⟨c :: front, after, (firstOccurrence_cons c rest _ after begun).mpr
          ⟨front, rfl, found⟩⟩

theorem split?_eq_none_iff (text : Text) :
    pattern.split? text = none ↔ ¬ pattern.text <:+: text := by
  rw [← split?_isSome_iff, Option.not_isSome_iff_eq_none]

/-- The cut behind a pattern in front. -/
theorem cutAt?_byteLength (rest : Text) :
    Text.cutAt? (pattern.text ++ rest) pattern.byteLength = some (pattern.text, rest) :=
  (Text.cutAt?_eq_some_iff _ _ _ _).mpr ⟨rfl, byteLength_eq⟩

theorem strip?_eq_some_iff (text rest : Text) :
    pattern.strip? text = some rest ↔ text = pattern.text ++ rest := by
  constructor
  · intro stripped
    rw [strip?] at stripped
    split at stripped
    next begun =>
      obtain ⟨tail, whole⟩ := (pattern.begins_iff text).mp begun
      rw [← whole, cutAt?_byteLength] at stripped
      have same : tail = rest := Option.some.inj stripped
      rw [← whole, same]
    next => cases stripped
  · rintro rfl
    have begun := (pattern.begins_iff (pattern.text ++ rest)).mpr (List.prefix_append _ rest)
    rw [strip?, if_pos begun, cutAt?_byteLength]
    rfl

theorem strip?_eq_none_iff (text : Text) :
    pattern.strip? text = none ↔ ¬ pattern.text <+: text := by
  rw [Option.eq_none_iff_forall_ne_some]
  constructor
  · rintro none ⟨rest, rfl⟩
    exact none rest ((strip?_eq_some_iff _ rest).mpr rfl)
  · intro absent rest stripped
    exact absent ⟨rest, ((strip?_eq_some_iff text rest).mp stripped).symm⟩

/-- A single character occurs first where it does not occur before. -/
theorem firstOccurrence_one_iff (c : AsciiChar) (text before after : Text) :
    (one c).FirstOccurrence text before after ↔
      text = before ++ c.char :: after ∧ c.char ∉ before := by
  constructor
  · rintro ⟨whole, leftmost⟩
    refine ⟨whole, ?_⟩
    intro member
    obtain ⟨front, back, rfl⟩ := List.append_of_mem member
    -- The occurrence inside `before` ends too early.
    have ended := leftmost front (back ++ [c.char]) (by simp [AsciiPattern.text])
    simp at ended
  · rintro ⟨whole, absent⟩
    refine ⟨whole, ?_⟩
    intro front back split
    cases List.eq_nil_or_concat back with
    | inl empty => exact empty
    | inr longer =>
      obtain ⟨others, last, rfl⟩ := longer
      -- Without its last character, what is split lies in `before`.
      have ends : before ++ [c.char] = (front ++ c.char :: others) ++ [last] := by
        rw [List.concat_eq_append] at split
        simpa [AsciiPattern.text] using split
      have inside := (List.append_inj' ends rfl).1
      exact absurd (by simp [inside]) absent

theorem split?_one_isSome_iff (c : AsciiChar) (text : Text) :
    ((one c).split? text).isSome ↔ c.char ∈ text := by
  rw [split?_isSome_iff]
  constructor
  · rintro ⟨front, back, rfl⟩
    simp [AsciiPattern.text]
  · intro member
    obtain ⟨front, back, rfl⟩ := List.append_of_mem member
    exact ⟨front, back, by simp [AsciiPattern.text]⟩

theorem split?_one_eq_none_iff (c : AsciiChar) (text : Text) :
    (one c).split? text = none ↔ c.char ∉ text := by
  rw [← split?_one_isSome_iff, Option.not_isSome_iff_eq_none]

/-- The first two slashes behind a text without slashes. -/
theorem firstOccurrence_slashes (before after : Text) (unbroken : '/' ∉ before) :
    slashes.FirstOccurrence (before ++ '/' :: '/' :: after) before after := by
  refine ⟨rfl, ?_⟩
  intro front back split
  change before ++ ['/', '/'] = front ++ '/' :: '/' :: back at split
  -- An earlier pair of slashes would be too long for what follows, or begin inside `before`.
  rcases List.append_eq_append_iff.mp split with ⟨more, -, rest⟩ | ⟨more, inside, rest⟩
  · have lengths := congrArg List.length rest
    simp only [List.length_cons, List.length_append, List.length_nil] at lengths
    exact List.eq_nil_of_length_eq_zero (by omega)
  · cases more with
    | nil => simpa using rest
    | cons c others =>
      rw [List.cons_append, List.cons.injEq] at rest
      rw [inside, ← rest.1] at unbroken
      simp at unbroken

end AsciiPattern

end LabelExpansion
