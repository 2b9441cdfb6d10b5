import LabelExpansion.Proofs.Label.Grammar

/-!
# Labels that bring their own package

Whether a label is absolute is asked twice: in front of reading, by looking at the first characters,
and while reading, by the cut that succeeds. The main statement says that both draw the same line.
The labels that are accepted as absolute are those that mean the same in every package; every other
label is a name in the package it is read in, whatever package that is.
-/
namespace LabelExpansion

/-- A text that starts like an absolute label. -/
def StartsAbsolute (text : Text) : Prop :=
  ['/', '/'] <+: text ∨ ['@'] <+: text

namespace Grammar

/-- Where a written label starts like an absolute one, it is one. -/
theorem startsAbsolute_iff {style : Style} {text : Text} {meaning : Meaning}
    (written : Written style text meaning) :
    StartsAbsolute text ↔ ∃ repository path name, meaning = .absolute repository path name := by
  have opened (opening repository rest : Text) (valid : Opening opening repository) :
      StartsAbsolute (opening ++ '/' :: '/' :: rest) := by
    cases valid with
    | silent => exact .inl ⟨rest, rfl⟩
    | unnamed => exact .inr ⟨'/' :: '/' :: rest, rfl⟩
    | named _ _ => exact .inr ⟨_, rfl⟩
  cases written with
  | full opening repository path name valid => simp [opened _ _ _ valid]
  | shorthand opening repository path name valid => simp [opened _ _ _ valid]
  | marked name names => simp [StartsAbsolute]
  | bare name names start =>
    -- A name has no slash in front, and the style excludes `@`.
    have slash := names.shape.head?_ne
    rw [StartsAbsolute]
    constructor
    · rintro (⟨rest, rfl⟩ | ⟨rest, rfl⟩)
      · exact absurd rfl slash
      · exact absurd rfl start
    · rintro ⟨repository, path, name, impossible⟩
      cases impossible

end Grammar

namespace Label

open Fallible Grammar

theorem parse_of_start {text : Text} {current : Package} {label : Label}
    (start : StartsAbsolute text) (returned : parse text current = .ok label) (other : Package) :
    parse text other = .ok label := by
  obtain ⟨style, meaning, written, denotes⟩ := written_of_parse returned
  obtain ⟨repository, path, name, rfl⟩ := (startsAbsolute_iff written).mp start
  exact parse_of_written written denotes

theorem parse_of_not_start {text : Text} {current : Package} {label : Label}
    (start : ¬ StartsAbsolute text) (returned : parse text current = .ok label) :
    label.package = current ∧ ∀ other, parse text other = .ok ⟨other, label.name⟩ := by
  obtain ⟨style, meaning, written, denotes⟩ := written_of_parse returned
  cases meaning with
  | absolute repository path name =>
    exact absurd ((startsAbsolute_iff written).mpr ⟨repository, path, name, rfl⟩) start
  | relative name =>
    exact ⟨denotes.1, fun other => parse_of_written written ⟨rfl, denotes.2⟩⟩

/-- A label that is the same in two packages comes from neither of them. -/
theorem startsAbsolute_of_parse_eq {text : Text} {current other : Package} {label : Label}
    (different : current ≠ other) (here : parse text current = .ok label)
    (there : parse text other = .ok label) : StartsAbsolute text := by
  by_cases start : StartsAbsolute text
  · exact start
  · have own := (parse_of_not_start start here).1
    rw [(parse_of_not_start start there).1] at own
    exact absurd own.symm different

theorem begins_iff_startsAbsolute (text : Text) :
    (AsciiPattern.slashes.begins text || AsciiPattern.atSign.begins text) = true ↔
      StartsAbsolute text := by
  rw [Bool.or_eq_true, AsciiPattern.begins_iff, AsciiPattern.begins_iff]
  rfl

theorem parseAbsolute_of_start {text : Text} (start : StartsAbsolute text) :
    parseAbsolute text = (parse text Package.root).mapError .invalid := by
  rw [parseAbsolute, if_pos ((begins_iff_startsAbsolute text).mpr start)]

theorem parseAbsolute_of_not_start {text : Text} (start : ¬ StartsAbsolute text) :
    parseAbsolute text = .error (.notAbsolute text) := by
  rw [parseAbsolute, if_neg ((begins_iff_startsAbsolute text).not.mpr start)]

theorem parseAbsolute_eq_ok_iff (text : Text) (label : Label) :
    parseAbsolute text = .ok label ↔ ∀ current, parse text current = .ok label := by
  constructor
  · intro accepted
    by_cases start : StartsAbsolute text
    · rw [parseAbsolute_of_start start, mapError_eq_ok_iff] at accepted
      exact parse_of_start start accepted
    · rw [parseAbsolute_of_not_start start] at accepted
      cases accepted
  · intro everywhere
    -- There is a package besides the root, and the label belongs to neither.
    have different : Package.root ≠ ⟨.main, ⟨['a'], rfl⟩⟩ := by decide
    have start := startsAbsolute_of_parse_eq different (everywhere _) (everywhere _)
    rw [parseAbsolute_of_start start, mapError_eq_ok_iff]
    exact everywhere Package.root

theorem message_notAbsolute (text : Text) :
    Diagnostic.message (AbsoluteLabelError.notAbsolute text) =
      s!"label must be absolute: `{spell text}`" :=
  String.intercalate_singleton

/-- A text that was read and refused is not said to start like a relative label. -/
theorem message_invalid_ne (error : LabelError) (text : Text) :
    Diagnostic.message (AbsoluteLabelError.invalid error) ≠
      s!"label must be absolute: `{spell text}`" := by
  have read : (Diagnostic.message (AbsoluteLabelError.invalid error)).toList.head? = some 'I' := by
    simp [Diagnostic.message, Diagnostic.chain, ToString.toString]
  have unread : (s!"label must be absolute: `{spell text}`").toList.head? = some 'l' := by
    simp [ToString.toString]
  intro same
  rw [same, unread] at read
  cases read

theorem message_parseAbsolute_iff {text : Text} {error : AbsoluteLabelError}
    (refused : parseAbsolute text = .error error) :
    Diagnostic.message error = s!"label must be absolute: `{spell text}`" ↔
      ¬ StartsAbsolute text := by
  by_cases start : StartsAbsolute text
  · rw [parseAbsolute_of_start start] at refused
    obtain ⟨cause, -, rfl⟩ := (mapError_eq_error_iff _ _ _).mp refused
    exact iff_of_false (message_invalid_ne cause text) (not_not_intro start)
  · rw [parseAbsolute_of_not_start start] at refused
    cases refused
    exact iff_of_true (message_notAbsolute text) start

/-- The texts that are accepted as absolute are those that are the same label in every package. All
others are refused, with the message that they are not absolute exactly where they start like a
relative label; those of them that are labels at all name a target in the package they are read
in. -/
theorem absolute_labels_need_no_package (text : Text) :
    (∀ label, parseAbsolute text = .ok label ↔ ∀ current, parse text current = .ok label) ∧
    ((∀ label, parseAbsolute text ≠ .ok label) → ∃ error, parseAbsolute text = .error error ∧
      (Diagnostic.message error = s!"label must be absolute: `{spell text}`" ↔
        ¬ (['/', '/'] <+: text ∨ ['@'] <+: text))) ∧
    ((∀ label, parseAbsolute text ≠ .ok label) → ∀ current label, parse text current = .ok label →
      ∀ other, parse text other = .ok ⟨other, label.name⟩) := by
  refine ⟨parseAbsolute_eq_ok_iff text, ?_, ?_⟩
  · intro refused
    cases result : parseAbsolute text with
    | ok label => exact absurd result (refused label)
    | error error => exact ⟨error, rfl, message_parseAbsolute_iff result⟩
  · intro refused current label returned
    -- With the start of an absolute label it would have been accepted.
    have start : ¬ StartsAbsolute text := by
      intro start
      exact refused label ((parseAbsolute_eq_ok_iff text label).mpr (parse_of_start start returned))
    exact (parse_of_not_start start returned).2

/-- A label with a package is the same everywhere, and a shorthand in each package another one. -/
theorem shorthand_needs_package (current : Package) :
    parse "//foo:x1".toList current = .ok ⟨⟨.main, ⟨"foo".toList, rfl⟩⟩, ⟨"x1".toList⟩⟩ ∧
    (∃ error, parseAbsolute ":x1".toList = .error error ∧
      Diagnostic.message error = "label must be absolute: `:x1`") ∧
    parse ":x1".toList current = .ok ⟨current, ⟨"x1".toList⟩⟩ := by
  have absolute := absolute_labels_need_no_package "//foo:x1".toList
  obtain ⟨-, refusal, relative⟩ := absolute_labels_need_no_package ":x1".toList
  have refused : ∀ label, parseAbsolute ":x1".toList ≠ .ok label := by
    intro label accepted
    cases accepted
  have home : parse ":x1".toList Package.root = .ok ⟨.root, ⟨"x1".toList⟩⟩ := rfl
  refine ⟨(absolute.1 _).mp rfl current, ?_, relative refused .root _ home current⟩
  obtain ⟨error, failed, message⟩ := refusal refused
  refine ⟨error, failed, (message.mpr (by decide)).trans ?_⟩
  rfl

end Label

end LabelExpansion
