import LabelExpansion.Proofs.Log.Rules
import LabelExpansion.Proofs.Text.Occurrence

/-!
# Filters made of directives follow the rules

A piece that is written without blanks around it says a level, a target with all its records, or a
target and its level. A filter is read piece by piece. A text is no filter for one piece that cannot
be read, and otherwise its directives are those of its pieces, in their order; empty pieces say
nothing. The one pass that chooses among them finds the directive that decides. So whatever holds of
all filters that follow the rules of directives holds of these.
-/
namespace LabelExpansion

namespace Text

/-- Where nothing is blank there is nothing to trim. -/
theorem trim_eq_self {text : Text} (unblank : ∀ c ∈ text, isBlank c = false) :
    trim text = text := by
  have kept (part : Text) (unblank : ∀ c ∈ part, isBlank c = false) :
      part.dropWhile isBlank = part := by
    cases part with
    | nil => rfl
    | cons c rest => rw [List.dropWhile_cons_of_neg (by simp [unblank c])]
  have reversed : ∀ c ∈ text.reverse, isBlank c = false := by
    intro c member
    exact unblank c (List.mem_reverse.mp member)
  rw [trim, trimEnd, kept text unblank, kept text.reverse reversed, List.reverse_reverse]

theorem isBlank_of_isAlphanum {c : Char} (alphanumeric : c.isAlphanum = true) :
    isBlank c = false := by
  have codes := toNat_of_isAlphanum c alphanumeric
  simp only [isBlank, blankRanges, List.any_cons, List.any_nil, Bool.or_false, Bool.or_eq_false_iff,
    Bool.and_eq_false_iff, decide_eq_false_iff_not]
  omega

end Text

namespace Directive

/-! ## One piece -/

/-- A piece that starts like a directive, with no blanks around it and no bracket before its `=`. -/
structure Regular (piece : Text) : Prop where
  start : piece.head?.any mayStart = true
  trimmed : Text.trim piece = piece
  unbracketed : '[' ∉ piece.takeWhile (· ≠ '=')

theorem Plain.regular {piece : Text} (plain : Plain piece) : Regular piece where
  start := by
    cases piece with
    | nil => exact absurd rfl plain.inhabited
    | cons c rest =>
      change mayStart c = true
      rcases plain.signs c List.mem_cons_self with alphanumeric | sign
      · simp [mayStart, Text.isAlphanumeric, alphanumeric]
      -- Of the four signs only the one that ends a target cannot start a piece.
      · have other : c ≠ '=' := fun same => plain.start (by rw [List.head?_cons, same])
        have three : c ∈ ['-', ':', '_'] := by simpa [other] using sign
        rw [mayStart, List.contains_iff_mem.mpr three, Bool.true_or]
  trimmed := by
    refine Text.trim_eq_self ?_
    intro c member
    rcases plain.signs c member with alphanumeric | sign
    · exact Text.isBlank_of_isAlphanum alphanumeric
    · simp only [List.mem_cons, List.not_mem_nil, or_false] at sign
      rcases sign with rfl | rfl | rfl | rfl <;> rfl
  unbracketed := by
    intro bracket
    rcases plain.signs '[' ((List.takeWhile_prefix _).subset bracket) with alphanumeric | sign
    · cases alphanumeric
    · simp at sign

theorem ofText_of_regular {piece : Text} (regular : Regular piece) :
    ofText piece = match AsciiPattern.equalsSign.firstIndex? piece with
      | none => .returned (ofWord piece)
      | some offset => ofCut piece offset := by
  have acceptable : ¬ (!piece.head?.any mayStart ||
      (piece.takeWhile (· ≠ '=')).contains '[') = true := by
    rw [regular.start, Bool.not_true, Bool.false_or, List.contains_iff_mem]
    exact regular.unbracketed
  rw [ofText, regular.trimmed]
  exact if_neg acceptable

theorem ofText_of_not_mem {piece : Text} (regular : Regular piece) (whole : '=' ∉ piece) :
    ofText piece = .returned (ofWord piece) := by
  rw [ofText_of_regular regular]
  cases hit : AsciiPattern.equalsSign.firstIndex? piece with
  | none => rfl
  | some offset =>
    obtain ⟨target, level, first, -⟩ := (AsciiPattern.firstIndex?_eq_some_iff piece offset).mp hit
    rw [((AsciiPattern.firstOccurrence_one_iff _ _ _ _).mp first).1] at whole
    exact absurd (by simp) whole

/-- Both cuts around the first `=` fall between characters. -/
theorem ofText_append {target level : Text} (regular : Regular (target ++ '=' :: level))
    (first : '=' ∉ target) : ofText (target ++ '=' :: level) = ofParts target level := by
  have hit : AsciiPattern.equalsSign.firstIndex? (target ++ '=' :: level) =
      some (Text.utf8 target).length :=
    (AsciiPattern.firstIndex?_eq_some_iff _ _).mpr
      ⟨target, level, (AsciiPattern.firstOccurrence_one_iff _ _ _ _).mpr ⟨rfl, first⟩, rfl⟩
  have front := (Text.cutAt?_eq_some_iff (target ++ '=' :: level) target ('=' :: level) _).mpr
    ⟨rfl, rfl⟩
  have next : (Text.utf8 target).length + 1 = (Text.utf8 (target ++ ['='])).length := by
    rw [Text.utf8_append, List.length_append]
    rfl
  have back := (Text.cutAt?_eq_some_iff (target ++ '=' :: level) (target ++ ['=']) level _).mpr
    ⟨by simp, next⟩
  rw [ofText_of_regular regular, hit]
  simp only [ofCut, front, back]

theorem ofText_eq_returned_iff {piece : Text} (regular : Regular piece) (directive : Directive) :
    ofText piece = .returned directive ↔ Means piece directive := by
  -- A piece without `=` is one word; in any other one the first `=` separates target and level.
  constructor
  · intro read
    by_cases whole : '=' ∈ piece
    · obtain ⟨target, level, rfl, first⟩ := List.eq_append_cons_of_mem whole
      rw [ofText_append regular first, ofParts] at read
      split at read
      next empty =>
        cases read
        rw [empty]
        exact .wholeTarget target first
      next =>
        split at read
        next verbosity named =>
          cases read
          exact .targetLevel target level verbosity first named
        next => cases read
    · rw [ofText_of_not_mem regular whole, ofWord] at read
      split at read
      next verbosity named =>
        cases read
        exact .level piece verbosity whole named
      next unnamed =>
        cases read
        exact .target piece whole unnamed
  · intro meant
    cases meant with
    | level _ verbosity whole named => rw [ofText_of_not_mem regular whole, ofWord, named]
    | target _ whole unnamed => rw [ofText_of_not_mem regular whole, ofWord, unnamed]
    | wholeTarget target first => rw [ofText_append regular first, ofParts, if_pos rfl]
    | targetLevel target level verbosity first named =>
      have inhabited : level ≠ [] := by
        rintro rfl
        cases named
      rw [ofText_append regular first, ofParts, if_neg inhabited, named]

end Directive

/-! ## All pieces -/

namespace Filter

theorem directive?_eq_some_iff (piece : Text) (directive : Directive) :
    directive? piece = some directive ↔ Directive.ofText piece = .returned directive := by
  rw [directive?]
  cases Directive.ofText piece <;> simp [Attempt.value?]

/-- Every piece but the empty ones can be read. -/
def Readable (pieces : List Text) : Prop :=
  ∀ piece ∈ pieces, piece ≠ [] → ∃ directive, directive? piece = some directive

theorem mapM_ofText {pieces : List Text} (readable : Readable pieces) :
    (pieces.filter (· ≠ [])).mapM Directive.ofText = .returned (pieces.filterMap directive?) := by
  induction pieces with
  | nil => rfl
  | cons piece rest ih =>
    have later := ih fun other member => readable other (List.mem_cons_of_mem _ member)
    by_cases empty : piece = []
    · rw [empty, List.filter_cons_of_neg (by simp), later]
      rfl
    · obtain ⟨directive, read⟩ := readable piece List.mem_cons_self empty
      have returned := (directive?_eq_some_iff piece directive).mp read
      rw [List.filter_cons_of_pos (by simpa using empty), List.mapM_cons, returned, later,
        List.filterMap_cons_some read]
      rfl

theorem readable_of_mapM {pieces : List Text} {directives : List Directive}
    (read : pieces.mapM Directive.ofText = .returned directives) : Readable pieces := by
  induction pieces generalizing directives with
  | nil => simp [Readable]
  | cons piece rest ih =>
    rw [List.mapM_cons, Attempt.bind_eq_returned_iff] at read
    obtain ⟨directive, first, later⟩ := read
    obtain ⟨others, traversed, -⟩ := (Attempt.bind_eq_returned_iff _ _ _).mp later
    refine List.forall_mem_cons.mpr ⟨?_, ih traversed⟩
    intro _
    exact ⟨directive, (directive?_eq_some_iff piece directive).mpr first⟩

/-- A text is a filter when all its pieces can be read, and then the filter of their directives. -/
theorem ofText_eq_returned_iff (text : Text) (filter : Filter) :
    ofText text = .returned filter ↔ Readable (Text.pieces ',' text) ∧
      filter = ⟨directivesOf directive? text⟩ := by
  have made (readable : Readable (Text.pieces ',' text)) :
      ofText text = .returned ⟨directivesOf directive? text⟩ := by
    rw [ofText, directiveTexts, mapM_ofText readable]
    rfl
  constructor
  · intro accepted
    obtain ⟨directives, read, -⟩ := (Attempt.bind_eq_returned_iff _ _ _).mp accepted
    have readable : Readable (Text.pieces ',' text) := by
      intro piece member inhabited
      -- The pieces that are read are all but the empty ones.
      refine readable_of_mapM read piece ?_ inhabited
      exact List.mem_filter.mpr ⟨member, by simpa using inhabited⟩
    rw [made readable] at accepted
    cases accepted
    exact ⟨readable, rfl⟩
  · rintro ⟨readable, rfl⟩
    exact made readable

theorem directives_eq {text : Text} {filter : Filter} (read : ofText text = .returned filter) :
    filter.directives = directivesOf directive? text := by
  rw [((ofText_eq_returned_iff text filter).mp read).2]

theorem passes_eq (filter : Filter) (severity : Severity) (target : Text) :
    LogBackend.passes filter severity target = (filter.verbosity target).passes severity :=
  rfl

/-- Filters made of directives are filters as the rules describe them. -/
theorem directiveRules : DirectiveRules Filter directive? where
  empty := rfl
  plain piece directive plain := by
    rw [directive?_eq_some_iff, Directive.ofText_eq_returned_iff plain.regular]
  accepted text _ := by
    constructor
    · rintro ⟨filter, read⟩
      exact ((ofText_eq_returned_iff text filter).mp read).1
    · intro readable
      exact ⟨_, (ofText_eq_returned_iff text _).mpr ⟨readable, rfl⟩⟩
  decided text filter _ read target directive decides severity := by
    have own := directives_eq read
    rw [← own] at decides
    have inhabited : filter.directives ≠ [] :=
      List.ne_nil_of_mem (Directive.mem_of_effective? decides.effective).1
    rw [passes_eq, verbosity, if_neg inhabited, Directive.decisive?_of_decides decides]
  dropped text filter _ read inhabited target apart severity := by
    have own := directives_eq read
    rw [← own] at inhabited apart
    rw [passes_eq, verbosity, if_neg inhabited, Directive.decisive?_of_none_applies apart]
    cases severity <;> rfl
  withoutDirectives text filter _ read empty severity target := by
    rw [passes_eq, verbosity, if_pos ((directives_eq read).trans empty)]

end Filter

end LabelExpansion
