import LabelExpansion.Proofs.Log.Effective

/-!
# Rules of directives

What the library that carries the log is relied upon to do with filters that ask for no spans. Their
texts are read piece by piece, and it is the directives of the pieces that decide what passes. How one
piece is read is told for plain pieces: each is a level, a target with all its records, or a target and
its level. Filters are otherwise unknown; in particular nothing is said of how they keep their
directives. The main statement says that for records which are no errors only the directives in
effect for the beginnings of their target count.
-/
namespace LabelExpansion

namespace Directive

/-- What a piece of a filter means. -/
inductive Means : Text → Directive → Prop where
  | level (piece : Text) (verbosity : Verbosity) : '=' ∉ piece →
      Verbosity.ofText? piece = some verbosity → Means piece ⟨[], verbosity⟩
  | target (piece : Text) : '=' ∉ piece → Verbosity.ofText? piece = none →
      Means piece ⟨piece, .upTo .trace⟩
  | wholeTarget (target : Text) : '=' ∉ target → Means (target ++ ['=']) ⟨target, .upTo .trace⟩
  | targetLevel (target level : Text) (verbosity : Verbosity) : '=' ∉ target →
      Verbosity.ofText? level = some verbosity → Means (target ++ '=' :: level) ⟨target, verbosity⟩

/-- A piece of letters, digits and four signs of ASCII with something in front of its `=`. -/
structure Plain (piece : Text) : Prop where
  signs : ∀ c ∈ piece, c.isAlphanum = true ∨ c ∈ ['-', ':', '_', '=']
  inhabited : piece ≠ []
  start : piece.head? ≠ some '='

end Directive

/-- The directives of the pieces of a text, where `directive?` is how one piece is read. -/
def directivesOf (directive? : Text → Option Directive) (text : Text) : List Directive :=
  (Text.pieces ',' text).filterMap directive?

/-- A text whose pieces ask for no spans. -/
def Spanless (text : Text) : Prop :=
  ∀ piece ∈ Text.pieces ',' text, '[' ∉ piece

/-- The rules of filters without spans, where `directive?` is how one piece is read. -/
structure DirectiveRules (φ : Type) [LogBackend φ] (directive? : Text → Option Directive) :
    Prop where
  /-- An empty piece is skipped. -/
  empty : directive? [] = none
  /-- A plain piece is a level, a target, or a target and its level. -/
  plain : ∀ piece directive, Directive.Plain piece →
    (directive? piece = some directive ↔ Directive.Means piece directive)
  /-- A text is a filter when every piece but the empty ones is a directive. -/
  accepted : ∀ text, Spanless text → ((∃ filter : φ, LogBackend.read text = .returned filter) ↔
    ∀ piece ∈ Text.pieces ',' text, piece ≠ [] → ∃ directive, directive? piece = some directive)
  /-- The longest target that is a beginning of that of the record decides, and of equal targets the
  later. -/
  decided : ∀ text (filter : φ), Spanless text → LogBackend.read text = .returned filter →
    ∀ target directive, Directive.Decides (directivesOf directive? text) target directive →
      ∀ severity, LogBackend.passes filter severity target =
        directive.verbosity.passes severity
  /-- A record to which no directive applies is dropped. -/
  dropped : ∀ text (filter : φ), Spanless text → LogBackend.read text = .returned filter →
    directivesOf directive? text ≠ [] →
    ∀ target, (∀ directive ∈ directivesOf directive? text, ¬ directive.target <+: target) →
      ∀ severity, LogBackend.passes filter severity target = false
  /-- A filter without directives passes errors alone. -/
  withoutDirectives : ∀ text (filter : φ), Spanless text →
    LogBackend.read text = .returned filter → directivesOf directive? text = [] →
    ∀ severity target, LogBackend.passes filter severity target =
      (Verbosity.upTo .error).passes severity

namespace DirectiveRules

variable {φ : Type} [LogBackend φ] {directive? : Text → Option Directive}
variable (rules : DirectiveRules φ directive?)

include rules

/-- Where no directive applies, no record passes but for errors, be there directives or not. -/
theorem passes_of_none_applies {text : Text} {filter : φ} (spanless : Spanless text)
    (read : LogBackend.read text = .returned filter) {target : Text}
    (apart : ∀ directive ∈ directivesOf directive? text, ¬ directive.target <+: target)
    {severity : Severity} (mild : severity ≠ .error) :
    LogBackend.passes filter severity target = false := by
  by_cases empty : directivesOf directive? text = []
  · rw [rules.withoutDirectives text filter spanless read empty]
    cases severity with
    | error => exact absurd rfl mild
    | _ => rfl
  · exact rules.dropped text filter spanless read empty target apart severity

/-- Filters with the same directives in effect for the beginnings of a target pass the same records of
it, errors apart. -/
theorem passes_congr {text other : Text} {filter changed : φ} (spanless : Spanless text)
    (read : LogBackend.read text = .returned filter) (spanlessToo : Spanless other)
    (readToo : LogBackend.read other = .returned changed) {target : Text}
    (same : ∀ named, named <+: target →
      Directive.effective? (directivesOf directive? text) named =
        Directive.effective? (directivesOf directive? other) named)
    {severity : Severity} (mild : severity ≠ .error) :
    LogBackend.passes changed severity target = LogBackend.passes filter severity target := by
  rcases Directive.none_applies_or_exists_decides (directivesOf directive? text) target with
    apart | ⟨directive, decides⟩
  · have apartToo := Directive.none_applies_congr same apart
    rw [rules.passes_of_none_applies spanless read apart mild,
      rules.passes_of_none_applies spanlessToo readToo apartToo mild]
  · have decidesToo := decides.congr same
    rw [rules.decided text filter spanless read target directive decides,
      rules.decided other changed spanlessToo readToo target directive decidesToo]

end DirectiveRules

end LabelExpansion
