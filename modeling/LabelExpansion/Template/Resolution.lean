import LabelExpansion.Label.Parse
import LabelExpansion.Log.Record
import LabelExpansion.Mapping.Basic

/-!
# Resolving a candidate

A candidate is read as a label relative to the package of the target that owns the template, the
anchor, and then looked up. There are four outcomes, and each decides both what becomes of the
candidate and the one event that tells of it: a text that is no label and a label that is no key
are kept as written, a label with exactly one artifact is replaced by the path of that artifact, and
a label with any other number of artifacts is an error.
-/
namespace LabelExpansion

/-- A label that was to be replaced by one path but stands for none or several artifacts. -/
structure Ambiguity where
  label : Label
  count : Nat
  deriving DecidableEq

namespace Ambiguity

def message (ambiguity : Ambiguity) : String :=
  s!"Label `{spell ambiguity.label.display}` expanded to {ambiguity.count} artifacts"
    ++ ", expected exactly one"

def inspect (ambiguity : Ambiguity) : String :=
  "NotUniqueExpansionError \x7b label: " ++ ambiguity.label.inspect ++ ", count: "
    ++ toString ambiguity.count ++ " \x7d"

instance : Diagnostic Ambiguity where
  chain ambiguity := [ambiguity.message]

end Ambiguity

inductive Resolution where
  | malformed (error : LabelError)
  | unmapped (label : Label)
  | unique (label : Label) (path : Text)
  | ambiguous (ambiguity : Ambiguity)
  deriving DecidableEq

/-- What expansion tells of one candidate. -/
inductive Event where
  | malformed (candidate : Text) (error : LabelError)
  | unmapped (candidate : Text) (label : Label)
  | expanded (candidate path : Text)
  | ambiguous (candidate : Text) (anchor : Label) (count : Nat)
  deriving DecidableEq

namespace Resolution

def ofCandidate {μ : Type} [PathMapping μ] (mapping : μ) (package : Package)
    (candidate : Text) : Resolution :=
  match Label.parse candidate package with
  | .error error => malformed error
  | .ok label =>
    match PathMapping.paths? mapping label with
    | none => unmapped label
    | some [path] => unique label path
    | some paths => ambiguous ⟨label, paths.length⟩

/-- What stands in the place of the candidate. -/
def replacement (candidate : Text) : Resolution → Except Ambiguity Text
  | malformed _ => .ok candidate
  | unmapped _ => .ok candidate
  | unique _ path => .ok path
  | ambiguous ambiguity => .error ambiguity

def event (anchor : Label) (candidate : Text) : Resolution → Event
  | malformed error => .malformed candidate error
  | unmapped label => .unmapped candidate label
  | unique _ path => .expanded candidate path
  | ambiguous ambiguity => .ambiguous candidate anchor ambiguity.count

end Resolution

namespace Event

/-- Replacements are traced; whatever keeps a candidate from being replaced is for debugging. -/
def severity : Event → Severity
  | malformed .. => .debug
  | unmapped .. => .debug
  | expanded .. => .trace
  | ambiguous .. => .debug

def message : Event → String
  | malformed candidate error =>
    s!"Not expanding `{spell candidate}`: {Diagnostic.message error}"
  | unmapped candidate label =>
    s!"Not expanding `{spell candidate}`: no artifacts for `{spell label.display}`"
  | expanded candidate path => s!"Expanded `{spell candidate}` to `{spell path}`"
  | ambiguous candidate anchor count =>
    s!"Cannot expand `{spell candidate}` in target `{spell anchor.display}`: {count} artifacts"

/-- The part of the program that the records of an expansion name as theirs. -/
def target : Text :=
  "buck2_label_expander::expand".toList

def record (event : Event) : LogRecord :=
  .ofMessage event.severity target event.message

end Event

end LabelExpansion
