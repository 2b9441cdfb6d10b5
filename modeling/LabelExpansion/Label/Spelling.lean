import LabelExpansion.Label.Basic
import LabelExpansion.Text.AsciiPattern

/-!
# Spellings of a label

Before any part of a label is judged, the text is cut at its delimiters. An absolute spelling
brings its own package; a relative one names a target in the package of whoever wrote it. The cuts
are made at the first `//` and the first `:`, and a `:` is allowed only where one of them belongs.
-/
namespace LabelExpansion

/-- The rule that a text breaks which is no label. -/
inductive LabelFault where
  | empty
  | repositoryWithoutSlashes
  | relativePackage
  | rootWithoutTarget
  | package (error : PackageError)
  | target (error : TargetNameError)
  deriving DecidableEq

instance : Diagnostic LabelFault where
  chain
    | .empty => ["Label is empty"]
    | .repositoryWithoutSlashes => ["Repository name must be followed by `//`"]
    | .relativePackage =>
      ["Package-qualified labels must be absolute. Start with `//` for a package or `:` for a "
        ++ "target in the current package"]
    | .rootWithoutTarget =>
      ["Cannot infer a target name for the root package, write `//:name`"]
    | .package error => Diagnostic.chain error
    | .target error => Diagnostic.chain error

inductive Spelling where
  /-- One of `@repository//package:target`, `//package:target` and `//package`. -/
  | absolute (repository package : Text) (target : Option Text)
  /-- Either `:target` or `target`. -/
  | relative (target : Text)
  deriving DecidableEq

namespace Spelling

/-- What follows the slashes is a package, and a target after the first colon if there is one. -/
def qualified (repository rest : Text) : Spelling :=
  match AsciiPattern.colon.split? rest with
  | some (package, target) => .absolute repository package (some target)
  | none => .absolute repository rest none

/-- A text without a package of its own. -/
def unqualified (text : Text) : Except LabelFault Spelling :=
  match AsciiPattern.colon.strip? text with
  | some target => .ok (.relative target)
  | none =>
    if (AsciiPattern.colon.split? text).isSome then .error .relativePackage
    else .ok (.relative text)

def ofText (text : Text) : Except LabelFault Spelling :=
  if text = [] then .error .empty
  else match AsciiPattern.atSign.strip? text with
    | some rest =>
      match AsciiPattern.slashes.split? rest with
      | some (repository, rest) => .ok (qualified repository rest)
      | none => .error .repositoryWithoutSlashes
    | none =>
      match AsciiPattern.slashes.strip? text with
      | some rest => .ok (qualified [] rest)
      | none => unqualified text

end Spelling

end LabelExpansion
