import LabelExpansion.Label.Spelling

/-!
# Reading labels

A label is read relative to a current package. The text is cut into a spelling, and the parts are
then judged from left to right: repository, package path, target name. A spelling without a target
means the target named like the last segment of its package. The first rule that is broken is the
one reported, under a context that quotes the whole text.
-/
namespace LabelExpansion

/-- A text that is no label, and the first rule it breaks. -/
structure LabelError where
  text : Text
  fault : LabelFault
  deriving DecidableEq

instance : Diagnostic LabelError where
  chain error := s!"Invalid label `{spell error.text}`" :: Diagnostic.chain error.fault

/-- The target that a spelling names, inferred from the package where none is written. -/
def PackagePath.targetText (path : PackagePath) : Option Text → Except LabelFault Text
  | some target => .ok target
  | none =>
    match path.fileName? with
    | some name => .ok name
    | none => .error .rootWithoutTarget

namespace Spelling

def resolve (current : Package) : Spelling → Except LabelFault Label
  | absolute repository package target => do
    let package ← (Package.ofTexts repository package).mapError .package
    let target ← package.path.targetText target
    let name ← (TargetName.ofText target).mapError .target
    pure ⟨package, name⟩
  | relative target => do
    let name ← (TargetName.ofText target).mapError .target
    pure ⟨current, name⟩

end Spelling

/-- Why a text is no absolute label. -/
inductive AbsoluteLabelError where
  | notAbsolute (text : Text)
  | invalid (error : LabelError)
  deriving DecidableEq

instance : Diagnostic AbsoluteLabelError where
  chain
    | .notAbsolute text => [s!"label must be absolute: `{spell text}`"]
    | .invalid error => Diagnostic.chain error

namespace Label

def parse (text : Text) (current : Package) : Except LabelError Label :=
  (Spelling.ofText text >>= Spelling.resolve current).mapError (LabelError.mk text)

/-- Reads a label that brings its own package. -/
def parseAbsolute (text : Text) : Except AbsoluteLabelError Label :=
  if AsciiPattern.slashes.begins text || AsciiPattern.atSign.begins text then
    (parse text Package.root).mapError .invalid
  else .error (.notAbsolute text)

end Label

end LabelExpansion
