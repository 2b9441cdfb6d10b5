import LabelExpansion.Artifact.Basic
import LabelExpansion.Label.Parse
import LabelExpansion.Mapping.Basic

/-!
# Written forms

Labels, artifacts and the entries of a mapping as they are written down, before anything about them
has been checked. A form is read from left to right, and the first part that cannot be read is the
one that is reported.
-/
namespace LabelExpansion

inductive LabelForm where
  /-- A label, to be read relative to a current package. -/
  | written (text : Text)
  /-- The parts of a label. The name is taken as it is unless it is to be `checked`. -/
  | assembled (repository path name : Text) (checked : Bool)
  deriving DecidableEq

inductive ArtifactForm where
  | source (path : Text)
  | derived (root path : Text)
  deriving DecidableEq

structure EntryForm where
  label : LabelForm
  artifacts : List ArtifactForm
  deriving DecidableEq

/-- Why a form cannot be read. -/
inductive FormError where
  | label (error : LabelError)
  | package (error : PackageError)
  | target (error : TargetNameError)
  | artifact (error : ArtifactError)
  deriving DecidableEq

instance : Diagnostic FormError where
  chain
    | .label error => Diagnostic.chain error
    | .package error => Diagnostic.chain error
    | .target error => Diagnostic.chain error
    | .artifact error => Diagnostic.chain error

def LabelForm.read (current : Package) : LabelForm → Except FormError Label
  | written text => (Label.parse text current).mapError .label
  | assembled repository path name checked => do
    let package ← (Package.ofTexts repository path).mapError .package
    let name ←
      if checked then (TargetName.ofText name).mapError .target else pure (TargetName.mk name)
    pure ⟨package, name⟩

def ArtifactForm.read : ArtifactForm → Except FormError Artifact
  | source path => (Artifact.ofPath path).mapError .artifact
  | derived root path => (Artifact.ofRootAndPath root path).mapError .artifact

def EntryForm.read (current : Package) (form : EntryForm) : Except FormError Entry := do
  let label ← form.label.read current
  let artifacts ← form.artifacts.mapM ArtifactForm.read
  pure (label, artifacts)

/-- A target and the mapping it sees. The labels of the mapping are relative to the package of the
target, which is itself read relative to the root of the main repository. -/
structure ScopeForm where
  anchor : LabelForm
  entries : List EntryForm
  deriving DecidableEq

structure Scope where
  anchor : Label
  entries : List Entry
  deriving DecidableEq

def ScopeForm.read (form : ScopeForm) : Except FormError Scope := do
  let anchor ← form.anchor.read Package.root
  let entries ← form.entries.mapM (EntryForm.read anchor.package)
  pure ⟨anchor, entries⟩

end LabelExpansion
