import LabelExpansion.Attempt
import LabelExpansion.Path.Normal

/-!
# Artifacts

An artifact is a file that a target provides. A source artifact lies in the source tree and a
derived one below an output root, whose path is part of the artifact. Every path is normalized and
names something, so the path from which an artifact is run stays below its root.
-/
namespace LabelExpansion

inductive Artifact where
  | source (path : NormalPath)
  | derived (root path : NormalPath)
  deriving DecidableEq

/-- Why texts describe no artifact. -/
inductive ArtifactError where
  | emptyRoot
  | flawedRoot (root : Text) (flaw : PathFlaw)
  | emptyPath
  | flawedPath (path : Text) (flaw : PathFlaw)
  deriving DecidableEq

instance : Diagnostic ArtifactError where
  chain
    | .emptyRoot => ["Output root of a derived artifact is empty"]
    | .flawedRoot root flaw => [s!"Invalid output root `{spell root}`", flaw.message]
    | .emptyPath => ["Artifact path is empty"]
    | .flawedPath path flaw => [s!"Invalid artifact path `{spell path}`", flaw.message]

/-- A text as a path that names something, with the errors to report of one that does not. -/
def NormalPath.ofText {ε : Type} (empty : ε) (flawed : Text → PathFlaw → ε) (text : Text) :
    Except ε NormalPath :=
  if unnamed : text = [] then .error empty
  else match normal : Path.flaw? text with
    | some flaw => .error (flawed text flaw)
    | none => .ok ⟨text, unnamed, normal⟩

namespace Artifact

def ofPath (path : Text) : Except ArtifactError Artifact := do
  let path ← NormalPath.ofText .emptyPath .flawedPath path
  pure (source path)

/-- Judges the output root before the path. -/
def ofRootAndPath (root path : Text) : Except ArtifactError Artifact := do
  let root ← NormalPath.ofText .emptyRoot .flawedRoot root
  let path ← NormalPath.ofText .emptyPath .flawedPath path
  pure (derived root path)

/-- The path below the root of the artifact. -/
def path : Artifact → Text
  | source path => path.text
  | derived _ path => path.text

/-- The output root, if the artifact is derived. -/
def root? : Artifact → Option Text
  | source _ => none
  | derived root _ => some root.text

def isSource : Artifact → Bool
  | source _ => true
  | derived .. => false

/-- The path below the directory in which commands are run. -/
def execPath : Artifact → Text
  | source path => path.text
  | derived root path => root.text ++ '/' :: path.text

def display : Artifact → Text
  | source path => "<source ".toList ++ path.text ++ ['>']
  | derived root path =>
    "<build artifact ".toList ++ path.text ++ " in ".toList ++ root.text ++ ['>']

end Artifact

end LabelExpansion
