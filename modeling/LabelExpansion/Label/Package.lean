import LabelExpansion.Label.Repository
import LabelExpansion.Path.Normal

/-!
# Packages

A package is a directory of a repository. Its path is normalized and written in a small alphabet
without `:`; the empty path is the root of the repository. A path with several faults is reported
for its shape first and for its characters second.
-/
namespace LabelExpansion

/-- Why a text is no package path. -/
inductive PackagePathError where
  | notNormal (path : Text) (flaw : PathFlaw)
  | invalidCharacter (path : Text) (character : Char)
  deriving DecidableEq

instance : Diagnostic PackagePathError where
  chain
    | .notNormal path flaw => [s!"Invalid package path `{spell path}`", flaw.message]
    | .invalidCharacter path character =>
      [s!"Package path `{spell path}` contains invalid character `{character}`"]

namespace PackagePath

def characters : AsciiSet :=
  .alphanumeric ∪ .ofChars "/-._ $()+@=".toList

/-- The error of a text that is to be a package path. -/
def error? (path : Text) : Option PackagePathError :=
  match Path.flaw? path with
  | some flaw => some (.notNormal path flaw)
  | none => (characters.firstOutside? path).map (.invalidCharacter path)

end PackagePath

structure PackagePath where
  text : Text
  valid : PackagePath.error? text = none
  deriving DecidableEq

namespace PackagePath

def ofText (path : Text) : Except PackagePathError PackagePath :=
  match valid : error? path with
  | some error => .error error
  | none => .ok ⟨path, valid⟩

def root : PackagePath :=
  ⟨[], by decide⟩

/-- The directory's own name, which the root of a repository lacks. -/
def fileName? (path : PackagePath) : Option Text :=
  Path.fileName? path.text

def inspect (path : PackagePath) : String :=
  s!"PackagePath({Quotation.quoted path.text})"

end PackagePath

/-- Why two texts name no package. -/
inductive PackageError where
  | repository (error : RepositoryNameError)
  | path (error : PackagePathError)
  deriving DecidableEq

instance : Diagnostic PackageError where
  chain
    | .repository error => Diagnostic.chain error
    | .path error => Diagnostic.chain error

structure Package where
  repository : RepositoryName
  path : PackagePath
  deriving DecidableEq

namespace Package

/-- The root package of the main repository. -/
def root : Package :=
  ⟨.main, .root⟩

/-- Reads a repository name and then a path. -/
def ofTexts (repository path : Text) : Except PackageError Package := do
  let repository ← (RepositoryName.ofText repository).mapError .repository
  let path ← (PackagePath.ofText path).mapError .path
  pure ⟨repository, path⟩

def display (package : Package) : Text :=
  package.repository.display ++ '/' :: '/' :: package.path.text

def inspect (package : Package) : String :=
  "PackageLabel \x7b repository: " ++ package.repository.inspect ++ ", path: "
    ++ package.path.inspect ++ " \x7d"

end Package

end LabelExpansion
