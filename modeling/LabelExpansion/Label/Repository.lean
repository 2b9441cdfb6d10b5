import LabelExpansion.Attempt
import LabelExpansion.Text.AsciiSet
import LabelExpansion.Text.Quotation

/-!
# Repository names

A label names the repository it lives in, or is silent and means the main one. The empty text
stands for the main repository, so a named repository is never empty: its name starts with a
letter. Neither `/` nor `:` is allowed, which is what lets a label be cut back into its parts.
-/
namespace LabelExpansion

/-- Why a text is no repository name. -/
inductive RepositoryNameError where
  | mustStartWithLetter (name : Text)
  | invalidCharacter (name : Text) (character : Char)
  deriving DecidableEq

instance : Diagnostic RepositoryNameError where
  chain
    | .mustStartWithLetter name => [s!"Repository name `{spell name}` must start with a letter"]
    | .invalidCharacter name character =>
      [s!"Repository name `{spell name}` contains invalid character `{character}`"]

namespace RepositoryName

def characters : AsciiSet :=
  .alphanumeric ∪ .ofChars "_-.".toList

/-- The error of a text that is to name a repository: its front is judged before its characters. -/
def error? (name : Text) : Option RepositoryNameError :=
  if name.head?.any Char.isAlpha then
    (characters.firstOutside? name).map (.invalidCharacter name)
  else some (.mustStartWithLetter name)

end RepositoryName

inductive RepositoryName where
  | main
  | named (name : Text) (valid : RepositoryName.error? name = none)
  deriving DecidableEq

namespace RepositoryName

/-- Reads what stands between `@` and `//`. -/
def ofText (name : Text) : Except RepositoryNameError RepositoryName :=
  if name = [] then .ok main
  else match valid : error? name with
    | some error => .error error
    | none => .ok (named name valid)

/-- The bare name, empty for the main repository. -/
def text : RepositoryName → Text
  | main => []
  | named name _ => name

def isMain : RepositoryName → Bool
  | main => true
  | named .. => false

/-- The repository as it is written at the front of a label. -/
def display : RepositoryName → Text
  | main => []
  | named name _ => '@' :: name

def inspect : RepositoryName → String
  | main => "RepositoryName(None)"
  | named name _ => s!"RepositoryName(Some({Quotation.quoted name}))"

end RepositoryName

end LabelExpansion
