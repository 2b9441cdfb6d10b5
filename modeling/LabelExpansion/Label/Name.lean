import LabelExpansion.Attempt
import LabelExpansion.Path.Normal
import LabelExpansion.Text.AsciiSet
import LabelExpansion.Text.Quotation

/-!
# Target names

A target name is a text. One that is read by `ofText` is a normalized path that is not empty and
has no `:`; the constructor takes any text at all, for names that a caller vouches for. A name with
several faults is reported for its characters first and for its shape second.
-/
namespace LabelExpansion

/-- Why a text is no target name. -/
inductive TargetNameError where
  | empty
  | invalidCharacter (name : Text) (character : Char)
  | notNormal (name : Text) (flaw : PathFlaw)
  deriving DecidableEq

instance : Diagnostic TargetNameError where
  chain
    | .empty => ["Target name is empty"]
    | .invalidCharacter name character =>
      [s!"Invalid target name `{spell name}`: character `{character}` is not allowed"]
    | .notNormal name flaw => [s!"Invalid target name `{spell name}`: {flaw.message}"]

structure TargetName where
  text : Text
  deriving DecidableEq

namespace TargetName

/-- Printable ASCII without the colon, the backslash and the backtick. -/
def characters : AsciiSet :=
  .alphanumeric ∪ .ofChars "!%-@^_\"#$&'()*+,;<=>?[]\x7b|\x7d~/. ".toList

/-- The error of a text that is to name a target. -/
def error? (name : Text) : Option TargetNameError :=
  if name = [] then some .empty
  else match characters.firstOutside? name with
    | some character => some (.invalidCharacter name character)
    | none => (Path.flaw? name).map (.notNormal name)

def ofText (name : Text) : Except TargetNameError TargetName :=
  match error? name with
  | some error => .error error
  | none => .ok ⟨name⟩

def inspect (name : TargetName) : String :=
  s!"TargetName({Quotation.quoted name.text})"

/-- The diagnostic form of a name that is seen without being owned. -/
def inspectView (name : TargetName) : String :=
  s!"TargetNameRef({Quotation.quoted name.text})"

end TargetName

end LabelExpansion
