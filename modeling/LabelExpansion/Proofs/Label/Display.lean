import LabelExpansion.Proofs.Label.Grammar

/-!
# Reading a displayed label

A label is displayed in the full style, with its repository in front unless it is the main one. The
delimiters are found again because each part of a checked label keeps out the one that ends it: a
repository has no slash and a path has no colon. Names built without a check promise no such thing,
so what is said here is said of labels that were read or whose name was.
-/
namespace LabelExpansion

namespace Label

/-- How a label comes about whose every part was checked. -/
inductive Checked : Label → Prop where
  | read (text : Text) (current : Package) (label : Label) :
      parse text current = .ok label → Checked label
  | made (package : Package) (text : Text) (name : TargetName) :
      TargetName.ofText text = .ok name → Checked ⟨package, name⟩

theorem Checked.nameText {label : Label} (checked : Checked label) : NameText label.name.text := by
  cases checked with
  | read text current label returned =>
    obtain ⟨style, meaning, written, denotes⟩ := Grammar.written_of_parse returned
    exact Grammar.nameText_of_written written denotes
  | made package text name returned =>
    obtain ⟨spelled, valid⟩ := (TargetName.ofText_eq_ok_iff text name).mp returned
    rw [spelled]
    exact valid

theorem opening_display (repository : RepositoryName) :
    Grammar.Opening repository.display repository.text := by
  cases repository with
  | main => exact .silent
  | named name valid => exact .named name ((RepositoryName.error?_eq_none_iff name).mp valid)

theorem written_display (label : Label) (valid : NameText label.name.text) :
    Grammar.Written .full label.display
      (.absolute label.package.repository.text label.package.path.text label.name.text) := by
  -- The delimiters stand around the parts as the full style wants them.
  have whole : label.display = label.package.repository.display ++
      '/' :: '/' :: (label.package.path.text ++ ':' :: label.name.text) := by
    simp [display, Package.display]
  rw [whole]
  exact .full _ _ _ _ (opening_display _) label.package.path.pathText valid

/-- A checked label is displayed as a text that every package reads as that label. -/
theorem parse_display {label : Label} (checked : Checked label) (current : Package) :
    parse label.display current = .ok label :=
  Grammar.parse_of_written (written_display label checked.nameText) ⟨rfl, rfl, rfl⟩

/-- The delimiters of labels occur inside the parts of this one. -/
private def delimited : Label :=
  ⟨⟨.named "re.po-1".toList (by decide), ⟨"a b/@c=d".toList, by decide⟩⟩, ⟨"x/@y=/ z".toList⟩⟩

theorem parse_display_delimited :
    TargetName.ofText "x/@y=/ z".toList = .ok delimited.name ∧
      parse "@re.po-1//a b/@c=d:x/@y=/ z".toList Package.root = .ok delimited := by
  have valid : TargetName.ofText "x/@y=/ z".toList = .ok delimited.name := by decide
  have spelled : delimited.display = "@re.po-1//a b/@c=d:x/@y=/ z".toList := by decide
  have checked : Checked delimited := .made _ _ _ valid
  rw [← spelled]
  exact ⟨valid, parse_display checked Package.root⟩

end Label

end LabelExpansion
