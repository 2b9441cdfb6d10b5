import LabelExpansion.Label.Basic
import LabelExpansion.Proofs.Label.Component
import LabelExpansion.Proofs.Text.Occurrence
import LabelExpansion.Proofs.Text.Quotation
import Mathlib.Data.List.TFAE
import Mathlib.Tactic.TFAE

/-!
# The identity of a label is its text

The delimiters of a displayed label are found again whatever its name is made of. The first colon
ends the package, since neither a repository nor a path can hold one, and behind `@` the first slash
ends the repository. So the display determines the label, and so does the JSON string, from which
the display can be told.
-/
namespace LabelExpansion

theorem PackagePath.text_injective {left right : PackagePath} (same : left.text = right.text) :
    left = right := by
  cases left
  cases right
  cases same
  rfl

namespace Package

theorem colon_not_mem_display (package : Package) : ':' ∉ package.display := by
  have path : ':' ∉ package.path.text := package.path.pathText.colon_not_mem
  cases home : package.repository with
  | main => simp [display, RepositoryName.display, home, path]
  | named name valid =>
    have clear := ((RepositoryName.error?_eq_none_iff name).mp valid).colon_not_mem
    simp [display, RepositoryName.display, home, path, clear]

/-- A package is told by its display: `@` shows whether a repository is named, and then the first
slash is where its name ends. -/
theorem display_injective {left right : Package} (same : left.display = right.display) :
    left = right := by
  obtain ⟨leftHome, leftPath⟩ := left
  obtain ⟨rightHome, rightPath⟩ := right
  cases leftHome with
  | main =>
    cases rightHome with
    | main =>
      have paths : leftPath.text = rightPath.text :=
        (List.cons.inj (List.cons.inj same).2).2
      rw [PackagePath.text_injective paths]
    | named name valid => exact absurd (List.cons.inj same).1 (by decide)
  | named name valid =>
    cases rightHome with
    | main => exact absurd (List.cons.inj same).1 (by decide)
    | named other again =>
      have clear := ((RepositoryName.error?_eq_none_iff name).mp valid).slash_not_mem
      have otherClear := ((RepositoryName.error?_eq_none_iff other).mp again).slash_not_mem
      -- Names of repositories have no slash, so both are cut at the first two slashes.
      have first := AsciiPattern.firstOccurrence_slashes name leftPath.text clear
      have whole : name ++ '/' :: '/' :: leftPath.text = other ++ '/' :: '/' :: rightPath.text :=
        (List.cons.inj same).2
      rw [whole] at first
      obtain ⟨rfl, paths⟩ :=
        first.unique (AsciiPattern.firstOccurrence_slashes other rightPath.text otherClear)
      rw [PackagePath.text_injective paths]

end Package

namespace Label

theorem firstOccurrence_colon_display (label : Label) :
    AsciiPattern.colon.FirstOccurrence label.display label.package.display label.name.text :=
  (AsciiPattern.firstOccurrence_one_iff _ _ _ _).mpr ⟨rfl, label.package.colon_not_mem_display⟩

/-- A label is told by its display, even if its name holds the delimiters of labels. -/
theorem display_injective {left right : Label} (same : left.display = right.display) :
    left = right := by
  have first := left.firstOccurrence_colon_display
  rw [same] at first
  obtain ⟨packages, names⟩ := first.unique right.firstOccurrence_colon_display
  obtain ⟨leftPackage, ⟨leftName⟩⟩ := left
  obtain ⟨rightPackage, ⟨rightName⟩⟩ := right
  cases Package.display_injective packages
  cases names
  rfl

/-- Labels are equal exactly when they are displayed alike, serialized alike, or equal in order,
whatever text their names are. -/
theorem identity_tfae (left right : Label) :
    List.TFAE [left = right, left.display = right.display, left.serialized = right.serialized,
      order left right = .eq] := by
  tfae_have 1 → 2 := congrArg display
  tfae_have 2 → 3 := congrArg Quotation.json
  tfae_have 3 → 1 := fun same => display_injective (Quotation.json_injective same)
  tfae_have 1 ↔ 4 := Std.LawfulEqCmp.compare_eq_iff_eq.symm
  tfae_finish

end Label

end LabelExpansion
