import LabelExpansion.Artifact.Order
import LabelExpansion.Label.Basic
import LabelExpansion.Proofs.Ordered

/-!
# Which label comes first

What precedes what, said part by part and without comparisons: texts by their bytes, repositories
with the main one in front, labels by their three parts in turn, and artifacts with those of the
source tree in front. The orders of labels and of artifacts are canonical for these relations, for
names of any text. So a list of labels has one ascending arrangement, which goes package by package
and begins with the main repository.
-/
namespace LabelExpansion

namespace Text

/-- The lower byte decides where two texts first differ, and a text follows its own proper
beginnings. -/
def Precedes (left right : Text) : Prop :=
  utf8 left < utf8 right

theorem compare_bytes_eq_lt_iff (left right : List UInt8) :
    compare left right = .lt ↔ left < right := by
  induction left generalizing right with
  | nil =>
    cases right with
    | nil => simp
    | cons byte rest => simp [List.compare_nil_cons]
  | cons first others ih =>
    cases right with
    | nil => simp [List.compare_cons_nil]
    | cons byte rest =>
      rw [List.compare_cons_cons, Ordering.then_eq_lt, ih, List.cons_lt_cons_iff,
        Std.compare_eq_lt, Std.LawfulEqCmp.compare_eq_iff_eq]

theorem order_eq_lt_iff (left right : Text) : order left right = .lt ↔ Precedes left right :=
  compare_bytes_eq_lt_iff _ _

end Text

namespace RepositoryName

inductive Precedes : RepositoryName → RepositoryName → Prop where
  | main (name : Text) (valid : error? name = none) : Precedes main (named name valid)
  | named (left right : Text) (leftValid : error? left = none) (rightValid : error? right = none) :
      left.Precedes right → Precedes (named left leftValid) (named right rightValid)

theorem order_eq_lt_iff (left right : RepositoryName) :
    order left right = .lt ↔ left.Precedes right := by
  constructor
  · intro less
    cases left with
    | main =>
      cases right with
      | main => cases less
      | named name valid => exact .main name valid
    | named name valid =>
      cases right with
      | main => cases less
      | named other again => exact .named _ _ _ _ ((Text.order_eq_lt_iff name other).mp less)
  · intro precedes
    cases precedes with
    | main name valid => rfl
    | named left right _ _ before => exact (Text.order_eq_lt_iff left right).mpr before

end RepositoryName

namespace Label

/-- Labels go by repository, within one repository by package path, and within one package by
name. -/
inductive Precedes (left right : Label) : Prop where
  | repository : left.package.repository.Precedes right.package.repository → Precedes left right
  | path : left.package.repository = right.package.repository →
      left.package.path.text.Precedes right.package.path.text → Precedes left right
  | name : left.package = right.package → left.name.text.Precedes right.name.text →
      Precedes left right

end Label

namespace Package

theorem order_eq_lt_iff (left right : Package) :
    order left right = .lt ↔ left.repository.Precedes right.repository ∨
      left.repository = right.repository ∧ left.path.text.Precedes right.path.text := by
  change (RepositoryName.order left.repository right.repository).then
    (Text.order left.path.text right.path.text) = .lt ↔ _
  rw [Ordering.then_eq_lt, RepositoryName.order_eq_lt_iff, Text.order_eq_lt_iff,
    Std.LawfulEqCmp.compare_eq_iff_eq]

end Package

namespace Label

theorem order_eq_lt_iff (left right : Label) : order left right = .lt ↔ left.Precedes right := by
  have parts : order left right = .lt ↔ Package.order left.package right.package = .lt ∨
      left.package = right.package ∧ left.name.text.Precedes right.name.text := by
    change (Package.order left.package right.package).then
      (Text.order left.name.text right.name.text) = .lt ↔ _
    rw [Ordering.then_eq_lt, Text.order_eq_lt_iff, Std.LawfulEqCmp.compare_eq_iff_eq]
  rw [parts, Package.order_eq_lt_iff]
  constructor
  · rintro ((repositories | ⟨home, paths⟩) | ⟨packages, names⟩)
    · exact .repository repositories
    · exact .path home paths
    · exact .name packages names
  · intro precedes
    cases precedes with
    | repository repositories => exact .inl (.inl repositories)
    | path home paths => exact .inl (.inr ⟨home, paths⟩)
    | name packages names => exact .inr ⟨packages, names⟩

/-- Ascending labels begin with those of the main repository. -/
theorem pairwise_isMain_ascending (labels : List Label) :
    (Ordered.ascending order labels).Pairwise fun left right =>
      right.package.repository = .main → left.package.repository = .main := by
  apply (Ordered.pairwise_part_ascending labels).imp
  intro left right packages main
  have repositories := Ordered.isLE_part_of_isLE packages
  rw [main] at repositories
  -- Nothing but the main repository is at most the main repository.
  cases home : left.package.repository with
  | main => rfl
  | named name valid =>
    rw [home] at repositories
    cases repositories

end Label

namespace Artifact

/-- Source artifacts come first and go by path; derived ones go by output root and then by path. -/
inductive Precedes : Artifact → Artifact → Prop where
  | sources (left right : NormalPath) : left.text.Precedes right.text →
      Precedes (source left) (source right)
  | source (path root other : NormalPath) : Precedes (source path) (derived root other)
  | roots (leftRoot leftPath rightRoot rightPath : NormalPath) :
      leftRoot.text.Precedes rightRoot.text →
      Precedes (derived leftRoot leftPath) (derived rightRoot rightPath)
  | paths (root left right : NormalPath) : left.text.Precedes right.text →
      Precedes (derived root left) (derived root right)

theorem order_eq_lt_iff (left right : Artifact) :
    order left right = .lt ↔ left.Precedes right := by
  constructor
  · intro less
    cases left with
    | source path =>
      cases right with
      | source other => exact .sources path other ((Text.order_eq_lt_iff _ _).mp less)
      | derived root other => exact .source path root other
    | derived root path =>
      cases right with
      | source other => cases less
      | derived otherRoot other =>
        change (NormalPath.order root otherRoot).then (NormalPath.order path other) = .lt at less
        rw [Ordering.then_eq_lt, Std.LawfulEqCmp.compare_eq_iff_eq] at less
        rcases less with roots | ⟨rfl, paths⟩
        · exact .roots _ _ _ _ ((Text.order_eq_lt_iff _ _).mp roots)
        · exact .paths _ _ _ ((Text.order_eq_lt_iff _ _).mp paths)
  · intro precedes
    cases precedes with
    | sources left right before => exact (Text.order_eq_lt_iff _ _).mpr before
    | source path root other => rfl
    | roots leftRoot leftPath rightRoot rightPath before =>
      exact Ordering.then_eq_lt.mpr (.inl ((Text.order_eq_lt_iff _ _).mpr before))
    | paths root left right before =>
      have same : NormalPath.order root root = .eq := Std.LawfulEqCmp.compare_eq_iff_eq.mpr rfl
      exact Ordering.then_eq_lt.mpr (.inr ⟨same, (Text.order_eq_lt_iff _ _).mpr before⟩)

end Artifact

/-- Labels and artifacts are ordered canonically by their parts, and sorted labels stand package by
package with those of the main repository in front. -/
theorem labels_and_artifacts_ordered_by_parts :
    Ordered.Canonical Label.order Label.Precedes ∧
    (∀ labels : List Label,
      Ordered.Grouped Label.package (Ordered.ascending Label.order labels) ∧
      (Ordered.ascending Label.order labels).Pairwise fun left right =>
        right.package.repository = .main → left.package.repository = .main) ∧
    Ordered.Canonical Artifact.order Artifact.Precedes := by
  refine ⟨Ordered.canonical_of_less Label.order_eq_lt_iff, ?_,
    Ordered.canonical_of_less Artifact.order_eq_lt_iff⟩
  intro labels
  exact ⟨Ordered.grouped_ascending labels, Label.pairwise_isMain_ascending labels⟩

end LabelExpansion
