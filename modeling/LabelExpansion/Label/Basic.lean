import LabelExpansion.Label.Name
import LabelExpansion.Label.Package

/-!
# Labels and their order

A label is the canonical identity of a target: a package and a name within it. It is written as
`//some/package:target` or `@repo//some/package:target`. The text determines the label, whatever
the name is made of, because neither the repository nor the path can hold a `:`.

Labels are ordered by repository, then package path, then target name. The main repository comes
before every named one and texts go by their bytes, so the order is not that of the written labels.
Each order is lawful: it is total and transitive, and it calls two values equal only if they are.
-/
namespace LabelExpansion

structure Label where
  package : Package
  name : TargetName
  deriving DecidableEq

namespace Label

def display (label : Label) : Text :=
  label.package.display ++ ':' :: label.name.text

def inspect (label : Label) : String :=
  s!"TargetLabel({spell label.display})"

/-- The label as a JSON string. -/
def serialized (label : Label) : Text :=
  Quotation.json label.display

instance : Hashable Label where
  hash label := @hash Text (@instHashableList Char instHashableChar) label.display

end Label

/-! ## The order of labels -/

namespace RepositoryName

/-- The main repository first, then the named ones by name. -/
def order : RepositoryName → RepositoryName → Ordering
  | main, main => .eq
  | main, named .. => .lt
  | named .., main => .gt
  | named left _, named right _ => Text.order left right

instance : Std.TransCmp order where
  eq_swap {left right} := by
    cases left <;> cases right <;> simp [order]
    exact Std.OrientedCmp.eq_swap
  isLE_trans {first second third} := by
    cases first <;> cases second <;> cases third <;> simp [order]
    exact Std.TransCmp.isLE_trans

instance : Std.LawfulEqCmp order where
  eq_of_compare {left right} equal := by
    cases left <;> cases right <;> simp [order] at equal ⊢
    exact equal

end RepositoryName

namespace Package

/-- By repository, then by path. -/
def order : Package → Package → Ordering :=
  compareLex (orderBy repository RepositoryName.order) (orderBy (·.path.text) Text.order)

instance : Std.TransCmp order :=
  inferInstanceAs (Std.TransCmp (compareLex _ _))

instance : Std.LawfulEqCmp order where
  eq_of_compare {left right} equal := by
    obtain ⟨sameRepository, samePath⟩ := compareLex_eq_eq.mp equal
    have repositories : left.repository = right.repository :=
      Std.LawfulEqCmp.eq_of_compare (sameRepository : RepositoryName.order _ _ = .eq)
    have paths := Text.eq_of_order _ _ samePath
    cases left with
    | mk _ leftPath =>
      cases leftPath
      cases right with
      | mk _ rightPath =>
        cases rightPath
        simp_all

end Package

namespace Label

/-- By package, then by target name. -/
def order : Label → Label → Ordering :=
  compareLex (orderBy package Package.order) (orderBy (·.name.text) Text.order)

instance : Std.TransCmp order :=
  inferInstanceAs (Std.TransCmp (compareLex _ _))

instance : Std.LawfulEqCmp order where
  eq_of_compare {left right} equal := by
    obtain ⟨samePackage, sameName⟩ := compareLex_eq_eq.mp equal
    have packages : left.package = right.package :=
      Std.LawfulEqCmp.eq_of_compare (samePackage : Package.order _ _ = .eq)
    have names := Text.eq_of_order _ _ sameName
    cases left with
    | mk _ leftName =>
      cases leftName
      cases right with
      | mk _ rightName =>
        cases rightName
        simp_all

end Label

end LabelExpansion
