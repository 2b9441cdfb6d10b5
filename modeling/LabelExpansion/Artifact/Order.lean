import LabelExpansion.Artifact.Basic

/-!
# The order of artifacts

Every source artifact comes before every derived one. Source artifacts go by path, derived ones by
output root and then by path. The order is total and transitive, and it calls two artifacts equal
only if they are.
-/
namespace LabelExpansion

namespace NormalPath

def order : NormalPath → NormalPath → Ordering :=
  orderBy text Text.order

instance : Std.TransCmp order :=
  inferInstanceAs (Std.TransCmp (orderBy text Text.order))

instance : Std.LawfulEqCmp order where
  eq_of_compare {left right} equal := by
    have texts : left.text = right.text := Text.eq_of_order left.text right.text equal
    cases left
    cases right
    simp_all

end NormalPath

namespace Artifact

def order : Artifact → Artifact → Ordering
  | source left, source right => NormalPath.order left right
  | source _, derived .. => .lt
  | derived .., source _ => .gt
  | derived leftRoot leftPath, derived rightRoot rightPath =>
    compareLex (orderBy Prod.fst NormalPath.order) (orderBy Prod.snd NormalPath.order)
      (leftRoot, leftPath) (rightRoot, rightPath)

instance : Std.TransCmp order where
  eq_swap {left right} := by
    cases left <;> cases right <;> simp only [order]
    · exact Std.OrientedCmp.eq_swap
    · rfl
    · rfl
    · exact Std.OrientedCmp.eq_swap
  isLE_trans {first second third} := by
    cases first <;> cases second <;> cases third <;> simp [order]
    · exact Std.TransCmp.isLE_trans
    · exact Std.TransCmp.isLE_trans

instance : Std.LawfulEqCmp order where
  eq_of_compare {left right} equal := by
    cases left <;> cases right <;> simp only [order, reduceCtorEq] at equal
    · exact congrArg source (Std.LawfulEqCmp.eq_of_compare equal)
    next leftRoot leftPath rightRoot rightPath =>
      obtain ⟨roots, paths⟩ := compareLex_eq_eq.mp equal
      have sameRoot : leftRoot = rightRoot :=
        Std.LawfulEqCmp.eq_of_compare (roots : NormalPath.order _ _ = .eq)
      have samePath : leftPath = rightPath :=
        Std.LawfulEqCmp.eq_of_compare (paths : NormalPath.order _ _ = .eq)
      exact congr (congrArg derived sameRoot) samePath

end Artifact

end LabelExpansion
