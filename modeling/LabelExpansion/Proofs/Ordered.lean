import LabelExpansion.Ordered

/-!
# Canonical orders

An order is canonical for a relation when comparing two values says which of them precedes the other
and finds no difference only between equals. All that sorting promises follows from that: a list has
one ascending arrangement, so neither the places that values had before nor the way they are sorted
can be seen in it, and values that agree in the leading part of the order stand together.
-/
namespace LabelExpansion

/-- Of three statements, exactly one is true. -/
def ExactlyOne (first second third : Prop) : Prop :=
  (first ∧ ¬ second ∧ ¬ third) ∨ (¬ first ∧ second ∧ ¬ third) ∨ (¬ first ∧ ¬ second ∧ third)

namespace Ordered

variable {α β : Type}

/-- Values between two that have a part in common have it too. -/
def Grouped (part : α → β) (values : List α) : Prop :=
  ∀ before first between last after, values = before ++ first :: between ++ last :: after →
    part first = part last → ∀ value ∈ between, part value = part first

/-- What an order is for that says which of two values precedes the other. -/
structure Canonical (order : α → α → Ordering) (Precedes : α → α → Prop) : Prop where
  less : ∀ left right, order left right = .lt ↔ Precedes left right
  equal : ∀ left right, order left right = .eq ↔ left = right
  greater : ∀ left right, order left right = .gt ↔ Precedes right left
  trichotomous : ∀ left right,
    ExactlyOne (Precedes left right) (left = right) (Precedes right left)
  transitive : ∀ first second third, Precedes first second → Precedes second third →
    Precedes first third
  sorted : ∀ values result, ascending order values = result ↔
    result.Perm values ∧ result.Pairwise fun left right => ¬ Precedes right left
  permuted : ∀ values others : List α, values.Perm others →
    ascending order values = ascending order others

section Sorting

variable (order : α → α → Ordering)

theorem perm_ascending (values : List α) : (ascending order values).Perm values :=
  List.mergeSort_perm values _

variable [Std.TransCmp order]

theorem isLE_iff (left right : α) : (order left right).isLE = true ↔ order right left ≠ .lt := by
  rw [Ordering.isLE_iff_ne_gt, Std.OrientedCmp.gt_iff_lt]

theorem pairwise_ascending (values : List α) :
    (ascending order values).Pairwise fun left right => (order left right).isLE = true := by
  apply List.pairwise_mergeSort
  · intro first second third
    exact Std.TransCmp.isLE_trans
  · intro left right
    rw [Bool.or_eq_true, isLE_iff, isLE_iff]
    by_cases less : order left right = .lt
    · exact .inl (Std.OrientedCmp.not_lt_of_lt less)
    · exact .inr less

variable [Std.LawfulEqCmp order]

/-- There is one way to arrange values in ascending order. -/
theorem ascending_eq_iff (values result : List α) :
    ascending order values = result ↔ result.Perm values ∧
      result.Pairwise fun left right => (order left right).isLE = true := by
  constructor
  · rintro rfl
    exact ⟨perm_ascending order values, pairwise_ascending order values⟩
  · rintro ⟨same, sorted⟩
    -- Two values that may stand in either order are equal, so it makes no difference which does.
    apply List.Perm.eq_of_pairwise _ (pairwise_ascending order values) sorted
    · exact (perm_ascending order values).trans same.symm
    · intro left right _ _ forward backward
      exact Std.LawfulEqCmp.eq_of_compare (Std.OrientedCmp.isLE_antisymm forward backward)

theorem ascending_eq_of_perm {values others : List α} (same : values.Perm others) :
    ascending order values = ascending order others :=
  (ascending_eq_iff order values _).mpr
    ⟨(perm_ascending order others).trans same.symm, pairwise_ascending order others⟩

variable {order}

/-- To be canonical, an order has to agree with its relation only on what is less. -/
theorem canonical_of_less {Precedes : α → α → Prop}
    (less : ∀ left right, order left right = .lt ↔ Precedes left right) :
    Canonical order Precedes where
  less := less
  equal _ _ := Std.LawfulEqCmp.compare_eq_iff_eq
  greater left right := Std.OrientedCmp.gt_iff_lt.trans (less right left)
  trichotomous left right := by
    have reversed : order right left = (order left right).swap := Std.OrientedCmp.eq_swap
    have same : order left right = .eq ↔ left = right := Std.LawfulEqCmp.compare_eq_iff_eq
    rw [ExactlyOne, ← less, ← less, ← same, reversed]
    cases order left right <;> simp
  transitive first second third := by
    rw [← less, ← less, ← less]
    exact Std.TransCmp.lt_trans
  sorted values result := by
    simp only [← less, ← ne_eq, ← isLE_iff]
    exact ascending_eq_iff order values result
  permuted values others := ascending_eq_of_perm order

end Sorting

section Grouping

variable {part : α → β} {major : β → β → Ordering} {minor : α → α → Ordering}

/-- Where a part is compared first, it never decreases in an ascending list. -/
theorem isLE_part_of_isLE {left right : α}
    (ascends : (compareLex (orderBy part major) minor left right).isLE = true) :
    (major (part left) (part right)).isLE = true := by
  change ((major (part left) (part right)).then (minor left right)).isLE = true at ascends
  cases decided : major (part left) (part right) with
  | lt => rfl
  | eq => rfl
  | gt =>
    rw [decided] at ascends
    cases ascends

variable [Std.TransCmp major] [Std.TransCmp minor]

theorem pairwise_part_ascending (values : List α) :
    (ascending (compareLex (orderBy part major) minor) values).Pairwise fun left right =>
      (major (part left) (part right)).isLE = true :=
  (pairwise_ascending _ values).imp isLE_part_of_isLE

/-- Values that agree in the part that is compared first stand together. -/
theorem grouped_ascending [Std.LawfulEqCmp major] (values : List α) :
    Grouped part (ascending (compareLex (orderBy part major) minor) values) := by
  intro before first between last after whole agree value member
  have sorted : (ascending (compareLex (orderBy part major) minor) values).Pairwise
      fun left right => (major (part left) (part right)).isLE = true :=
    pairwise_part_ascending values
  rw [whole, List.append_assoc, List.cons_append] at sorted
  have behind := (List.pairwise_append.mp sorted).2.1
  -- The value lies between two with the same part, so its own part can be no other.
  have upper := (List.pairwise_cons.mp behind).1 value (List.mem_append_left _ member)
  have lower := (List.pairwise_append.mp (List.pairwise_cons.mp behind).2).2.2 value member last
    (List.mem_cons_self ..)
  rw [← agree] at lower
  exact Std.LawfulEqCmp.eq_of_compare (Std.OrientedCmp.isLE_antisymm lower upper)

end Grouping

end Ordered

end LabelExpansion
