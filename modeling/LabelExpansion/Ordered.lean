/-!
# Orders and sorted lists

An order is a function to `Ordering`. Orders of compound values are put together from orders of
their parts: `orderBy` compares by one part, and `compareLex` asks a second order where the first
sees no difference. Both keep an order total and transitive.
-/
namespace LabelExpansion

variable {α β : Type}

/-- Compares two values by a part of them. -/
def orderBy (part : α → β) (order : β → β → Ordering) (left right : α) : Ordering :=
  order (part left) (part right)

instance (part : α → β) (order : β → β → Ordering) [Std.TransCmp order] :
    Std.TransCmp (orderBy part order) where
  eq_swap {left right} :=
    (Std.OrientedCmp.eq_swap :
      order (part left) (part right) = (order (part right) (part left)).swap)
  isLE_trans {left middle right} :=
    (Std.TransCmp.isLE_trans : (order (part left) (part middle)).isLE →
      (order (part middle) (part right)).isLE → (order (part left) (part right)).isLE)

namespace Ordered

/-- The values of a list, least first. Equal values keep their places. -/
def ascending (order : α → α → Ordering) (values : List α) : List α :=
  values.mergeSort fun left right => (order left right).isLE

/-- How each value of a list compares with the next. -/
def neighbours (order : α → α → Ordering) (values : List α) : List Ordering :=
  values.zipWith order values.tail

/-- How many different values a list has. -/
def distinctCount [DecidableEq α] (values : List α) : Nat :=
  values.eraseDups.length

end Ordered

end LabelExpansion
