import Mathlib.Data.List.Forall2

/-!
# Computations that may fail

How a value or an error comes out of a computation in steps: a sequence succeeds when both steps do,
and a traversal ends at the first element on which it fails.
-/
namespace LabelExpansion.Fallible

variable {α β ε δ : Type}

theorem bind_eq_ok_iff (first : Except ε α) (next : α → Except ε β) (result : β) :
    first >>= next = .ok result ↔ ∃ value, first = .ok value ∧ next value = .ok result := by
  cases first with
  | error error => simp [bind, Except.bind]
  | ok value => simp [bind, Except.bind]

theorem bind_eq_error_iff (first : Except ε α) (next : α → Except ε β) (error : ε) :
    first >>= next = .error error ↔
      first = .error error ∨ ∃ value, first = .ok value ∧ next value = .error error := by
  cases first with
  | error other => simp [bind, Except.bind]
  | ok value => simp [bind, Except.bind]

theorem mapError_eq_ok_iff (computation : Except ε α) (context : ε → δ) (result : α) :
    computation.mapError context = .ok result ↔ computation = .ok result := by
  cases computation <;> simp [Except.mapError]

theorem mapError_eq_error_iff (computation : Except ε α) (context : ε → δ) (error : δ) :
    computation.mapError context = .error error ↔
      ∃ cause, computation = .error cause ∧ context cause = error := by
  cases computation <;> simp [Except.mapError]

theorem map_eq_ok_iff (computation : Except ε α) (f : α → β) (result : β) :
    computation.map f = .ok result ↔ ∃ value, computation = .ok value ∧ f value = result := by
  cases computation <;> simp [Except.map]

theorem map_eq_error_iff (computation : Except ε α) (f : α → β) (error : ε) :
    computation.map f = .error error ↔ computation = .error error := by
  cases computation <;> simp [Except.map]

/-- A traversal succeeds when it succeeds on each element. -/
theorem mapM_eq_ok_iff (f : α → Except ε β) (xs : List α) (ys : List β) :
    xs.mapM f = .ok ys ↔ List.Forall₂ (fun x y => f x = .ok y) xs ys := by
  induction xs generalizing ys with
  | nil => cases ys <;> simp [pure, Except.pure]
  | cons x rest ih =>
    rw [List.mapM_cons, bind_eq_ok_iff, List.forall₂_cons_left_iff]
    constructor
    · rintro ⟨y, first, later⟩
      obtain ⟨others, traversed, same⟩ := (bind_eq_ok_iff _ _ _).mp later
      exact ⟨y, others, first, (ih others).mp traversed, (Except.ok.inj same).symm⟩
    · rintro ⟨y, others, first, traversed, rfl⟩
      exact ⟨y, first, (bind_eq_ok_iff _ _ _).mpr ⟨others, (ih others).mpr traversed, rfl⟩⟩

theorem mapM_congr {f g : α → Except ε β} {xs : List α} (same : ∀ x ∈ xs, f x = g x) :
    xs.mapM f = xs.mapM g := by
  induction xs with
  | nil => rfl
  | cons x rest ih =>
    rw [List.mapM_cons, List.mapM_cons, same x (by simp),
      ih fun y member => same y (List.mem_cons_of_mem _ member)]

theorem exists_of_mapM_eq_ok {f : α → Except ε β} {xs : List α} {ys : List β}
    (traversed : xs.mapM f = .ok ys) : ∀ x ∈ xs, ∃ y, f x = .ok y := by
  rw [mapM_eq_ok_iff] at traversed
  induction traversed with
  | nil => simp
  | cons first later ih => exact List.forall_mem_cons.mpr ⟨⟨_, first⟩, ih⟩

/-- The error of a traversal is that of the first element on which it fails. -/
theorem mapM_eq_error_iff (f : α → Except ε β) (xs : List α) (error : ε) :
    xs.mapM f = .error error ↔ ∃ before x after, xs = before ++ x :: after ∧
      (∀ y ∈ before, ∃ value, f y = .ok value) ∧ f x = .error error := by
  constructor
  · -- The elements that succeed are collected until one fails.
    intro failed
    induction xs with
    | nil => cases failed
    | cons x rest ih =>
      rw [List.mapM_cons] at failed
      cases first : f x with
      | error other =>
        rw [first] at failed
        cases failed
        exact ⟨[], x, rest, rfl, by simp, first⟩
      | ok value =>
        -- The head succeeds, so the failure is one of the rest and the head joins what precedes it.
        have later : rest.mapM f = .error error := by
          cases traversed : rest.mapM f with
          | error other =>
            rw [first, traversed] at failed
            cases failed
            rfl
          | ok values =>
            rw [first, traversed] at failed
            cases failed
        obtain ⟨before, y, after, rfl, succeeds, fails⟩ := ih later
        refine ⟨x :: before, y, after, rfl, ?_, fails⟩
        intro z member
        rcases List.mem_cons.mp member with rfl | earlier
        · exact ⟨value, first⟩
        · exact succeeds z earlier
  · rintro ⟨before, x, after, rfl, succeeds, fails⟩
    induction before with
    | nil =>
      rw [List.nil_append, List.mapM_cons, fails]
      rfl
    | cons y others ih =>
      obtain ⟨value, first⟩ := succeeds y (by simp)
      have later := ih fun z member => succeeds z (by simp [member])
      rw [List.cons_append, List.mapM_cons, first, later]
      rfl

end LabelExpansion.Fallible
