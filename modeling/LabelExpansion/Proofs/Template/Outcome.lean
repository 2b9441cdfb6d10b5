import LabelExpansion.Proofs.Fallible
import LabelExpansion.Template.Expansion

/-!
# Outcomes of expansions

The outcome of an expansion forgets its events, and it does so step by step: the outcome of a
sequence or of a traversal is the sequence or the traversal of the outcomes. For a single candidate
the outcome is told by what the candidate is bound to, which is the set of paths that its label
stands for, if it is a label at all and a key of the mapping.
-/
namespace LabelExpansion

namespace Expansion

variable {α β : Type}

theorem outcome_bind (first : Expansion α) (next : α → Expansion β) :
    (first >>= next).outcome = first.outcome >>= fun value => (next value).outcome := by
  cases result : first.outcome with
  | error ambiguity =>
    rw [bind_of_error first next ambiguity result]
    rfl
  | ok value =>
    rw [bind_of_ok first next value result]
    rfl

theorem outcome_mapM (f : α → Expansion β) (xs : List α) :
    (xs.mapM f).outcome = xs.mapM fun x => (f x).outcome := by
  induction xs with
  | nil => rfl
  | cons x rest ih =>
    rw [List.mapM_cons, List.mapM_cons, outcome_bind]
    -- Only what follows the first outcome is left to compare.
    congr 1
    funext value
    rw [outcome_bind, ih]
    rfl

end Expansion

namespace Expander

variable {μ : Type} [PathMapping μ] (expander : Expander μ)

theorem outcome_expandTemplate (template : Text) :
    (expander.expandTemplate template).outcome =
      ((runs template).mapM fun run => (expander.expandRun run).outcome).map List.flatten := by
  rw [expandTemplate, Expansion.outcome_bind, Expansion.outcome_mapM]
  cases (runs template).mapM fun run => (expander.expandRun run).outcome <;> rfl

/-- A candidate that reads as a label, and the paths of the label if it is a key. -/
def Bound (candidate : Text) (label : Label) (paths : List Text) : Prop :=
  Label.parse candidate expander.anchor.package = .ok label ∧
    PathMapping.paths? expander.mapping label = some paths

/-- A candidate that is bound to exactly one path, if it is bound at all. -/
def Unambiguous (candidate : Text) : Prop :=
  ∀ label paths, expander.Bound candidate label paths → paths.length = 1

/-- What stands in the place of a candidate. -/
inductive Replaced (candidate : Text) : Text → Prop where
  | found (label : Label) (path : Text) : expander.Bound candidate label [path] →
      Replaced candidate path
  | kept : (∀ label paths, ¬ expander.Bound candidate label paths) → Replaced candidate candidate

variable {expander}

/-- A candidate is bound to one thing only. -/
theorem Bound.unique {candidate : Text} {label other : Label} {paths others : List Text}
    (bound : expander.Bound candidate label paths)
    (again : expander.Bound candidate other others) : label = other ∧ paths = others := by
  have labels := bound.1.symm.trans again.1
  cases labels
  have found := bound.2.symm.trans again.2
  cases found
  exact ⟨rfl, rfl⟩

theorem outcome_of_one {candidate : Text} {label : Label} {path : Text}
    (bound : expander.Bound candidate label [path]) :
    (expander.expandCandidate candidate).outcome = .ok path := by
  obtain ⟨read, found⟩ := bound
  simp only [expandCandidate, Resolution.ofCandidate, read, found, Resolution.replacement]

theorem outcome_of_several {candidate : Text} {label : Label} {paths : List Text}
    (bound : expander.Bound candidate label paths) (several : paths.length ≠ 1) :
    (expander.expandCandidate candidate).outcome = .error ⟨label, paths.length⟩ := by
  obtain ⟨read, found⟩ := bound
  simp only [expandCandidate, Resolution.ofCandidate, read, found]
  -- The three cases of the lookup: no key, one path, any other number of paths.
  split
  next impossible => cases impossible
  next path one =>
    cases one
    exact absurd rfl several
  next other _ same =>
    cases same
    rfl

theorem outcome_of_free {candidate : Text}
    (free : ∀ label paths, ¬ expander.Bound candidate label paths) :
    (expander.expandCandidate candidate).outcome = .ok candidate := by
  simp only [expandCandidate, Resolution.ofCandidate]
  cases read : Label.parse candidate expander.anchor.package with
  | error error => rfl
  | ok label =>
    cases found : PathMapping.paths? expander.mapping label with
    | none => simp only [found, Resolution.replacement]
    | some paths => exact absurd ⟨read, found⟩ (free label paths)

theorem bound_or_free (expander : Expander μ) (candidate : Text) :
    (∃ label paths, expander.Bound candidate label paths) ∨
      ∀ label paths, ¬ expander.Bound candidate label paths := by
  by_cases bound : ∃ label paths, expander.Bound candidate label paths
  · exact .inl bound
  · right
    intro label paths found
    exact bound ⟨label, paths, found⟩

theorem outcome_eq_ok_iff (candidate replacement : Text) :
    (expander.expandCandidate candidate).outcome = .ok replacement ↔
      expander.Replaced candidate replacement := by
  constructor
  · -- One path or no binding are the ways to succeed.
    intro succeeded
    rcases bound_or_free expander candidate with ⟨label, paths, bound⟩ | free
    · by_cases one : paths.length = 1
      · obtain ⟨path, rfl⟩ := List.length_eq_one_iff.mp one
        rw [outcome_of_one bound] at succeeded
        cases succeeded
        exact .found label _ bound
      · rw [outcome_of_several bound one] at succeeded
        cases succeeded
    · rw [outcome_of_free free] at succeeded
      cases succeeded
      exact .kept free
  · intro replaced
    cases replaced with
    | found label _ bound => exact outcome_of_one bound
    | kept free => exact outcome_of_free free

theorem outcome_eq_error_iff (candidate : Text) (ambiguity : Ambiguity) :
    (expander.expandCandidate candidate).outcome = .error ambiguity ↔
      ∃ paths, expander.Bound candidate ambiguity.label paths ∧ paths.length ≠ 1 ∧
        ambiguity.count = paths.length := by
  constructor
  · -- Only a binding to no path or to several can fail.
    intro failed
    rcases bound_or_free expander candidate with ⟨label, paths, bound⟩ | free
    · by_cases one : paths.length = 1
      · obtain ⟨path, rfl⟩ := List.length_eq_one_iff.mp one
        rw [outcome_of_one bound] at failed
        cases failed
      · rw [outcome_of_several bound one] at failed
        cases failed
        exact ⟨paths, bound, one, rfl⟩
    · rw [outcome_of_free free] at failed
      cases failed
  · rintro ⟨paths, bound, several, count⟩
    rw [outcome_of_several bound several, ← count]

/-- A candidate is unambiguous exactly when there is something to stand in its place. -/
theorem unambiguous_iff (candidate : Text) :
    expander.Unambiguous candidate ↔ ∃ replacement, expander.Replaced candidate replacement := by
  constructor
  · intro unambiguous
    rcases bound_or_free expander candidate with ⟨label, paths, bound⟩ | free
    · obtain ⟨path, rfl⟩ := List.length_eq_one_iff.mp (unambiguous label paths bound)
      exact ⟨path, .found label path bound⟩
    · exact ⟨candidate, .kept free⟩
  · rintro ⟨replacement, replaced⟩ label paths bound
    cases replaced with
    | found other path again =>
      obtain ⟨-, rfl⟩ := again.unique bound
      rfl
    | kept free => exact absurd bound (free label paths)

end Expander

end LabelExpansion
