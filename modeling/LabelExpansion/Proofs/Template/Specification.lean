import LabelExpansion.Proofs.Template.Dissection
import LabelExpansion.Proofs.Template.Outcome

/-!
# What expansion computes

An expansion puts the literals of its template together again, with the path of its only artifact in
the place of each candidate that is bound to one, unless some candidate is bound to none or several,
the leftmost of which is then the error. Nothing else is ever read: the candidates that count are
those of the template as it was written, and what was put in the place of one is not among them.
-/
namespace LabelExpansion

namespace Expander

variable {μ : Type} [PathMapping μ] (expander : Expander μ)

theorem unambiguous_of_succeed {parts : List Run}
    (succeed : ∀ run ∈ parts, ∃ text, (expander.expandRun run).outcome = .ok text) :
    ∀ candidate ∈ parts.filterMap Run.candidate?, expander.Unambiguous candidate := by
  intro candidate member
  obtain ⟨run, present, own⟩ := List.mem_filterMap.mp member
  obtain ⟨path, found⟩ := succeed run present
  cases run with
  | literal text => cases own
  | candidate text =>
    cases own
    exact (unambiguous_iff _).mpr ⟨path, (outcome_eq_ok_iff _ _).mp found⟩

/-- The outcome of a run that is replaced by a text of its own. -/
theorem outcome_of_replaced {replacement : Text → Text} {run : Run}
    (replaced : ∀ candidate ∈ run.candidate?, expander.Replaced candidate (replacement candidate)) :
    (expander.expandRun run).outcome = .ok (run.replaced replacement) := by
  cases run with
  | literal text => rfl
  | candidate text => exact (outcome_eq_ok_iff _ _).mpr (replaced text rfl)

variable (dissection : Dissection) (proper : dissection.Proper)

include proper

theorem outcome_of_all_replaced {replacement : Text → Text}
    (replaced : ∀ candidate ∈ dissection.candidates,
      expander.Replaced candidate (replacement candidate)) :
    (expander.expandTemplate dissection.text).outcome = .ok (dissection.fill replacement) := by
  have each : ∀ run ∈ dissection.runs,
      (expander.expandRun run).outcome = .ok (run.replaced replacement) := by
    intro run member
    apply outcome_of_replaced
    intro candidate own
    apply replaced
    -- The candidate of a run is one of the candidates of the template.
    rw [← dissection.filterMap_candidate?_runs]
    exact List.mem_filterMap.mpr ⟨run, member, own⟩
  have traversed : (dissection.runs.mapM fun run => (expander.expandRun run).outcome) =
      .ok (dissection.runs.map (Run.replaced replacement)) := by
    rw [Fallible.mapM_eq_ok_iff, List.forall₂_map_right_iff, List.forall₂_same]
    exact each
  rw [outcome_expandTemplate, dissection.runs_text proper, traversed,
    ← dissection.flatMap_replaced_runs, List.flatMap_def]
  rfl

/-- A failure is that of a candidate, and all runs before it succeed. -/
theorem exists_runs_of_outcome_eq_error {ambiguity : Ambiguity}
    (failed : (expander.expandTemplate dissection.text).outcome = .error ambiguity) :
    ∃ before candidate after, dissection.runs = before ++ Run.candidate candidate :: after ∧
      (∀ run ∈ before, ∃ text, (expander.expandRun run).outcome = .ok text) ∧
      (expander.expandCandidate candidate).outcome = .error ambiguity := by
  rw [outcome_expandTemplate, dissection.runs_text proper] at failed
  obtain ⟨before, run, after, whole, succeed, fails⟩ :=
    (Fallible.mapM_eq_error_iff _ _ _).mp ((Fallible.map_eq_error_iff _ _ _).mp failed)
  -- Literals do not fail.
  cases run with
  | literal text => cases fails
  | candidate candidate => exact ⟨before, candidate, after, whole, succeed, fails⟩

/-- A failure is that of a candidate with nothing but replaced ones before it. -/
theorem exists_of_outcome_eq_error {ambiguity : Ambiguity}
    (failed : (expander.expandTemplate dissection.text).outcome = .error ambiguity) :
    ∃ before candidate after, dissection.candidates = before ++ candidate :: after ∧
      (∀ earlier ∈ before, expander.Unambiguous earlier) ∧
      (expander.expandCandidate candidate).outcome = .error ambiguity := by
  obtain ⟨before, candidate, after, whole, succeed, fails⟩ :=
    exists_runs_of_outcome_eq_error expander dissection proper failed
  refine ⟨before.filterMap Run.candidate?, candidate, after.filterMap Run.candidate?, ?_,
    unambiguous_of_succeed expander succeed, fails⟩
  rw [← dissection.filterMap_candidate?_runs, whole, List.filterMap_append, List.filterMap_cons]
  rfl

omit proper

/-- Expansion puts paths in the place of bound candidates, or fails for the leftmost candidate that
is bound to none or several. -/
theorem expand_replaces_candidates :
    (∀ template, ∃! dissection : Dissection, dissection.Proper ∧ dissection.text = template) ∧
    (∀ dissection : Dissection, dissection.Proper →
      ((∀ candidate ∈ dissection.candidates, expander.Unambiguous candidate) →
        ∃ replacement : Text → Text,
          (∀ candidate ∈ dissection.candidates,
            expander.Replaced candidate (replacement candidate)) ∧
          (expander.expand (some dissection.text)).outcome = .ok (dissection.fill replacement)) ∧
      (¬ (∀ candidate ∈ dissection.candidates, expander.Unambiguous candidate) →
        ∃ before candidate after label paths,
          dissection.candidates = before ++ candidate :: after ∧
          (∀ earlier ∈ before, expander.Unambiguous earlier) ∧
          expander.Bound candidate label paths ∧ paths.length ≠ 1 ∧
          (expander.expand (some dissection.text)).outcome = .error ⟨label, paths.length⟩)) ∧
    (expander.expand none).outcome = .ok [] ∧ (expander.expand (some [])).outcome = .ok [] := by
  refine ⟨Dissection.existsUnique, ?_, rfl, ?_⟩
  · intro dissection proper
    constructor
    · intro unambiguous
      -- What replaces a candidate depends on its text alone, so one function does for all of them.
      have found : ∀ candidate, ∃ path, candidate ∈ dissection.candidates →
          expander.Replaced candidate path := by
        intro candidate
        by_cases member : candidate ∈ dissection.candidates
        · obtain ⟨path, replaced⟩ := (unambiguous_iff _).mp (unambiguous candidate member)
          exact ⟨path, fun _ => replaced⟩
        · exact ⟨candidate, fun present => absurd present member⟩
      choose replacement replaced using found
      exact ⟨replacement, replaced, outcome_of_all_replaced expander dissection proper replaced⟩
    · intro ambiguous
      cases result : (expander.expandTemplate dissection.text).outcome with
      | error ambiguity =>
        obtain ⟨before, candidate, after, whole, earlier, fails⟩ :=
          exists_of_outcome_eq_error expander dissection proper result
        obtain ⟨paths, bound, several, count⟩ := (outcome_eq_error_iff _ _).mp fails
        refine ⟨before, candidate, after, ambiguity.label, paths, whole, earlier, bound, several,
          ?_⟩
        rw [← count]
        exact result
      | ok text =>
        -- Nothing would be ambiguous if the expansion had succeeded.
        rw [outcome_expandTemplate, dissection.runs_text proper] at result
        obtain ⟨texts, traversed, -⟩ := (Fallible.map_eq_ok_iff _ _ _).mp result
        have all := unambiguous_of_succeed expander (Fallible.exists_of_mapM_eq_ok traversed)
        rw [dissection.filterMap_candidate?_runs] at all
        exact absurd all ambiguous
  · rw [expand, outcome_expandTemplate, runs_nil]
    rfl

end Expander

end LabelExpansion
