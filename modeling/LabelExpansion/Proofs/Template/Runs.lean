import LabelExpansion.Template.Run
import Mathlib.Data.List.Chain
import Mathlib.Data.List.TakeWhile

/-!
# The runs of a template

Cutting a template gives the one list of runs that are not empty, are of one kind each, alternate in
kind, and concatenate to the template. That there is only one such list is what gives a template a
meaning without mention of how it is scanned.
-/
namespace LabelExpansion

namespace Run

def isCandidate : Run → Bool
  | literal _ => false
  | candidate _ => true

/-- A run with some text, all of its kind. -/
structure Uniform (run : Run) : Prop where
  inhabited : run.text ≠ []
  characters : ∀ c ∈ run.text, referenceCharacters.contains c = run.isCandidate

/-- Runs that reach as far as they can: no two of a kind meet. -/
structure Maximal (parts : List Run) : Prop where
  uniform : ∀ run ∈ parts, run.Uniform
  alternating : parts.IsChain fun run next => run.isCandidate ≠ next.isCandidate

/-- Whether a run could not have reached into the text behind it. -/
def Stops (run : Run) (rest : Text) : Prop :=
  ∀ c ∈ rest.head?, referenceCharacters.contains c ≠ run.isCandidate

instance (run : Run) : Decidable run.Uniform :=
  decidable_of_iff (run.text ≠ [] ∧
      (run.text.all fun c => referenceCharacters.contains c == run.isCandidate) = true) <| by
    simp only [List.all_eq_true, beq_iff_eq]
    exact ⟨fun ⟨inhabited, characters⟩ => ⟨inhabited, characters⟩,
      fun ⟨inhabited, characters⟩ => ⟨inhabited, characters⟩⟩

theorem Uniform.exists_head {run : Run} (uniform : run.Uniform) :
    ∃ first more, run.text = first :: more ∧
      referenceCharacters.contains first = run.isCandidate := by
  obtain ⟨first, more, spelled⟩ := List.exists_cons_of_ne_nil uniform.inhabited
  exact ⟨first, more, spelled, uniform.characters first (by simp [spelled])⟩

theorem next?_eq_none_iff (template : Text) : next? template = none ↔ template = [] := by
  cases template <;> simp [next?]

/-- The run that starts with a character, by the kind of the character. -/
def ofKind (isReference : Bool) (text : Text) : Run :=
  if isReference then candidate text else literal text

@[simp] theorem text_ofKind (isReference : Bool) (text : Text) :
    (ofKind isReference text).text = text := by
  cases isReference <;> rfl

@[simp] theorem isCandidate_ofKind (isReference : Bool) (text : Text) :
    (ofKind isReference text).isCandidate = isReference := by
  cases isReference <;> rfl

theorem ofKind_isCandidate (run : Run) : ofKind run.isCandidate run.text = run := by
  cases run <;> rfl

/-- Whether a character goes on with the run that `first` starts. -/
def sameKind (first c : Char) : Bool :=
  referenceCharacters.contains c == referenceCharacters.contains first

theorem sameKind_iff (first c : Char) :
    sameKind first c = true ↔
      referenceCharacters.contains c = referenceCharacters.contains first :=
  beq_iff_eq

theorem next?_cons (first : Char) (rest : Text) :
    next? (first :: rest) =
      some (ofKind (referenceCharacters.contains first)
        (first :: rest.takeWhile (sameKind first)), rest.dropWhile (sameKind first)) := rfl

theorem uniform_of_next? (template rest : Text) (run : Run)
    (cut : next? template = some (run, rest)) : run.Uniform := by
  refine ⟨next?_inhabited template rest run cut, ?_⟩
  cases template with
  | nil => cases cut
  | cons first more =>
    rw [next?_cons, Option.some.injEq, Prod.mk.injEq] at cut
    obtain ⟨rfl, -⟩ := cut
    intro c member
    rw [isCandidate_ofKind]
    rw [text_ofKind, List.mem_cons] at member
    -- The first character gives the run its kind, and taking ends where the kind changes.
    rcases member with rfl | later
    · rfl
    · exact (sameKind_iff first c).mp (List.mem_takeWhile_imp later)

theorem stops_of_next? (template rest : Text) (run : Run)
    (cut : next? template = some (run, rest)) : run.Stops rest := by
  cases template with
  | nil => cases cut
  | cons first more =>
    rw [next?_cons, Option.some.injEq, Prod.mk.injEq] at cut
    obtain ⟨rfl, rfl⟩ := cut
    intro c front
    -- Dropping ends at a character that is not of the kind of the first, or at the end.
    have other := List.head?_dropWhile_not (sameKind first) more
    rw [Option.mem_def.mp front] at other
    rw [isCandidate_ofKind, ne_eq, ← sameKind_iff]
    exact Bool.eq_false_iff.mp other

/-- The front run is the one that is followed by a character of the other kind, or by nothing. -/
theorem next?_eq_some_iff (template rest : Text) (run : Run) :
    next? template = some (run, rest) ↔
      template = run.text ++ rest ∧ run.Uniform ∧ run.Stops rest := by
  constructor
  · intro cut
    exact ⟨next?_text template rest run cut, uniform_of_next? template rest run cut,
      stops_of_next? template rest run cut⟩
  · rintro ⟨rfl, uniform, stops⟩
    obtain ⟨first, more, spelled, kind⟩ := uniform.exists_head
    -- Within the run, taking goes on.
    have inside : ∀ c ∈ more, sameKind first c = true := by
      intro c member
      rw [sameKind_iff, kind]
      exact uniform.characters c (by simp [spelled, member])
    -- Behind the run, taking stops at once.
    have ended : rest.takeWhile (sameKind first) = [] ∧
        rest.dropWhile (sameKind first) = rest := by
      cases rest with
      | nil => exact ⟨rfl, rfl⟩
      | cons c others =>
        have other := stops c rfl
        rw [← kind, ne_eq, ← sameKind_iff] at other
        simp [other]
    rw [spelled, List.cons_append, next?_cons]
    simp only [List.takeWhile_append_of_pos inside, List.dropWhile_append_of_pos inside, ended,
      List.append_nil]
    rw [← spelled, kind, ofKind_isCandidate]

end Run

theorem runs_nil : runs [] = [] := by
  rw [runs, Run.drain_of_none [] rfl]

theorem runs_of_next? (template rest : Text) (run : Run)
    (cut : Run.next? template = some (run, rest)) : runs template = run :: runs rest := by
  rw [runs, Run.drain_of_some template rest run cut, runs]

/-- Induction along the cuts of a template. -/
theorem runs_induction {motive : Text → Prop} (empty : motive [])
    (step : ∀ run rest, Run.Uniform run → run.Stops rest → motive rest →
      motive (run.text ++ rest)) (template : Text) : motive template := by
  induction template using Run.drain.induct with
  | case1 template ended =>
    rw [(Run.next?_eq_none_iff template).mp ended]
    exact empty
  | case2 template run rest cut ih =>
    obtain ⟨rfl, uniform, stops⟩ := (Run.next?_eq_some_iff template rest run).mp cut
    exact step run rest uniform stops ih

theorem runs_append (run : Run) (rest : Text) (uniform : run.Uniform) (stops : run.Stops rest) :
    runs (run.text ++ rest) = run :: runs rest :=
  runs_of_next? _ _ _ ((Run.next?_eq_some_iff _ _ _).mpr ⟨rfl, uniform, stops⟩)

theorem flatMap_text_runs (template : Text) : (runs template).flatMap Run.text = template := by
  induction template using runs_induction with
  | empty => rw [runs_nil, List.flatMap_nil]
  | step run rest uniform stops ih => rw [runs_append run rest uniform stops, List.flatMap_cons, ih]

/-- A run stops in front of other runs when the first of them is of the other kind. -/
theorem Run.stops_flatMap_iff (run : Run) (parts : List Run)
    (uniform : ∀ part ∈ parts, Run.Uniform part) :
    run.Stops (parts.flatMap Run.text) ↔
      ∀ next ∈ parts.head?, run.isCandidate ≠ next.isCandidate := by
  cases parts with
  | nil => simp [Run.Stops]
  | cons next others =>
    obtain ⟨first, more, spelled, kind⟩ := (uniform next (by simp)).exists_head
    simp [Run.Stops, spelled, kind, eq_comm]

theorem Run.maximal_nil : Run.Maximal [] :=
  ⟨by simp, .nil⟩

theorem Run.maximal_cons_iff (run : Run) (rest : List Run) :
    Run.Maximal (run :: rest) ↔ run.Uniform ∧
      (∀ next ∈ rest.head?, run.isCandidate ≠ next.isCandidate) ∧ Run.Maximal rest := by
  constructor
  · rintro ⟨uniform, alternating⟩
    rw [List.isChain_cons] at alternating
    refine ⟨uniform run (by simp), alternating.1, ?_, alternating.2⟩
    intro part member
    apply uniform
    exact List.mem_cons_of_mem _ member
  · rintro ⟨own, other, uniform, alternating⟩
    exact ⟨List.forall_mem_cons.mpr ⟨own, uniform⟩, List.isChain_cons.mpr ⟨other, alternating⟩⟩

theorem maximal_runs (template : Text) : Run.Maximal (runs template) := by
  induction template using runs_induction with
  | empty =>
    rw [runs_nil]
    exact Run.maximal_nil
  | step run rest uniform stops ih =>
    -- What stands behind the run is made up of runs, and the first of them tells its kind.
    have other := stops
    rw [← flatMap_text_runs rest, Run.stops_flatMap_iff run _ ih.uniform] at other
    rw [runs_append run rest uniform stops, Run.maximal_cons_iff]
    exact ⟨uniform, other, ih⟩

/-- Runs that reach as far as they can are found again in the text that they make up. -/
theorem runs_flatMap_text (parts : List Run) (maximal : Run.Maximal parts) :
    runs (parts.flatMap Run.text) = parts := by
  induction parts with
  | nil => exact runs_nil
  | cons run rest ih =>
    obtain ⟨uniform, other, later⟩ := (Run.maximal_cons_iff run rest).mp maximal
    -- The first cut is the front run, and the text behind it is that of the others.
    have stops := (Run.stops_flatMap_iff run rest later.uniform).mpr other
    rw [List.flatMap_cons, runs_append run _ uniform stops, ih later]

/-- A template has one list of maximal runs. -/
theorem runs_eq_iff (template : Text) (parts : List Run) :
    runs template = parts ↔ Run.Maximal parts ∧ parts.flatMap Run.text = template := by
  constructor
  · rintro rfl
    exact ⟨maximal_runs template, flatMap_text_runs template⟩
  · rintro ⟨maximal, rfl⟩
    exact runs_flatMap_text parts maximal

end LabelExpansion
