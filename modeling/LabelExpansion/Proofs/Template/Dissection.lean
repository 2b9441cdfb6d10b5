import LabelExpansion.Proofs.Template.Runs

/-!
# Taking templates apart

Every template is taken apart in one way only into literals with candidates between them. This is
another view of maximal runs, in which the literals at the ends may be empty and so are never
missing. The runs of a dissection give it back, and this is what makes the dissection of a template
the only one.
-/
namespace LabelExpansion

namespace Run

/-- What a run becomes when something is put in the place of each candidate. -/
def replaced (replacement : Text → Text) : Run → Text
  | literal text => text
  | candidate text => replacement text

theorem replaced_id : replaced id = text := by
  funext run
  cases run <;> rfl

def candidate? : Run → Option Text
  | literal _ => none
  | candidate text => some text

end Run

/-- A literal, and then candidates, each with the literal behind it. -/
structure Dissection where
  front : Text
  parts : List (Text × Text)

namespace Dissection

def candidates (dissection : Dissection) : List Text :=
  dissection.parts.map Prod.fst

def literals (dissection : Dissection) : List Text :=
  dissection.front :: dissection.parts.map Prod.snd

/-- The text with something in the place of each candidate. -/
def fill (dissection : Dissection) (replacement : Text → Text) : Text :=
  dissection.front ++
    dissection.parts.flatMap fun (candidate, literal) => replacement candidate ++ literal

def text (dissection : Dissection) : Text :=
  dissection.fill id

/-- Candidates are made of reference characters and literals of others. Only the outermost literals
may be empty. -/
structure Proper (dissection : Dissection) : Prop where
  candidate : ∀ candidate ∈ dissection.candidates,
    candidate ≠ [] ∧ ∀ c ∈ candidate, referenceCharacters.contains c = true
  literal : ∀ literal ∈ dissection.literals, ∀ c ∈ literal, referenceCharacters.contains c = false
  between : ∀ literal ∈ dissection.literals.tail.dropLast, literal ≠ []

theorem fill_cons (front candidate literal : Text) (rest : List (Text × Text))
    (replacement : Text → Text) :
    fill ⟨front, (candidate, literal) :: rest⟩ replacement =
      front ++ replacement candidate ++ fill ⟨literal, rest⟩ replacement := by
  simp [fill]

theorem proper_nil_iff (front : Text) :
    Proper ⟨front, []⟩ ↔ ∀ c ∈ front, referenceCharacters.contains c = false := by
  constructor
  · intro proper
    exact proper.literal front (by simp [literals])
  · intro outside
    exact ⟨by simp [candidates], by simpa [literals] using outside, by simp [literals]⟩

theorem proper_cons_iff (front candidate literal : Text) (rest : List (Text × Text)) :
    Proper ⟨front, (candidate, literal) :: rest⟩ ↔
      (∀ c ∈ front, referenceCharacters.contains c = false) ∧
      (candidate ≠ [] ∧ ∀ c ∈ candidate, referenceCharacters.contains c = true) ∧
      (rest ≠ [] → literal ≠ []) ∧ Proper ⟨literal, rest⟩ := by
  -- The literal behind the first candidate is an inner one when another candidate follows.
  have between : (∀ other ∈ (literal :: rest.map Prod.snd).dropLast, other ≠ []) ↔
      (rest ≠ [] → literal ≠ []) ∧ ∀ other ∈ (rest.map Prod.snd).dropLast, other ≠ [] := by
    cases rest with
    | nil => simp
    | cons next others => simp
  constructor
  · rintro ⟨candidates, literals, inner⟩
    obtain ⟨own, later⟩ := between.mp inner
    refine ⟨literals front (by simp [Dissection.literals]),
      candidates candidate (by simp [Dissection.candidates]), own, ?_, ?_, later⟩
    · intro other member
      apply candidates
      exact List.mem_cons_of_mem _ member
    · intro other member
      apply literals
      exact List.mem_cons_of_mem _ member
  · rintro ⟨outside, inside, own, candidates, literals, later⟩
    exact ⟨List.forall_mem_cons.mpr ⟨inside, candidates⟩,
      List.forall_mem_cons.mpr ⟨outside, literals⟩, between.mpr ⟨own, later⟩⟩

/-! ## Dissections and runs -/

/-- The run of a literal that is not empty. -/
def literalRuns (literal : Text) : List Run :=
  if literal = [] then [] else [.literal literal]

def runs (dissection : Dissection) : List Run :=
  literalRuns dissection.front ++
    dissection.parts.flatMap fun (candidate, literal) => .candidate candidate :: literalRuns literal

theorem runs_cons (front candidate literal : Text) (rest : List (Text × Text)) :
    runs ⟨front, (candidate, literal) :: rest⟩ =
      literalRuns front ++ .candidate candidate :: runs ⟨literal, rest⟩ := by
  simp [runs]

theorem flatMap_replaced_literalRuns (literal : Text) (replacement : Text → Text) :
    (literalRuns literal).flatMap (Run.replaced replacement) = literal := by
  rw [literalRuns]
  split <;> simp_all [Run.replaced]

theorem flatMap_replaced_runs (dissection : Dissection) (replacement : Text → Text) :
    dissection.runs.flatMap (Run.replaced replacement) = dissection.fill replacement := by
  obtain ⟨front, parts⟩ := dissection
  -- The literal behind a candidate is the front of what is left.
  induction parts generalizing front with
  | nil => simp [runs, fill, flatMap_replaced_literalRuns]
  | cons part rest ih =>
    obtain ⟨candidate, literal⟩ := part
    rw [runs_cons, fill_cons, List.flatMap_append, List.flatMap_cons, ih,
      flatMap_replaced_literalRuns, List.append_assoc]
    rfl

theorem flatMap_text_runs (dissection : Dissection) :
    dissection.runs.flatMap Run.text = dissection.text := by
  rw [← Run.replaced_id, flatMap_replaced_runs, text]

theorem filterMap_candidate?_runs (dissection : Dissection) :
    dissection.runs.filterMap Run.candidate? = dissection.candidates := by
  have silent (literal : Text) : (literalRuns literal).filterMap Run.candidate? = [] := by
    rw [literalRuns]
    split <;> rfl
  obtain ⟨front, parts⟩ := dissection
  induction parts generalizing front with
  | nil => simp [runs, candidates, silent]
  | cons part rest ih =>
    obtain ⟨candidate, literal⟩ := part
    rw [runs_cons, List.filterMap_append, silent, List.nil_append, List.filterMap_cons, ih]
    rfl

theorem maximal_literalRuns_append (literal : Text) (rest : List Run)
    (outside : ∀ c ∈ literal, referenceCharacters.contains c = false)
    (next : ∀ run ∈ rest.head?, run.isCandidate = true) (later : Run.Maximal rest) :
    Run.Maximal (literalRuns literal ++ rest) := by
  rw [literalRuns]
  split
  next => exact later
  next inhabited =>
    rw [List.cons_append, List.nil_append, Run.maximal_cons_iff]
    refine ⟨⟨inhabited, outside⟩, ?_, later⟩
    intro run first
    rw [next run first]
    exact Bool.false_ne_true

theorem maximal_runs (dissection : Dissection) (proper : dissection.Proper) :
    Run.Maximal dissection.runs := by
  obtain ⟨front, parts⟩ := dissection
  induction parts generalizing front with
  | nil =>
    rw [proper_nil_iff] at proper
    exact maximal_literalRuns_append front [] proper (by simp) Run.maximal_nil
  | cons part rest ih =>
    obtain ⟨candidate, literal⟩ := part
    obtain ⟨outside, inside, own, later⟩ := (proper_cons_iff _ _ _ _).mp proper
    rw [runs_cons]
    apply maximal_literalRuns_append front _ outside (by simp [Run.isCandidate])
    rw [Run.maximal_cons_iff]
    refine ⟨⟨inside.1, inside.2⟩, ?_, ih literal later⟩
    -- The next run is the literal, or there is none.
    intro next first
    by_cases empty : literal = []
    · have ended : rest = [] := by_contra fun more => own more empty
      simp [runs, literalRuns, empty, ended] at first
    · have spelled : Run.literal literal = next := by simpa [runs, literalRuns, empty] using first
      rw [← spelled]
      exact Bool.noConfusion

/-- Gathers what stands between the candidates of a list of runs. -/
def ofRuns : List Run → Dissection
  | [] => ⟨[], []⟩
  | .literal literal :: rest => ⟨literal ++ (ofRuns rest).front, (ofRuns rest).parts⟩
  | .candidate candidate :: rest => ⟨[], (candidate, (ofRuns rest).front) :: (ofRuns rest).parts⟩

theorem ofRuns_literalRuns_append (literal : Text) (rest : List Run) :
    ofRuns (literalRuns literal ++ rest) =
      ⟨literal ++ (ofRuns rest).front, (ofRuns rest).parts⟩ := by
  rw [literalRuns]
  split
  next empty => rw [empty]; rfl
  next => rfl

theorem ofRuns_runs (dissection : Dissection) : ofRuns dissection.runs = dissection := by
  obtain ⟨front, parts⟩ := dissection
  induction parts generalizing front with
  | nil =>
    rw [runs, List.flatMap_nil, ofRuns_literalRuns_append]
    simp [ofRuns]
  | cons part rest ih =>
    obtain ⟨candidate, literal⟩ := part
    rw [runs_cons, ofRuns_literalRuns_append, ofRuns, ih, List.append_nil]

theorem text_ofRuns (parts : List Run) : (ofRuns parts).text = parts.flatMap Run.text := by
  induction parts with
  | nil => rfl
  | cons run rest ih =>
    rw [List.flatMap_cons, ← ih]
    -- A literal lengthens the front of what is behind it; a candidate starts with an empty one.
    cases run with
    | literal literal => simp [ofRuns, text, fill, Run.text]
    | candidate candidate => simp [ofRuns, text, fill, Run.text]

theorem Proper.prepend {front : Text} {parts : List (Text × Text)} (proper : Proper ⟨front, parts⟩)
    (literal : Text) (outside : ∀ c ∈ literal, referenceCharacters.contains c = false) :
    Proper ⟨literal ++ front, parts⟩ where
  candidate := proper.candidate
  literal := by
    obtain ⟨own, later⟩ := List.forall_mem_cons.mp proper.literal
    refine List.forall_mem_cons.mpr ⟨?_, later⟩
    intro c member
    rcases List.mem_append.mp member with before | behind
    · exact outside c before
    · exact own c behind
  between := proper.between

theorem proper_ofRuns (parts : List Run) (maximal : Run.Maximal parts) :
    (ofRuns parts).Proper := by
  induction parts with
  | nil => exact (proper_nil_iff []).mpr (by simp)
  | cons run rest ih =>
    obtain ⟨uniform, other, later⟩ := (Run.maximal_cons_iff run rest).mp maximal
    cases run with
    | literal literal => exact (ih later).prepend literal uniform.characters
    | candidate candidate =>
      apply (proper_cons_iff _ _ _ _).mpr
      refine ⟨by simp, ⟨uniform.inhabited, uniform.characters⟩, ?_, ih later⟩
      -- The run behind a candidate is a literal, which has some text.
      intro more
      cases rest with
      | nil => exact absurd rfl more
      | cons next others =>
        cases next with
        | literal literal =>
          have inhabited := (later.uniform (.literal literal) (by simp)).inhabited
          exact List.append_ne_nil_of_left_ne_nil inhabited _
        | candidate again => exact absurd rfl (other (.candidate again) rfl)

theorem runs_text (dissection : Dissection) (proper : dissection.Proper) :
    LabelExpansion.runs dissection.text = dissection.runs :=
  (runs_eq_iff _ _).mpr ⟨maximal_runs dissection proper, flatMap_text_runs dissection⟩

/-- Every template is taken apart in exactly one way. -/
theorem existsUnique (template : Text) :
    ∃! dissection : Dissection, dissection.Proper ∧ dissection.text = template := by
  refine ⟨ofRuns (LabelExpansion.runs template), ⟨?_, ?_⟩, ?_⟩
  · exact proper_ofRuns _ (LabelExpansion.maximal_runs template)
  · rw [text_ofRuns, LabelExpansion.flatMap_text_runs]
  · -- Another dissection of the template has the same runs, and they give it back.
    rintro dissection ⟨proper, rfl⟩
    rw [runs_text dissection proper, ofRuns_runs]

end Dissection

end LabelExpansion
