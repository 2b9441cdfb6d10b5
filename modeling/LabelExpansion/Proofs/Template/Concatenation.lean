import LabelExpansion.Mapping.Basic
import LabelExpansion.Proofs.Template.Runs
import LabelExpansion.Template.Expansion

/-!
# Expanding concatenations

Two templates can be expanded one after the other unless a candidate reaches from the first into the
second. A literal does no harm there: the two literals that meet become one run, but a literal is
copied whole or in parts with the same result and tells nothing either way.
-/
namespace LabelExpansion

/-- Whether no candidate reaches from the first text into the second. -/
def Parted (left right : Text) : Prop :=
  ¬ ∃ last ∈ left.getLast?, ∃ first ∈ right.head?,
    referenceCharacters.contains last = true ∧ referenceCharacters.contains first = true

theorem parted_iff (left right : Text) :
    (left.getLast?.any fun last => right.head?.any fun first =>
      referenceCharacters.contains last && referenceCharacters.contains first) = false ↔
    Parted left right := by
  rw [Parted, ← Bool.not_eq_true]
  simp [Option.any_eq_true]

instance (left right : Text) : Decidable (Parted left right) :=
  decidable_of_iff _ (parted_iff left right)

/-- Two texts between which a candidate would be a run as it stands. -/
structure Enclosed (front back : Text) : Prop where
  ended : ∀ c ∈ front.getLast?, referenceCharacters.contains c = false
  begun : ∀ c ∈ back.head?, referenceCharacters.contains c = false

theorem enclosed_iff (front back : Text) :
    (front.getLast?.all fun c => !referenceCharacters.contains c) = true ∧
      (back.head?.all fun c => !referenceCharacters.contains c) = true ↔ Enclosed front back := by
  simp only [Option.all_eq_true, Bool.not_eq_true']
  exact ⟨fun ⟨ended, begun⟩ => ⟨ended, begun⟩, fun ⟨ended, begun⟩ => ⟨ended, begun⟩⟩

instance (front back : Text) : Decidable (Enclosed front back) :=
  decidable_of_iff _ (enclosed_iff front back)

theorem Parted.of_append {front left right : Text} (parted : Parted (front ++ left) right) :
    Parted left right := by
  rintro ⟨last, ended, first, begun, both⟩
  refine parted ⟨last, ?_, first, begun, both⟩
  simp [List.getLast?_append, Option.mem_def.mp ended]

/-- A candidate that ends a text does not reach into one that is parted from it. -/
theorem Run.stops_append {text rest right : Text} (uniform : (candidate text).Uniform)
    (stops : (candidate text).Stops rest) (parted : Parted (text ++ rest) right) :
    (candidate text).Stops (rest ++ right) := by
  cases rest with
  | cons first more => simpa [Stops] using stops
  | nil =>
    intro c begun inside
    rw [List.append_nil] at parted
    have last := text.getLast_mem uniform.inhabited
    exact parted ⟨_, List.getLast_mem_getLast? uniform.inhabited, c, begun,
      uniform.characters _ last, inside⟩

namespace Expander

variable {μ : Type} [PathMapping μ] (expander : Expander μ)

theorem expandTemplate_nil : expander.expandTemplate [] = pure [] := by
  rw [expandTemplate, runs_nil, List.mapM_nil, pure_bind, List.flatten_nil]

/-- The front run is expanded first. -/
theorem expandTemplate_run (run : Run) (rest : Text) (uniform : run.Uniform)
    (stops : run.Stops rest) :
    expander.expandTemplate (run.text ++ rest) = (do
      let front ← expander.expandRun run
      let back ← expander.expandTemplate rest
      pure (front ++ back)) := by
  simp only [expandTemplate, runs_append run rest uniform stops, List.mapM_cons, bind_assoc,
    pure_bind, List.flatten_cons]

theorem expandTemplate_literal_run {literal rest : Text} (uniform : (Run.literal literal).Uniform)
    (stops : (Run.literal literal).Stops rest) :
    expander.expandTemplate (literal ++ rest) = (do
      let back ← expander.expandTemplate rest
      pure (literal ++ back)) := by
  have front := expander.expandTemplate_run (.literal literal) rest uniform stops
  simpa only [expandRun, pure_bind, Run.text] using front

/-- A literal is copied, also when it is only a part of the run at the front. -/
theorem expandTemplate_literal (literal rest : Text)
    (outside : ∀ c ∈ literal, referenceCharacters.contains c = false) :
    expander.expandTemplate (literal ++ rest) = (do
      let back ← expander.expandTemplate rest
      pure (literal ++ back)) := by
  by_cases empty : literal = []
  · simp [empty]
  · have own : (Run.literal literal).Uniform := ⟨empty, outside⟩
    induction rest using runs_induction with
    | empty => exact expander.expandTemplate_literal_run own (by simp [Run.Stops])
    | step run rest uniform stops _ =>
      cases run with
      | candidate candidate =>
        -- The literal ends where the candidate begins, so it is a run as it stands.
        obtain ⟨first, more, spelled, kind⟩ := uniform.exists_head
        apply expander.expandTemplate_literal_run own
        simp [Run.Stops, spelled, kind, Run.isCandidate]
      | literal other =>
        -- Both literals together are the front run.
        have joined : (Run.literal (literal ++ other)).Uniform := by
          refine ⟨List.append_ne_nil_of_left_ne_nil empty _, ?_⟩
          intro c member
          rcases List.mem_append.mp member with early | late
          · exact outside c early
          · exact uniform.characters c late
        have whole := expander.expandTemplate_literal_run joined stops
        simp only [Run.text, expander.expandTemplate_literal_run uniform stops, bind_assoc,
          pure_bind, ← List.append_assoc]
        exact whole

/-- A template without candidates expands to itself. -/
theorem expandTemplate_of_outside {literal : Text}
    (outside : ∀ c ∈ literal, referenceCharacters.contains c = false) :
    expander.expandTemplate literal = pure literal := by
  have copied := expander.expandTemplate_literal literal [] outside
  rwa [List.append_nil, expandTemplate_nil, pure_bind, List.append_nil] at copied

theorem expandTemplate_append (left right : Text) (parted : Parted left right) :
    expander.expandTemplate (left ++ right) = (do
      let front ← expander.expandTemplate left
      let back ← expander.expandTemplate right
      pure (front ++ back)) := by
  induction left using runs_induction with
  | empty => simp [expandTemplate_nil]
  | step run rest uniform stops ih =>
    have later := ih parted.of_append
    cases run with
    | literal literal =>
      simp only [Run.text, List.append_assoc,
        expander.expandTemplate_literal literal _ uniform.characters, later, bind_assoc, pure_bind]
    | candidate candidate =>
      rw [List.append_assoc, expander.expandTemplate_run _ _ uniform stops,
        expander.expandTemplate_run _ _ uniform (Run.stops_append uniform stops parted), later]
      simp only [bind_assoc, pure_bind, List.append_assoc]

/-- A candidate is expanded between the texts that enclose it, whatever they are. -/
theorem expandTemplate_enclosed {front back : Text} (enclosed : Enclosed front back)
    {candidate : Text} (uniform : (Run.candidate candidate).Uniform) :
    expander.expandTemplate (front ++ candidate ++ back) = (do
      let before ← expander.expandTemplate front
      let middle ← expander.expandCandidate candidate
      let behind ← expander.expandTemplate back
      pure (before ++ middle ++ behind)) := by
  have parted : Parted front (candidate ++ back) := by
    rintro ⟨last, ended, _, _, inside, -⟩
    rw [enclosed.ended last ended] at inside
    cases inside
  have stops : (Run.candidate candidate).Stops back := by
    intro c begun inside
    rw [enclosed.begun c begun] at inside
    cases inside
  have whole := expander.expandTemplate_run (.candidate candidate) back uniform stops
  simp only [Run.text, expandRun] at whole
  rw [List.append_assoc, expander.expandTemplate_append _ _ parted, whole]
  simp only [bind_assoc, pure_bind, List.append_assoc]

end Expander

private def homePackage : Package :=
  ⟨.main, ⟨"home".toList, by decide⟩⟩

private def oneKey : Expander Table :=
  ⟨⟨[(⟨homePackage, ⟨"x1".toList⟩⟩, [.source ⟨"out/x1".toList, by decide, by decide⟩])]⟩,
    ⟨homePackage, ⟨"all".toList⟩⟩⟩

/-- Templates that are parted expand one after the other, with their events, and the second only if
the first succeeds. -/
theorem expand_append {μ : Type} [PathMapping μ] (expander : Expander μ) {left right : Text}
    (parted : Parted left right) :
    (∀ ambiguity, (expander.expand (some left)).outcome = .error ambiguity →
      (expander.expand (some (left ++ right))).outcome = .error ambiguity ∧
      (expander.expand (some (left ++ right))).events = (expander.expand (some left)).events) ∧
    (∀ front, (expander.expand (some left)).outcome = .ok front →
      (∀ ambiguity, (expander.expand (some right)).outcome = .error ambiguity →
        (expander.expand (some (left ++ right))).outcome = .error ambiguity) ∧
      (∀ back, (expander.expand (some right)).outcome = .ok back →
        (expander.expand (some (left ++ right))).outcome = .ok (front ++ back)) ∧
      (expander.expand (some (left ++ right))).events =
        (expander.expand (some left)).events ++ (expander.expand (some right)).events) := by
  simp only [Expander.expand]
  rw [expander.expandTemplate_append left right parted]
  constructor
  · intro ambiguity failed
    rw [Expansion.bind_of_error _ _ _ failed]
    exact ⟨rfl, rfl⟩
  · intro front succeeded
    rw [Expansion.bind_of_ok _ _ _ succeeded]
    refine ⟨?_, ?_, ?_⟩
    · intro ambiguity failed
      rw [Expansion.bind_of_error _ _ _ failed]
    · intro back followed
      rw [Expansion.bind_of_ok _ _ _ followed]
      rfl
    -- What is told of the second text does not depend on how it ends.
    · cases result : (expander.expandTemplate right).outcome with
      | error ambiguity => rw [Expansion.bind_of_error _ _ _ result]
      | ok back =>
        rw [Expansion.bind_of_ok _ _ _ result, Expansion.pure_eq, List.append_nil]

/-- The literals `, ` and a blank meet here and make up one run. -/
theorem expand_append_at_blank :
    Parted "x1, ".toList " x2".toList ∧
    (oneKey.expand (some ("x1, ".toList ++ " x2".toList))).outcome =
      .ok ("out/x1, ".toList ++ " x2".toList) := by
  have parted : Parted "x1, ".toList " x2".toList := by decide
  have leftRuns : runs "x1, ".toList = [.candidate "x1".toList, .literal ", ".toList] := by
    rw [runs_of_next? _ ", ".toList (.candidate "x1".toList) (by decide),
      runs_of_next? _ [] (.literal ", ".toList) (by decide), runs_nil]
  have rightRuns : runs " x2".toList = [.literal " ".toList, .candidate "x2".toList] := by
    rw [runs_of_next? _ "x2".toList (.literal " ".toList) (by decide),
      runs_of_next? _ [] (.candidate "x2".toList) (by decide), runs_nil]
  have front : (oneKey.expand (some "x1, ".toList)).outcome = .ok "out/x1, ".toList := by
    simp only [Expander.expand, Expander.expandTemplate, leftRuns]
    rfl
  have back : (oneKey.expand (some " x2".toList)).outcome = .ok " x2".toList := by
    simp only [Expander.expand, Expander.expandTemplate, rightRuns]
    rfl
  exact ⟨parted, ((expand_append oneKey parted).2 _ front).2.1 _ back⟩

end LabelExpansion
