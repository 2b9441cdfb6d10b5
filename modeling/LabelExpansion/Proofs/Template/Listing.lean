import LabelExpansion.Proofs.Template.Account
import LabelExpansion.Proofs.Template.Concatenation

/-!
# Expanding lists of templates

A list of templates expands like the one text in which a separator stands between each two of them.
No candidate can reach across a separator, so each element has in the text the candidates that it
has by itself, and the separators are copied in silence. The agreement holds of outcomes and events
alike, and so the list is left at its first ambiguity, just as the text is.
-/
namespace LabelExpansion

/-- A text between others that belongs to the candidates of neither. -/
structure Separates (separator : Text) : Prop where
  inhabited : separator ≠ []
  outside : ∀ c ∈ separator, referenceCharacters.contains c = false

theorem Separates.parted {separator : Text} (separates : Separates separator)
    (left right : Text) : Parted left (separator ++ right) := by
  rintro ⟨_, -, first, begun, -, inside⟩
  obtain ⟨c, rest, rfl⟩ := List.exists_cons_of_ne_nil separates.inhabited
  rw [List.cons_append, List.head?_cons, Option.mem_some_iff] at begun
  rw [← begun, separates.outside c (List.mem_cons_self ..)] at inside
  cases inside

namespace Expander

variable {μ : Type} [PathMapping μ] (expander : Expander μ)

/-- A candidate alone is expanded as what it is. -/
theorem expandTemplate_candidate {candidate : Text}
    (uniform : (Run.candidate candidate).Uniform) :
    expander.expandTemplate candidate = expander.expandCandidate candidate := by
  have alone := expander.expandTemplate_run (.candidate candidate) [] uniform (by simp [Run.Stops])
  simpa only [Run.text, expandRun, expandTemplate_nil, pure_bind, List.append_nil, bind_pure]
    using alone

theorem expandAll_nil : expander.expandAll [] = pure [] := by
  rw [expandAll, List.mapM_nil]

theorem expandAll_cons (first : Text) (others : List Text) :
    expander.expandAll (first :: others) = (do
      let text ← expander.expandTemplate first
      let texts ← expander.expandAll others
      pure (text :: texts)) := by
  rw [expandAll, List.mapM_cons]
  rfl

section Separated

variable {separator : Text} (separates : Separates separator)

include separates

theorem expandTemplate_separated (left right : Text) :
    expander.expandTemplate (left ++ separator ++ right) = (do
      let front ← expander.expandTemplate left
      let back ← expander.expandTemplate right
      pure (front ++ separator ++ back)) := by
  rw [List.append_assoc, expander.expandTemplate_append _ _ (separates.parted left right),
    expander.expandTemplate_literal _ _ separates.outside]
  simp only [bind_assoc, pure_bind, List.append_assoc]

/-- The joined text and the list go through the same steps. -/
theorem expandTemplate_intercalate (templates : List Text) :
    expander.expandTemplate (separator.intercalate templates) = (do
      let texts ← expander.expandAll templates
      pure (separator.intercalate texts)) := by
  induction templates with
  | nil => rw [List.intercalate_nil, expandTemplate_nil, expandAll_nil, pure_bind,
      List.intercalate_nil]
  | cons first others ih =>
    cases others with
    | nil =>
      simp only [List.intercalate_singleton, expandAll_cons, expandAll_nil, pure_bind, bind_assoc,
        bind_pure]
    | cons second more =>
      -- A list that is not empty gives texts that are none either, so a separator stands there too.
      rw [List.intercalate_cons_cons, expandTemplate_separated expander separates, ih]
      simp only [expandAll_cons, bind_assoc, pure_bind, List.intercalate_cons_cons]

theorem outcome_intercalate (templates : List Text) :
    (expander.expandTemplate (separator.intercalate templates)).outcome =
      (expander.expandAll templates).outcome.map separator.intercalate := by
  rw [expandTemplate_intercalate expander separates, Expansion.outcome_bind]
  cases (expander.expandAll templates).outcome <;> rfl

theorem events_intercalate (templates : List Text) :
    (expander.expandTemplate (separator.intercalate templates)).events =
      (expander.expandAll templates).events := by
  rw [expandTemplate_intercalate expander separates, Expansion.events_bind_pure]

end Separated

theorem outcome_expandAll_eq_ok_iff (templates texts : List Text) :
    (expander.expandAll templates).outcome = .ok texts ↔
      List.Forall₂ (fun template text => (expander.expandTemplate template).outcome = .ok text)
        templates texts := by
  rw [expandAll, Expansion.outcome_mapM, Fallible.mapM_eq_ok_iff]

/-- A list fails with its first template that fails. -/
theorem outcome_expandAll_eq_error_iff (templates : List Text) (ambiguity : Ambiguity) :
    (expander.expandAll templates).outcome = .error ambiguity ↔
      ∃ before failing after, templates = before ++ failing :: after ∧
        (∀ template ∈ before, ∃ text, (expander.expandTemplate template).outcome = .ok text) ∧
        (expander.expandTemplate failing).outcome = .error ambiguity := by
  rw [expandAll, Expansion.outcome_mapM, Fallible.mapM_eq_error_iff]

end Expander

private def listPackage : Package :=
  ⟨.main, ⟨"list".toList, by decide⟩⟩

/-- One key has a path and the other has none. -/
private def listKeys : Expander Table :=
  ⟨⟨[(⟨listPackage, ⟨"x1".toList⟩⟩, [.source ⟨"list/x1.o".toList, by decide, by decide⟩]),
      (⟨listPackage, ⟨"x2".toList⟩⟩, [])]⟩, ⟨listPackage, ⟨"all".toList⟩⟩⟩

/-- A list and its joined text succeed with joined texts, or fail for the first template that fails
by itself, and tell the same of it, which is nothing behind that template. -/
theorem list_expands_like_joined_text {μ : Type} [PathMapping μ] (expander : Expander μ)
    {separator : Text} (separates : Separates separator) (templates : List Text) :
    (∀ texts, (expander.expandAll templates).outcome = .ok texts →
      texts.length = templates.length ∧
      (expander.expand (some (separator.intercalate templates))).outcome =
        .ok (separator.intercalate texts)) ∧
    (∀ ambiguity, (expander.expandAll templates).outcome = .error ambiguity →
      (expander.expand (some (separator.intercalate templates))).outcome = .error ambiguity ∧
      ∃ before failing after, templates = before ++ failing :: after ∧
        (∀ template ∈ before, ∃ text, (expander.expand (some template)).outcome = .ok text) ∧
        (expander.expand (some failing)).outcome = .error ambiguity ∧
        (expander.expandAll templates).events =
          (before ++ [failing]).flatMap fun template => (expander.expand (some template)).events) ∧
    (expander.expand (some (separator.intercalate templates))).events =
      (expander.expandAll templates).events := by
  have joined := expander.outcome_intercalate separates templates
  refine ⟨?_, ?_, expander.events_intercalate separates templates⟩
  · intro texts succeeded
    rw [succeeded] at joined
    have each := (expander.outcome_expandAll_eq_ok_iff templates texts).mp succeeded
    exact ⟨each.length_eq.symm, joined⟩
  · intro ambiguity failed
    rw [failed] at joined
    obtain ⟨before, failing, after, whole, succeed, fails⟩ :=
      (expander.outcome_expandAll_eq_error_iff templates ambiguity).mp failed
    refine ⟨joined, before, failing, after, whole, succeed, fails, ?_⟩
    rw [whole]
    exact Expansion.events_mapM_of_error expander.expandTemplate after succeed fails

/-- The empty template leaves two separators next to each other, and the last one is not reached. -/
theorem list_fails_for_label_without_path :
    Separates ", ".toList ∧
    (listKeys.expandAll ["x1".toList, [], "-I".toList]).outcome =
      .ok ["list/x1.o".toList, [], "-I".toList] ∧
    (listKeys.expand (some "x1, , -I".toList)).outcome = .ok "list/x1.o, , -I".toList ∧
    (listKeys.expandAll ["x1".toList, [], "x2".toList, "x1".toList]).outcome =
      .error ⟨⟨listPackage, ⟨"x2".toList⟩⟩, 0⟩ ∧
    (listKeys.expand (some "x1, , x2, x1".toList)).outcome =
      .error ⟨⟨listPackage, ⟨"x2".toList⟩⟩, 0⟩ := by
  have separates : Separates ", ".toList := ⟨by decide, Text.forall_mem_of_all (by decide)⟩
  have one : (listKeys.expandTemplate "x1".toList).outcome = .ok "list/x1.o".toList := by
    rw [listKeys.expandTemplate_candidate (by decide)]
    rfl
  have blank : (listKeys.expandTemplate []).outcome = .ok [] := by
    rw [listKeys.expandTemplate_nil]
    rfl
  have option : (listKeys.expandTemplate "-I".toList).outcome = .ok "-I".toList := by
    rw [listKeys.expandTemplate_candidate (by decide)]
    rfl
  have none : (listKeys.expandTemplate "x2".toList).outcome =
      .error ⟨⟨listPackage, ⟨"x2".toList⟩⟩, 0⟩ := by
    rw [listKeys.expandTemplate_candidate (by decide)]
    rfl
  have succeeds := (listKeys.outcome_expandAll_eq_ok_iff _ _).mpr
    (.cons one (.cons blank (.cons option .nil)))
  have earlier : ∀ template ∈ ["x1".toList, []],
      ∃ text, (listKeys.expandTemplate template).outcome = .ok text :=
    List.forall_mem_cons.mpr ⟨⟨_, one⟩, List.forall_mem_singleton.mpr ⟨_, blank⟩⟩
  have fails := (listKeys.outcome_expandAll_eq_error_iff _ _).mpr
    ⟨["x1".toList, []], "x2".toList, ["x1".toList], rfl, earlier, none⟩
  refine ⟨separates, succeeds, ?_, fails, ?_⟩
  · exact ((list_expands_like_joined_text listKeys separates _).1 _ succeeds).2
  · exact ((list_expands_like_joined_text listKeys separates _).2.1 _ fails).1

end LabelExpansion
