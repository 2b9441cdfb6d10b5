import LabelExpansion.Proofs.Template.Concatenation
import LabelExpansion.Proofs.Template.Outcome
import LabelExpansion.Proofs.Template.Visibility

/-!
# The spellings of a target

A template may mention a target of its own package by the bare name, with a colon in front of the
name, with the whole package in front of it, or by the package alone if that has the same name. All
of them are read as one label, and each is a run as it stands between texts that do not reach into
it, so it makes no difference to an expansion which of them was written.
-/
namespace LabelExpansion

/-- The ways to write a name of the package with a path, in a template that belongs to it. -/
inductive Spelled (path name : Text) : Text → Prop where
  | bare : Spelled path name name
  | marked : Spelled path name (':' :: name)
  | full : Spelled path name ('/' :: '/' :: (path ++ ':' :: name))
  | shorthand : path ≠ [] → Path.LastSegment path name → Spelled path name ('/' :: '/' :: path)

/-- Every spelling of a target of the main repository is read as its label. -/
theorem parse_of_spelled {package : Package} (home : package.repository = .main)
    {name : TargetName} (named : NameText name.text) (start : name.text.head? ≠ some '@')
    {spelling : Text} (spelled : Spelled package.path.text name.text spelling) :
    Label.parse spelling package = .ok ⟨package, name⟩ := by
  have unnamed : package.repository.text = [] := (RepositoryName.text_eq_nil_iff _).mpr home
  have path := package.path.pathText
  cases spelled with
  | bare => exact Grammar.parse_of_written (.bare name.text named start) ⟨rfl, rfl⟩
  | marked => exact Grammar.parse_of_written (.marked name.text named) ⟨rfl, rfl⟩
  | full =>
    exact Grammar.parse_of_written (.full [] [] package.path.text name.text .silent path named)
      ⟨unnamed, rfl, rfl⟩
  | shorthand inhabited last =>
    exact Grammar.parse_of_written
      (.shorthand [] [] package.path.text name.text .silent path inhabited last)
      ⟨unnamed, rfl, rfl⟩

/-- A spelling of referable texts is a candidate. -/
theorem uniform_of_spelled {path name spelling : Text} (spelled : Spelled path name spelling)
    (inhabited : name ≠ []) (directory : Referable path) (referable : Referable name) :
    (Run.candidate spelling).Uniform := by
  have slash : referenceCharacters.contains '/' = true := by decide
  have colon : referenceCharacters.contains ':' = true := by decide
  have inPath (c : Char) (member : c ∈ path) := (directory c member).2
  have inName (c : Char) (member : c ∈ name) := (referable c member).2
  cases spelled with
  | bare => exact ⟨inhabited, inName⟩
  | marked => exact ⟨List.cons_ne_nil _ _, List.forall_mem_cons.mpr ⟨colon, inName⟩⟩
  | full =>
    refine ⟨List.cons_ne_nil _ _, List.forall_mem_cons.mpr ⟨slash, ?_⟩⟩
    refine List.forall_mem_cons.mpr ⟨slash, List.forall_mem_append.mpr ⟨inPath, ?_⟩⟩
    exact List.forall_mem_cons.mpr ⟨colon, inName⟩
  | shorthand =>
    exact ⟨List.cons_ne_nil _ _,
      List.forall_mem_cons.mpr ⟨slash, List.forall_mem_cons.mpr ⟨slash, inPath⟩⟩⟩

namespace Expander

variable {μ : Type} [PathMapping μ] {expander : Expander μ}

/-- What becomes of a candidate depends on what it is bound to, not on how it is written. -/
theorem outcome_eq_of_bound {first second : Text} {label : Label} {paths : List Text}
    (bound : expander.Bound first label paths) (again : expander.Bound second label paths) :
    (expander.expandCandidate first).outcome = (expander.expandCandidate second).outcome := by
  by_cases one : paths.length = 1
  · obtain ⟨path, rfl⟩ := List.length_eq_one_iff.mp one
    rw [outcome_of_one bound, outcome_of_one again]
  · rw [outcome_of_several bound one, outcome_of_several again one]

theorem outcome_enclosed {front back candidate : Text} (enclosed : Enclosed front back)
    (uniform : (Run.candidate candidate).Uniform) :
    (expander.expand (some (front ++ candidate ++ back))).outcome = (do
      let before ← (expander.expand (some front)).outcome
      let middle ← (expander.expandCandidate candidate).outcome
      let behind ← (expander.expand (some back)).outcome
      pure (before ++ middle ++ behind)) := by
  simp only [expand, expander.expandTemplate_enclosed enclosed uniform, Expansion.outcome_bind]
  rfl

end Expander

private def toolPackage : Package :=
  ⟨.main, ⟨"a/tool".toList, by decide⟩⟩

private def toolKey : Expander Table :=
  ⟨⟨[(⟨toolPackage, ⟨"tool".toList⟩⟩, [.source ⟨"out/tool.sh".toList, by decide, by decide⟩])]⟩,
    ⟨toolPackage, ⟨"all".toList⟩⟩⟩

/-- In every context all spellings of a target that is a key expand alike, and to the path of its
artifact if that is the only one. -/
theorem spellings_expand_alike {μ : Type} [PathMapping μ] (expander : Expander μ)
    (home : expander.anchor.package.repository = .main)
    (directory : Referable expander.anchor.package.path.text) {name : Text} {target : TargetName}
    (accepted : TargetName.ofText name = .ok target) (referable : Referable name)
    {paths : List Text}
    (key : PathMapping.paths? expander.mapping ⟨expander.anchor.package, target⟩ = some paths)
    {front back : Text} (enclosed : Enclosed front back) :
    (∀ first second, Spelled expander.anchor.package.path.text name first →
      Spelled expander.anchor.package.path.text name second →
      (expander.expand (some (front ++ first ++ back))).outcome =
        (expander.expand (some (front ++ second ++ back))).outcome) ∧
    (∀ path before behind, paths = [path] →
      (expander.expand (some front)).outcome = .ok before →
      (expander.expand (some back)).outcome = .ok behind →
      ∀ spelling, Spelled expander.anchor.package.path.text name spelling →
        (expander.expand (some (front ++ spelling ++ back))).outcome =
          .ok (before ++ path ++ behind)) := by
  obtain ⟨rfl, named⟩ := (TargetName.ofText_eq_ok_iff name target).mp accepted
  have start : target.text.head? ≠ some '@' := by
    intro first
    have reference := (referable '@' (List.mem_of_head? first)).2
    exact absurd reference (by decide)
  have bound {spelling : Text}
      (spelled : Spelled expander.anchor.package.path.text target.text spelling) :
      expander.Bound spelling ⟨expander.anchor.package, target⟩ paths :=
    ⟨parse_of_spelled home named start spelled, key⟩
  have uniform {spelling : Text}
      (spelled : Spelled expander.anchor.package.path.text target.text spelling) :
      (Run.candidate spelling).Uniform :=
    uniform_of_spelled spelled named.shape.ne_nil directory referable
  -- Each spelling is a run of its own between the two sides and stands for the same label.
  constructor
  · intro first second spelled again
    rw [Expander.outcome_enclosed enclosed (uniform spelled),
      Expander.outcome_enclosed enclosed (uniform again),
      Expander.outcome_eq_of_bound (bound spelled) (bound again)]
  · rintro path before behind rfl expanded followed spelling spelled
    rw [Expander.outcome_enclosed enclosed (uniform spelled), expanded, followed,
      Expander.outcome_of_one (bound spelled)]
    rfl

/-- The package alone means the target that is named like its directory. -/
theorem shorthand_expands_like_bare_name :
    Referable "a/tool".toList ∧ TargetName.ofText "tool".toList = .ok ⟨"tool".toList⟩ ∧
    Referable "tool".toList ∧ Enclosed "$(".toList ")".toList ∧
    (toolKey.expand (some ("$(".toList ++ "//a/tool".toList ++ ")".toList))).outcome =
      (toolKey.expand (some ("$(".toList ++ "tool".toList ++ ")".toList))).outcome ∧
    (toolKey.expand (some ("$(".toList ++ "//a/tool".toList ++ ")".toList))).outcome =
      .ok ("$(".toList ++ "out/tool.sh".toList ++ ")".toList) := by
  have directory : Referable "a/tool".toList := by decide
  have accepted : TargetName.ofText "tool".toList = .ok ⟨"tool".toList⟩ := by decide
  have referable : Referable "tool".toList := by decide
  have enclosed : Enclosed "$(".toList ")".toList := by decide
  have shorthand : Spelled "a/tool".toList "tool".toList "//a/tool".toList :=
    .shorthand (by decide) ⟨by decide, .inr ⟨"a".toList, rfl⟩⟩
  have front : (toolKey.expand (some "$(".toList)).outcome = .ok "$(".toList :=
    congrArg Expansion.outcome
      (toolKey.expandTemplate_of_outside (Text.forall_mem_of_all (by decide)))
  have back : (toolKey.expand (some ")".toList)).outcome = .ok ")".toList :=
    congrArg Expansion.outcome
      (toolKey.expandTemplate_of_outside (Text.forall_mem_of_all (by decide)))
  have alike := spellings_expand_alike toolKey rfl directory accepted referable rfl enclosed
  refine ⟨directory, accepted, referable, enclosed, alike.1 _ _ shorthand .bare, ?_⟩
  exact alike.2 _ _ _ rfl front back _ shorthand

end LabelExpansion
