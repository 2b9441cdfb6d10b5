import LabelExpansion.Mapping.Basic
import LabelExpansion.Proofs.Label.Grammar
import LabelExpansion.Proofs.Template.Outcome
import LabelExpansion.Proofs.Template.Runs

/-!
# What expansion can see

A candidate is made of reference characters, so the labels that candidates can mean are few: no
repository can be named, for want of the `@` in front of it, and neither a name nor a path that is
written can hold a character that no reference has. Two expanders whose mappings agree on these
labels have the same outcome for every template, whatever else the mappings hold.
-/
namespace LabelExpansion

/-- A text that a candidate can hold between its delimiters. -/
def Referable (text : Text) : Prop :=
  ∀ c ∈ text, c ≠ ':' ∧ referenceCharacters.contains c = true

/-- The labels that a candidate can mean in a package. -/
structure Visible (package : Package) (label : Label) : Prop where
  checked : TargetName.ofText label.name.text = .ok label.name
  name : Referable label.name.text
  place : label.package = package ∨
    label.package.repository = .main ∧ Referable label.package.path.text

instance (text : Text) : Decidable (Referable text) :=
  decidable_of_iff ((text.all fun c => c ≠ ':' ∧ referenceCharacters.contains c = true) = true)
    (by simp [Referable])

instance (package : Package) (label : Label) : Decidable (Visible package label) :=
  decidable_of_iff (TargetName.ofText label.name.text = .ok label.name ∧
      Referable label.name.text ∧ (label.package = package ∨
        label.package.repository = .main ∧ Referable label.package.path.text))
    ⟨fun ⟨checked, name, place⟩ => ⟨checked, name, place⟩,
      fun ⟨checked, name, place⟩ => ⟨checked, name, place⟩⟩

theorem Referable.of_subset {part text : Text} (inside : part ⊆ text) (clear : ':' ∉ part)
    (reference : ∀ c ∈ text, referenceCharacters.contains c = true) : Referable part := by
  intro c member
  refine ⟨?_, reference c (inside member)⟩
  rintro rfl
  exact clear member

/-- No repository is named in reference characters. -/
theorem opening_eq_nil {opening repository : Text} (opened : Grammar.Opening opening repository)
    (reference : ∀ c ∈ opening, referenceCharacters.contains c = true) :
    opening = [] ∧ repository = [] := by
  -- Both openings that are not empty start with a character that no candidate has.
  have outside : referenceCharacters.contains '@' = false := by decide
  cases opened with
  | silent => exact ⟨rfl, rfl⟩
  | unnamed =>
    rw [reference '@' (by simp)] at outside
    cases outside
  | named name valid =>
    rw [reference '@' (by simp)] at outside
    cases outside

/-- Behind an opening in reference characters, the package is one of the main repository. -/
theorem Visible.of_absolute {opening repository path name rest : Text} {package : Package}
    {label : Label} (opened : Grammar.Opening opening repository) (paths : PathText path)
    (names : NameText name)
    (denotes : (Grammar.Meaning.absolute repository path name).Denotes package label)
    (reference : ∀ c ∈ opening ++ '/' :: '/' :: rest, referenceCharacters.contains c = true)
    (pathInside : path ⊆ rest) (nameInside : name ⊆ rest) : Visible package label := by
  obtain ⟨home, directory, spelled⟩ := denotes
  -- Among the characters of a run there is no sign for another repository.
  have silent := opening_eq_nil opened fun c member => reference c (List.mem_append_left _ member)
  have rest (c : Char) (member : c ∈ rest) : referenceCharacters.contains c = true :=
    reference c (by simp [member])
  constructor
  · rw [TargetName.ofText_eq_ok_iff, spelled]
    exact ⟨rfl, names⟩
  · rw [spelled]
    exact .of_subset nameInside names.colon_not_mem rest
  · right
    rw [directory]
    refine ⟨?_, .of_subset pathInside paths.colon_not_mem rest⟩
    rw [← RepositoryName.text_eq_nil_iff, home, silent.2]

theorem Visible.of_relative {name : Text} {package : Package} {label : Label}
    (names : NameText name) (denotes : (Grammar.Meaning.relative name).Denotes package label)
    (reference : ∀ c ∈ name, referenceCharacters.contains c = true) : Visible package label := by
  obtain ⟨here, spelled⟩ := denotes
  constructor
  · rw [TargetName.ofText_eq_ok_iff, spelled]
    exact ⟨rfl, names⟩
  · rw [spelled]
    exact .of_subset (List.Subset.refl name) names.colon_not_mem reference
  · exact .inl here

/-- Whatever is read from reference characters is visible. -/
theorem visible_of_parse {candidate : Text} {package : Package} {label : Label}
    (reference : ∀ c ∈ candidate, referenceCharacters.contains c = true)
    (read : Label.parse candidate package = .ok label) : Visible package label := by
  obtain ⟨style, meaning, written, denotes⟩ := Grammar.written_of_parse read
  -- In each style the parts of the label are parts of the candidate.
  cases written with
  | full opening repository path name opened paths names =>
    apply Visible.of_absolute opened paths names denotes reference
    · exact List.subset_append_left _ _
    · intro c member
      simp [member]
  | shorthand opening repository path name opened paths inhabited last =>
    -- The inferred name is a part of the path, so it was written as well.
    have names := paths.nameText_of_lastSegment inhabited last
    apply Visible.of_absolute opened paths names denotes reference
    · exact List.Subset.refl _
    · exact last.subset
  | marked name names =>
    apply Visible.of_relative names denotes
    intro c member
    exact reference c (List.mem_cons_of_mem _ member)
  | bare name names start => exact Visible.of_relative names denotes reference

section Agreement

variable {μ ν : Type} [PathMapping μ] [PathMapping ν] {package : Package}
variable {first : μ} {second : ν}

theorem ofCandidate_eq_of_agree {candidate : Text}
    (agree : ∀ label, Visible package label →
      PathMapping.paths? first label = PathMapping.paths? second label)
    (reference : ∀ c ∈ candidate, referenceCharacters.contains c = true) :
    Resolution.ofCandidate first package candidate =
      Resolution.ofCandidate second package candidate := by
  rw [Resolution.ofCandidate, Resolution.ofCandidate]
  cases read : Label.parse candidate package with
  | error error => rfl
  | ok label => simp only [agree label (visible_of_parse reference read)]

end Agreement

/-- Entries that cannot be seen may as well be missing from a table. -/
theorem paths?_append_of_hidden (hidden entries : List Entry) {package : Package} {label : Label}
    (unseen : ∀ entry ∈ hidden, ¬ Visible package entry.1) (visible : Visible package label) :
    PathMapping.paths? (Table.mk (hidden ++ entries)) label =
      PathMapping.paths? (Table.mk entries) label := by
  have missing : hidden.lookup label = none := by
    rw [List.lookup_eq_none_iff]
    intro entry member
    rw [bne_iff_ne]
    rintro rfl
    exact unseen entry member visible
  simp only [PathMapping.paths?, ArtifactMapping.artifacts?, List.lookup_append, missing,
    Option.none_or]

private def ownPackage : Package :=
  ⟨.main, ⟨"own".toList, by decide⟩⟩

private def seenEntries : List Entry :=
  [(⟨⟨.main, ⟨"a".toList, by decide⟩⟩, ⟨"b".toList⟩⟩,
    [.source ⟨"out/b".toList, by decide, by decide⟩])]

/-- Keys of another repository, of a path with `@`, and with a name that was never checked. -/
private def hiddenEntries : List Entry :=
  [(⟨⟨.named "other".toList (by decide), ⟨"a".toList, by decide⟩⟩, ⟨"b".toList⟩⟩, []),
    (⟨⟨.main, ⟨"a@b".toList, by decide⟩⟩, ⟨"c".toList⟩⟩, []),
    (⟨ownPackage, ⟨"x1:x2:x3".toList⟩⟩, [])]

/-- Expansion depends on the package of its anchor and on the paths of visible labels alone. -/
theorem expand_agrees_on_visible_labels {μ ν : Type} [PathMapping μ] [PathMapping ν]
    (first : Expander μ) (second : Expander ν)
    (package : first.anchor.package = second.anchor.package)
    (agree : ∀ label, Visible first.anchor.package label →
      PathMapping.paths? first.mapping label = PathMapping.paths? second.mapping label)
    (template : Option Text) :
    (first.expand template).outcome = (second.expand template).outcome := by
  cases template with
  | none => rfl
  | some template =>
    rw [Expander.expand, Expander.expand, Expander.outcome_expandTemplate,
      Expander.outcome_expandTemplate]
    -- Both cut the template into the same runs, so it is enough to compare run by run.
    congr 1
    apply Fallible.mapM_congr
    intro run member
    cases run with
    | literal text => rfl
    | candidate candidate =>
      have reference : ∀ c ∈ candidate, referenceCharacters.contains c = true :=
        ((maximal_runs template).uniform _ member).characters
      have same := ofCandidate_eq_of_agree agree reference
      rw [package] at same
      simp only [Expander.expandRun, Expander.expandCandidate, package, same]

/-- Ambiguous keys that cannot be seen change nothing, nor does the name of the anchor. -/
theorem expand_ignores_hidden_labels :
    (∀ entry ∈ hiddenEntries, ¬ Visible ownPackage entry.1) ∧
    ((Expander.mk (Table.mk (hiddenEntries ++ seenEntries)) ⟨ownPackage, ⟨":".toList⟩⟩).expand
        (some "x1:x2:x3, @other//a:b".toList)).outcome =
      ((Expander.mk (Table.mk seenEntries) ⟨ownPackage, ⟨"t".toList⟩⟩).expand
        (some "x1:x2:x3, @other//a:b".toList)).outcome := by
  have unseen : ∀ entry ∈ hiddenEntries, ¬ Visible ownPackage entry.1 := by decide
  refine ⟨unseen, ?_⟩
  apply expand_agrees_on_visible_labels
  · rfl
  · intro label visible
    exact paths?_append_of_hidden hiddenEntries seenEntries unseen visible

end LabelExpansion
