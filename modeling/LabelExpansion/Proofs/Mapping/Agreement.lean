import LabelExpansion.Mapping.Basic
import LabelExpansion.Template.Expansion
import Mathlib.Data.List.Basic
import Mathlib.Data.List.Induction

/-!
# Mappings of all types agree

Entries are inserted in order, and what a label stands for is what its last entry says. The types of
mappings differ in how they find a key: by hash and equality, by equality alone, or by order alone.
They agree because the three find the same keys to be the same, for labels with names of any text.
One law of insertion carries the argument, and each type has only to obey it.
-/
namespace LabelExpansion

open ArtifactMapping (artifacts?)

/-- What entries that were inserted in order leave of a label: the artifacts of the last of them. -/
def Latest (entries : List Entry) (label : Label) (artifacts : List Artifact) : Prop :=
  ∃ before after, entries = before ++ (label, artifacts) :: after ∧
    ∀ entry ∈ after, entry.1 ≠ label

/-- The mappings that hold the entries, however they find them. -/
inductive Holds (entries : List Entry) : (μ : Type) → [ArtifactMapping μ] → μ → Prop where
  | hashed : Holds entries HashedMapping (.ofEntries entries)
  | ordered : Holds entries OrderedMapping (.ofEntries entries)
  | table : Holds entries Table (.ofEntries entries)
  | lent (μ : Type) [ArtifactMapping μ] (mapping : μ) : Holds entries μ mapping →
      Holds entries (Lent μ) ⟨mapping⟩

/-! ## The last entry of a label -/

/-- From the back, the last entry of a label comes first. -/
theorem lookup_reverse_eq_some_iff (entries : List Entry) (label : Label)
    (artifacts : List Artifact) :
    entries.reverse.lookup label = some artifacts ↔ Latest entries label artifacts := by
  rw [List.lookup_eq_some_iff]
  constructor
  · rintro ⟨after, before, whole, others⟩
    refine ⟨before.reverse, after.reverse, ?_, ?_⟩
    · rw [← List.reverse_reverse entries, whole]
      simp
    · intro entry member
      exact (bne_iff_ne.mp (others entry (List.mem_reverse.mp member))).symm
  · rintro ⟨before, after, rfl, others⟩
    refine ⟨after.reverse, before.reverse, by simp, ?_⟩
    intro entry member
    exact bne_iff_ne.mpr (others entry (List.mem_reverse.mp member)).symm

theorem lookup_reverse_eq_none_iff (entries : List Entry) (label : Label) :
    entries.reverse.lookup label = none ↔ ∀ entry ∈ entries, entry.1 ≠ label := by
  simp only [List.lookup_eq_none_iff, List.mem_reverse, bne_iff_ne]
  exact forall₂_congr fun entry _ => ne_comm

/-! ## Inserting entries -/

section Insertion

variable {μ : Type} [ArtifactMapping μ]

/-- Inserting an entry settles the answer for its label and leaves all others as they are. -/
def Overwrites (insert : μ → Entry → μ) : Prop :=
  ∀ mapping entry label, artifacts? (insert mapping entry) label =
    if entry.1 = label then some entry.2 else artifacts? mapping label

/-- Whatever obeys the law of insertion answers with the last entry of a label. -/
theorem Overwrites.artifacts?_foldl {insert : μ → Entry → μ} (overwrites : Overwrites insert)
    (start : μ) (blank : ∀ label, artifacts? start label = none) (entries : List Entry)
    (label : Label) :
    artifacts? (entries.foldl insert start) label = entries.reverse.lookup label := by
  -- The induction is from the back, since the last entry is asked first.
  induction entries using List.reverseRecOn with
  | nil => exact blank label
  | append_singleton earlier last ih =>
    rw [List.foldl_concat, overwrites, ih, List.reverse_concat]
    obtain ⟨key, artifacts⟩ := last
    by_cases same : key = label
    · simp [same]
    · have other : (label == key) = false := beq_false_of_ne (Ne.symm same)
      simp [same, List.lookup_cons, other]

end Insertion

theorem HashedMapping.artifacts?_ofEntries (entries : List Entry) (label : Label) :
    artifacts? (HashedMapping.ofEntries entries) label = entries.reverse.lookup label := by
  apply Overwrites.artifacts?_foldl
  · rintro mapping ⟨key, artifacts⟩ other
    simp [artifacts?, Std.HashMap.getElem?_insert]
  · intro other
    exact Std.HashMap.getElem?_empty

/-- Keys that the order calls equal are equal, so a search by order misses none. -/
theorem OrderedMapping.artifacts?_ofEntries (entries : List Entry) (label : Label) :
    artifacts? (OrderedMapping.ofEntries entries) label = entries.reverse.lookup label := by
  apply Overwrites.artifacts?_foldl
  · rintro mapping ⟨key, artifacts⟩ other
    simp [artifacts?, Std.TreeMap.getElem?_insert, Std.LawfulEqCmp.compare_eq_iff_eq]
  · intro other
    exact Std.TreeMap.getElem?_emptyc

theorem Table.lookup_insertEntry (key : Label) (artifacts : List Artifact) (entries : List Entry)
    (label : Label) :
    (insertEntry key artifacts entries).lookup label =
      if key = label then some artifacts else entries.lookup label := by
  induction entries with
  | nil =>
    by_cases same : key = label
    · simp [insertEntry, same]
    · simp [insertEntry, same, List.lookup_cons, beq_false_of_ne (Ne.symm same)]
  | cons entry rest ih =>
    obtain ⟨present, old⟩ := entry
    by_cases found : present = key
    · subst found
      by_cases same : present = label
      · simp [insertEntry, same]
      · simp [insertEntry, same, List.lookup_cons, beq_false_of_ne (Ne.symm same)]
    · rw [insertEntry, if_neg found, List.lookup_cons, List.lookup_cons, ih]
      by_cases here : label = present
      · -- The label stands here, so it is not the key that is inserted further on.
        have other : key ≠ label := fun same => found (here.symm.trans same.symm)
        simp [here, Ne.symm found]
      · simp [beq_false_of_ne here]

theorem Table.artifacts?_ofEntries (entries : List Entry) (label : Label) :
    artifacts? (Table.ofEntries entries) label = entries.reverse.lookup label := by
  apply Overwrites.artifacts?_foldl
  · rintro mapping ⟨key, artifacts⟩ other
    exact lookup_insertEntry key artifacts mapping.entries other
  · intro other
    rfl

/-- Being lent changes no answer, so the induction is over how often a mapping was lent on. -/
theorem Holds.artifacts?_eq {entries : List Entry} {μ : Type} [ArtifactMapping μ] {mapping : μ}
    (holds : Holds entries μ mapping) (label : Label) :
    artifacts? mapping label = entries.reverse.lookup label := by
  induction holds with
  | hashed => exact HashedMapping.artifacts?_ofEntries entries label
  | ordered => exact OrderedMapping.artifacts?_ofEntries entries label
  | table => exact Table.artifacts?_ofEntries entries label
  | lent μ mapping _ ih => exact ih

/-! ## Expanding with equal answers -/

namespace Expander

variable {μ ν : Type} [PathMapping μ] [PathMapping ν] {first : μ} {second : ν}

/-- Expansion asks nothing of a mapping but the paths of labels. -/
theorem expandTemplate_congr
    (same : ∀ label, PathMapping.paths? first label = PathMapping.paths? second label)
    (anchor : Label) :
    (mk first anchor).expandTemplate = (mk second anchor).expandTemplate := by
  have runs : (mk first anchor).expandRun = (mk second anchor).expandRun := by
    funext run
    cases run with
    | literal text => rfl
    | candidate candidate =>
      simp only [expandRun, expandCandidate, Resolution.ofCandidate, same]
  funext template
  rw [expandTemplate, expandTemplate, runs]

end Expander

private def libraryPackage : Package :=
  ⟨.main, ⟨"lib/q".toList, by decide⟩⟩

/-- A key with a name that would not pass a check. -/
private def strayKey : Label :=
  ⟨libraryPackage, ⟨"q::r".toList⟩⟩

/-- The second entry takes the artifact of the first one away. -/
private def strayEntries : List Entry :=
  [(strayKey, [.source ⟨"lib/q.o".toList, by decide, by decide⟩]), (strayKey, [])]

/-- A mapping of any type answers with the last entry of a label, so all types expand alike. -/
theorem mappings_answer_latest (entries : List Entry) :
    (∀ (μ : Type) [ArtifactMapping μ] (mapping : μ), Holds entries μ mapping → ∀ label,
      (∀ artifacts, artifacts? mapping label = some artifacts ↔ Latest entries label artifacts) ∧
      (artifacts? mapping label = none ↔ ∀ entry ∈ entries, entry.1 ≠ label)) ∧
    (∀ (μ ν : Type) [ArtifactMapping μ] [ArtifactMapping ν] (first : μ) (second : ν),
      Holds entries μ first → Holds entries ν second → ∀ anchor,
      (∀ template, (Expander.mk first anchor).expand template =
        (Expander.mk second anchor).expand template) ∧
      (∀ templates, (Expander.mk first anchor).expandAll templates =
        (Expander.mk second anchor).expandAll templates)) := by
  constructor
  · intro μ _ mapping holds label
    rw [holds.artifacts?_eq]
    exact ⟨lookup_reverse_eq_some_iff entries label, lookup_reverse_eq_none_iff entries label⟩
  · intro μ ν _ _ first second holdsFirst holdsSecond anchor
    -- Expansion asks a mapping for the paths of labels and for nothing else.
    have same : ∀ label, PathMapping.paths? first label = PathMapping.paths? second label := by
      intro label
      simp only [PathMapping.paths?, holdsFirst.artifacts?_eq, holdsSecond.artifacts?_eq]
    have templates := Expander.expandTemplate_congr same anchor
    constructor
    · intro template
      cases template with
      | none => rfl
      | some template => rw [Expander.expand, Expander.expand, templates]
    · intro list
      rw [Expander.expandAll, Expander.expandAll, templates]

/-- An empty entry is an answer, unlike a label without an entry, also in a tree that was lent on. -/
theorem empty_entry_answers :
    artifacts? (Lent.mk (OrderedMapping.ofEntries strayEntries)) strayKey = some [] ∧
    artifacts? (Lent.mk (OrderedMapping.ofEntries strayEntries))
      ⟨libraryPackage, ⟨"q".toList⟩⟩ = none ∧
    (Expander.mk (Lent.mk (OrderedMapping.ofEntries strayEntries)) strayKey).expand
        (some "q::r q".toList) =
      (Expander.mk (HashedMapping.ofEntries strayEntries) strayKey).expand
        (some "q::r q".toList) := by
  have lent : Holds strayEntries (Lent OrderedMapping) ⟨.ofEntries strayEntries⟩ :=
    .lent OrderedMapping _ .ordered
  refine ⟨?_, ?_, ?_⟩
  · have last : Latest strayEntries strayKey [] := ⟨[_], [], rfl, by simp⟩
    exact (((mappings_answer_latest strayEntries).1 _ _ lent strayKey).1 []).mpr last
  · apply ((mappings_answer_latest strayEntries).1 _ _ lent _).2.mpr
    simp [strayEntries, strayKey]
  · exact ((mappings_answer_latest strayEntries).2 _ _ _ _ lent .hashed strayKey).1 _

end LabelExpansion
