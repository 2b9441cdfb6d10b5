import LabelExpansion.Proofs.Label.Grammar
import LabelExpansion.Proofs.Label.Refusal
import Mathlib.Data.List.DropRight

/-!
# Inferred target names

A label without a target means the one that is named like the directory of its package. This name is
searched from the right, while the path was judged from the left and has another alphabet. The main
statement says that only the root lacks such a name, that the checks of written names never refuse
it, and that cutting it off leaves a package path again. A package can therefore be referred to by
its path alone unless it is a root.
-/
namespace LabelExpansion

open Fallible

namespace Path

/-- A search from the right that stops at a slash finds the last segment. -/
theorem lastSegment_rtakeWhile (path : Text) :
    LastSegment path (path.rtakeWhile (· != '/')) where
  unbroken := by
    intro member
    have passed := List.mem_rtakeWhile_imp member
    simp at passed
  ending := by
    have whole := List.rdropWhile_append_rtakeWhile (l := path) (p := (· != '/'))
    by_cases empty : path.rdropWhile (· != '/') = []
    · left
      rw [empty, List.nil_append] at whole
      exact whole.symm
    · -- What the search leaves ends with the slash at which it stopped.
      right
      have stopped := List.rdropWhile_last_not (· != '/') path empty
      have slash : (path.rdropWhile (· != '/')).getLast empty = '/' := by simpa using stopped
      refine ⟨(path.rdropWhile (· != '/')).dropLast, ?_⟩
      have split := List.dropLast_append_getLast empty
      rw [slash] at split
      rw [← List.singleton_append, ← List.append_assoc, split, whole]

end Path

/-- Whatever a path lies in is a package too. -/
theorem PathText.directory {directory name : Text} (valid : PathText (directory ++ '/' :: name)) :
    directory ≠ [] ∧ PathText directory := by
  have segmented := ((Path.segmented_append_iff directory name).mp
    (valid.shape.resolve_left (by simp))).1
  refine ⟨segmented.ne_nil, .inr segmented, ?_⟩
  intro c member
  exact valid.characters c (List.mem_append_left _ member)

namespace PackagePath

theorem fileName?_eq_some {path : PackagePath} (inhabited : path.text ≠ []) :
    path.fileName? = some (path.text.rtakeWhile (· != '/')) :=
  (Path.fileName?_eq_some_iff path.text _ inhabited).mpr (Path.lastSegment_rtakeWhile path.text)

/-- Without its last segment a package path is a package path, or there is nothing left of it. -/
theorem exists_parent {path : PackagePath} {name : Text}
    (last : Path.LastSegment path.text name) :
    path.text = name ∨ ∃ directory parent, path.text = directory ++ '/' :: name ∧
      directory ≠ [] ∧ ofText directory = .ok parent := by
  rcases last.ending with alone | ⟨directory, whole⟩
  · exact .inl alone
  · have valid := path.pathText
    rw [whole] at valid
    obtain ⟨inhabited, judged⟩ := valid.directory
    obtain ⟨parent, spelled⟩ := exists_of_pathText directory judged
    exact .inr ⟨directory, parent, whole, inhabited,
      (ofText_eq_ok_iff directory parent).mpr spelled⟩

end PackagePath

namespace Label

/-- Without a target there is nothing that the root of a repository could mean. -/
theorem parse_of_root {opening : Text} {repository : RepositoryName}
    (opened : Grammar.Opening opening repository.text) (current : Package) :
    parse (opening ++ ['/', '/']) current =
      .error ⟨opening ++ ['/', '/'], .rootWithoutTarget⟩ := by
  have cut : Spelling.ofText (opening ++ ['/', '/']) =
      .ok (.absolute repository.text [] none) := by
    have rest := Spelling.qualified_append repository.text [] none (by simp)
    rw [Spelling.ending, List.append_nil] at rest
    rw [Grammar.ofText_of_opening opening repository.text [] opened, rest]
  have read : Package.ofTexts repository.text [] = .ok ⟨repository, .root⟩ :=
    (Package.ofTexts_eq_ok_iff _ _ _).mpr ⟨rfl, rfl⟩
  -- The cut succeeds and so does the package, so the fault is that of the missing target.
  rw [parse, mapError_eq_error_iff]
  refine ⟨.rootWithoutTarget, ?_, rfl⟩
  rw [bind_eq_error_iff]
  refine .inr ⟨_, cut, ?_⟩
  rw [Spelling.resolve, read]
  rfl

/-- The path of a package that is no root is enough to refer to the target named like it. -/
theorem parse_of_directory {opening name : Text} (package : Package)
    (opened : Grammar.Opening opening package.repository.text) (inhabited : package.path.text ≠ [])
    (last : Path.LastSegment package.path.text name) (current : Package) :
    parse (opening ++ '/' :: '/' :: package.path.text) current = .ok ⟨package, ⟨name⟩⟩ :=
  Grammar.parse_of_written
    (.shorthand opening _ _ name opened package.path.pathText inhabited last) ⟨rfl, rfl, rfl⟩

/-- A package path that is not empty ends with a segment that is a target name, and lies in a
package unless it is that segment. So a label may leave its target out in every package but a root,
with any repository in front, and it means the target named like the last segment. -/
theorem inferred_target_is_usable (text : Text) (path : PackagePath)
    (accepted : PackagePath.ofText text = .ok path) :
    (text ≠ [] → ∃ name, path.fileName? = some name ∧ name = text.rtakeWhile (· != '/') ∧
      '/' ∉ name ∧ TargetName.ofText name = .ok ⟨name⟩ ∧
      (text = name ∨ ∃ directory parent, text = directory ++ '/' :: name ∧ directory ≠ [] ∧
        PackagePath.ofText directory = .ok parent) ∧
      ∀ opening (repository : RepositoryName) current, Grammar.Opening opening repository.text →
        parse (opening ++ '/' :: '/' :: text) current = .ok ⟨⟨repository, path⟩, ⟨name⟩⟩) ∧
    (text = [] → path.fileName? = none ∧
      ∀ opening (repository : RepositoryName) current, Grammar.Opening opening repository.text →
        parse (opening ++ '/' :: '/' :: text) current =
          .error ⟨opening ++ ['/', '/'], .rootWithoutTarget⟩) := by
  obtain rfl := (PackagePath.ofText_eq_ok_iff text path).mp accepted
  constructor
  · intro inhabited
    -- What is found from the right is one of the segments that were judged from the left.
    have last := Path.lastSegment_rtakeWhile path.text
    have usable := path.pathText.nameText_of_lastSegment inhabited last
    refine ⟨_, PackagePath.fileName?_eq_some inhabited, rfl, last.unbroken,
      (TargetName.ofText_eq_ok_iff _ _).mpr ⟨rfl, usable⟩, PackagePath.exists_parent last, ?_⟩
    intro opening repository current opened
    exact parse_of_directory ⟨repository, path⟩ opened inhabited last current
  · intro root
    refine ⟨PackagePath.fileName?_eq_none root, ?_⟩
    intro opening repository current opened
    rw [root]
    exact parse_of_root opened current

/-- The last segment of this path is made of signs that are rare in names. -/
private def signed : PackagePath :=
  ⟨"a b/$(c)+@=".toList, by decide⟩

theorem target_inferred_from_signs :
    PackagePath.ofText "a b/$(c)+@=".toList = .ok signed ∧
    TargetName.ofText "$(c)+@=".toList = .ok ⟨"$(c)+@=".toList⟩ ∧
    ∀ current, parse "@r//a b/$(c)+@=".toList current =
      .ok ⟨⟨.named ['r'] (by decide), signed⟩, ⟨"$(c)+@=".toList⟩⟩ := by
  have accepted : PackagePath.ofText "a b/$(c)+@=".toList = .ok signed := by decide
  obtain ⟨name, -, searched, -, usable, -, reads⟩ :=
    (inferred_target_is_usable _ _ accepted).1 (by decide)
  have found : name = "$(c)+@=".toList := by
    rw [searched]
    decide
  rw [found] at usable reads
  refine ⟨accepted, usable, ?_⟩
  intro current
  have valid : RepositoryName.error? ['r'] = none := by decide
  have opened := (RepositoryName.error?_eq_none_iff ['r']).mp valid
  exact reads "@r".toList (.named ['r'] valid) current (.named ['r'] opened)

end Label

end LabelExpansion
