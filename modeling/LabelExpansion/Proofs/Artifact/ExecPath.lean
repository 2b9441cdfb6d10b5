import LabelExpansion.Artifact.Basic
import LabelExpansion.Proofs.Fallible
import LabelExpansion.Proofs.Path.Segmented

/-!
# The place of an artifact

An artifact below an output root is run from the place where a source artifact with the same whole
path would lie. Judging the root and the path apart is as strict as judging the whole, because a
join is segmented exactly when both sides are: whatever is wrong with an end that touches the slash
is wrong with a segment of the whole. So the place is below the root in every case.
-/
namespace LabelExpansion

open Fallible

namespace NormalPath

theorem segmented (path : NormalPath) : Path.Segmented path.text :=
  ((Path.flaw?_eq_none_iff path.text).mp path.normal).resolve_left path.inhabited

/-- Every segmented text is a path that names something. -/
theorem exists_of_segmented {text : Text} (segmented : Path.Segmented text) :
    ∃ path : NormalPath, path.text = text :=
  ⟨⟨text, segmented.ne_nil, (Path.flaw?_eq_none_iff text).mpr (.inr segmented)⟩, rfl⟩

/-- Reading a path and looking at its text are inverse to each other, whatever is reported. -/
theorem ofText_eq_ok_iff {ε : Type} (empty : ε) (flawed : Text → PathFlaw → ε) (text : Text)
    (path : NormalPath) : ofText empty flawed text = .ok path ↔ path.text = text := by
  constructor
  · intro returned
    rw [ofText] at returned
    split at returned
    · cases returned
    · split at returned
      · cases returned
      · cases returned
        rfl
  · rintro rfl
    rw [ofText, dif_neg path.inhabited]
    split
    next flaw found => simp [path.normal] at found
    next => rfl

end NormalPath

namespace Artifact

theorem ofPath_eq_ok_iff (text : Text) (artifact : Artifact) :
    ofPath text = .ok artifact ↔
      ∃ path : NormalPath, path.text = text ∧ artifact = source path := by
  simp only [ofPath, bind_eq_ok_iff, NormalPath.ofText_eq_ok_iff]
  constructor
  · rintro ⟨path, spelled, made⟩
    cases made
    exact ⟨path, spelled, rfl⟩
  · rintro ⟨path, spelled, rfl⟩
    exact ⟨path, spelled, rfl⟩

theorem ofRootAndPath_eq_ok_iff (rootText pathText : Text) (artifact : Artifact) :
    ofRootAndPath rootText pathText = .ok artifact ↔
      ∃ root path : NormalPath, root.text = rootText ∧ path.text = pathText ∧
        artifact = derived root path := by
  simp only [ofRootAndPath, bind_eq_ok_iff, NormalPath.ofText_eq_ok_iff]
  constructor
  · rintro ⟨root, rootSpelled, path, pathSpelled, made⟩
    cases made
    exact ⟨root, path, rootSpelled, pathSpelled, rfl⟩
  · rintro ⟨root, path, rootSpelled, pathSpelled, rfl⟩
    exact ⟨root, rootSpelled, path, pathSpelled, rfl⟩

theorem exists_ofPath_iff (text : Text) :
    (∃ artifact, ofPath text = .ok artifact) ↔ Path.Segmented text := by
  constructor
  · rintro ⟨artifact, returned⟩
    obtain ⟨path, rfl, -⟩ := (ofPath_eq_ok_iff text artifact).mp returned
    exact path.segmented
  · intro segmented
    obtain ⟨path, spelled⟩ := NormalPath.exists_of_segmented segmented
    exact ⟨source path, (ofPath_eq_ok_iff text _).mpr ⟨path, spelled, rfl⟩⟩

theorem exists_ofRootAndPath_iff (rootText pathText : Text) :
    (∃ artifact, ofRootAndPath rootText pathText = .ok artifact) ↔
      Path.Segmented rootText ∧ Path.Segmented pathText := by
  constructor
  · rintro ⟨artifact, returned⟩
    obtain ⟨root, path, rfl, rfl, -⟩ :=
      (ofRootAndPath_eq_ok_iff rootText pathText artifact).mp returned
    exact ⟨root.segmented, path.segmented⟩
  · rintro ⟨rootSegmented, pathSegmented⟩
    obtain ⟨root, rootSpelled⟩ := NormalPath.exists_of_segmented rootSegmented
    obtain ⟨path, pathSpelled⟩ := NormalPath.exists_of_segmented pathSegmented
    exact ⟨derived root path, (ofRootAndPath_eq_ok_iff rootText pathText _).mpr
      ⟨root, path, rootSpelled, pathSpelled, rfl⟩⟩

/-- A root and a path make a derived artifact exactly when both are segmented, and also exactly when
they make a source artifact as one path. Then both lie in the same place, which is a normalized path
below the root. -/
theorem derived_lies_at_joined_path (root path : Text) :
    ((∃ artifact, ofRootAndPath root path = .ok artifact) ↔
      Path.Segmented root ∧ Path.Segmented path) ∧
    ((∃ artifact, ofRootAndPath root path = .ok artifact) ↔
      ∃ artifact, ofPath (root ++ '/' :: path) = .ok artifact) ∧
    ∀ derived source, ofRootAndPath root path = .ok derived →
      ofPath (root ++ '/' :: path) = .ok source →
      derived.root? = some root ∧ derived.path = path ∧
      derived.execPath = source.path ∧ derived.execPath = source.execPath ∧
      Path.flaw? derived.execPath = none ∧
      (∀ segment ∈ Path.segments derived.execPath, Path.Plain segment) ∧
      Path.segments derived.execPath = Path.segments root ++ Path.segments path := by
  refine ⟨exists_ofRootAndPath_iff root path, ?_, ?_⟩
  · rw [exists_ofRootAndPath_iff, exists_ofPath_iff, Path.segmented_append_iff]
  · intro derived source below whole
    obtain ⟨root, path, rfl, rfl, rfl⟩ := (ofRootAndPath_eq_ok_iff _ _ _).mp below
    obtain ⟨joined, spelled, rfl⟩ := (ofPath_eq_ok_iff _ _).mp whole
    have place : (Artifact.derived root path).execPath = joined.text := spelled.symm
    refine ⟨rfl, rfl, place, place, ?_, ?_, ?_⟩
    · rw [place]
      exact joined.normal
    · rw [place]
      exact (Path.segmented_iff joined.text).mp joined.segmented
    · exact Text.pieces_append_cons '/' root.text path.text

/-- A segment that would leave the root is refused where it stands alone and in the whole. -/
theorem object_lies_below_output_root :
    (∃ artifact, ofRootAndPath "buck-out".toList "gen/x.o".toList = .ok artifact ∧
      artifact.root? = some "buck-out".toList ∧
      Path.segments artifact.execPath = ["buck-out".toList, "gen".toList, "x.o".toList]) ∧
    ¬ ∃ artifact, ofPath ("buck-out".toList ++ '/' :: "../x.o".toList) = .ok artifact := by
  constructor
  · obtain ⟨-, joins, lies⟩ := derived_lies_at_joined_path "buck-out".toList "gen/x.o".toList
    have below : ofRootAndPath "buck-out".toList "gen/x.o".toList =
        .ok (derived ⟨"buck-out".toList, by decide, by decide⟩
          ⟨"gen/x.o".toList, by decide, by decide⟩) := rfl
    obtain ⟨source, whole⟩ := joins.mp ⟨_, below⟩
    obtain ⟨root, -, -, -, -, -, segments⟩ := lies _ source below whole
    exact ⟨_, below, root, segments⟩
  · obtain ⟨segmented, joins, -⟩ := derived_lies_at_joined_path "buck-out".toList "../x.o".toList
    rw [← joins, segmented]
    rintro ⟨-, path⟩
    have flaw := (Path.flaw?_eq_none_iff "../x.o".toList).mpr (.inr path)
    cases flaw

end Artifact

end LabelExpansion
