import LabelExpansion.Proofs.Template.Concatenation
import LabelExpansion.Proofs.Template.Visibility

/-!
# Candidates that can be read

The alphabet of candidates lies within those of paths and names, but for the colon. So whether a
candidate is a label is a matter of its shape alone: where its colons and slashes stand, and whether
one of its segments is a dot or two. A candidate of any other shape is copied, whatever the mapping
holds, and no part of it is looked up.
-/
namespace LabelExpansion

/-- A path of one or more plain segments without a colon, such as names are as well. -/
structure ColonlessPath (text : Text) : Prop where
  segmented : Path.Segmented text
  clear : ':' ∉ text

/-- The shapes of candidates that are labels: behind two slashes a path, with a name or without, and
otherwise a name, with at most one colon in front of it. -/
def Readable : Text → Prop
  | '/' :: '/' :: rest => ColonlessPath rest ∨
      ∃ path name, rest = path ++ ':' :: name ∧ (path = [] ∨ ColonlessPath path) ∧
        ColonlessPath name
  | ':' :: name => ColonlessPath name
  | name => ColonlessPath name

/-- The faults of candidates. None is about a repository, and no character but the colon is ever in
a wrong place. -/
inductive CandidateFault : LabelFault → Prop where
  | relativePackage : CandidateFault .relativePackage
  | rootWithoutTarget : CandidateFault .rootWithoutTarget
  | path (path : Text) (flaw : PathFlaw) : CandidateFault (.package (.path (.notNormal path flaw)))
  | emptyTarget : CandidateFault (.target .empty)
  | colon (name : Text) : CandidateFault (.target (.invalidCharacter name ':'))
  | target (name : Text) (flaw : PathFlaw) : CandidateFault (.target (.notNormal name flaw))

/-! ## The alphabets -/

theorem contains_referenceCharacters_iff (c : Char) :
    referenceCharacters.contains c = true ↔ c.isAlphanum = true ∨ c ∈ "_/.-+:".toList :=
  AsciiSet.contains_alphanumeric_union _ (Text.forall_mem_of_all (by decide)) c

/-- A reference character that is no colon may stand in paths and in names. -/
theorem signs_of_reference {c : Char} (reference : referenceCharacters.contains c = true)
    (other : c ≠ ':') :
    (c.isAlphanum = true ∨ c ∈ "/-._ $()+@=".toList) ∧
    (c.isAlphanum = true ∨ c = ' ' ∨
      c ∈ "!%-@^_\"#$&'()*+,;<=>?[]\x7b|\x7d~/.".toList) := by
  rcases (contains_referenceCharacters_iff c).mp reference with letter | sign
  · exact ⟨.inl letter, .inl letter⟩
  · have signs : ∀ d ∈ "_/.-+:".toList, d ≠ ':' → d ∈ "/-._ $()+@=".toList ∧
        d ∈ "!%-@^_\"#$&'()*+,;<=>?[]\x7b|\x7d~/.".toList :=
      Text.forall_mem_of_all (by decide)
    obtain ⟨path, name⟩ := signs c sign other
    exact ⟨.inr path, .inr (.inr name)⟩

namespace ColonlessPath

variable {text : Text}

theorem of_nameText (valid : NameText text) : ColonlessPath text :=
  ⟨valid.shape, valid.colon_not_mem⟩

theorem of_pathText (valid : PathText text) (inhabited : text ≠ []) : ColonlessPath text :=
  ⟨valid.shape.resolve_left inhabited, valid.colon_not_mem⟩

variable (colonless : ColonlessPath text)

include colonless

theorem ne_colon {c : Char} (member : c ∈ text) : c ≠ ':' := by
  rintro rfl
  exact colonless.clear member

variable (reference : ∀ c ∈ text, referenceCharacters.contains c = true)

include reference

theorem nameText : NameText text :=
  ⟨colonless.segmented, fun c member =>
    (signs_of_reference (reference c member) (colonless.ne_colon member)).2⟩

theorem pathText : PathText text :=
  ⟨.inr colonless.segmented, fun c member =>
    (signs_of_reference (reference c member) (colonless.ne_colon member)).1⟩

end ColonlessPath

/-! ## Shapes and styles -/

theorem readable_of_colonless {name : Text} (colonless : ColonlessPath name) : Readable name := by
  rw [Readable.eq_def]
  split
  next rest => exact absurd rfl colonless.segmented.head?_ne
  next rest => exact absurd rfl (colonless.ne_colon (List.mem_cons_self ..))
  next => exact colonless

/-- A candidate that is written in some style has one of the shapes. -/
theorem readable_of_written {style : Grammar.Style} {candidate : Text} {meaning : Grammar.Meaning}
    (written : Grammar.Written style candidate meaning)
    (reference : ∀ c ∈ candidate, referenceCharacters.contains c = true) : Readable candidate := by
  cases written with
  | full opening repository path name opened paths names =>
    obtain ⟨rfl, rfl⟩ := opening_eq_nil opened fun c member =>
      reference c (List.mem_append_left _ member)
    refine .inr ⟨path, name, rfl, ?_, .of_nameText names⟩
    by_cases root : path = []
    · exact .inl root
    · exact .inr (.of_pathText paths root)
  | shorthand opening repository path name opened paths inhabited last =>
    obtain ⟨rfl, rfl⟩ := opening_eq_nil opened fun c member =>
      reference c (List.mem_append_left _ member)
    exact .inl (.of_pathText paths inhabited)
  | marked name names => exact ColonlessPath.of_nameText names
  | bare name names start => exact readable_of_colonless (.of_nameText names)

/-- Shape is all that a candidate needs to be written in some style. -/
theorem written_of_readable {candidate : Text} (readable : Readable candidate)
    (reference : ∀ c ∈ candidate, referenceCharacters.contains c = true) :
    ∃ style meaning, Grammar.Written style candidate meaning := by
  rw [Readable.eq_def] at readable
  split at readable
  next rest =>
    have behind (c : Char) (member : c ∈ rest) : referenceCharacters.contains c = true :=
      reference c (by simp [member])
    rcases readable with colonless | ⟨path, name, rfl, place, names⟩
    · obtain ⟨name, last⟩ := Path.exists_lastSegment rest
      exact ⟨.shorthand, _, .shorthand [] [] rest name .silent (colonless.pathText behind)
        colonless.segmented.ne_nil last⟩
    · have paths : PathText path := by
        rcases place with rfl | colonless
        · exact ⟨.inl rfl, by simp⟩
        · exact colonless.pathText fun c member => behind c (by simp [member])
      have named := names.nameText fun c member => behind c (by simp [member])
      exact ⟨.full, _, .full [] [] path name .silent paths named⟩
  next name =>
    have named := readable.nameText fun c member => reference c (by simp [member])
    exact ⟨.marked, _, .marked name named⟩
  next =>
    refine ⟨.bare, _, .bare candidate (readable.nameText reference) ?_⟩
    -- No reference starts with the character that opens a repository.
    intro start
    have first := reference '@' (List.mem_of_head? start)
    exact absurd first (by decide)

/-- A candidate is a label in every package or in none, by its shape. -/
theorem parse_candidate_iff {candidate : Text} (package : Package)
    (reference : ∀ c ∈ candidate, referenceCharacters.contains c = true) :
    (∃ label, Label.parse candidate package = .ok label) ↔ Readable candidate := by
  constructor
  · rintro ⟨label, read⟩
    obtain ⟨style, meaning, written, -⟩ := Grammar.written_of_parse read
    exact readable_of_written written reference
  · intro readable
    obtain ⟨style, meaning, written⟩ := written_of_readable readable reference
    obtain ⟨label, denotes⟩ := Grammar.exists_of_written written package
    exact ⟨label, Grammar.parse_of_written written denotes⟩

/-! ## Faults -/

open Fallible

theorem fault_of_name {name : Text} {error : TargetNameError}
    (rejected : TargetName.ofText name = .error error)
    (reference : ∀ c ∈ name, referenceCharacters.contains c = true) :
    CandidateFault (.target error) := by
  have reported := (TargetName.ofText_eq_error_iff name error).mp rejected
  rw [TargetName.error?] at reported
  split at reported
  · cases reported
    exact .emptyTarget
  · split at reported
    next character outside =>
      cases reported
      obtain ⟨member, excluded⟩ := AsciiSet.mem_of_firstOutside? outside
      -- Every other reference character is allowed in a name.
      by_cases colon : character = ':'
      · rw [colon]
        exact .colon name
      · have allowed := (TargetName.contains_characters_iff character).mpr
          (signs_of_reference (reference character member) colon).2
        rw [excluded] at allowed
        cases allowed
    next =>
      obtain ⟨flaw, -, rfl⟩ := Option.map_eq_some_iff.mp reported
      exact .target name flaw

theorem fault_of_path {path : Text} {error : PackagePathError}
    (rejected : PackagePath.ofText path = .error error)
    (reference : ∀ c ∈ path, referenceCharacters.contains c = true) (clear : ':' ∉ path) :
    CandidateFault (.package (.path error)) := by
  have reported := (PackagePath.ofText_eq_error_iff path error).mp rejected
  rw [PackagePath.error?] at reported
  split at reported
  next flaw _ =>
    cases reported
    exact .path path flaw
  next =>
    obtain ⟨character, outside, -⟩ := Option.map_eq_some_iff.mp reported
    obtain ⟨member, excluded⟩ := AsciiSet.mem_of_firstOutside? outside
    -- A sign of a run other than the colon may stand in a path.
    have other : character ≠ ':' := by
      rintro rfl
      exact clear member
    have allowed := (PackagePath.contains_characters_iff character).mpr
      (signs_of_reference (reference character member) other).1
    rw [excluded] at allowed
    cases allowed

/-- Without a name the repository is the main one. -/
theorem Package.ofTexts_main (path : Text) :
    ofTexts [] path = ((PackagePath.ofText path).mapError .path).map (mk .main) := by
  rw [ofTexts]
  cases PackagePath.ofText path <;> rfl

/-- Making a label fails where its name is read. -/
theorem fault_of_target {name : Text} {package : Package} {fault : LabelFault}
    (failed : ((TargetName.ofText name).mapError .target >>= fun target =>
      pure (Label.mk package target)) = .error fault)
    (reference : ∀ c ∈ name, referenceCharacters.contains c = true) : CandidateFault fault := by
  rcases (bind_eq_error_iff _ _ _).mp failed with refused | ⟨target, -, made⟩
  · obtain ⟨error, rejected, rfl⟩ := (mapError_eq_error_iff _ _ _).mp refused
    exact fault_of_name rejected reference
  · cases made

theorem fault_of_absolute {path : Text} {target : Option Text} {package : Package}
    {fault : LabelFault}
    (failed : (Spelling.absolute [] path target).resolve package = .error fault)
    (reference : ∀ c ∈ path ++ Spelling.ending target, referenceCharacters.contains c = true)
    (clear : ':' ∉ path) : CandidateFault fault := by
  have place (c : Char) (member : c ∈ path) : referenceCharacters.contains c = true :=
    reference c (List.mem_append_left _ member)
  rw [Spelling.resolve, Package.ofTexts_main] at failed
  rcases (bind_eq_error_iff _ _ _).mp failed with rejected | ⟨directory, found, failed⟩
  · simp only [mapError_eq_error_iff, map_eq_error_iff] at rejected
    obtain ⟨_, ⟨error, rejected, rfl⟩, rfl⟩ := rejected
    exact fault_of_path rejected place clear
  · simp only [mapError_eq_ok_iff, map_eq_ok_iff, PackagePath.ofText_eq_ok_iff] at found
    obtain ⟨_, rfl, rfl⟩ := found
    rcases (bind_eq_error_iff _ _ _).mp failed with missing | ⟨name, chosen, failed⟩
    · -- A target is missing only where none is written and the path has no last segment.
      cases target with
      | some written => cases missing
      | none =>
        rw [PackagePath.targetText] at missing
        split at missing
        · cases missing
        · cases missing
          exact .rootWithoutTarget
    · apply fault_of_target failed
      rcases (Grammar.targetText_eq_ok_iff _ _ _).mp chosen with rfl | ⟨-, -, last⟩
      · exact fun c member => reference c (by simp [Spelling.ending, member])
      · exact fun c member => place c (last.subset member)

/-- A candidate that is no label has one of the faults of candidates. -/
theorem fault_of_candidate {candidate : Text} {package : Package} {fault : LabelFault}
    (uniform : (Run.candidate candidate).Uniform)
    (failed : (Spelling.ofText candidate >>= Spelling.resolve package) = .error fault) :
    CandidateFault fault := by
  have reference : ∀ c ∈ candidate, referenceCharacters.contains c = true := uniform.characters
  -- The start of a candidate decides how it is cut; two of the starts are no starts of candidates.
  rcases Spelling.start_cases candidate with
    rfl | ⟨rest, rfl⟩ | ⟨rest, rfl⟩ | ⟨rest, rfl⟩ | start
  · exact absurd rfl uniform.inhabited
  · exact absurd (reference '@' (List.mem_cons_self ..)) (by decide)
  · obtain ⟨path, target, cut, rfl, clear⟩ := (Spelling.qualified_eq_iff [] rest _).mp rfl
    rw [Spelling.ofText_slashes, cut] at failed
    have unresolved : (Spelling.absolute [] path target).resolve package = .error fault := failed
    exact fault_of_absolute unresolved (fun c member => reference c (by simp [member])) clear
  · rw [Spelling.ofText_colon] at failed
    exact fault_of_target failed fun c member => reference c (List.mem_cons_of_mem _ member)
  · rw [Spelling.ofText_undelimited candidate start] at failed
    split at failed
    · cases failed
      exact .relativePackage
    · exact fault_of_target failed reference

namespace Expander

variable {μ : Type} [PathMapping μ] (expander : Expander μ)

theorem expandCandidate_of_malformed {candidate : Text} {error : LabelError}
    (read : Label.parse candidate expander.anchor.package = .error error) :
    expander.expandCandidate candidate = ⟨[.malformed candidate error], .ok candidate⟩ := by
  simp only [expandCandidate, Resolution.ofCandidate, read, Resolution.event,
    Resolution.replacement]

end Expander

private def workPackage : Package :=
  ⟨.main, ⟨"work".toList, by decide⟩⟩

/-- The sides of the colons are mapped, and so is the whole, by a name that was never checked. -/
private def colonKeys : Expander Table :=
  ⟨⟨[(⟨workPackage, ⟨"x1".toList⟩⟩, [.source ⟨"work/x1.o".toList, by decide, by decide⟩]),
      (⟨workPackage, ⟨"x2".toList⟩⟩, []), (⟨workPackage, ⟨"x1:x2:x3".toList⟩⟩, [])]⟩,
    ⟨workPackage, ⟨"all".toList⟩⟩⟩

/-- A candidate is a label exactly when it has the shape of one, the faults of the others are few,
and in every context the others are copied without a look at the mapping. -/
theorem candidates_read_by_shape :
    (∀ candidate package, (Run.candidate candidate).Uniform →
      ((∃ label, Label.parse candidate package = .ok label) ↔ Readable candidate) ∧
      (∀ error, Label.parse candidate package = .error error →
        error.text = candidate ∧ CandidateFault error.fault)) ∧
    (∀ {μ : Type} [PathMapping μ] (expander : Expander μ) (front candidate back : Text),
      Enclosed front back → (Run.candidate candidate).Uniform → ¬ Readable candidate →
      ∃ error, Label.parse candidate expander.anchor.package = .error error ∧
        expander.expand (some (front ++ candidate ++ back)) = (do
          let before ← expander.expand (some front)
          let copy ← Expansion.mk [.malformed candidate error] (.ok candidate)
          let behind ← expander.expand (some back)
          pure (before ++ copy ++ behind))) := by
  constructor
  · intro candidate package uniform
    refine ⟨parse_candidate_iff package uniform.characters, ?_⟩
    intro error failed
    obtain ⟨fault, unread, rfl⟩ := (mapError_eq_error_iff _ _ _).mp failed
    exact ⟨rfl, fault_of_candidate uniform unread⟩
  · intro μ _ expander front candidate back enclosed uniform unreadable
    cases read : Label.parse candidate expander.anchor.package with
    | ok label =>
      exact absurd ((parse_candidate_iff _ uniform.characters).mp ⟨label, read⟩) unreadable
    | error error =>
      refine ⟨error, rfl, ?_⟩
      rw [← expander.expandCandidate_of_malformed read]
      exact expander.expandTemplate_enclosed enclosed uniform

/-- Neither `x1`, which has a path, nor `x2`, which has none, is looked up for itself. -/
theorem stray_colons_are_copied :
    Enclosed "(".toList ")".toList ∧ (Run.candidate "x1:x2:x3".toList).Uniform ∧
    ¬ Readable "x1:x2:x3".toList ∧
    (colonKeys.expand (some ("(".toList ++ "x1:x2:x3".toList ++ ")".toList))).outcome =
      .ok "(x1:x2:x3)".toList := by
  have enclosed : Enclosed "(".toList ")".toList := by decide
  have uniform : (Run.candidate "x1:x2:x3".toList).Uniform := by decide
  have unreadable : ¬ Readable "x1:x2:x3".toList := by
    intro readable
    have colonless : ColonlessPath "x1:x2:x3".toList := readable
    exact colonless.clear (by decide)
  refine ⟨enclosed, uniform, unreadable, ?_⟩
  have front : colonKeys.expand (some "(".toList) = pure "(".toList :=
    colonKeys.expandTemplate_of_outside (Text.forall_mem_of_all (by decide))
  have back : colonKeys.expand (some ")".toList) = pure ")".toList :=
    colonKeys.expandTemplate_of_outside (Text.forall_mem_of_all (by decide))
  obtain ⟨error, -, copied⟩ :=
    candidates_read_by_shape.2 colonKeys _ _ _ enclosed uniform unreadable
  rw [copied, front, back]
  rfl

end LabelExpansion
