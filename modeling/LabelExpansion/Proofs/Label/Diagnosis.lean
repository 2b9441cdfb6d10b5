import LabelExpansion.Proofs.Label.Grammar
import LabelExpansion.Proofs.Label.Refusal

/-!
# The diagnosis of a rejected text

What is told about a text that is no label, said without reading it. The text is cut into parts, or
it has a fault that keeps it from being cut. The parts are then diagnosed from left to right, each
under the condition that those before it are sound, so a text with several faults has one diagnosis.
The main statement says that reading fails on exactly the texts that have a diagnosis, and tells it.
-/
namespace LabelExpansion

open Fallible

/-! ## Cutting -/

namespace Spelling

/-- The parts of a text: a repository ends at the first two slashes, and a package at the first
colon or at the end. -/
inductive Cut : Text → Spelling → Prop where
  | silent (path : Text) (target : Option Text) : ':' ∉ path →
      Cut ('/' :: '/' :: (path ++ ending target)) (.absolute [] path target)
  | opened (rest repository path : Text) (target : Option Text) :
      AsciiPattern.slashes.FirstOccurrence rest repository (path ++ ending target) → ':' ∉ path →
      Cut ('@' :: rest) (.absolute repository path target)
  | marked (target : Text) : Cut (':' :: target) (.relative target)
  | bare (target : Text) : Undelimited target → ':' ∉ target → Cut target (.relative target)

/-- What is told about a text without parts. -/
inductive Uncut : Text → List String → Prop where
  | empty : Uncut [] ["Label is empty"]
  | withoutSlashes (rest : Text) : ¬ ['/', '/'] <:+: rest →
      Uncut ('@' :: rest) ["Repository name must be followed by `//`"]
  | notAbsolute (text : Text) : Undelimited text → ':' ∈ text →
      Uncut text
        ["Package-qualified labels must be absolute. Start with `//` for a package or `:` for a "
          ++ "target in the current package"]

/-- Each start of a text either shows its parts or keeps it from having any. -/
theorem cut_or_uncut (text : Text) :
    (∃ spelling, ofText text = .ok spelling ∧ Cut text spelling) ∨
      ∃ fault, ofText text = .error fault ∧ Uncut text (Diagnostic.chain fault) := by
  obtain rfl | ⟨rest, rfl⟩ | ⟨rest, rfl⟩ | ⟨rest, rfl⟩ | start := start_cases text
  · exact .inr ⟨.empty, rfl, .empty⟩
  · cases split : AsciiPattern.slashes.split? rest with
    | none =>
      have missing := (AsciiPattern.split?_eq_none_iff rest).mp split
      exact .inr ⟨_, ofText_atSign_of_none split, .withoutSlashes rest missing⟩
    | some parts =>
      -- What stands behind the slashes ends at a colon or not, and is cut in either case.
      obtain ⟨path, target, same, whole, clear⟩ := (qualified_eq_iff parts.1 parts.2 _).mp rfl
      have first := (AsciiPattern.split?_eq_some_iff rest _ _).mp split
      rw [whole] at first
      refine .inl ⟨_, ofText_atSign split, ?_⟩
      rw [same]
      exact .opened rest parts.1 path target first clear
  · obtain ⟨path, target, same, rfl, clear⟩ := (qualified_eq_iff [] rest _).mp rfl
    refine .inl ⟨_, ofText_slashes _, ?_⟩
    rw [same]
    exact .silent path target clear
  · exact .inl ⟨_, ofText_colon rest, .marked rest⟩
  · -- Without a delimiter in front there is no package that a colon could end.
    have read := ofText_undelimited text start
    by_cases colon : ':' ∈ text
    · rw [if_pos colon] at read
      exact .inr ⟨_, read, .notAbsolute text start colon⟩
    · rw [if_neg colon] at read
      exact .inl ⟨_, read, .bare text start colon⟩

theorem ofText_eq_ok_iff (text : Text) (spelling : Spelling) :
    ofText text = .ok spelling ↔ Cut text spelling := by
  constructor
  · intro read
    obtain ⟨other, again, cut⟩ | ⟨fault, failed, -⟩ := cut_or_uncut text
    · rw [read, Except.ok.injEq] at again
      exact again ▸ cut
    · rw [read] at failed
      cases failed
  · intro cut
    cases cut with
    | silent path target clear => rw [ofText_slashes, qualified_append [] path target clear]
    | opened rest repository path target first clear =>
      have split := (AsciiPattern.split?_eq_some_iff rest _ _).mpr first
      rw [ofText_atSign split, qualified_append repository path target clear]
    | marked target => exact ofText_colon target
    | bare target start clear => rw [ofText_undelimited text start, if_neg clear]

theorem reports_ofText_iff (text : Text) (messages : List String) :
    Reports (ofText text) messages ↔ Uncut text messages := by
  constructor
  · rintro ⟨fault, failed, rfl⟩
    obtain ⟨spelling, read, -⟩ | ⟨other, again, uncut⟩ := cut_or_uncut text
    · rw [failed] at read
      cases read
    · rw [failed, Except.error.injEq] at again
      exact again ▸ uncut
  · intro uncut
    cases uncut with
    | empty => exact ⟨_, rfl, rfl⟩
    | withoutSlashes rest missing =>
      have split : AsciiPattern.slashes.split? rest = none :=
        (AsciiPattern.split?_eq_none_iff rest).mpr missing
      exact ⟨_, ofText_atSign_of_none split, rfl⟩
    | notAbsolute text start colon =>
      have read := ofText_undelimited text start
      rw [if_pos colon] at read
      exact ⟨_, read, rfl⟩

/-! ## Judging the parts -/

/-- What is told about the parts of a text: about the repository first, then about the path and then
about the target, which only the root of a repository may not leave out. -/
inductive Diagnosis : Spelling → List String → Prop where
  | repository (repository path : Text) (target : Option Text) (messages : List String) :
      RepositoryName.Diagnosis repository messages →
      Diagnosis (.absolute repository path target) messages
  | path (repository path : Text) (target : Option Text) (messages : List String) :
      repository = [] ∨ RepositoryText repository → PackagePath.Diagnosis path messages →
      Diagnosis (.absolute repository path target) messages
  | target (repository path target : Text) (messages : List String) :
      repository = [] ∨ RepositoryText repository → PathText path →
      TargetName.Diagnosis target messages →
      Diagnosis (.absolute repository path (some target)) messages
  | root (repository : Text) : repository = [] ∨ RepositoryText repository →
      Diagnosis (.absolute repository [] none)
        ["Cannot infer a target name for the root package, write `//:name`"]
  | relative (target : Text) (messages : List String) : TargetName.Diagnosis target messages →
      Diagnosis (.relative target) messages

theorem reports_targetText_iff (path : PackagePath) (target : Option Text)
    (messages : List String) :
    Reports (path.targetText target) messages ↔ target = none ∧ path.text = [] ∧
      messages = ["Cannot infer a target name for the root package, write `//:name`"] := by
  cases target with
  | some target => simp [PackagePath.targetText, Reports.not_ok]
  | none =>
    by_cases root : path.text = []
    · have missing := PackagePath.fileName?_eq_none root
      simp only [PackagePath.targetText, missing, Reports.error_iff, root, true_and]
      exact eq_comm
    · -- Every other path has a last segment to name the target.
      obtain ⟨name, last⟩ := Path.exists_lastSegment path.text
      have inferred := (Grammar.targetText_eq_ok_iff path none name).mpr (.inr ⟨rfl, root, last⟩)
      simp [inferred, Reports.not_ok, root]

/-- The name of a target is judged last, and the label is then complete. -/
theorem reports_name_iff (package : Package) (name : Text) (messages : List String) :
    Reports (do
        let name ← (TargetName.ofText name).mapError LabelFault.target
        pure (Label.mk package name)) messages ↔ TargetName.Diagnosis name messages := by
  rw [Reports.bind_iff, Reports.mapError_iff _ LabelFault.target fun _ => rfl,
    TargetName.reports_ofText_iff, or_iff_left]
  rintro ⟨name, -, reported⟩
  exact Reports.not_ok _ reported

/-- An inferred target has a name that cannot be refused, so only a written one is judged. -/
theorem reports_target_iff (package : Package) (target : Option Text) (messages : List String) :
    Reports (do
        let target ← package.path.targetText target
        let name ← (TargetName.ofText target).mapError LabelFault.target
        pure (Label.mk package name)) messages ↔
      (∃ name, target = some name ∧ TargetName.Diagnosis name messages) ∨
      target = none ∧ package.path.text = [] ∧
        messages = ["Cannot infer a target name for the root package, write `//:name`"] := by
  rw [Reports.bind_iff, reports_targetText_iff, or_comm]
  apply or_congr_left
  simp only [reports_name_iff, Grammar.targetText_eq_ok_iff]
  constructor
  · rintro ⟨name, written | ⟨-, inhabited, last⟩, diagnosis⟩
    · exact ⟨name, written, diagnosis⟩
    · have valid := package.path.pathText.nameText_of_lastSegment inhabited last
      exact absurd diagnosis (TargetName.not_diagnosis_of_nameText valid messages)
  · rintro ⟨name, written, diagnosis⟩
    exact ⟨name, .inl written, diagnosis⟩

theorem reports_absolute_iff (current : Package) (repository path : Text) (target : Option Text)
    (messages : List String) :
    Reports ((absolute repository path target).resolve current) messages ↔
      Diagnosis (.absolute repository path target) messages := by
  rw [resolve, Reports.bind_iff, Reports.mapError_iff _ LabelFault.package fun _ => rfl,
    Package.reports_ofTexts_iff]
  simp only [mapError_eq_ok_iff, Package.ofTexts_eq_ok_iff, reports_target_iff]
  constructor
  · rintro ((front | ⟨named, middle⟩) | ⟨package, ⟨named, placed⟩, back⟩)
    · exact .repository repository path target messages front
    · exact .path repository path target messages named middle
    · -- The repository and the path have been read, so they are sound.
      have sound := (RepositoryName.exists_text_eq_iff repository).mp ⟨package.repository, named⟩
      have valid := package.path.pathText
      rw [placed] at back valid
      obtain ⟨name, rfl, diagnosis⟩ | ⟨rfl, rfl, rfl⟩ := back
      · exact .target repository path name messages sound valid diagnosis
      · exact .root repository sound
  · -- Sound texts name a package, in which the target is judged.
    have made (sound : repository = [] ∨ RepositoryText repository) (valid : PathText path) :
        ∃ package : Package, package.repository.text = repository ∧ package.path.text = path := by
      obtain ⟨name, named⟩ := (RepositoryName.exists_text_eq_iff repository).mpr sound
      obtain ⟨place, placed⟩ := PackagePath.exists_of_pathText path valid
      exact ⟨⟨name, place⟩, named, placed⟩
    intro diagnosis
    cases diagnosis with
    | repository _ _ _ _ front => exact .inl (.inl front)
    | path _ _ _ _ sound middle => exact .inl (.inr ⟨sound, middle⟩)
    | target _ _ name _ sound valid back =>
      obtain ⟨package, parts⟩ := made sound valid
      exact .inr ⟨package, parts, .inl ⟨name, rfl, back⟩⟩
    | root _ sound =>
      obtain ⟨package, parts⟩ := made sound PackagePath.root.pathText
      exact .inr ⟨package, parts, .inr ⟨rfl, parts.2, rfl⟩⟩

theorem reports_resolve_iff (current : Package) (spelling : Spelling) (messages : List String) :
    Reports (spelling.resolve current) messages ↔ Diagnosis spelling messages := by
  cases spelling with
  | absolute repository path target =>
    exact reports_absolute_iff current repository path target messages
  | relative target =>
    rw [resolve, reports_name_iff]
    constructor
    · exact .relative target messages
    · intro diagnosis
      cases diagnosis with
      | relative _ _ back => exact back

/-- The current package is part of a label and never judged. -/
theorem resolve_eq_error_of_package {current : Package} (other : Package) {spelling : Spelling}
    {fault : LabelFault} (failed : spelling.resolve current = .error fault) :
    spelling.resolve other = .error fault := by
  cases spelling with
  | absolute repository path target => exact failed
  | relative target =>
    rw [resolve, bind_eq_error_iff] at failed ⊢
    -- The package is met only where a label is made, which does not fail.
    obtain refused | ⟨name, -, impossible⟩ := failed
    · exact .inl refused
    · cases impossible

end Spelling

/-! ## The whole text -/

namespace Label

/-- What is told about a text that is no label. -/
inductive Diagnosis (text : Text) : List String → Prop where
  | uncut (messages : List String) : Spelling.Uncut text messages → Diagnosis text messages
  | part (spelling : Spelling) (messages : List String) : Spelling.Cut text spelling →
      spelling.Diagnosis messages → Diagnosis text messages

theorem reports_read_iff (text : Text) (current : Package) (messages : List String) :
    Reports (Spelling.ofText text >>= Spelling.resolve current) messages ↔
      Diagnosis text messages := by
  rw [Reports.bind_iff, Spelling.reports_ofText_iff]
  simp only [Spelling.ofText_eq_ok_iff, Spelling.reports_resolve_iff]
  constructor
  · rintro (uncut | ⟨spelling, cut, diagnosis⟩)
    · exact .uncut messages uncut
    · exact .part spelling messages cut diagnosis
  · rintro (⟨_, uncut⟩ | ⟨spelling, _, cut, diagnosis⟩)
    · exact .inl uncut
    · exact .inr ⟨spelling, cut, diagnosis⟩

theorem parse_eq_error_of_package {text : Text} {current : Package} {error : LabelError}
    (failed : parse text current = .error error) (other : Package) :
    parse text other = .error error := by
  rw [parse, mapError_eq_error_iff] at failed ⊢
  obtain ⟨fault, failed, rfl⟩ := failed
  refine ⟨fault, ?_, rfl⟩
  rw [bind_eq_error_iff] at failed ⊢
  obtain uncut | ⟨spelling, cut, failed⟩ := failed
  · exact .inl uncut
  · exact .inr ⟨spelling, cut, Spelling.resolve_eq_error_of_package other failed⟩

/-- No text has two diagnoses, however many faults it has. -/
theorem Diagnosis.unique {text : Text} {messages others : List String}
    (first : Diagnosis text messages) (second : Diagnosis text others) : messages = others := by
  -- Both are what the error says in some package, and there is one error.
  obtain ⟨fault, refused, rfl⟩ := (reports_read_iff text Package.root messages).mpr first
  obtain ⟨other, again, rfl⟩ := (reports_read_iff text Package.root others).mpr second
  rw [refused] at again
  cases again
  rfl

/-- A text that is no label is so in every package, and its error quotes it and then tells its one
diagnosis, that of the first rule it breaks. A text with a diagnosis is never a label. -/
theorem rejection_tells_first_fault :
    (∀ text current error, parse text current = .error error →
      (∀ other, parse text other = .error error) ∧
      ∃ messages, Diagnosis text messages ∧
        Diagnostic.chain error = s!"Invalid label `{spell text}`" :: messages) ∧
    (∀ text messages current, Diagnosis text messages → ∃ error,
      parse text current = .error error ∧
      Diagnostic.chain error = s!"Invalid label `{spell text}`" :: messages) ∧
    (∀ text messages others, Diagnosis text messages → Diagnosis text others →
      messages = others) := by
  refine ⟨?_, ?_, fun text messages others => Diagnosis.unique⟩
  · intro text current error failed
    refine ⟨parse_eq_error_of_package failed, ?_⟩
    obtain ⟨fault, refused, rfl⟩ := (mapError_eq_error_iff _ _ _).mp failed
    exact ⟨Diagnostic.chain fault, (reports_read_iff text current _).mp ⟨fault, refused, rfl⟩, rfl⟩
  · intro text messages current diagnosis
    obtain ⟨fault, refused, rfl⟩ := (reports_read_iff text current messages).mpr diagnosis
    exact ⟨⟨text, fault⟩, (mapError_eq_error_iff _ _ _).mpr ⟨fault, refused, rfl⟩, rfl⟩

/-- Each part of this text has a fault, and that of the repository is told. -/
example : parse "@a!//b//c:".toList Package.root = .error ⟨"@a!//b//c:".toList,
    .package (.repository (.invalidCharacter "a!".toList '!'))⟩ :=
  rfl

end Label

end LabelExpansion
