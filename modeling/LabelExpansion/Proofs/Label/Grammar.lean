import LabelExpansion.Proofs.Fallible
import LabelExpansion.Proofs.Label.Cutting

/-!
# The grammar of labels

A label is written in one of four styles, and each says what the text means without reference to how
it is cut or judged. The main statement is that reading accepts exactly the written texts and gives
each its meaning. Soundness follows the equations of cutting, one for each start of a text;
completeness holds because no part may contain the delimiter that ends it. The styles exclude each
other: the first character tells marked and bare labels from absolute ones, and a colon further on
tells the two absolute styles apart.
-/
namespace LabelExpansion

namespace Grammar

inductive Style where
  /-- `//path:name`, with or without a repository in front. -/
  | full
  /-- `//path`, with or without a repository in front. -/
  | shorthand
  /-- `:name` -/
  | marked
  /-- `name` -/
  | bare
  deriving DecidableEq

/-- The texts of the parts that are written. The empty text stands for the main repository. -/
inductive Meaning where
  | absolute (repository path name : Text)
  | relative (name : Text)

/-- What may stand in front of the slashes, and the repository that it names. -/
inductive Opening : Text → Text → Prop where
  | silent : Opening [] []
  | unnamed : Opening ['@'] []
  | named (repository : Text) : RepositoryText repository → Opening ('@' :: repository) repository

/-- The texts of each style, with what they mean. -/
inductive Written : Style → Text → Meaning → Prop where
  | full (opening repository path name : Text) : Opening opening repository → PathText path →
      NameText name → Written .full (opening ++ '/' :: '/' :: (path ++ ':' :: name))
        (.absolute repository path name)
  | shorthand (opening repository path name : Text) : Opening opening repository →
      PathText path → path ≠ [] → Path.LastSegment path name →
      Written .shorthand (opening ++ '/' :: '/' :: path) (.absolute repository path name)
  | marked (name : Text) : NameText name → Written .marked (':' :: name) (.relative name)
  | bare (name : Text) : NameText name → name.head? ≠ some '@' →
      Written .bare name (.relative name)

/-- Whether a label is what is meant by a text in the package of whoever wrote it. -/
def Meaning.Denotes (current : Package) : Meaning → Label → Prop
  | absolute repository path name, label =>
    label.package.repository.text = repository ∧ label.package.path.text = path ∧
      label.name.text = name
  | relative name, label => label.package = current ∧ label.name.text = name

/-! ## Judging a spelling -/

open Fallible

theorem parse_eq_ok_iff_resolve (text : Text) (current : Package) (label : Label) :
    Label.parse text current = .ok label ↔
      ∃ spelling, Spelling.ofText text = .ok spelling ∧ spelling.resolve current = .ok label := by
  rw [Label.parse, mapError_eq_ok_iff, bind_eq_ok_iff]

theorem targetText_eq_ok_iff (path : PackagePath) (target : Option Text) (name : Text) :
    path.targetText target = .ok name ↔
      target = some name ∨ target = none ∧ path.text ≠ [] ∧ Path.LastSegment path.text name := by
  cases target with
  | some written => simp [PackagePath.targetText]
  | none =>
    -- A target is inferred from the path, which the root of a repository does not have.
    by_cases root : path.text = []
    · have missing := PackagePath.fileName?_eq_none root
      simp [PackagePath.targetText, missing, root]
    · rw [← Path.fileName?_eq_some_iff path.text name root]
      change _ ↔ _ ∨ _ ∧ _ ∧ path.fileName? = some name
      cases named : path.fileName? with
      | none => simp [PackagePath.targetText, named]
      | some last => simp [PackagePath.targetText, named, root]

theorem resolve_relative_eq_ok_iff (current : Package) (target : Text) (label : Label) :
    (Spelling.relative target).resolve current = .ok label ↔
      NameText target ∧ (Meaning.relative target).Denotes current label := by
  simp only [Spelling.resolve, bind_eq_ok_iff, mapError_eq_ok_iff, TargetName.ofText_eq_ok_iff]
  constructor
  · rintro ⟨name, ⟨spelled, valid⟩, made⟩
    cases made
    exact ⟨valid, rfl, spelled⟩
  · rintro ⟨valid, package, spelled⟩
    exact ⟨label.name, ⟨spelled, valid⟩, by rw [← package]; rfl⟩

theorem resolve_absolute_eq_ok_iff (current : Package) (repository path : Text)
    (target : Option Text) (label : Label) :
    (Spelling.absolute repository path target).resolve current = .ok label ↔
      ∃ name, (target = some name ∨ target = none ∧ path ≠ [] ∧ Path.LastSegment path name) ∧
        NameText name ∧ (Meaning.absolute repository path name).Denotes current label := by
  simp only [Spelling.resolve, Package.ofTexts, bind_eq_ok_iff, mapError_eq_ok_iff,
    RepositoryName.ofText_eq_ok_iff, PackagePath.ofText_eq_ok_iff, TargetName.ofText_eq_ok_iff,
    targetText_eq_ok_iff]
  constructor
  · rintro ⟨package, ⟨found, repositories, place, paths, made⟩, name, choice, target, judged, whole⟩
    cases made
    cases whole
    rw [paths] at choice
    exact ⟨name, choice, judged.2, repositories, paths, judged.1⟩
  · rintro ⟨name, choice, valid, repositories, paths, names⟩
    rw [← paths] at choice
    exact ⟨label.package, ⟨_, repositories, _, paths, rfl⟩, name, choice, label.name,
      ⟨names, valid⟩, rfl⟩

/-! ## Reading what is written -/

theorem ofText_of_opening (opening repository rest : Text) (opened : Opening opening repository) :
    Spelling.ofText (opening ++ '/' :: '/' :: rest) = .ok (Spelling.qualified repository rest) := by
  -- A name without slashes, the empty one included, ends at the first two slashes.
  have behindAt (name : Text) (unbroken : '/' ∉ name) :
      Spelling.ofText ('@' :: name ++ '/' :: '/' :: rest) = .ok (Spelling.qualified name rest) := by
    have cut := (AsciiPattern.split?_eq_some_iff _ _ _).mpr
      (AsciiPattern.firstOccurrence_slashes name rest unbroken)
    exact Spelling.ofText_atSign cut
  cases opened with
  | silent => exact Spelling.ofText_slashes rest
  | unnamed => exact behindAt [] (by simp)
  | named name valid => exact behindAt repository valid.slash_not_mem

theorem undelimited_of_name (name : Text) (valid : NameText name) (start : name.head? ≠ some '@') :
    Spelling.Undelimited name where
  inhabited := valid.shape.ne_nil
  notAt := start
  notSlashes := by
    rintro ⟨rest, rfl⟩
    exact valid.shape.head?_ne rfl
  notColon := by
    intro colon
    obtain ⟨rest, rfl⟩ := List.head?_eq_some_iff.mp colon
    exact valid.colon_not_mem (by simp)

/-- Reading a written label gives what it means. -/
theorem parse_of_written {style : Style} {text : Text} {meaning : Meaning} {current : Package}
    {label : Label} (written : Written style text meaning)
    (denotes : meaning.Denotes current label) : Label.parse text current = .ok label := by
  rw [parse_eq_ok_iff_resolve]
  -- One spelling for each style, whose cuts find the parts that were written.
  cases written with
  | full opening repository path name opened paths names =>
    refine ⟨.absolute repository path (some name), ?_, ?_⟩
    · have cut := Spelling.qualified_append repository path (some name) paths.colon_not_mem
      rw [Spelling.ending] at cut
      rw [ofText_of_opening _ _ _ opened, cut]
    · rw [resolve_absolute_eq_ok_iff]
      exact ⟨name, .inl rfl, names, denotes⟩
  | shorthand opening repository path name opened paths inhabited last =>
    refine ⟨.absolute repository path none, ?_, ?_⟩
    · have cut := Spelling.qualified_append repository path none paths.colon_not_mem
      rw [Spelling.ending, List.append_nil] at cut
      rw [ofText_of_opening _ _ _ opened, cut]
    · rw [resolve_absolute_eq_ok_iff]
      have names := paths.nameText_of_lastSegment inhabited last
      exact ⟨name, .inr ⟨rfl, inhabited, last⟩, names, denotes⟩
  | marked name names =>
    refine ⟨.relative name, Spelling.ofText_colon name, ?_⟩
    rw [resolve_relative_eq_ok_iff]
    exact ⟨names, denotes⟩
  | bare name names start =>
    refine ⟨.relative text, ?_, ?_⟩
    · rw [Spelling.ofText_undelimited text (undelimited_of_name text names start),
        if_neg names.colon_not_mem]
    · rw [resolve_relative_eq_ok_iff]
      exact ⟨names, denotes⟩

/-- Behind a possible opening, an absolute label that is read was written. -/
theorem written_of_qualified {opening repository rest : Text} {spelling : Spelling}
    {current : Package} {label : Label}
    (front : opening = [] ∧ repository = [] ∨ opening = '@' :: repository)
    (cut : Spelling.qualified repository rest = spelling)
    (resolved : spelling.resolve current = .ok label) :
    ∃ style meaning, Written style (opening ++ '/' :: '/' :: rest) meaning ∧
      meaning.Denotes current label := by
  obtain ⟨path, target, rfl, rfl, -⟩ := (Spelling.qualified_eq_iff _ _ _).mp cut
  obtain ⟨name, choice, names, denotes⟩ := (resolve_absolute_eq_ok_iff _ _ _ _ _).mp resolved
  have opened : Opening opening repository := by
    rcases front with ⟨rfl, rfl⟩ | rfl
    · exact .silent
    · -- Nothing between `@` and the slashes means the main repository.
      by_cases empty : repository = []
      · rw [empty]
        exact .unnamed
      · apply Opening.named
        rw [← denotes.1] at empty ⊢
        exact RepositoryName.repositoryText_of_ne_main _ empty
  have paths : PathText path := denotes.2.1 ▸ label.package.path.pathText
  rcases choice with rfl | ⟨rfl, inhabited, last⟩
  · exact ⟨.full, _, .full opening repository path name opened paths names, denotes⟩
  · rw [Spelling.ending, List.append_nil]
    exact ⟨.shorthand, _, .shorthand opening repository path name opened paths inhabited last,
      denotes⟩

/-- Whatever is read was written in one of the styles. -/
theorem written_of_parse {text : Text} {current : Package} {label : Label}
    (returned : Label.parse text current = .ok label) :
    ∃ style meaning, Written style text meaning ∧ meaning.Denotes current label := by
  obtain ⟨spelling, cut, resolved⟩ := (parse_eq_ok_iff_resolve _ _ _).mp returned
  -- The start decides which cuts are tried, and each start has one spelling at most.
  rcases Spelling.start_cases text with
    rfl | ⟨rest, rfl⟩ | ⟨rest, rfl⟩ | ⟨rest, rfl⟩ | start
  · cases cut
  · cases split : AsciiPattern.slashes.split? rest with
    | none =>
      rw [Spelling.ofText_atSign_of_none split] at cut
      cases cut
    | some halves =>
      obtain ⟨repository, after⟩ := halves
      rw [Spelling.ofText_atSign split] at cut
      have found := (AsciiPattern.split?_eq_some_iff _ _ _).mp split
      have whole : '@' :: rest = ('@' :: repository) ++ '/' :: '/' :: after := by
        rw [found.whole]
        rfl
      rw [whole]
      exact written_of_qualified (.inr rfl) (Except.ok.inj cut) resolved
  · rw [Spelling.ofText_slashes] at cut
    have front : ([] : Text) = [] ∧ ([] : Text) = [] ∨ [] = '@' :: ([] : Text) := .inl ⟨rfl, rfl⟩
    exact written_of_qualified front (Except.ok.inj cut) resolved
  · rw [Spelling.ofText_colon] at cut
    rw [← Except.ok.inj cut, resolve_relative_eq_ok_iff] at resolved
    exact ⟨.marked, _, .marked rest resolved.1, resolved.2⟩
  · rw [Spelling.ofText_undelimited text start] at cut
    split at cut
    · cases cut
    · rw [← Except.ok.inj cut, resolve_relative_eq_ok_iff] at resolved
      exact ⟨.bare, _, .bare text resolved.1 start.notAt, resolved.2⟩

/-- Every written label names a target, the inferred name of a directory included. -/
theorem nameText_of_written {style : Style} {text : Text} {meaning : Meaning} {current : Package}
    {label : Label} (written : Written style text meaning)
    (denotes : meaning.Denotes current label) : NameText label.name.text := by
  cases written with
  | full opening repository path name opened paths names =>
    rw [denotes.2.2]
    exact names
  | shorthand opening repository path name opened paths inhabited last =>
    rw [denotes.2.2]
    exact paths.nameText_of_lastSegment inhabited last
  | marked name names =>
    rw [denotes.2]
    exact names
  | bare name names start =>
    rw [denotes.2]
    exact names

/-! ## Telling the styles apart -/

/-- The style of a text by its first character, and by whether a colon occurs further on. -/
def styleOf (text : Text) : Style :=
  match text.head? with
  | some ':' => .marked
  | some '@' => if ':' ∈ text then .full else .shorthand
  | some '/' => if ':' ∈ text then .full else .shorthand
  | _ => .bare

theorem styleOf_of_opening (opening repository rest : Text) (opened : Opening opening repository) :
    styleOf (opening ++ '/' :: '/' :: rest) = if ':' ∈ rest then .full else .shorthand := by
  cases opened with
  | silent => simp [styleOf]
  | unnamed => simp [styleOf]
  | named name valid =>
    have clear := valid.colon_not_mem
    simp [styleOf, clear]

theorem style_eq_of_written {style : Style} {text : Text} {meaning : Meaning}
    (written : Written style text meaning) : style = styleOf text := by
  cases written with
  | full opening repository path name opened paths names =>
    rw [styleOf_of_opening _ _ _ opened, if_pos (by simp)]
  | shorthand opening repository path name opened paths inhabited last =>
    rw [styleOf_of_opening _ _ _ opened, if_neg paths.colon_not_mem]
  | marked name names => rfl
  | bare name names start =>
    have clear := names.colon_not_mem
    have inside := names.shape.head?_ne
    -- None of the three characters that open another style can be in front.
    cases text with
    | nil => rfl
    | cons c rest =>
      rw [List.head?_cons, ne_eq, Option.some.injEq] at start inside
      have colon : c ≠ ':' := fun same => clear (by simp [same])
      simp [styleOf, start, inside, colon]

/-! ## Every written label is read -/

theorem exists_of_opening {opening repository : Text} (opened : Opening opening repository) :
    ∃ name : RepositoryName, name.text = repository := by
  cases opened with
  | silent => exact ⟨.main, rfl⟩
  | unnamed => exact ⟨.main, rfl⟩
  | named name valid => exact RepositoryName.exists_of_repositoryText repository valid

/-- What is written is meant of some label, so that nothing else can keep it from being read. -/
theorem exists_of_written {style : Style} {text : Text} {meaning : Meaning}
    (written : Written style text meaning) (current : Package) :
    ∃ label, meaning.Denotes current label := by
  cases written with
  | full opening repository path name opened paths names =>
    obtain ⟨place, rfl⟩ := exists_of_opening opened
    obtain ⟨directory, rfl⟩ := PackagePath.exists_of_pathText path paths
    exact ⟨⟨⟨place, directory⟩, ⟨name⟩⟩, rfl, rfl, rfl⟩
  | shorthand opening repository path name opened paths inhabited last =>
    obtain ⟨place, rfl⟩ := exists_of_opening opened
    obtain ⟨directory, rfl⟩ := PackagePath.exists_of_pathText path paths
    exact ⟨⟨⟨place, directory⟩, ⟨name⟩⟩, rfl, rfl, rfl⟩
  | marked name names => exact ⟨⟨current, ⟨name⟩⟩, rfl, rfl⟩
  | bare name names start => exact ⟨⟨current, ⟨text⟩⟩, rfl, rfl⟩

/-- The texts that are read are those of the grammar, with the meaning that it gives them, and no
text is written in two styles. -/
theorem parse_accepts_grammar :
    (∀ text current label, Label.parse text current = .ok label ↔
      ∃ style meaning, Written style text meaning ∧ meaning.Denotes current label) ∧
    (∀ style text meaning current, Written style text meaning →
      ∃ label, Label.parse text current = .ok label ∧ meaning.Denotes current label) ∧
    (∀ style other text meaning another, Written style text meaning →
      Written other text another → style = other) := by
  refine ⟨?_, ?_, ?_⟩
  · -- Soundness and completeness of reading.
    intro text current label
    constructor
    · exact written_of_parse
    · rintro ⟨style, meaning, written, denotes⟩
      exact parse_of_written written denotes
  · -- The parts of a written label are those of a label, so reading it does not fail.
    intro style text meaning current written
    obtain ⟨label, denotes⟩ := exists_of_written written current
    exact ⟨label, parse_of_written written denotes, denotes⟩
  · -- The text alone tells the style.
    intro style other text meaning another first second
    rw [style_eq_of_written first, style_eq_of_written second]

end Grammar

end LabelExpansion
