import LabelExpansion.Proofs.Fallible
import LabelExpansion.Proofs.Label.Component
import LabelExpansion.Proofs.Path.Flaw

/-!
# Refused parts

What is told about a text that names no repository, package or target, said without the checks that
refuse it. Each part has an order in which its rules are asked: a repository and a package are
judged by their shape before their characters, a target the other way round. The first broken rule
is told and no other, with the first character that is out of place where one is.
-/
namespace LabelExpansion

open Fallible

/-! ## What a computation reports -/

/-- The computation fails, and these are the messages of its error. -/
def Reports {ε α : Type} [Diagnostic ε] (computation : Except ε α) (messages : List String) :
    Prop :=
  ∃ error, computation = .error error ∧ Diagnostic.chain error = messages

namespace Reports

variable {α β ε δ : Type} [Diagnostic ε] [Diagnostic δ] {messages : List String}

theorem error_iff (error : ε) :
    Reports (.error error : Except ε α) messages ↔ Diagnostic.chain error = messages := by
  simp [Reports]

theorem not_ok (value : α) : ¬ Reports (.ok value : Except ε α) messages := by
  rintro ⟨error, failed, -⟩
  cases failed

/-- A sequence reports what its first step does, and if that succeeds what its second does. -/
theorem bind_iff (first : Except ε α) (next : α → Except ε β) :
    Reports (first >>= next) messages ↔
      Reports first messages ∨ ∃ value, first = .ok value ∧ Reports (next value) messages := by
  cases first with
  | error error => simp [Reports, bind, Except.bind]
  | ok value => simp [Reports, bind, Except.bind]

/-- A context that adds no message changes no report. -/
theorem mapError_iff (computation : Except ε α) (context : ε → δ)
    (transparent : ∀ error, Diagnostic.chain (context error) = Diagnostic.chain error) :
    Reports (computation.mapError context) messages ↔ Reports computation messages := by
  cases computation with
  | error error => simp [Reports, Except.mapError, transparent]
  | ok value => simp [Reports, Except.mapError]

end Reports

/-- The first character of a text that is not allowed there. -/
def FirstOutside (allowed : Char → Prop) (text : Text) (c : Char) : Prop :=
  ∃ before after, text = before ++ c :: after ∧ (∀ d ∈ before, allowed d) ∧ ¬ allowed c

theorem AsciiSet.firstOutside?_eq_some_iff {set : AsciiSet} {allowed : Char → Prop}
    (members : ∀ c, set.contains c = true ↔ allowed c) (text : Text) (c : Char) :
    set.firstOutside? text = some c ↔ FirstOutside allowed text c := by
  simp only [firstOutside?, FirstOutside, List.find?_eq_some_iff_append, ← members,
    Bool.not_eq_true', Bool.not_not, Bool.not_eq_true]
  constructor
  · rintro ⟨outside, before, after, whole, inside⟩
    exact ⟨before, after, whole, inside, outside⟩
  · rintro ⟨before, after, whole, inside, outside⟩
    exact ⟨outside, before, after, whole, inside⟩

/-! ## Repositories -/

namespace RepositoryName

def Allowed (c : Char) : Prop :=
  c.isAlphanum = true ∨ c ∈ "_-.".toList

/-- The front is judged before the characters, and the empty text has nothing to judge. -/
inductive Diagnosis : Text → List String → Prop where
  | front (first : Char) (rest : Text) : first.isAlpha = false → Diagnosis (first :: rest)
      [s!"Repository name `{spell (first :: rest)}` must start with a letter"]
  | character (first : Char) (rest : Text) (c : Char) : first.isAlpha = true →
      FirstOutside Allowed (first :: rest) c → Diagnosis (first :: rest)
      [s!"Repository name `{spell (first :: rest)}` contains invalid character `{c}`"]

theorem ofText_eq_error_iff (name : Text) (error : RepositoryNameError) :
    ofText name = .error error ↔ name ≠ [] ∧ error? name = some error := by
  rw [ofText]
  split
  next empty => simp [empty]
  next inhabited =>
    split
    next reported found => simp [found, inhabited]
    next accepted => simp [accepted]

theorem exists_text_eq_iff (name : Text) :
    (∃ repository : RepositoryName, repository.text = name) ↔ name = [] ∨ RepositoryText name := by
  constructor
  · rintro ⟨repository, rfl⟩
    by_cases unnamed : repository.text = []
    · exact .inl unnamed
    · exact .inr (repositoryText_of_ne_main repository unnamed)
  · rintro (rfl | valid)
    · exact ⟨main, rfl⟩
    · exact exists_of_repositoryText name valid

theorem reports_ofText_iff (name : Text) (messages : List String) :
    Reports (ofText name) messages ↔ Diagnosis name messages := by
  simp only [Reports, ofText_eq_error_iff, error?]
  constructor
  · rintro ⟨error, ⟨inhabited, rejected⟩, rfl⟩
    cases name with
    | nil => exact absurd rfl inhabited
    | cons first rest =>
      -- The alphabet is asked for only behind a letter.
      split at rejected
      next lettered =>
        obtain ⟨c, outside, rfl⟩ := Option.map_eq_some_iff.mp rejected
        rw [AsciiSet.firstOutside?_eq_some_iff contains_characters_iff] at outside
        exact .character first rest c lettered outside
      next unlettered =>
        cases rejected
        exact .front first rest (by simpa using unlettered)
  · rintro (⟨first, rest, unlettered⟩ | ⟨first, rest, c, lettered, outside⟩)
    · refine ⟨.mustStartWithLetter (first :: rest), ⟨by simp, ?_⟩, rfl⟩
      rw [if_neg (by simp [unlettered])]
    · refine ⟨.invalidCharacter (first :: rest) c, ⟨by simp, ?_⟩, rfl⟩
      rw [if_pos (by simpa using lettered), Option.map_eq_some_iff]
      exact ⟨c, (AsciiSet.firstOutside?_eq_some_iff contains_characters_iff _ c).mpr outside, rfl⟩

end RepositoryName

/-! ## Packages -/

namespace PackagePath

def Allowed (c : Char) : Prop :=
  c.isAlphanum = true ∨ c ∈ "/-._ $()+@=".toList

/-- The shape is judged before the characters. -/
inductive Diagnosis (path : Text) : List String → Prop where
  | shape (flaw : PathFlaw) : Path.Flawed path flaw →
      Diagnosis path [s!"Invalid package path `{spell path}`", flaw.message]
  | character (c : Char) : path = [] ∨ Path.Segmented path → FirstOutside Allowed path c →
      Diagnosis path [s!"Package path `{spell path}` contains invalid character `{c}`"]

theorem reports_ofText_iff (path : Text) (messages : List String) :
    Reports (ofText path) messages ↔ Diagnosis path messages := by
  simp only [Reports, ofText_eq_error_iff, error?]
  constructor
  · rintro ⟨error, rejected, rfl⟩
    split at rejected
    next flaw found =>
      cases rejected
      exact .shape flaw ((Path.flaw?_eq_some_iff path flaw).mp found)
    next normal =>
      obtain ⟨c, outside, rfl⟩ := Option.map_eq_some_iff.mp rejected
      exact .character c ((Path.flaw?_eq_none_iff path).mp normal)
        ((AsciiSet.firstOutside?_eq_some_iff contains_characters_iff path c).mp outside)
  · rintro (⟨flaw, flawed⟩ | ⟨c, shape, outside⟩)
    · rw [← Path.flaw?_eq_some_iff] at flawed
      exact ⟨.notNormal path flaw, by rw [flawed], rfl⟩
    · have found := (AsciiSet.firstOutside?_eq_some_iff contains_characters_iff path c).mpr outside
      rw [← Path.flaw?_eq_none_iff] at shape
      exact ⟨.invalidCharacter path c, by rw [shape, found, Option.map_some], rfl⟩

end PackagePath

namespace Package

theorem ofTexts_eq_ok_iff (repository path : Text) (package : Package) :
    ofTexts repository path = .ok package ↔
      package.repository.text = repository ∧ package.path.text = path := by
  simp only [ofTexts, bind_eq_ok_iff, mapError_eq_ok_iff, RepositoryName.ofText_eq_ok_iff,
    PackagePath.ofText_eq_ok_iff]
  constructor
  · rintro ⟨name, named, place, placed, made⟩
    cases made
    exact ⟨named, placed⟩
  · rintro ⟨named, placed⟩
    exact ⟨package.repository, named, package.path, placed, rfl⟩

/-- The repository is judged before the path. -/
theorem reports_ofTexts_iff (repository path : Text) (messages : List String) :
    Reports (ofTexts repository path) messages ↔ RepositoryName.Diagnosis repository messages ∨
      (repository = [] ∨ RepositoryText repository) ∧ PackagePath.Diagnosis path messages := by
  simp only [ofTexts, Reports.bind_iff, mapError_eq_ok_iff, RepositoryName.ofText_eq_ok_iff]
  rw [Reports.mapError_iff _ PackageError.repository fun _ => rfl,
    Reports.mapError_iff _ PackageError.path fun _ => rfl, RepositoryName.reports_ofText_iff,
    PackagePath.reports_ofText_iff, ← RepositoryName.exists_text_eq_iff]
  constructor
  · rintro (front | ⟨name, named, back | ⟨place, -, impossible⟩⟩)
    · exact .inl front
    · exact .inr ⟨⟨name, named⟩, back⟩
    · exact absurd impossible (Reports.not_ok _)
  · rintro (front | ⟨⟨name, named⟩, back⟩)
    · exact .inl front
    · exact .inr ⟨name, named, .inl back⟩

end Package

/-! ## Targets -/

namespace TargetName

def Allowed (c : Char) : Prop :=
  c.isAlphanum = true ∨ c = ' ' ∨ c ∈ "!%-@^_\"#$&'()*+,;<=>?[]\x7b|\x7d~/.".toList

/-- The characters are judged before the shape. -/
inductive Diagnosis : Text → List String → Prop where
  | empty : Diagnosis [] ["Target name is empty"]
  | character (name : Text) (c : Char) : FirstOutside Allowed name c →
      Diagnosis name [s!"Invalid target name `{spell name}`: character `{c}` is not allowed"]
  | shape (name : Text) (flaw : PathFlaw) : (∀ c ∈ name, Allowed c) → Path.Flawed name flaw →
      Diagnosis name [s!"Invalid target name `{spell name}`: {flaw.message}"]

theorem reports_ofText_iff (name : Text) (messages : List String) :
    Reports (ofText name) messages ↔ Diagnosis name messages := by
  have inside : characters.firstOutside? name = none ↔ ∀ c ∈ name, Allowed c := by
    rw [AsciiSet.firstOutside?_eq_none_iff]
    simp only [contains_characters_iff, Allowed]
  simp only [Reports, ofText_eq_error_iff, error?]
  constructor
  · rintro ⟨error, rejected, rfl⟩
    split at rejected
    next empty =>
      cases rejected
      rw [empty]
      exact .empty
    next inhabited =>
      split at rejected
      next c outside =>
        cases rejected
        exact .character name c
          ((AsciiSet.firstOutside?_eq_some_iff contains_characters_iff name c).mp outside)
      next allowed =>
        obtain ⟨flaw, found, rfl⟩ := Option.map_eq_some_iff.mp rejected
        exact .shape name flaw (inside.mp allowed) ((Path.flaw?_eq_some_iff name flaw).mp found)
  · rintro (_ | ⟨name, c, outside⟩ | ⟨name, flaw, allowed, flawed⟩)
    · exact ⟨.empty, by rw [if_pos rfl], rfl⟩
    · -- A text with a character out of place is not empty, which would be told first.
      have inhabited : name ≠ [] := by
        rintro rfl
        obtain ⟨before, after, whole, -⟩ := outside
        simp at whole
      have found := (AsciiSet.firstOutside?_eq_some_iff contains_characters_iff name c).mpr outside
      exact ⟨.invalidCharacter name c, by rw [if_neg inhabited, found], rfl⟩
    · rw [← Path.flaw?_eq_some_iff] at flawed
      have inhabited : name ≠ [] := by
        rintro rfl
        cases flawed
      refine ⟨.notNormal name flaw, ?_, rfl⟩
      rw [if_neg inhabited, inside.mpr allowed, flawed, Option.map_some]

theorem not_diagnosis_of_nameText {name : Text} (valid : NameText name) (messages : List String) :
    ¬ Diagnosis name messages := by
  rw [← reports_ofText_iff, (ofText_eq_ok_iff name ⟨name⟩).mpr ⟨rfl, valid⟩]
  exact Reports.not_ok _

end TargetName

end LabelExpansion
