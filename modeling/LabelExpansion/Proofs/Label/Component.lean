import LabelExpansion.Label.Parse
import LabelExpansion.Proofs.Path.Segmented

/-!
# The parts of a label

Which texts name a repository, a package and a target, said without the checks that judge them: each
has an alphabet and a shape. The main statements say that each check accepts exactly these texts, so
that reading a part is the inverse of looking at its text. The alphabets are nested where labels
need it: the last segment of a package path is always a target name.
-/
namespace LabelExpansion

/-- A statement about each character of a constant text is settled by running through it. -/
theorem Text.forall_mem_of_all {property : Char → Prop} [DecidablePred property] {text : Text}
    (checked : (text.all fun c => decide (property c)) = true) : ∀ c ∈ text, property c := by
  intro c member
  exact of_decide_eq_true (List.all_eq_true.mp checked c member)

namespace AsciiSet

private def alphanumericText : Text :=
  "abcdefghijklmnopqrstuvwxyzABCDEFGHIJKLMNOPQRSTUVWXYZ0123456789".toList

private theorem mem_alphanumericText_iff (c : Char) :
    c ∈ alphanumericText ↔ c.isAlphanum = true := by
  constructor
  · intro member
    have all : ∀ letter ∈ alphanumericText, letter.isAlphanum = true :=
      Text.forall_mem_of_all (by decide +kernel)
    exact all c member
  · intro member
    -- Only the 128 codes of ASCII are left to look at.
    have small : c.toNat < 128 := by
      have codes := Text.toNat_of_isAlphanum c member
      omega
    have all : ∀ code : Fin 128, (Char.ofNat code).isAlphanum = true →
        Char.ofNat code ∈ alphanumericText := by decide +kernel
    have own := all ⟨c.toNat, small⟩
    rw [Char.ofNat_toNat] at own
    exact own member

theorem contains_alphanumeric (c : Char) : alphanumeric.contains c = c.isAlphanum := by
  rw [Bool.eq_iff_iff, ← mem_alphanumericText_iff]
  change (ofChars alphanumericText).contains c = true ↔ _
  rw [contains_ofChars, decide_eq_true_eq]
  constructor
  · exact And.left
  · intro member
    have codes := Text.toNat_of_isAlphanum c ((mem_alphanumericText_iff c).mp member)
    exact ⟨member, by omega⟩

/-- An alphabet of letters, digits and some other ASCII characters. -/
theorem contains_alphanumeric_union (others : Text) (ascii : ∀ c ∈ others, c.toNat < 128)
    (c : Char) :
    (alphanumeric ∪ ofChars others).contains c = true ↔ c.isAlphanum = true ∨ c ∈ others := by
  rw [contains_union, contains_alphanumeric, contains_ofChars, Bool.or_eq_true, decide_eq_true_eq]
  constructor
  · exact Or.imp_right And.left
  · exact Or.imp_right fun member => ⟨member, ascii c member⟩

/-- The character that is reported occurs in the text and is not allowed there. -/
theorem mem_of_firstOutside? {set : AsciiSet} {text : Text} {c : Char}
    (found : set.firstOutside? text = some c) : c ∈ text ∧ set.contains c = false :=
  ⟨List.mem_of_find?_eq_some found, by simpa using List.find?_some found⟩

end AsciiSet

/-- The text of a repository's name: a letter, then letters, digits and three signs. -/
structure RepositoryText (text : Text) : Prop where
  letter : ∃ first rest, text = first :: rest ∧ first.isAlpha = true
  characters : ∀ c ∈ text, c.isAlphanum = true ∨ c ∈ "_-.".toList

/-- The text of a package path: nothing, or plain segments in a small alphabet. -/
structure PathText (text : Text) : Prop where
  shape : text = [] ∨ Path.Segmented text
  characters : ∀ c ∈ text, c.isAlphanum = true ∨ c ∈ "/-._ $()+@=".toList

/-- The text of a target name: plain segments of printable characters, without the colon, the
backslash and the backtick. -/
structure NameText (text : Text) : Prop where
  shape : Path.Segmented text
  characters : ∀ c ∈ text, c.isAlphanum = true ∨ c = ' ' ∨
    c ∈ "!%-@^_\"#$&'()*+,;<=>?[]\x7b|\x7d~/.".toList

namespace RepositoryName

theorem contains_characters_iff (c : Char) :
    characters.contains c = true ↔ c.isAlphanum = true ∨ c ∈ "_-.".toList :=
  AsciiSet.contains_alphanumeric_union _ (Text.forall_mem_of_all (by decide)) c

theorem error?_eq_none_iff (text : Text) : error? text = none ↔ RepositoryText text := by
  constructor
  · intro accepted
    rw [error?] at accepted
    -- The front is judged first, so there is a letter before the alphabet is asked for.
    split at accepted
    next lettered =>
      cases text with
      | nil => simp at lettered
      | cons first rest =>
        rw [Option.map_eq_none_iff, AsciiSet.firstOutside?_eq_none_iff] at accepted
        refine ⟨⟨first, rest, rfl, by simpa using lettered⟩, ?_⟩
        intro c member
        apply (contains_characters_iff c).mp
        exact accepted c member
    next => cases accepted
  · rintro ⟨⟨first, rest, rfl, letter⟩, inside⟩
    have lettered : (first :: rest).head?.any Char.isAlpha = true := by simpa using letter
    rw [error?, if_pos lettered, Option.map_eq_none_iff, AsciiSet.firstOutside?_eq_none_iff]
    intro c member
    apply (contains_characters_iff c).mpr
    exact inside c member

theorem text_eq_nil_iff (repository : RepositoryName) :
    repository.text = [] ↔ repository = main := by
  cases repository with
  | main => simp [text]
  | named name valid =>
    obtain ⟨⟨first, rest, rfl, -⟩, -⟩ := (error?_eq_none_iff name).mp valid
    simp [text]

/-- Reading a repository name and looking at its text are inverse to each other. -/
theorem ofText_eq_ok_iff (name : Text) (repository : RepositoryName) :
    ofText name = .ok repository ↔ repository.text = name := by
  -- The empty text reads as the main repository, which is the only one without a name.
  by_cases empty : name = []
  · rw [ofText, if_pos empty, empty, text_eq_nil_iff, Except.ok.injEq, eq_comm]
  · rw [ofText, if_neg empty]
    constructor
    · intro returned
      split at returned
      · cases returned
      · cases returned
        rfl
    · intro spelled
      cases repository with
      | main => exact absurd spelled.symm empty
      | named other valid =>
        change other = name at spelled
        subst spelled
        split
        next error failed => simp [valid] at failed
        next => rfl

/-- Every text of the grammar names a repository. -/
theorem exists_of_repositoryText (text : Text) (valid : RepositoryText text) :
    ∃ repository : RepositoryName, repository.text = text :=
  ⟨named text ((error?_eq_none_iff text).mpr valid), rfl⟩

theorem repositoryText_of_ne_main (repository : RepositoryName) (named : repository.text ≠ []) :
    RepositoryText repository.text := by
  cases repository with
  | main => exact absurd rfl named
  | named name valid => exact (error?_eq_none_iff name).mp valid

end RepositoryName

namespace PackagePath

theorem contains_characters_iff (c : Char) :
    characters.contains c = true ↔ c.isAlphanum = true ∨ c ∈ "/-._ $()+@=".toList :=
  AsciiSet.contains_alphanumeric_union _ (Text.forall_mem_of_all (by decide)) c

theorem error?_eq_none_iff (text : Text) : error? text = none ↔ PathText text := by
  rw [error?]
  split
  next flaw flawed =>
    constructor
    · intro accepted
      cases accepted
    · intro valid
      rw [(Path.flaw?_eq_none_iff text).mpr valid.shape] at flawed
      cases flawed
  next normal =>
    rw [Option.map_eq_none_iff, AsciiSet.firstOutside?_eq_none_iff]
    simp only [contains_characters_iff]
    exact ⟨fun inside => ⟨(Path.flaw?_eq_none_iff text).mp normal, inside⟩,
      fun valid => valid.characters⟩

/-- Reading a package path and looking at its text are inverse to each other. -/
theorem ofText_eq_ok_iff (text : Text) (path : PackagePath) :
    ofText text = .ok path ↔ path.text = text := by
  constructor
  · intro returned
    rw [ofText] at returned
    split at returned
    · cases returned
    · cases returned
      rfl
  · rintro rfl
    rw [ofText]
    split
    next error failed => simp [path.valid] at failed
    next => rfl

theorem ofText_eq_error_iff (text : Text) (error : PackagePathError) :
    ofText text = .error error ↔ error? text = some error := by
  rw [ofText]
  split
  next reported found => simp [found]
  next accepted => simp [accepted]

theorem pathText (path : PackagePath) : PathText path.text :=
  (error?_eq_none_iff path.text).mp path.valid

theorem fileName?_eq_none {path : PackagePath} (root : path.text = []) : path.fileName? = none := by
  rw [fileName?, Path.fileName?, if_pos root]

/-- Every text of the grammar is a package path. -/
theorem exists_of_pathText (text : Text) (valid : PathText text) :
    ∃ path : PackagePath, path.text = text :=
  ⟨⟨text, (error?_eq_none_iff text).mpr valid⟩, rfl⟩

end PackagePath

namespace TargetName

theorem contains_characters_iff (c : Char) :
    characters.contains c = true ↔ c.isAlphanum = true ∨ c = ' ' ∨
      c ∈ "!%-@^_\"#$&'()*+,;<=>?[]\x7b|\x7d~/.".toList := by
  rw [characters, AsciiSet.contains_alphanumeric_union _ (Text.forall_mem_of_all (by decide))]
  -- The blank stands apart from the signs because it is hard to see among them.
  have spelled : "!%-@^_\"#$&'()*+,;<=>?[]\x7b|\x7d~/. ".toList =
      "!%-@^_\"#$&'()*+,;<=>?[]\x7b|\x7d~/.".toList ++ [' '] := by decide
  rw [spelled, List.mem_append, List.mem_singleton]
  exact or_congr_right or_comm

theorem error?_eq_none_iff (text : Text) : error? text = none ↔ NameText text := by
  rw [error?]
  split
  next empty =>
    constructor
    · intro accepted
      cases accepted
    · intro valid
      exact absurd empty valid.shape.ne_nil
  next inhabited =>
    split
    next character outside =>
      constructor
      · intro accepted
        cases accepted
      · intro valid
        have inside := (AsciiSet.firstOutside?_eq_none_iff characters text).mpr fun c member =>
          (contains_characters_iff c).mpr (valid.characters c member)
        rw [inside] at outside
        cases outside
    next inside =>
      rw [Option.map_eq_none_iff, Path.flaw?_eq_none_iff]
      rw [AsciiSet.firstOutside?_eq_none_iff] at inside
      constructor
      · intro shape
        exact ⟨shape.resolve_left inhabited, fun c member =>
          (contains_characters_iff c).mp (inside c member)⟩
      · intro valid
        exact Or.inr valid.shape

/-- Reading a target name accepts exactly the texts of the grammar. -/
theorem ofText_eq_ok_iff (text : Text) (name : TargetName) :
    ofText text = .ok name ↔ name.text = text ∧ NameText text := by
  rw [ofText, ← error?_eq_none_iff]
  cases rejected : error? text with
  | some error => simp
  | none =>
    cases name
    simp [eq_comm]

theorem ofText_eq_error_iff (text : Text) (error : TargetNameError) :
    ofText text = .error error ↔ error? text = some error := by
  rw [ofText]
  cases error? text with
  | some reported => simp
  | none => simp

end TargetName

/-- No part of a label holds the colon that ends the package. -/
theorem RepositoryText.colon_not_mem {text : Text} (valid : RepositoryText text) : ':' ∉ text :=
  fun member => absurd (valid.characters _ member) (by decide)

theorem RepositoryText.slash_not_mem {text : Text} (valid : RepositoryText text) : '/' ∉ text :=
  fun member => absurd (valid.characters _ member) (by decide)

theorem PathText.colon_not_mem {text : Text} (valid : PathText text) : ':' ∉ text :=
  fun member => absurd (valid.characters _ member) (by decide)

theorem NameText.colon_not_mem {text : Text} (valid : NameText text) : ':' ∉ text :=
  fun member => absurd (valid.characters _ member) (by decide)

/-- A target may be named like the directory of its package. -/
theorem PathText.nameText_of_lastSegment {path name : Text} (valid : PathText path)
    (inhabited : path ≠ []) (last : Path.LastSegment path name) : NameText name := by
  have segmented := valid.shape.resolve_left inhabited
  refine ⟨last.segmented segmented, ?_⟩
  intro c member
  -- The signs of paths are among those of names.
  have nested : ∀ d ∈ "/-._ $()+@=".toList, d = ' ' ∨
      d ∈ "!%-@^_\"#$&'()*+,;<=>?[]\x7b|\x7d~/.".toList :=
    Text.forall_mem_of_all (by decide)
  rcases valid.characters c (last.subset member) with letter | sign
  · exact Or.inl letter
  · exact Or.inr (nested c sign)

end LabelExpansion
