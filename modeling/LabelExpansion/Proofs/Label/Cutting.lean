import LabelExpansion.Proofs.Label.Component
import LabelExpansion.Proofs.Text.Occurrence

/-!
# Cutting labels at their delimiters

What a spelling is made of, one equation for each way in which a text can start. The package and the
target of an absolute spelling are cut at the first colon, so a package without colons and a target
behind it are cut apart again; behind `@` the repository ends at the first two slashes, so a name
without slashes is found again.
-/
namespace LabelExpansion

namespace Spelling

/-- A target as it is written behind its package, if it is written. -/
def ending : Option Text → Text
  | none => []
  | some target => ':' :: target

/-- The first colon is where the package ends, and without one the target is left out. -/
theorem qualified_eq_iff (repository rest : Text) (spelling : Spelling) :
    qualified repository rest = spelling ↔
      ∃ package target, spelling = absolute repository package target ∧
        rest = package ++ ending target ∧ ':' ∉ package := by
  rw [qualified]
  split
  next before after cut =>
    obtain ⟨whole, first⟩ := (AsciiPattern.firstOccurrence_one_iff _ _ _ _).mp
      ((AsciiPattern.split?_eq_some_iff _ _ _).mp cut)
    constructor
    · rintro rfl
      exact ⟨before, some after, rfl, whole, first⟩
    · rintro ⟨package, target, rfl, other, clear⟩
      -- A colon was found, so the target is not left out, and there is only one first colon.
      cases target with
      | none =>
        rw [ending, List.append_nil] at other
        rw [← other, whole] at clear
        exact absurd (by simp) clear
      | some target =>
        have again := (AsciiPattern.split?_eq_some_iff _ _ _).mpr
          ((AsciiPattern.firstOccurrence_one_iff ⟨':', by decide⟩ rest package target).mpr
            ⟨other, clear⟩)
        rw [AsciiPattern.colon, again, Option.some.injEq, Prod.mk.injEq] at cut
        rw [cut.1, cut.2]
  next missing =>
    have clear : ':' ∉ rest := (AsciiPattern.split?_one_eq_none_iff _ rest).mp missing
    constructor
    · rintro rfl
      exact ⟨rest, none, rfl, (List.append_nil rest).symm, clear⟩
    · rintro ⟨package, target, rfl, other, -⟩
      -- A written target would have brought a colon.
      cases target with
      | none => rw [other, ending, List.append_nil]
      | some target =>
        rw [other] at clear
        exact absurd (by simp [ending]) clear

theorem qualified_append (repository package : Text) (target : Option Text)
    (clear : ':' ∉ package) :
    qualified repository (package ++ ending target) = absolute repository package target :=
  (qualified_eq_iff _ _ _).mpr ⟨package, target, rfl, rfl, clear⟩

theorem strip_atSign (rest : Text) : AsciiPattern.atSign.strip? ('@' :: rest) = some rest :=
  (AsciiPattern.strip?_eq_some_iff _ rest).mpr rfl

theorem strip_slashes (rest : Text) :
    AsciiPattern.slashes.strip? ('/' :: '/' :: rest) = some rest :=
  (AsciiPattern.strip?_eq_some_iff _ rest).mpr rfl

theorem strip_colon (rest : Text) : AsciiPattern.colon.strip? (':' :: rest) = some rest :=
  (AsciiPattern.strip?_eq_some_iff _ rest).mpr rfl

theorem strip_one_eq_none (c : AsciiChar) (text : Text) (other : text.head? ≠ some c.char) :
    (AsciiPattern.one c).strip? text = none := by
  rw [AsciiPattern.strip?_eq_none_iff]
  rintro ⟨rest, rfl⟩
  exact other rfl

theorem ofText_atSign {rest repository after : Text}
    (cut : AsciiPattern.slashes.split? rest = some (repository, after)) :
    ofText ('@' :: rest) = .ok (qualified repository after) := by
  rw [ofText, if_neg (List.cons_ne_nil _ _), strip_atSign]
  simp only [cut]

theorem ofText_atSign_of_none {rest : Text} (missing : AsciiPattern.slashes.split? rest = none) :
    ofText ('@' :: rest) = .error .repositoryWithoutSlashes := by
  rw [ofText, if_neg (List.cons_ne_nil _ _), strip_atSign]
  simp only [missing]

theorem ofText_slashes (rest : Text) :
    ofText ('/' :: '/' :: rest) = .ok (qualified [] rest) := by
  have other : AsciiPattern.atSign.strip? ('/' :: '/' :: rest) = none :=
    strip_one_eq_none _ _ (by simp)
  rw [ofText, if_neg (List.cons_ne_nil _ _), other, strip_slashes]

theorem ofText_colon (target : Text) : ofText (':' :: target) = .ok (relative target) := by
  have notAt : AsciiPattern.atSign.strip? (':' :: target) = none :=
    strip_one_eq_none _ _ (by simp)
  have notSlashes : AsciiPattern.slashes.strip? (':' :: target) = none := by
    rw [AsciiPattern.strip?_eq_none_iff]
    rintro ⟨rest, whole⟩
    cases whole
  rw [ofText, if_neg (List.cons_ne_nil _ _), notAt, notSlashes]
  simp only [unqualified, strip_colon]

/-- A text that starts with none of the delimiters is a target or nothing. -/
structure Undelimited (text : Text) : Prop where
  inhabited : text ≠ []
  notAt : text.head? ≠ some '@'
  notSlashes : ¬ ['/', '/'] <+: text
  notColon : text.head? ≠ some ':'

theorem ofText_undelimited (text : Text) (start : Undelimited text) :
    ofText text = if ':' ∈ text then .error .relativePackage else .ok (relative text) := by
  have notAt : AsciiPattern.atSign.strip? text = none := strip_one_eq_none _ _ start.notAt
  have notSlashes : AsciiPattern.slashes.strip? text = none :=
    (AsciiPattern.strip?_eq_none_iff text).mpr start.notSlashes
  have notColon : AsciiPattern.colon.strip? text = none := strip_one_eq_none _ _ start.notColon
  have found : (AsciiPattern.colon.split? text).isSome ↔ ':' ∈ text :=
    AsciiPattern.split?_one_isSome_iff _ text
  -- No delimiter in front is left, so what remains is the question for a colon further on.
  rw [ofText, if_neg start.inhabited, notAt, notSlashes]
  simp only [unqualified, notColon, found]

/-- Every text is empty, or starts with one of three delimiters, or with none. -/
theorem start_cases (text : Text) :
    text = [] ∨ (∃ rest, text = '@' :: rest) ∨ (∃ rest, text = '/' :: '/' :: rest) ∨
      (∃ rest, text = ':' :: rest) ∨ Undelimited text := by
  by_cases empty : text = []
  · exact .inl empty
  · by_cases at' : text.head? = some '@'
    · exact .inr (.inl (List.head?_eq_some_iff.mp at'))
    · by_cases slashes : ['/', '/'] <+: text
      · obtain ⟨rest, whole⟩ := slashes
        exact .inr (.inr (.inl ⟨rest, whole.symm⟩))
      · by_cases colon : text.head? = some ':'
        · exact .inr (.inr (.inr (.inl (List.head?_eq_some_iff.mp colon))))
        · exact .inr (.inr (.inr (.inr ⟨empty, at', slashes, colon⟩)))

end Spelling

end LabelExpansion
