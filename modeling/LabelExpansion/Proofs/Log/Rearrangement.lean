import LabelExpansion.Proofs.Log.Rules
import Mathlib.Data.List.Basic
import Mathlib.Logic.Relation

/-!
# Rearranged filters

The pieces of a filter may be put in another order that keeps pieces with equal targets as they
follow each other, a piece may go whose target is named again later, or for a record one whose
target does not apply to it, and empty pieces may come. Each of these changes keeps the directive in
effect for every beginning of the target of the record, and so does any number of them. A filter
remains a filter under them, since no change makes a piece that was not there, but for empty ones.
-/
namespace LabelExpansion

namespace Directive

/-- A directive is not in effect for a target other than its own, or one that is named again. -/
theorem effective?_insert (before after : List Directive) (directive : Directive) (target : Text)
    (overruled : directive.target = target → ∃ later ∈ after, later.target = target) :
    effective? (before ++ directive :: after) target = effective? (before ++ after) target := by
  rw [← List.singleton_append, effective?_append, effective?_append, effective?_append before,
    effective?_singleton]
  -- Only a directive for the same target could matter, and then there is a later one.
  split
  next named =>
    obtain ⟨later, member, again⟩ := overruled named
    obtain ⟨last, effective⟩ := exists_effective? member again
    rw [effective, Option.some_or, Option.some_or]
  next => rw [Option.or_none]

end Directive

open Directive

section Changes

variable (directive? : Text → Option Directive)

/-- The target that a piece names, where `directive?` is how one piece is read. -/
def target? (piece : Text) : Option Text :=
  (directive? piece).map Directive.target

/-- A change to the pieces of a filter that does not matter to the records of a target. -/
inductive Adjusts (target : Text) : List Text → List Text → Prop where
  | reorder (pieces others : List Text) : pieces.Perm others →
      (∀ named, pieces.filter (target? directive? · = some named) =
        others.filter (target? directive? · = some named)) →
      Adjusts target pieces others
  | superseded (before : List Text) (piece : Text) (after : List Text) (named : Text)
      (later : Text) : target? directive? piece = some named → later ∈ after →
      target? directive? later = some named →
      Adjusts target (before ++ piece :: after) (before ++ after)
  | inapplicable (before : List Text) (piece : Text) (after : List Text) (named : Text) :
      target? directive? piece = some named → ¬ named <+: target →
      Adjusts target (before ++ piece :: after) (before ++ after)
  | empty (before after : List Text) : Adjusts target (before ++ after) (before ++ [] :: after)

/-- A filter text that was made from another one by changes that do not matter to the records of a
target. -/
def Rearranges (target text other : Text) : Prop :=
  ∃ pieces, Relation.ReflTransGen (Adjusts directive? target) (Text.pieces ',' text) pieces ∧
    other = Text.joined ',' pieces

/-- The directives for a target are those of the pieces that name it. -/
theorem filter_target_filterMap (pieces : List Text) (named : Text) :
    (pieces.filterMap directive?).filter (·.target = named) =
      (pieces.filter (target? directive? · = some named)).filterMap directive? := by
  rw [List.filter_filterMap, List.filterMap_filter]
  refine List.filterMap_congr ?_
  intro piece _
  rw [target?]
  cases directive? piece with
  | none => simp
  | some directive => simp [Option.filter]

/-- Neighbours with different targets may change places. -/
theorem adjusts_swap (target : Text) (before : List Text) {first second : Text} (after : List Text)
    (different : target? directive? first ≠ target? directive? second) :
    Adjusts directive? target (before ++ first :: second :: after)
      (before ++ second :: first :: after) := by
  refine .reorder _ _ ((List.Perm.swap second first after).append_left before) ?_
  intro named
  rw [List.filter_append, List.filter_append, List.append_cancel_left_eq]
  by_cases names : target? directive? first = some named
  · have other : target? directive? second ≠ some named := by
      rw [← names]
      exact different.symm
    simp [names, other]
  · simp [List.filter_cons, names]

end Changes

/-! ## One change -/

variable {directive? : Text → Option Directive} {target : Text} {pieces others : List Text}

/-- Only empty pieces are new. -/
theorem Adjusts.forall_mem (adjusts : Adjusts directive? target pieces others) {kind : Text → Prop}
    (empty : kind []) (all : ∀ piece ∈ pieces, kind piece) : ∀ piece ∈ others, kind piece := by
  intro piece member
  cases adjusts with
  | reorder _ _ permuted _ => exact all piece (permuted.mem_iff.mpr member)
  | superseded before removed after | inapplicable before removed after =>
    refine all piece ?_
    rw [List.mem_append] at member
    rw [List.mem_append, List.mem_cons]
    exact member.imp_right Or.inr
  | empty before after =>
    rw [List.mem_append, List.mem_cons] at member
    rcases member with front | rfl | back
    · exact all piece (List.mem_append_left _ front)
    · exact empty
    · exact all piece (List.mem_append_right _ back)

/-- Taking away a piece that is overruled or does not apply keeps what is in effect. -/
theorem effective?_of_removed {before after : List Text} {piece named front : Text}
    (reads : target? directive? piece = some named)
    (overruled : named = front → ∃ later ∈ after, target? directive? later = some front) :
    effective? ((before ++ piece :: after).filterMap directive?) front =
      effective? ((before ++ after).filterMap directive?) front := by
  obtain ⟨directive, read, rfl⟩ := Option.map_eq_some_iff.mp reads
  rw [List.filterMap_append, List.filterMap_cons_some read, List.filterMap_append]
  refine effective?_insert _ _ directive front ?_
  intro same
  obtain ⟨later, member, again⟩ := overruled same
  obtain ⟨last, readLater, aims⟩ := Option.map_eq_some_iff.mp again
  exact ⟨last, List.mem_filterMap.mpr ⟨later, member, readLater⟩, aims⟩

/-- One change keeps what is in effect for the beginnings of the target. -/
theorem Adjusts.effective?_eq (adjusts : Adjusts directive? target pieces others)
    (skipped : directive? [] = none) {front : Text} (beginning : front <+: target) :
    effective? (pieces.filterMap directive?) front =
      effective? (others.filterMap directive?) front := by
  cases adjusts with
  | reorder _ _ _ kept =>
    rw [effective?, effective?, filter_target_filterMap, filter_target_filterMap, kept front]
  | superseded before piece after named later reads member again =>
    refine effective?_of_removed reads ?_
    rintro rfl
    exact ⟨later, member, again⟩
  | inapplicable before piece after named reads apart =>
    refine effective?_of_removed reads ?_
    rintro rfl
    exact absurd beginning apart
  | empty before after =>
    rw [List.filterMap_append, List.filterMap_append, List.filterMap_cons_none skipped]

/-! ## Any number of changes -/

section Run

variable {start : List Text}
variable (adjusts : Relation.ReflTransGen (Adjusts directive? target) start pieces)

include adjusts

theorem forall_mem_of_adjusts {kind : Text → Prop} (empty : kind [])
    (all : ∀ piece ∈ start, kind piece) : ∀ piece ∈ pieces, kind piece := by
  induction adjusts with
  | refl => exact all
  | tail _ change ih => exact change.forall_mem empty ih

theorem effective?_eq_of_adjusts (skipped : directive? [] = none) {front : Text}
    (beginning : front <+: target) :
    effective? (start.filterMap directive?) front =
      effective? (pieces.filterMap directive?) front := by
  induction adjusts with
  | refl => rfl
  | tail _ change ih => rw [ih, change.effective?_eq skipped beginning]

end Run

/-! ## The text that was made -/

/-- Cutting gives back the pieces that were put together, but no pieces come back as an empty one. -/
theorem pieces_joined_eq_or (unbroken : ∀ piece ∈ pieces, ',' ∉ piece) :
    Text.pieces ',' (Text.joined ',' pieces) = pieces ∨
      pieces = [] ∧ Text.pieces ',' (Text.joined ',' pieces) = [[]] := by
  by_cases inhabited : pieces = []
  · rw [inhabited]
    exact .inr ⟨rfl, rfl⟩
  · exact .inl (Text.pieces_joined ',' pieces inhabited unbroken)

theorem forall_mem_pieces_joined (unbroken : ∀ piece ∈ pieces, ',' ∉ piece) {kind : Text → Prop}
    (empty : kind []) (all : ∀ piece ∈ pieces, kind piece) :
    ∀ piece ∈ Text.pieces ',' (Text.joined ',' pieces), kind piece := by
  rcases pieces_joined_eq_or unbroken with whole | ⟨-, whole⟩
  · rw [whole]
    exact all
  · rw [whole]
    simpa using empty

theorem directivesOf_joined (unbroken : ∀ piece ∈ pieces, ',' ∉ piece)
    (skipped : directive? [] = none) :
    directivesOf directive? (Text.joined ',' pieces) = pieces.filterMap directive? := by
  rw [directivesOf]
  rcases pieces_joined_eq_or unbroken with whole | ⟨none, whole⟩
  · rw [whole]
  · rw [whole, none, List.filterMap_cons_none skipped]

namespace DirectiveRules

variable {φ : Type} [LogBackend φ] (rules : DirectiveRules φ directive?)

include rules

/-- A plain piece of a filter means a directive, and the target that it names is that of the
directive. -/
theorem means_of_plain {text : Text} (spanless : Spanless text) {filter : φ}
    (read : LogBackend.read text = .returned filter) {piece : Text}
    (member : piece ∈ Text.pieces ',' text) (plain : Plain piece) :
    ∃ directive, Means piece directive ∧ target? directive? piece = some directive.target := by
  obtain ⟨directive, reads⟩ :=
    (rules.accepted text spanless).mp ⟨filter, read⟩ piece member plain.inhabited
  refine ⟨directive, (rules.plain piece directive plain).mp reads, ?_⟩
  rw [target?, reads]
  rfl

/-- A rearranged filter is a filter and passes the same records of the target, errors apart. -/
theorem rearranged {text other : Text} (rearranges : Rearranges directive? target text other)
    (spanless : Spanless text) {filter : φ} (read : LogBackend.read text = .returned filter) :
    ∃ changed : φ, LogBackend.read other = .returned changed ∧
      ∀ severity, severity ≠ .error →
        LogBackend.passes changed severity target = LogBackend.passes filter severity target := by
  obtain ⟨pieces, adjusts, rfl⟩ := rearranges
  -- What is true of all pieces, and of the empty one, stays true under every change.
  have unbroken : ∀ piece ∈ pieces, ',' ∉ piece :=
    forall_mem_of_adjusts adjusts List.not_mem_nil (Text.separator_not_mem_pieces ',' text)
  have readable := (rules.accepted text spanless).mp ⟨filter, read⟩
  have readableToo : ∀ piece ∈ pieces, piece ≠ [] →
      ∃ directive, directive? piece = some directive :=
    forall_mem_of_adjusts adjusts (absurd rfl) readable
  have unspanned : ∀ piece ∈ pieces, '[' ∉ piece :=
    forall_mem_of_adjusts adjusts List.not_mem_nil spanless
  have spanlessToo : Spanless (Text.joined ',' pieces) :=
    forall_mem_pieces_joined unbroken List.not_mem_nil unspanned
  obtain ⟨changed, readToo⟩ := (rules.accepted _ spanlessToo).mpr
    (forall_mem_pieces_joined unbroken (absurd rfl) readableToo)
  refine ⟨changed, readToo, ?_⟩
  intro severity mild
  refine rules.passes_congr spanless read spanlessToo readToo ?_ mild
  rw [directivesOf_joined unbroken rules.empty]
  intro front beginning
  exact effective?_eq_of_adjusts adjusts rules.empty beginning

end DirectiveRules

end LabelExpansion
