import LabelExpansion.Log.Directive
import Mathlib.Data.List.Induction

/-!
# The directives in effect

Of the directives that name one target the last is in effect, and of those in effect for the
beginnings of a target the one with the longest decides. The choice is made in one pass over all
directives, which keeps the best so far. The main statement says that the pass finds the directive
that decides. So there is one whenever a directive applies at all, and two lists of directives with
the same ones in effect decide alike.
-/
namespace LabelExpansion

namespace Directive

/-- The directive in effect for a target: the last one that names it. -/
def effective? (directives : List Directive) (target : Text) : Option Directive :=
  (directives.filter (·.target = target)).getLast?

theorem effective?_append (left right : List Directive) (target : Text) :
    effective? (left ++ right) target =
      (effective? right target).or (effective? left target) := by
  rw [effective?, List.filter_append, List.getLast?_append]
  rfl

theorem effective?_singleton (directive : Directive) (target : Text) :
    effective? [directive] target = if directive.target = target then some directive else none := by
  by_cases named : directive.target = target <;> simp [effective?, named]

theorem mem_of_effective? {directives : List Directive} {target : Text} {directive : Directive}
    (effective : effective? directives target = some directive) :
    directive ∈ directives ∧ directive.target = target := by
  have member := List.mem_of_getLast? effective
  rw [List.mem_filter, decide_eq_true_eq] at member
  exact member

theorem exists_effective? {directives : List Directive} {target : Text} {directive : Directive}
    (member : directive ∈ directives) (named : directive.target = target) :
    ∃ last, effective? directives target = some last := by
  rw [← Option.isSome_iff_exists, Option.isSome_iff_ne_none, effective?, Ne,
    List.getLast?_eq_none_iff]
  exact List.ne_nil_of_mem (List.mem_filter.mpr ⟨member, decide_eq_true named⟩)

/-- The directive that decides on a target: in effect for a beginning of it, and for no shorter one
than any other. -/
structure Decides (directives : List Directive) (target : Text) (directive : Directive) : Prop where
  applies : directive.target <+: target
  effective : effective? directives directive.target = some directive
  longest : ∀ other : Directive, other.target <+: target →
    effective? directives other.target = some other →
    other.target.length ≤ directive.target.length

theorem Decides.unique {directives : List Directive} {target : Text} {directive other : Directive}
    (decides : Decides directives target directive) (again : Decides directives target other) :
    directive = other := by
  -- Of the beginnings of a target there is one of each length.
  have targets : directive.target = other.target := by
    have shorter := List.prefix_of_prefix_length_le decides.applies again.applies
      (again.longest directive decides.applies decides.effective)
    exact shorter.eq_of_length_le (decides.longest other again.applies again.effective)
  have same := decides.effective
  rw [targets, again.effective, Option.some.injEq] at same
  exact same.symm

/-- Which directive decides depends on those in effect for the beginnings of the target. -/
theorem Decides.congr {directives others : List Directive} {target : Text} {directive : Directive}
    (same : ∀ named, named <+: target → effective? directives named = effective? others named)
    (decides : Decides directives target directive) : Decides others target directive where
  applies := decides.applies
  effective := by
    rw [← same _ decides.applies]
    exact decides.effective
  longest other applies effective := by
    rw [← same _ applies] at effective
    exact decides.longest other applies effective

/-! ## One pass -/

/-- What is known behind some directives of the best one so far. -/
def Settled (directives : List Directive) (target : Text) : Option Directive → Prop
  | none => ∀ directive ∈ directives, ¬ directive.target <+: target
  | some best => Decides directives target best

theorem applies_iff (directive : Directive) (target : Text) :
    directive.applies target = true ↔ directive.target <+: target :=
  List.isPrefixOf_iff_prefix

/-- A directive that does not apply leaves the best one so far. -/
theorem Settled.skip {directives : List Directive} {target : Text} {best : Option Directive}
    (settled : Settled directives target best) {directive : Directive}
    (applies : ¬ directive.target <+: target) :
    Settled (directives ++ [directive]) target best := by
  cases best with
  | none =>
    intro other member
    rcases List.mem_append.mp member with earlier | last
    · exact settled other earlier
    · rw [List.mem_singleton.mp last]
      exact applies
  | some best =>
    refine Decides.congr ?_ settled
    intro named front
    have other : directive.target ≠ named := by
      rintro rfl
      exact applies front
    rw [effective?_append, effective?_singleton, if_neg other, Option.none_or]

/-- A directive that applies and has no shorter target than the best one so far takes its place. -/
theorem Settled.replace {directives : List Directive} {target : Text} {best : Option Directive}
    (settled : Settled directives target best) {directive : Directive}
    (applies : directive.target <+: target)
    (longer : ∀ former ∈ best, former.target.length ≤ directive.target.length) :
    Settled (directives ++ [directive]) target (some directive) where
  applies := applies
  effective := by rw [effective?_append, effective?_singleton, if_pos rfl, Option.some_or]
  longest other front effective := by
    by_cases named : directive.target = other.target
    · exact Nat.le_of_eq (by rw [named])
    · -- What is in effect for another target was in effect before.
      rw [effective?_append, effective?_singleton, if_neg named, Option.none_or] at effective
      cases best with
      | none => exact absurd front (settled other (mem_of_effective? effective).1)
      | some former =>
        exact Nat.le_trans (settled.longest other front effective) (longer former rfl)

/-- A directive with a shorter target than the best one so far leaves it there. -/
theorem Settled.keep {directives : List Directive} {target : Text} {best : Directive}
    (settled : Settled directives target (some best)) {directive : Directive}
    (shorter : directive.target.length < best.target.length) :
    Settled (directives ++ [directive]) target (some best) where
  applies := settled.applies
  effective := by
    have other : directive.target ≠ best.target := by
      intro same
      rw [same] at shorter
      exact absurd shorter (Nat.lt_irrefl _)
    rw [effective?_append, effective?_singleton, if_neg other, Option.none_or]
    exact settled.effective
  longest other front effective := by
    by_cases named : directive.target = other.target
    · rw [← named]
      exact Nat.le_of_lt shorter
    · rw [effective?_append, effective?_singleton, if_neg named, Option.none_or] at effective
      exact settled.longest other front effective

/-- One step of the pass. -/
theorem Settled.step {directives : List Directive} {target : Text} {best : Option Directive}
    (settled : Settled directives target best) (directive : Directive) :
    Settled (directives ++ [directive]) target (prefer target best directive) := by
  rw [prefer]
  by_cases applies : directive.target <+: target
  · rw [(applies_iff directive target).mpr applies, Bool.true_and]
    cases best with
    | none => exact settled.replace applies (by simp)
    | some former =>
      by_cases longer : former.target.length ≤ directive.target.length
      · rw [if_pos (by simpa using longer)]
        exact settled.replace applies (by simpa using longer)
      · rw [if_neg (by simpa using longer)]
        exact settled.keep (Nat.lt_of_not_le longer)
  · have ignored : directive.applies target = false := by
      rw [← Bool.not_eq_true, applies_iff]
      exact applies
    rw [ignored, Bool.false_and, if_neg Bool.false_ne_true]
    exact settled.skip applies

/-- The whole pass. -/
theorem settled_decisive? (directives : List Directive) (target : Text) :
    Settled directives target (decisive? directives target) := by
  rw [decisive?]
  -- Directives are added behind those that were seen, where the later of two is in effect.
  induction directives using List.reverseRecOn with
  | nil =>
    intro directive member
    cases member
  | append_singleton directives directive ih =>
    rw [List.foldl_append]
    exact ih.step directive

/-- Either no directive applies to a target or there is one that decides on it. -/
theorem none_applies_or_exists_decides (directives : List Directive) (target : Text) :
    (∀ directive ∈ directives, ¬ directive.target <+: target) ∨
      ∃ directive, Decides directives target directive := by
  have settled := settled_decisive? directives target
  cases found : decisive? directives target with
  | none =>
    rw [found] at settled
    exact .inl settled
  | some best =>
    rw [found] at settled
    exact .inr ⟨best, settled⟩

theorem decisive?_of_decides {directives : List Directive} {target : Text} {directive : Directive}
    (decides : Decides directives target directive) :
    decisive? directives target = some directive := by
  have settled := settled_decisive? directives target
  cases found : decisive? directives target with
  | none =>
    rw [found] at settled
    exact absurd decides.applies (settled directive (mem_of_effective? decides.effective).1)
  | some best =>
    rw [found] at settled
    rw [Decides.unique settled decides]

theorem decisive?_of_none_applies {directives : List Directive} {target : Text}
    (apart : ∀ directive ∈ directives, ¬ directive.target <+: target) :
    decisive? directives target = none := by
  have settled := settled_decisive? directives target
  cases found : decisive? directives target with
  | none => rfl
  | some best =>
    rw [found] at settled
    exact absurd settled.applies (apart best (mem_of_effective? settled.effective).1)

/-- Whether some directive applies depends on those in effect for the beginnings of the target. -/
theorem none_applies_congr {directives others : List Directive} {target : Text}
    (same : ∀ named, named <+: target → effective? directives named = effective? others named)
    (apart : ∀ directive ∈ directives, ¬ directive.target <+: target) :
    ∀ directive ∈ others, ¬ directive.target <+: target := by
  intro directive member applies
  obtain ⟨last, effective⟩ := exists_effective? member rfl
  rw [← same _ applies] at effective
  obtain ⟨earlier, named⟩ := mem_of_effective? effective
  rw [← named] at applies
  exact apart last earlier applies

end Directive

end LabelExpansion
