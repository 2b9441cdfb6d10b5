import LabelExpansion.Template.Resolution
import LabelExpansion.Template.Run

/-!
# Expanding templates

An expansion is an outcome together with the events that led to it. Expansions are put together as a
monad: the events of the first come before those of the second, and after an ambiguity nothing
more happens. A template is expanded run by run from left to right, and a list of templates template
by template, so no path that was put in is ever looked at again.
-/
namespace LabelExpansion

structure Expansion (α : Type) where
  events : List Event
  outcome : Except Ambiguity α

namespace Expansion

variable {α β : Type}

protected def pure (value : α) : Expansion α :=
  ⟨[], .ok value⟩

protected def bind (first : Expansion α) (next : α → Expansion β) : Expansion β :=
  match first.outcome with
  | .error ambiguity => ⟨first.events, .error ambiguity⟩
  | .ok value =>
    let second := next value
    ⟨first.events ++ second.events, second.outcome⟩

instance : Monad Expansion where
  pure := Expansion.pure
  bind := Expansion.bind

theorem pure_eq (value : α) : (pure value : Expansion α) = ⟨[], .ok value⟩ := rfl

theorem bind_of_error (first : Expansion α) (next : α → Expansion β) (ambiguity : Ambiguity)
    (failed : first.outcome = .error ambiguity) :
    first >>= next = ⟨first.events, .error ambiguity⟩ := by
  simp [bind, Expansion.bind, failed]

theorem bind_of_ok (first : Expansion α) (next : α → Expansion β) (value : α)
    (succeeded : first.outcome = .ok value) :
    first >>= next = ⟨first.events ++ (next value).events, (next value).outcome⟩ := by
  simp [bind, Expansion.bind, succeeded]

instance : LawfulMonad Expansion :=
  LawfulMonad.mk' Expansion
    (fun ⟨events, outcome⟩ => by
      cases outcome <;> simp [Functor.map, Expansion.bind, Expansion.pure])
    (fun _ _ => rfl)
    (fun ⟨events, outcome⟩ second third => by
      cases outcome with
      | error ambiguity => rfl
      | ok value =>
        cases later : (second value).outcome <;> simp [bind, Expansion.bind, later])

end Expansion

/-- Expands templates that belong to the target `anchor`. -/
structure Expander (μ : Type) where
  mapping : μ
  anchor : Label

namespace Expander

variable {μ : Type} [PathMapping μ]

/-- A candidate by itself: one event, and its replacement. -/
def expandCandidate (expander : Expander μ) (candidate : Text) : Expansion Text :=
  let resolution := Resolution.ofCandidate expander.mapping expander.anchor.package candidate
  ⟨[resolution.event expander.anchor candidate], resolution.replacement candidate⟩

def expandRun (expander : Expander μ) : Run → Expansion Text
  | .literal text => pure text
  | .candidate candidate => expander.expandCandidate candidate

def expandTemplate (expander : Expander μ) (template : Text) : Expansion Text := do
  let texts ← (runs template).mapM expander.expandRun
  pure texts.flatten

/-- An absent template expands as the empty one does. -/
def expand (expander : Expander μ) : Option Text → Expansion Text
  | none => pure []
  | some template => expander.expandTemplate template

/-- Each template in turn; the first ambiguity ends it all. -/
def expandAll (expander : Expander μ) (templates : List Text) : Expansion (List Text) :=
  templates.mapM expander.expandTemplate

end Expander

end LabelExpansion
