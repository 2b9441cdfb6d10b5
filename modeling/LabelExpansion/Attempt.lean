/-!
# Errors and attempts

An error is a value that says which rule failed and on what. Its explanation is a chain of
messages, from the outermost context to the root cause, and the one-line form joins the chain. Where
a call may also panic, it is an attempt: it returns a value, fails with an error, or panics, and a
panic is no error, for nothing explains it.
-/
namespace LabelExpansion

class Diagnostic (ε : Type) where
  /-- The messages of an error, outermost context first and root cause last. -/
  chain : ε → List String

/-- The whole chain on one line. -/
def Diagnostic.message {ε : Type} [Diagnostic ε] (error : ε) : String :=
  ": ".intercalate (chain error)

/-- What a call comes to that may panic. -/
inductive Attempt (ε α : Type) where
  | returned (value : α)
  | failed (error : ε)
  | panicked
  deriving DecidableEq

namespace Attempt

variable {ε δ α β : Type}

def ofExcept : Except ε α → Attempt ε α
  | .ok value => returned value
  | .error error => failed error

/-- Puts an error into its context. -/
def mapError (context : ε → δ) : Attempt ε α → Attempt δ α
  | returned value => returned value
  | failed error => failed (context error)
  | panicked => panicked

/-- The value, if there is one. -/
def value? : Attempt ε α → Option α
  | returned value => some value
  | failed _ => none
  | panicked => none

protected def bind : Attempt ε α → (α → Attempt ε β) → Attempt ε β
  | returned value, next => next value
  | failed error, _ => failed error
  | panicked, _ => panicked

instance : Monad (Attempt ε) where
  pure := returned
  bind := Attempt.bind

instance : LawfulMonad (Attempt ε) :=
  LawfulMonad.mk' (Attempt ε)
    (fun attempt => by cases attempt <;> rfl)
    (fun _ _ => rfl)
    (fun attempt _ _ => by cases attempt <;> rfl)

/-- A sequence returns when both steps do. -/
theorem bind_eq_returned_iff (first : Attempt ε α) (next : α → Attempt ε β) (result : β) :
    first >>= next = returned result ↔
      ∃ value, first = returned value ∧ next value = returned result := by
  cases first with
  | returned value => simp [bind, Attempt.bind]
  | failed error => simp [bind, Attempt.bind]
  | panicked => simp [bind, Attempt.bind]

end Attempt

end LabelExpansion
