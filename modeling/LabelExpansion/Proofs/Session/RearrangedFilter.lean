import LabelExpansion.Proofs.Log.Reading
import LabelExpansion.Proofs.Log.Rearrangement
import LabelExpansion.Proofs.Session.FilterInForce

/-!
# Sessions under rearranged filters

Of a filter a session shows no more than which records pass it. Two sessions that control logs with
filters which pass the same records of expansions are told apart by no run of commands: expansions
leave the same records behind, changes of the filter meet the new filter only, and all other commands
ignore it. Whatever library carries the log, if its filters follow the rules of directives, a filter
may therefore be rearranged in front of any run, and so may it be where only the record of its own
change is looked at, which then differs in the text that it quotes and in nothing else.
-/
namespace LabelExpansion

namespace Session

variable {φ : Type} [LogBackend φ]

/-- What is seen of a step from outside: its answer and what it left in the log. -/
def told (step : Step φ) : Attempt Failure Reply × List LogRecord :=
  (step.answer, step.records)

/-- Sessions that are the same but for their logs, which pass the same records of expansions. -/
structure Alike (session other : Session φ) : Prop where
  expander : other.expander = session.expander
  passes : ∃ filter changed : φ, session.InControl filter ∧ other.InControl changed ∧
    ∀ event : Event, LogBackend.passes changed event.severity Event.target =
      LogBackend.passes filter event.severity Event.target

theorem InControl.passes_eq {session : Session φ} {filter : φ} (control : session.InControl filter)
    (record : LogRecord) :
    session.log.passes record = LogBackend.passes filter record.severity record.target := by
  obtain ⟨layer, -, controlled⟩ := control
  exact controlled.passes_eq record

theorem InControl.screen_eq {session other : Session φ} {filter : φ}
    (control : session.InControl filter) (controlOther : other.InControl filter)
    (records : List LogRecord) : other.log.screen records = session.log.screen records := by
  refine List.filter_congr ?_
  intro record _
  rw [control.passes_eq, controlOther.passes_eq]

section Alike

variable {session other : Session φ} (alike : Alike session other)

include alike

theorem Alike.screen (events : List Event) :
    other.log.screen (events.map Event.record) = session.log.screen (events.map Event.record) := by
  obtain ⟨filter, changed, control, controlOther, passes⟩ := alike.passes
  refine List.filter_congr ?_
  intro record member
  obtain ⟨event, -, rfl⟩ := List.mem_map.mp member
  rw [control.passes_eq, controlOther.passes_eq]
  exact passes event

theorem Alike.expanding {α : Type} (reply : α → Reply) (expansion : Expansion α) :
    told (other.expanding reply expansion) = told (session.expanding reply expansion) := by
  rw [told, told, Session.expanding, Session.expanding, alike.screen]

theorem Alike.silent
    (change : Expander OrderedMapping → Except FormError (Reply × Expander OrderedMapping)) :
    told (other.silent (change other.expander)) = told (session.silent (change session.expander)) ∧
      Alike (session.silent (change session.expander)).session
        (other.silent (change other.expander)).session := by
  rw [alike.expander]
  cases change session.expander with
  | error error => exact ⟨rfl, alike.expander, alike.passes⟩
  | ok outcome => exact ⟨rfl, rfl, alike.passes⟩

theorem Alike.setFilter (text : Text) :
    told (other.step (.setFilter text)) = told (session.step (.setFilter text)) ∧
      Alike (session.step (.setFilter text)).session (other.step (.setFilter text)).session := by
  obtain ⟨filter, changed, control, controlOther, passes⟩ := alike.passes
  cases read : (LogBackend.read text : Attempt (List String) φ) with
  | returned accepted =>
    -- From here on both sessions have the new filter.
    obtain ⟨log, stepped, next⟩ := control.step_setFilter_of_returned read
    obtain ⟨logOther, steppedOther, nextOther⟩ := controlOther.step_setFilter_of_returned read
    rw [stepped, steppedOther, told, told]
    have records := next.screen_eq nextOther [LogHandle.updateRecord text]
    exact ⟨congrArg _ records, alike.expander, accepted, accepted, next, nextOther, fun _ => rfl⟩
  | failed reasons =>
    rw [control.step_setFilter_of_failed read, controlOther.step_setFilter_of_failed read]
    exact ⟨rfl, alike⟩
  | panicked =>
    rw [control.step_setFilter_of_panicked read, controlOther.step_setFilter_of_panicked read]
    exact ⟨rfl, alike⟩

theorem Alike.startLog (value : Option (List UInt8)) :
    told (other.step (.startLog value)) = told (session.step (.startLog value)) ∧
      Alike (session.step (.startLog value)).session (other.step (.startLog value)).session := by
  obtain ⟨filter, changed, control, controlOther, passes⟩ := alike.passes
  obtain ⟨log, stepped, next⟩ := control.step_startLog value
  obtain ⟨logOther, steppedOther, nextOther⟩ := controlOther.step_startLog value
  rw [stepped, steppedOther]
  exact ⟨rfl, alike.expander, filter, changed, next, nextOther, passes⟩

/-- No command tells alike sessions apart, and each leaves them alike. -/
theorem Alike.step (command : Command) :
    told (other.step command) = told (session.step command) ∧
      Alike (session.step command).session (other.step command).session := by
  rcases concernsLog_or_silent φ command with concerned | ⟨-, change, silent⟩
  · cases concerned with
    | setFilter text => exact alike.setFilter text
    | setDetachedFilter text => exact ⟨rfl, alike⟩
    | startLog value => exact alike.startLog value
    | expand template =>
      rw [Session.step, Session.step, alike.expander]
      exact ⟨alike.expanding _ _, alike⟩
    | expandAll templates =>
      rw [Session.step, Session.step, alike.expander]
      exact ⟨alike.expanding _ _, alike⟩
  · rw [silent, silent]
    exact alike.silent change

/-- No run of commands tells alike sessions apart. -/
theorem Alike.run (commands : List Command) :
    (other.run commands).map told = (session.run commands).map told := by
  induction commands generalizing session other with
  | nil => rfl
  | cons command rest ih =>
    obtain ⟨same, later⟩ := alike.step command
    rw [Session.run, Session.run, List.map_cons, List.map_cons, same, ih later]

end Alike

/-! ## A change of the filter and what follows -/

theorem severity_ne_error (event : Event) : event.severity ≠ .error := by
  cases event <;> nofun

variable {directive? : Text → Option Directive} (rules : DirectiveRules φ directive?)

include rules

/-- Let the filters follow the rules of directives. A filter that is rearranged for the records of
expansions, or for those of changes of the filter, is accepted too and passes the same of these
records, whether it is put in force by a change or by the first start. The targets that the changes
of a rearrangement look at are those that the plain pieces of the filter name. -/
theorem rearranged_filters_log_alike {session : Session φ} {first : φ}
    (control : session.InControl first) {text : Text} (spanless : Spanless text) {filter : φ}
    (accepted : LogBackend.read text = .returned filter) (other : Text) :
    (Rearranges directive? Event.target text other →
      ∃ changed : φ, LogBackend.read other = .returned changed ∧
        (session.step (.setFilter other)).answer = .returned .done ∧
        (∀ event : Event, LogBackend.passes changed event.severity Event.target =
          LogBackend.passes filter event.severity Event.target) ∧
        (∀ commands, ((session.step (.setFilter other)).session.run commands).map told =
          ((session.step (.setFilter text)).session.run commands).map told) ∧
        ∀ fresh : Session φ, fresh.log.installed = none → ∀ commands,
          ((fresh.step (.startLog (some (Text.utf8 other)))).session.run commands).map told =
            ((fresh.step (.startLog (some (Text.utf8 text)))).session.run commands).map told) ∧
    (Rearranges directive? LogHandle.target text other →
      ∃ changed : φ, LogBackend.read other = .returned changed ∧
        (session.step (.setFilter other)).answer = .returned .done ∧
        LogBackend.passes changed .debug LogHandle.target =
          LogBackend.passes filter .debug LogHandle.target ∧
        (session.step (.setFilter other)).records =
          (session.step (.setFilter text)).records.map fun _ => LogHandle.updateRecord other) ∧
    ∀ piece ∈ Text.pieces ',' text, Directive.Plain piece →
      ∃ directive, Directive.Means piece directive ∧
        target? directive? piece = some directive.target := by
  obtain ⟨log, stepped, next⟩ := control.step_setFilter_of_returned accepted
  refine ⟨?_, ?_, fun piece member plain => rules.means_of_plain spanless accepted member plain⟩
  · intro rearranged
    obtain ⟨changed, read, same⟩ := rules.rearranged rearranged spanless accepted
    have passes (event : Event) := same event.severity (severity_ne_error event)
    obtain ⟨logOther, steppedOther, nextOther⟩ := control.step_setFilter_of_returned read
    refine ⟨changed, read, ?_, passes, ?_, ?_⟩
    · rw [steppedOther]
    · rw [stepped, steppedOther]
      exact Alike.run ⟨rfl, filter, changed, next, nextOther, passes⟩
    · intro fresh vacant
      -- The filters are read from the variable as they are from a change.
      have asked := LogSetting.filter_of_read accepted
      have askedOther := LogSetting.filter_of_read read
      refine Alike.run ⟨?_, filter, changed, (inControl_startLog vacant asked).2,
        (inControl_startLog vacant askedOther).2, passes⟩
      exact (fresh.expander_startLog _).trans (fresh.expander_startLog _).symm
  · intro rearranged
    obtain ⟨changed, read, same⟩ := rules.rearranged rearranged spanless accepted
    have passes := same .debug (by decide)
    obtain ⟨logOther, steppedOther, nextOther⟩ := control.step_setFilter_of_returned read
    refine ⟨changed, read, ?_, passes, ?_⟩
    · rw [steppedOther]
    · rw [stepped, steppedOther]
      change logOther.screen [_] = (log.screen [_]).map _
      -- A filter looks at severity and target, which both records of the change share.
      have told : logOther.passes (LogHandle.updateRecord other) =
          log.passes (LogHandle.updateRecord text) := by
        rw [nextOther.passes_eq, next.passes_eq]
        exact passes
      cases passed : log.passes (LogHandle.updateRecord text) <;>
        simp [LogState.screen, told, passed]

omit rules

/-- One change of each kind. -/
theorem overruled_directives_go_unnoticed :
    (∃ filter changed : Filter,
      LogBackend.read "info,buck2=off,hyper=debug,buck2=trace".toList = .returned filter ∧
      LogBackend.read ",buck2=trace,info".toList = .returned changed ∧
      ∀ event : Event, LogBackend.passes changed event.severity Event.target =
        LogBackend.passes filter event.severity Event.target) ∧
    ((start ⟨⟨.root, ⟨"app".toList⟩⟩, []⟩ : Session Filter).step
      (.setFilter ",buck2=trace,info".toList)).records =
        [LogHandle.updateRecord ",buck2=trace,info".toList] := by
  have accepted : LogBackend.read "info,buck2=off,hyper=debug,buck2=trace".toList =
      Attempt.returned (⟨[⟨[], .upTo .info⟩, ⟨"buck2".toList, .off⟩, ⟨"hyper".toList, .upTo .debug⟩,
        ⟨"buck2".toList, .upTo .trace⟩]⟩ : Filter) := rfl
  have cut : Text.pieces ',' "info,buck2=off,hyper=debug,buck2=trace".toList =
      ["info".toList, "buck2=off".toList, "hyper=debug".toList, "buck2=trace".toList] := by decide
  have spanless : Spanless "info,buck2=off,hyper=debug,buck2=trace".toList := by
    rw [Spanless, cut]
    decide
  have rearranged (target : Text) (apart : ¬ "hyper".toList <+: target) :
      Rearranges Filter.directive? target "info,buck2=off,hyper=debug,buck2=trace".toList
        ",buck2=trace,info".toList := by
    refine ⟨[[], "buck2=trace".toList, "info".toList], ?_, by decide⟩
    rw [cut]
    refine .head (.superseded ["info".toList] _ _ "buck2".toList "buck2=trace".toList
      (by decide) (by simp) (by decide)) ?_
    refine .head (.inapplicable ["info".toList] _ _ "hyper".toList (by decide) apart) ?_
    refine .head (adjusts_swap Filter.directive? target [] [] (by decide)) ?_
    exact .single (.empty [] ["buck2=trace".toList, "info".toList])
  obtain ⟨expansions, changes, -⟩ := rearranged_filters_log_alike Filter.directiveRules
    (inControl_start ⟨⟨.root, ⟨"app".toList⟩⟩, []⟩) spanless accepted ",buck2=trace,info".toList
  obtain ⟨changed, read, -, passes, -⟩ := expansions (rearranged _ (by decide))
  obtain ⟨-, -, -, -, records⟩ := changes (rearranged _ (by decide))
  exact ⟨⟨_, changed, accepted, read, passes⟩, records⟩

end Session

end LabelExpansion
