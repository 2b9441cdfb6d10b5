import LabelExpansion.Proofs.Log.Control
import LabelExpansion.Session.Step

/-!
# What commands do to the log

Where the handle of a session controls the log, a change of the filter is refused and nothing happens,
or the new filter is put in force and passes or drops the record of the change. A handle that
controls no log and another start write nothing and leave the filter in force, an expansion writes
what the filter passes, and all other commands are silent. The session stays in control of the log
throughout, so this describes every command of a run. The filter in its turn touches nothing but the
log: no answer depends on it.
-/
namespace LabelExpansion

namespace Session

variable {φ : Type}

/-- The handle of the session controls the log, and the filter is in force. -/
def InControl (session : Session φ) (filter : φ) : Prop :=
  ∃ layer, session.handle = .live layer ∧ session.log.Controlled layer filter

theorem InControl.filter?_eq {session : Session φ} {filter : φ}
    (control : session.InControl filter) : session.log.filter? = some filter := by
  obtain ⟨layer, -, controlled⟩ := control
  exact controlled.filter?_eq

variable [LogBackend φ]

/-! ## Commands about the log -/

/-- The commands that have to do with the log: they would change it or they write to it. -/
inductive ConcernsLog : Command → Prop where
  | setFilter (text : Text) : ConcernsLog (.setFilter text)
  | setDetachedFilter (text : Text) : ConcernsLog (.setDetachedFilter text)
  | startLog (value : Option (List UInt8)) : ConcernsLog (.startLog value)
  | expand (template : Option Text) : ConcernsLog (.expand template)
  | expandAll (templates : List Text) : ConcernsLog (.expandAll templates)

/-- A command that has nothing to do with the log changes the anchor or the mapping, and how does not
depend on anything else. -/
theorem concernsLog_or_silent (φ : Type) [LogBackend φ] (command : Command) :
    ConcernsLog command ∨ ¬ ConcernsLog command ∧
      ∃ change : Expander OrderedMapping → Except FormError (Reply × Expander OrderedMapping),
        ∀ session : Session φ, session.step command = session.silent (change session.expander) := by
  cases command with
  | setFilter text => exact .inl (.setFilter text)
  | setDetachedFilter text => exact .inl (.setDetachedFilter text)
  | startLog value => exact .inl (.startLog value)
  | expand template => exact .inl (.expand template)
  | expandAll templates => exact .inl (.expandAll templates)
  | setAnchor form => exact .inr ⟨nofun, (·.setAnchor form), fun _ => rfl⟩
  | insert form artifacts => exact .inr ⟨nofun, (·.insert form artifacts), fun _ => rfl⟩
  | push form artifact => exact .inr ⟨nofun, (·.push form artifact), fun _ => rfl⟩
  | remove form => exact .inr ⟨nofun, (·.remove form), fun _ => rfl⟩
  | lookup form => exact .inr ⟨nofun, (·.lookup form), fun _ => rfl⟩
  | dump => exact .inr ⟨nofun, Expander.dump, fun _ => rfl⟩

/-- The answer to a start where the log was started before. -/
def startAnswer (φ : Type) [LogBackend φ] (value : Option (List UInt8)) : Attempt Failure Reply :=
  ((LogSetting.filter value).mapError Failure.start).bind fun _ : φ =>
    .failed (.start (.notInstalled (LogBackend.takenReasons φ)))

/-- Where no log was started, a start brings the session in control. -/
theorem inControl_startLog {session : Session φ} (vacant : session.log.installed = none)
    {value : Option (List UInt8)} {filter : φ}
    (asked : LogSetting.filter value = .returned filter) :
    (session.startLog value).answer = .returned .done ∧
      (session.startLog value).session.InControl filter := by
  obtain ⟨layer, next, started, controlled⟩ := LogState.start_of_not_installed vacant asked
  rw [startLog, started]
  exact ⟨rfl, layer, rfl, controlled⟩

/-- Sessions begin in control of the log, with the standard filter. -/
theorem inControl_start (scope : Scope) :
    (start scope : Session φ).InControl (LogBackend.readLoosely LogSetting.standard) :=
  (inControl_startLog rfl rfl).2

section Commands

variable {session : Session φ} {filter : φ} (control : session.InControl filter)

include control

theorem InControl.step_setFilter_of_returned {text : Text} {changed : φ}
    (read : LogBackend.read text = .returned changed) :
    ∃ log, session.step (.setFilter text) = ⟨{ session with log }, .returned .done,
        log.screen [LogHandle.updateRecord text]⟩ ∧
      ({ session with log } : Session φ).InControl changed := by
  obtain ⟨layer, live, controlled⟩ := control
  obtain ⟨log, updated, next⟩ := controlled.update_of_read read
  refine ⟨log, ?_, layer, live, next⟩
  rw [step, update, live, updated]

theorem InControl.step_setFilter_of_failed {text : Text} {reasons : List String}
    (read : (LogBackend.read text : Attempt (List String) φ) = .failed reasons) :
    session.step (.setFilter text) = ⟨session, .failed (.update (.invalid reasons)), []⟩ := by
  obtain ⟨layer, live, -⟩ := control
  rw [step, update, live, LogState.update_of_failed session.log layer read]

theorem InControl.step_setFilter_of_panicked {text : Text}
    (read : (LogBackend.read text : Attempt (List String) φ) = .panicked) :
    session.step (.setFilter text) = ⟨session, .panicked, []⟩ := by
  obtain ⟨layer, live, -⟩ := control
  rw [step, update, live, LogState.update_of_panicked session.log layer read]

theorem InControl.step_startLog (value : Option (List UInt8)) :
    ∃ log, session.step (.startLog value) = ⟨{ session with log }, startAnswer φ value, []⟩ ∧
      ({ session with log } : Session φ).InControl filter := by
  obtain ⟨layer, live, controlled⟩ := control
  obtain ⟨log, started, next⟩ := controlled.start_eq value
  refine ⟨log, ?_, layer, live, next⟩
  rw [step, startLog, started, startAnswer]
  cases (LogSetting.filter value : Attempt StartError φ) <;> rfl

end Commands

/-! ## What a command has to lead to -/

/-- How a start is answered where the log was started before: what is wrong with the value of the
variable is reported, and of a value that is right that there is a layer already. -/
inductive NotStarted (φ : Type) [LogBackend φ] :
    Option (List UInt8) → Attempt Failure Reply → Prop where
  | unset : NotStarted φ none (.failed (.start (.notInstalled (LogBackend.takenReasons φ))))
  | notUnicode (bytes : List UInt8) : (∀ text, Text.utf8 text ≠ bytes) →
      NotStarted φ (some bytes) (.failed (.start .notUnicode))
  | readable (text : Text) (filter : φ) : LogBackend.read text = .returned filter →
      NotStarted φ (some (Text.utf8 text))
        (.failed (.start (.notInstalled (LogBackend.takenReasons φ))))
  | unreadable (text : Text) (reasons : List String) :
      (LogBackend.read text : Attempt (List String) φ) = .failed reasons →
      NotStarted φ (some (Text.utf8 text)) (.failed (.start (.unreadable text reasons)))
  | panicking (text : Text) : (LogBackend.read text : Attempt (List String) φ) = .panicked →
      NotStarted φ (some (Text.utf8 text)) .panicked

/-- How a command of expansion is answered, and what is told of it. -/
inductive Expands (expander : Expander OrderedMapping) :
    Command → Attempt Failure Reply → List Event → Prop where
  | text (template : Option Text) (text : Text) :
      (expander.expand template).outcome = .ok text →
      Expands expander (.expand template) (.returned (.text text))
        (expander.expand template).events
  | ambiguous (template : Option Text) (ambiguity : Ambiguity) :
      (expander.expand template).outcome = .error ambiguity →
      Expands expander (.expand template) (.failed (.ambiguity ambiguity))
        (expander.expand template).events
  | texts (templates : List Text) (texts : List Text) :
      (expander.expandAll templates).outcome = .ok texts →
      Expands expander (.expandAll templates) (.returned (.texts texts))
        (expander.expandAll templates).events
  | ambiguousElement (templates : List Text) (ambiguity : Ambiguity) :
      (expander.expandAll templates).outcome = .error ambiguity →
      Expands expander (.expandAll templates) (.failed (.ambiguity ambiguity))
        (expander.expandAll templates).events

/-- What a command leads to while a filter is in force: the answer, the records that are written, and
the filter that is in force next. -/
inductive Conduct (expander : Expander OrderedMapping) (current : φ) :
    Command → Attempt Failure Reply → List LogRecord → φ → Prop where
  | told (text : Text) (filter : φ) : LogBackend.read text = .returned filter →
      LogBackend.passes filter .debug "buck2_label_expander::logging".toList = true →
      Conduct expander current (.setFilter text) (.returned .done)
        [LogHandle.updateRecord text] filter
  | untold (text : Text) (filter : φ) : LogBackend.read text = .returned filter →
      LogBackend.passes filter .debug "buck2_label_expander::logging".toList = false →
      Conduct expander current (.setFilter text) (.returned .done) [] filter
  | refused (text : Text) (reasons : List String) :
      (LogBackend.read text : Attempt (List String) φ) = .failed reasons →
      Conduct expander current (.setFilter text) (.failed (.update (.invalid reasons))) [] current
  | panicked (text : Text) : (LogBackend.read text : Attempt (List String) φ) = .panicked →
      Conduct expander current (.setFilter text) .panicked [] current
  | detached (text : Text) :
      Conduct expander current (.setDetachedFilter text) (.returned .done) [] current
  | notStarted (value : Option (List UInt8)) (answer : Attempt Failure Reply) :
      NotStarted φ value answer → Conduct expander current (.startLog value) answer [] current
  | expanded (command : Command) (answer : Attempt Failure Reply) (events : List Event)
      (records : List LogRecord) : Expands expander command answer events →
      LogState.Written current (events.map Event.record) records →
      Conduct expander current command answer records current
  | apart (command : Command) (answer : Attempt Failure Reply) : ¬ ConcernsLog command →
      Conduct expander current command answer [] current

/-- Another start is answered with an error, unless reading its filter panics. -/
theorem NotStarted.fails {value : Option (List UInt8)} {answer : Attempt Failure Reply}
    (notStarted : NotStarted φ value answer)
    (orderly : ∀ text, value = some (Text.utf8 text) →
      (LogBackend.read text : Attempt (List String) φ) ≠ .panicked) :
    ∃ error, answer = .failed (.start error) := by
  cases notStarted with
  | unset => exact ⟨_, rfl⟩
  | notUnicode bytes _ => exact ⟨_, rfl⟩
  | readable text filter _ => exact ⟨_, rfl⟩
  | unreadable text reasons _ => exact ⟨_, rfl⟩
  | panicking text panics => exact absurd panics (orderly text rfl)

variable {session : Session φ} {filter : φ} (control : session.InControl filter)

include control

end Session

end LabelExpansion
