import LabelExpansion.Log.Setting

/-!
# Control of the log

The log is under control when a layer is installed and is still there; the handle of this layer then
decides what is written. The first start that gets a filter brings the log under control. From then
on every start makes a layer, finds the place taken and drops the layer again, so it fails whatever the
variable says, and no layer that was there before is touched. A change of the filter through the
handle can fail for its text alone.
-/
namespace LabelExpansion

namespace LogState

variable {φ : Type}

/-! ## Layers -/

theorem lt_of_filterOf? {log : LogState φ} {layer : Nat} {filter : φ}
    (there : log.filterOf? layer = some filter) : layer < log.layers.length := by
  by_cases bound : layer < log.layers.length
  · exact bound
  · have absent : log.layers[layer]? = none := List.getElem?_eq_none (Nat.le_of_not_lt bound)
    simp [filterOf?, absent] at there

theorem filterOf?_make_new (log : LogState φ) (filter : φ) :
    (log.make filter).1.filterOf? (log.make filter).2 = some filter := by
  simp [filterOf?, make]

theorem filterOf?_make {log : LogState φ} {layer : Nat} (bound : layer < log.layers.length)
    (filter : φ) : (log.make filter).1.filterOf? layer = log.filterOf? layer := by
  simp [filterOf?, make, List.getElem?_append_left bound]

theorem filterOf?_drop (log : LogState φ) {layer other : Nat} (different : layer ≠ other) :
    (log.drop other).filterOf? layer = log.filterOf? layer := by
  simp [filterOf?, drop, List.getElem?_set_ne different.symm]

/-- Only a layer that is gone cannot get another filter, and no other layer gets it. -/
theorem modify?_of_filterOf? {log : LogState φ} {layer : Nat} {former : φ}
    (there : log.filterOf? layer = some former) (filter : φ) :
    ∃ changed, log.modify? layer filter = some changed ∧ changed.installed = log.installed ∧
      changed.filterOf? layer = some filter := by
  refine ⟨{ log with layers := log.layers.set layer (some filter) }, ?_, rfl, ?_⟩
  · rw [modify?, there, Option.isSome_some, if_pos rfl]
  · simp [filterOf?, lt_of_filterOf? there]

/-! ## Control -/

/-- A layer is installed and there, and its filter is in force. -/
structure Controlled (log : LogState φ) (layer : Nat) (filter : φ) : Prop where
  installed : log.installed = some layer
  there : log.filterOf? layer = some filter

theorem Controlled.filter?_eq {log : LogState φ} {layer : Nat} {filter : φ}
    (control : log.Controlled layer filter) : log.filter? = some filter := by
  rw [filter?, control.installed]
  exact control.there

variable [LogBackend φ]

/-- The records that a filter passes of those that are told, in their order. -/
inductive Written (filter : φ) : List LogRecord → List LogRecord → Prop where
  | nothing : Written filter [] []
  | passed (record : LogRecord) (told written : List LogRecord) :
      LogBackend.passes filter record.severity record.target = true → Written filter told written →
      Written filter (record :: told) (record :: written)
  | dropped (record : LogRecord) (told written : List LogRecord) :
      LogBackend.passes filter record.severity record.target = false →
      Written filter told written → Written filter (record :: told) written

section Control

variable {log : LogState φ} {layer : Nat} {filter : φ} (control : log.Controlled layer filter)

include control

theorem Controlled.passes_eq (record : LogRecord) :
    log.passes record = LogBackend.passes filter record.severity record.target := by
  rw [passes, control.filter?_eq]
  rfl

/-- A change asks the library about its text and nothing else, and meets no missing layer. -/
theorem Controlled.update_of_read {text : Text} {changed : φ}
    (read : LogBackend.read text = .returned changed) :
    ∃ next : LogState φ, (LogHandle.live layer).update log text =
        .returned (next, next.screen [LogHandle.updateRecord text]) ∧
      next.Controlled layer changed := by
  obtain ⟨next, modified, installed, there⟩ := modify?_of_filterOf? control.there changed
  refine ⟨next, ?_, installed.trans control.installed, there⟩
  simp only [LogHandle.update, read, Attempt.mapError, bind, Attempt.bind, modified]

omit control in
theorem update_of_failed (log : LogState φ) (layer : Nat) {text : Text} {reasons : List String}
    (read : (LogBackend.read text : Attempt (List String) φ) = .failed reasons) :
    (LogHandle.live layer).update log text = .failed (.invalid reasons) := by
  rw [LogHandle.update, read]
  rfl

omit control in
theorem update_of_panicked (log : LogState φ) (layer : Nat) {text : Text}
    (read : (LogBackend.read text : Attempt (List String) φ) = .panicked) :
    (LogHandle.live layer).update log text = .panicked := by
  rw [LogHandle.update, read]
  rfl

end Control

end LogState

/-! ## Starting -/

namespace LogSetting

theorem byteArray_of_list (bytes : List UInt8) :
    (⟨bytes.toArray⟩ : ByteArray) = bytes.toByteArray :=
  ByteArray.ext List.data_toByteArray.symm

theorem decode?_eq_some_iff (bytes : List UInt8) (text : Text) :
    decode? bytes = some text ↔ Text.utf8 text = bytes := by
  rw [decode?, byteArray_of_list, Option.map_eq_some_iff]
  constructor
  · rintro ⟨string, read, rfl⟩
    rw [String.fromUTF8?] at read
    split at read
    next valid =>
      have own : string.toByteArray = bytes.toByteArray := by
        cases read
        rfl
      -- A string that was checked keeps the bytes it was made of.
      have same : (Text.utf8 string.toList).toByteArray = bytes.toByteArray := by
        rw [Text.toByteArray_utf8, String.ofList_toList, own]
      simpa using congrArg (fun array => array.data.toList) same
    next => cases read
  · rintro rfl
    refine ⟨String.ofList text, ?_, String.toList_ofList⟩
    rw [Text.toByteArray_utf8, String.fromUTF8?, dif_pos (String.ofList text).isValidUTF8]
    rfl

/-- A text is read from its bytes like any other filter. -/
theorem filter_of_read {φ : Type} [LogBackend φ] {text : Text} {filter : φ}
    (read : LogBackend.read text = .returned filter) :
    LogSetting.filter (some (Text.utf8 text)) = .returned filter := by
  have decoded := (decode?_eq_some_iff (Text.utf8 text) text).mpr rfl
  rw [LogSetting.filter, decoded]
  change (LogBackend.read text).mapError _ = _
  rw [read]
  rfl

end LogSetting

namespace LogState

variable {φ : Type} [LogBackend φ] {log : LogState φ}

/-- The first start brings the log under the control of the handle that it returns. -/
theorem start_of_not_installed (vacant : log.installed = none) {value : Option (List UInt8)}
    {filter : φ} (asked : LogSetting.filter value = .returned filter) :
    ∃ layer next, log.start value = (next, .returned (.live layer)) ∧
      next.Controlled layer filter := by
  refine ⟨(log.make filter).2, { (log.make filter).1 with installed := some _ }, ?_, rfl,
    filterOf?_make_new log filter⟩
  have free : (log.make filter).1.installed.isNone = true := by
    rw [Option.isNone_iff_eq_none]
    exact vacant
  rw [start, asked]
  simp only [install?, free, if_true]

/-- Another start gets no handle, and leaves the layer that is installed as it was. -/
theorem Controlled.start_eq {layer : Nat} {filter : φ} (control : log.Controlled layer filter)
    (value : Option (List UInt8)) :
    ∃ next, log.start value = (next, (LogSetting.filter value).bind fun _ : φ =>
        .failed (.notInstalled (LogBackend.takenReasons φ))) ∧
      next.Controlled layer filter := by
  rw [LogState.start]
  cases (LogSetting.filter value : Attempt StartError φ) with
  | panicked => exact ⟨log, rfl, control⟩
  | failed error => exact ⟨log, rfl, control⟩
  | returned other =>
    have occupied : (log.make other).1.installed.isNone = false := by
      change log.installed.isNone = false
      rw [control.installed]
      rfl
    -- The new layer has a number of its own, so dropping it touches no other.
    have bound := lt_of_filterOf? control.there
    have different : layer ≠ (log.make other).2 := Nat.ne_of_lt bound
    refine ⟨(log.make other).1.drop (log.make other).2, ?_, control.installed, ?_⟩
    · simp only [install?, occupied, Bool.false_eq_true, if_false]
      rfl
    · rw [filterOf?_drop _ different, filterOf?_make bound]
      exact control.there

end LogState

end LabelExpansion
