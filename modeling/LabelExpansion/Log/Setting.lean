import LabelExpansion.Log.State

/-!
# Starting the log

The log is started with a filter from an environment variable. The value of the variable is a list of
bytes, which need not be text. It is read before anything else, so a value that is no filter is
reported in preference to a layer that cannot be installed, and such a layer is dropped again.
-/
namespace LabelExpansion

/-- Why the log was not started. -/
inductive StartError where
  | notUnicode
  | unreadable (text : Text) (reasons : List String)
  | notInstalled (reasons : List String)
  deriving DecidableEq

namespace LogSetting

/-- The name of the environment variable. -/
def name : String :=
  "BUCK2_LABEL_EXPANDER_LOG"

/-- What the variable is taken to say when it has no value. -/
def standard : Text :=
  "warn".toList

/-- The text whose UTF-8 bytes are given, if they are those of a text. -/
def decode? (bytes : List UInt8) : Option Text :=
  (String.fromUTF8? ⟨bytes.toArray⟩).map String.toList

/-- The filter that a value of the variable asks for. -/
def filter {φ : Type} [LogBackend φ] : Option (List UInt8) → Attempt StartError φ
  | none => .returned (LogBackend.readLoosely standard)
  | some bytes =>
    match decode? bytes with
    | none => .failed .notUnicode
    | some text => (LogBackend.read text).mapError (.unreadable text)

end LogSetting

instance : Diagnostic StartError where
  chain
    | .notUnicode => [s!"${LogSetting.name} is not unicode"]
    | .unreadable text reasons =>
      s!"Failed to parse ${LogSetting.name} as a filter: `{spell text}`" :: reasons
    | .notInstalled reasons => "Failed to install tracing subscriber" :: reasons

/-- The log behind a start under a value of the variable, and the handle that controls it. -/
def LogState.start {φ : Type} [LogBackend φ] (log : LogState φ) (value : Option (List UInt8)) :
    LogState φ × Attempt StartError LogHandle :=
  match LogSetting.filter value with
  | .panicked => (log, .panicked)
  | .failed error => (log, .failed error)
  | .returned filter =>
    let (made, layer) := log.make filter
    match made.install? layer with
    | some installed => (installed, .returned (.live layer))
    | none => (made.drop layer, .failed (.notInstalled (LogBackend.takenReasons φ)))

end LabelExpansion
