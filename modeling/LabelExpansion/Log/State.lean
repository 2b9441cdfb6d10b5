import LabelExpansion.Log.Record
import LabelExpansion.Attempt

/-!
# The log of a process

What a filter is, how it is written and what it passes are up to the library that carries the log,
and of that library no more is taken than a few operations. A process makes layers, each with a
filter of its own, and installs one of them, which it can do only once; from then on a record is
written when the filter of the installed layer passes it. Whoever makes a layer gets a handle that
replaces the filter of this layer as long as the layer is there. A handle that controls no log takes
every text and does nothing.
-/
namespace LabelExpansion

/-- What the program takes from the library that carries its log, whose filters are values of `φ`. A
filter is asked for no more than severity and target, because all records of the program consist of a
message and stand outside of spans. -/
class LogBackend (φ : Type) where
  /-- Reads a filter, or says in a chain of messages why a text is none. -/
  read : Text → Attempt (List String) φ
  /-- The filter of a text, of which everything that cannot be read is ignored. -/
  readLoosely : Text → φ
  /-- Whether a filter passes the records of a severity and a target. -/
  passes : φ → Severity → Text → Bool
  /-- What is said of a handle whose layer is gone. -/
  goneReasons : List String
  /-- What is said where a layer has been installed before. -/
  takenReasons : List String

/-- The layers of a process in the order in which they were made, each with its filter until it is
dropped, and the number of the one that is installed. -/
structure LogState (φ : Type) where
  layers : List (Option φ)
  installed : Option Nat

namespace LogState

variable {φ : Type}

/-- No layer has been made. -/
def empty : LogState φ :=
  ⟨[], none⟩

/-- The filter of a layer, if the layer is there. -/
def filterOf? (log : LogState φ) (layer : Nat) : Option φ :=
  log.layers[layer]?.join

/-- The filter in force. -/
def filter? (log : LogState φ) : Option φ :=
  log.installed.bind log.filterOf?

/-- Makes a layer and tells its number. -/
def make (log : LogState φ) (filter : φ) : LogState φ × Nat :=
  ({ log with layers := log.layers ++ [some filter] }, log.layers.length)

def drop (log : LogState φ) (layer : Nat) : LogState φ :=
  { log with layers := log.layers.set layer none }

/-- Replaces the filter of a layer, if the layer is there. -/
def modify? (log : LogState φ) (layer : Nat) (filter : φ) : Option (LogState φ) :=
  if (log.filterOf? layer).isSome then
    some { log with layers := log.layers.set layer (some filter) }
  else none

/-- Installs a layer, if none has been installed before. -/
def install? (log : LogState φ) (layer : Nat) : Option (LogState φ) :=
  if log.installed.isNone then some { log with installed := some layer } else none

variable [LogBackend φ]

def passes (log : LogState φ) (record : LogRecord) : Bool :=
  log.filter?.any fun filter => LogBackend.passes filter record.severity record.target

/-- The records that are written of those that are told, in their order. -/
def screen (log : LogState φ) (records : List LogRecord) : List LogRecord :=
  records.filter log.passes

end LogState

/-- What the filter of a log is changed through. -/
inductive LogHandle where
  | live (layer : Nat)
  /-- Controls no log. -/
  | detached
  deriving DecidableEq

/-- Why a handle did not replace a filter. -/
inductive UpdateError where
  | invalid (reasons : List String)
  | gone (reasons : List String)
  deriving DecidableEq

instance : Diagnostic UpdateError where
  chain
    | .invalid reasons => "Invalid log filter" :: reasons
    | .gone reasons => "Error updating log filter" :: reasons

namespace LogHandle

/-- The part of the program that the records of changes of the filter name as theirs. -/
def target : Text :=
  "buck2_label_expander::logging".toList

/-- The record of a change to the filter that was read from a text. -/
def updateRecord (text : Text) : LogRecord :=
  .ofMessage .debug target s!"Log filter was updated to: `{spell text}`"

/-- The log behind a change of its filter, and what was written. The new filter is read first, then
put in force, and only then does the record of the change meet what is in force. -/
def update {φ : Type} [LogBackend φ] (log : LogState φ) (text : Text) :
    LogHandle → Attempt UpdateError (LogState φ × List LogRecord)
  | detached => .returned (log, [])
  | live layer => do
    let filter ← (LogBackend.read text).mapError .invalid
    match log.modify? layer filter with
    | none => .failed (.gone (LogBackend.goneReasons φ))
    | some changed => .returned (changed, changed.screen [updateRecord text])

end LogHandle

end LabelExpansion
