import LabelExpansion.Forms
import LabelExpansion.Log.Setting
import LabelExpansion.Template.Expansion

/-!
# Sessions

A session expands templates over time. Its state is what a later answer depends on: the log of the
process and the handle that the session has of it, and the anchor with a mapping that is kept in label
order. Each command is answered by a reply or a failure, and a failing command leaves the anchor and
the mapping as they were.
-/
namespace LabelExpansion

structure Session (φ : Type) where
  log : LogState φ
  handle : LogHandle
  expander : Expander OrderedMapping

inductive Command where
  /-- Replaces the log filter. -/
  | setFilter (text : Text)
  /-- Asks a handle that controls no log to replace its filter. -/
  | setDetachedFilter (text : Text)
  /-- Starts the log under a value of the environment variable, also where it was started before. -/
  | startLog (value : Option (List UInt8))
  | setAnchor (label : LabelForm)
  /-- Sets the artifacts of a label. -/
  | insert (label : LabelForm) (artifacts : List ArtifactForm)
  /-- Adds one artifact to those of a label. -/
  | push (label : LabelForm) (artifact : ArtifactForm)
  | remove (label : LabelForm)
  | lookup (label : LabelForm)
  /-- Lists the whole mapping. -/
  | dump
  | expand (template : Option Text)
  | expandAll (templates : List Text)
  deriving DecidableEq

inductive Reply where
  | done
  | label (label : Label)
  | count (count : Nat)
  /-- How many artifacts a label had before, if it was a key. -/
  | formerCount (count : Option Nat)
  | artifacts (artifacts : Option (List Artifact))
  | entries (entries : List Entry)
  | text (text : Text)
  | texts (texts : List Text)
  deriving DecidableEq

/-- Why a command was not carried out. -/
inductive Failure where
  | form (error : FormError)
  | update (error : UpdateError)
  | start (error : StartError)
  | ambiguity (ambiguity : Ambiguity)
  deriving DecidableEq

instance : Diagnostic Failure where
  chain
    | .form error => Diagnostic.chain error
    | .update error => Diagnostic.chain error
    | .start error => Diagnostic.chain error
    | .ambiguity ambiguity => Diagnostic.chain ambiguity

/-- What one command leads to: the next state, the answer, and the records that were written. -/
structure Step (φ : Type) where
  session : Session φ
  answer : Attempt Failure Reply
  records : List LogRecord

end LabelExpansion
