import LabelExpansion.Session.Basic

/-!
# Carrying out commands

A new filter is put in force before anything is told of it. Every other record meets the filter that
was in force when its command was given. Labels are read relative to the package of the anchor,
except for a new anchor, which does not depend on the old one. What is not about the log is done to
the anchor and the mapping alone, and cannot touch the log.
-/
namespace LabelExpansion

namespace Expander

/-! ## The anchor and the mapping -/

def readLabel (expander : Expander OrderedMapping) (form : LabelForm) : Except FormError Label :=
  form.read expander.anchor.package

def artifactsOf (expander : Expander OrderedMapping) (label : Label) : Option (List Artifact) :=
  ArtifactMapping.artifacts? expander.mapping label

def insert (expander : Expander OrderedMapping) (label : LabelForm)
    (artifacts : List ArtifactForm) : Except FormError (Reply × Expander OrderedMapping) := do
  let label ← expander.readLabel label
  let artifacts ← artifacts.mapM ArtifactForm.read
  pure (.formerCount ((expander.artifactsOf label).map List.length),
    { expander with mapping := expander.mapping.insert label artifacts })

def push (expander : Expander OrderedMapping) (label : LabelForm) (artifact : ArtifactForm) :
    Except FormError (Reply × Expander OrderedMapping) := do
  let label ← expander.readLabel label
  let artifact ← artifact.read
  let artifacts := (expander.artifactsOf label).getD [] ++ [artifact]
  pure (.count artifacts.length,
    { expander with mapping := expander.mapping.insert label artifacts })

def remove (expander : Expander OrderedMapping) (label : LabelForm) :
    Except FormError (Reply × Expander OrderedMapping) := do
  let label ← expander.readLabel label
  pure (.formerCount ((expander.artifactsOf label).map List.length),
    { expander with mapping := expander.mapping.erase label })

def lookup (expander : Expander OrderedMapping) (label : LabelForm) :
    Except FormError (Reply × Expander OrderedMapping) := do
  let label ← expander.readLabel label
  pure (.artifacts (expander.artifactsOf label), expander)

/-- An anchor stands for itself: it is read relative to the root of the main repository, and not to
the package of the anchor that it replaces. -/
def setAnchor (expander : Expander OrderedMapping) (label : LabelForm) :
    Except FormError (Reply × Expander OrderedMapping) := do
  let anchor ← label.read Package.root
  pure (.label anchor, { expander with anchor })

def dump (expander : Expander OrderedMapping) :
    Except FormError (Reply × Expander OrderedMapping) :=
  pure (.entries expander.mapping.toList, expander)

end Expander

namespace Session

variable {φ : Type}

/-- A command that writes nothing: either it fails and the state stays, or it leads to a reply and
another anchor or mapping. -/
def silent (session : Session φ)
    (result : Except FormError (Reply × Expander OrderedMapping)) : Step φ :=
  match result with
  | .error error => ⟨session, .failed (.form error), []⟩
  | .ok (reply, expander) => ⟨{ session with expander }, .returned reply, []⟩

variable [LogBackend φ]

/-- A command that expands and keeps the state. -/
def expanding {α : Type} (session : Session φ) (reply : α → Reply) (expansion : Expansion α) :
    Step φ where
  session := session
  answer := .ofExcept ((expansion.outcome.map reply).mapError .ambiguity)
  records := session.log.screen (expansion.events.map Event.record)

/-- Replaces the filter of a handle, be it that of the session or another one. -/
def update (session : Session φ) (handle : LogHandle) (text : Text) : Step φ :=
  match handle.update session.log text with
  | .panicked => ⟨session, .panicked, []⟩
  | .failed error => ⟨session, .failed (.update error), []⟩
  | .returned (log, records) => ⟨{ session with log }, .returned .done, records⟩

/-- Starts the log and keeps the handle that controls it. -/
def startLog (session : Session φ) (value : Option (List UInt8)) : Step φ :=
  match session.log.start value with
  | (log, .panicked) => ⟨{ session with log }, .panicked, []⟩
  | (log, .failed error) => ⟨{ session with log }, .failed (.start error), []⟩
  | (log, .returned handle) => ⟨{ session with log, handle }, .returned .done, []⟩

def step (session : Session φ) : Command → Step φ
  | .setFilter text => session.update session.handle text
  | .setDetachedFilter text => session.update .detached text
  | .startLog value => session.startLog value
  | .setAnchor label => session.silent (session.expander.setAnchor label)
  | .insert label artifacts => session.silent (session.expander.insert label artifacts)
  | .push label artifact => session.silent (session.expander.push label artifact)
  | .remove label => session.silent (session.expander.remove label)
  | .lookup label => session.silent (session.expander.lookup label)
  | .dump => session.silent session.expander.dump
  | .expand template => session.expanding .text (session.expander.expand template)
  | .expandAll templates => session.expanding .texts (session.expander.expandAll templates)

/-- The steps of commands that are given one after another. -/
def run (session : Session φ) : List Command → List (Step φ)
  | [] => []
  | command :: rest =>
    let step := session.step command
    step :: step.session.run rest

/-- A session of a process that has not started its log. -/
def unlogged (scope : Scope) : Session φ :=
  ⟨.empty, .detached, ⟨.ofEntries scope.entries, scope.anchor⟩⟩

/-- The state in which sessions begin: the log is started without a value of the variable. -/
def start (scope : Scope) : Session φ :=
  ((unlogged scope).step (.startLog none)).session

end Session

end LabelExpansion
