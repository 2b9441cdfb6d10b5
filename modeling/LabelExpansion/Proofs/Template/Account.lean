import LabelExpansion.Proofs.Template.Specification
import LabelExpansion.Proofs.Template.Wording

/-!
# The log accounts for the expansion

An expansion tells of its candidates one by one, from left to right, and stops with the first that
is ambiguous. So the events and the outcome of an expansion never get out of step: a result can be
put together again from the template and the events alone, and an error is the one that the last
event tells of. Literals are passed over in silence.
-/
namespace LabelExpansion

namespace Expansion

variable {α β γ : Type}

theorem events_bind_pure (first : Expansion α) (f : α → β) :
    (first >>= fun value => pure (f value)).events = first.events := by
  cases result : first.outcome with
  | error ambiguity => rw [bind_of_error _ _ _ result]
  | ok value => rw [bind_of_ok _ _ _ result, pure_eq, List.append_nil]

theorem events_mapM_cons (f : α → Expansion β) {x : α} (rest : List α)
    (succeeds : ∃ value, (f x).outcome = .ok value) :
    ((x :: rest).mapM f).events = (f x).events ++ (rest.mapM f).events := by
  obtain ⟨value, first⟩ := succeeds
  rw [List.mapM_cons, bind_of_ok _ _ _ first, events_bind_pure]

/-- A traversal that succeeds everywhere tells of everything. -/
theorem events_mapM_of_ok (f : α → Expansion β) {xs : List α}
    (succeed : ∀ x ∈ xs, ∃ value, (f x).outcome = .ok value) :
    (xs.mapM f).events = xs.flatMap fun x => (f x).events := by
  induction xs with
  | nil => rfl
  | cons x rest ih =>
    obtain ⟨first, later⟩ := List.forall_mem_cons.mp succeed
    rw [events_mapM_cons f rest first, ih later, List.flatMap_cons]

/-- A traversal that fails tells of nothing behind the failure. -/
theorem events_mapM_of_error (f : α → Expansion β) {before : List α} {x : α} (after : List α)
    {ambiguity : Ambiguity} (succeed : ∀ y ∈ before, ∃ value, (f y).outcome = .ok value)
    (fails : (f x).outcome = .error ambiguity) :
    ((before ++ x :: after).mapM f).events = (before ++ [x]).flatMap fun y => (f y).events := by
  induction before with
  | nil =>
    rw [List.nil_append, List.mapM_cons, bind_of_error _ _ _ fails]
    simp
  | cons y others ih =>
    obtain ⟨first, later⟩ := List.forall_mem_cons.mp succeed
    rw [List.cons_append, events_mapM_cons f _ first, ih later, List.cons_append,
      List.flatMap_cons]

end Expansion

namespace Expander

variable {μ : Type} [PathMapping μ] (expander : Expander μ)

/-- The event of a candidate. -/
def eventOf (candidate : Text) : Event :=
  (Resolution.ofCandidate expander.mapping expander.anchor.package candidate).event
    expander.anchor candidate

theorem eventOf_of_malformed {candidate : Text} {error : LabelError}
    (read : Label.parse candidate expander.anchor.package = .error error) :
    expander.eventOf candidate = .malformed candidate error := by
  simp only [eventOf, Resolution.ofCandidate, read, Resolution.event]

theorem eventOf_of_unmapped {candidate : Text} {label : Label}
    (read : Label.parse candidate expander.anchor.package = .ok label)
    (missing : PathMapping.paths? expander.mapping label = none) :
    expander.eventOf candidate = .unmapped candidate label := by
  simp only [eventOf, Resolution.ofCandidate, read, missing, Resolution.event]

variable {expander}

theorem eventOf_of_one {candidate : Text} {label : Label} {path : Text}
    (bound : expander.Bound candidate label [path]) :
    expander.eventOf candidate = .expanded candidate path := by
  simp only [eventOf, Resolution.ofCandidate, bound.1, bound.2, Resolution.event]

theorem eventOf_of_several {candidate : Text} {label : Label} {paths : List Text}
    (bound : expander.Bound candidate label paths) (several : paths.length ≠ 1) :
    expander.eventOf candidate = .ambiguous candidate expander.anchor paths.length := by
  simp only [eventOf, Resolution.ofCandidate, bound.1, bound.2]
  split
  next impossible => cases impossible
  next path one =>
    cases one
    exact absurd rfl several
  next other _ same =>
    cases same
    rfl

/-- The four ways in which a candidate is resolved, each with the event that is due to it. -/
inductive Told (expander : Expander μ) (candidate : Text) : Event → Prop where
  | malformed (error : LabelError) :
      Label.parse candidate expander.anchor.package = .error error →
      Told expander candidate (.malformed candidate error)
  | unmapped (label : Label) : Label.parse candidate expander.anchor.package = .ok label →
      PathMapping.paths? expander.mapping label = none →
      Told expander candidate (.unmapped candidate label)
  | expanded (label : Label) (path : Text) : expander.Bound candidate label [path] →
      Told expander candidate (.expanded candidate path)
  | ambiguous (label : Label) (paths : List Text) : expander.Bound candidate label paths →
      paths.length ≠ 1 →
      Told expander candidate (.ambiguous candidate expander.anchor paths.length)

theorem told_eventOf (expander : Expander μ) (candidate : Text) :
    expander.Told candidate (expander.eventOf candidate) := by
  cases read : Label.parse candidate expander.anchor.package with
  | error error =>
    rw [expander.eventOf_of_malformed read]
    exact .malformed error read
  | ok label =>
    cases found : PathMapping.paths? expander.mapping label with
    | none =>
      rw [expander.eventOf_of_unmapped read found]
      exact .unmapped label read found
    | some paths =>
      by_cases one : paths.length = 1
      · obtain ⟨path, rfl⟩ := List.length_eq_one_iff.mp one
        rw [eventOf_of_one ⟨read, found⟩]
        exact .expanded label path ⟨read, found⟩
      · rw [eventOf_of_several ⟨read, found⟩ one]
        exact .ambiguous label paths ⟨read, found⟩ one

theorem eventOf_eq_iff {candidate : Text} {event : Event} :
    expander.eventOf candidate = event ↔ expander.Told candidate event := by
  constructor
  · rintro rfl
    exact told_eventOf expander candidate
  · intro told
    cases told with
    | malformed error read => exact expander.eventOf_of_malformed read
    | unmapped label read missing => exact expander.eventOf_of_unmapped read missing
    | expanded label path bound => exact eventOf_of_one bound
    | ambiguous label paths bound several => exact eventOf_of_several bound several

theorem eventOf_eq_malformed_iff (candidate : Text) (error : LabelError) :
    expander.eventOf candidate = .malformed candidate error ↔
      Label.parse candidate expander.anchor.package = .error error := by
  rw [eventOf_eq_iff]
  constructor
  · intro told
    cases told with
    | malformed _ read => exact read
  · exact .malformed error

theorem eventOf_eq_unmapped_iff (candidate : Text) (label : Label) :
    expander.eventOf candidate = .unmapped candidate label ↔
      Label.parse candidate expander.anchor.package = .ok label ∧
        PathMapping.paths? expander.mapping label = none := by
  rw [eventOf_eq_iff]
  constructor
  · intro told
    cases told with
    | unmapped _ read missing => exact ⟨read, missing⟩
  · rintro ⟨read, missing⟩
    exact .unmapped label read missing

theorem eventOf_eq_expanded_iff (candidate path : Text) :
    expander.eventOf candidate = .expanded candidate path ↔
      ∃ label, expander.Bound candidate label [path] := by
  rw [eventOf_eq_iff]
  constructor
  · intro told
    cases told with
    | expanded label _ bound => exact ⟨label, bound⟩
  · rintro ⟨label, bound⟩
    exact .expanded label path bound

theorem eventOf_eq_ambiguous_iff (candidate : Text) (count : Nat) :
    expander.eventOf candidate = .ambiguous candidate expander.anchor count ↔
      ∃ label paths, expander.Bound candidate label paths ∧ paths.length ≠ 1 ∧
        count = paths.length := by
  rw [eventOf_eq_iff]
  constructor
  · intro told
    cases told with
    | ambiguous label paths bound several => exact ⟨label, paths, bound, several, rfl⟩
  · rintro ⟨label, paths, bound, several, rfl⟩
    exact .ambiguous label paths bound several

theorem Told.candidate_eq {candidate : Text} {event : Event}
    (told : expander.Told candidate event) : event.candidate = candidate := by
  cases told <;> rfl

theorem Told.anchor_eq {candidate quoted : Text} {anchor : Label} {count : Nat}
    (told : expander.Told candidate (.ambiguous quoted anchor count)) :
    anchor = expander.anchor := by
  cases told
  rfl

variable (expander)

/-- What has to be read in the event of a candidate, and when. -/
structure Tells (candidate : Text) (event : Event) : Prop where
  malformed : (∃ error : LabelError, event.Reads .debug
    s!"Not expanding `{spell candidate}`: {Diagnostic.message error}") ↔
      ∃ error, Label.parse candidate expander.anchor.package = .error error
  diagnosed : ∀ error, Label.parse candidate expander.anchor.package = .error error →
    event.Reads .debug s!"Not expanding `{spell candidate}`: {Diagnostic.message error}"
  unmapped : ∀ label, event.Reads .debug
    s!"Not expanding `{spell candidate}`: no artifacts for `{spell label.display}`" ↔
      Label.parse candidate expander.anchor.package = .ok label ∧
        PathMapping.paths? expander.mapping label = none
  expanded : ∀ path, event.Reads .trace s!"Expanded `{spell candidate}` to `{spell path}`" ↔
    ∃ label, expander.Bound candidate label [path]
  ambiguous : ∀ count,
    event.Reads .debug (Event.refusal candidate expander.anchor.display count) ↔
      ∃ label paths, expander.Bound candidate label paths ∧ paths.length ≠ 1 ∧
        count = paths.length
  traced : ∀ path, event.path? = some path ↔
    event.Reads .trace s!"Expanded `{spell candidate}` to `{spell path}`"
  kept : event.path? = none ↔ event.severity = .debug

theorem tells_eventOf (candidate : Text) :
    expander.Tells candidate (expander.eventOf candidate) := by
  have quoted := (expander.told_eventOf candidate).candidate_eq
  constructor
  case malformed =>
    rw [Event.reads_malformed_iff quoted]
    exact exists_congr (eventOf_eq_malformed_iff candidate)
  case diagnosed =>
    intro error read
    rw [expander.eventOf_of_malformed read]
    exact ⟨rfl, rfl⟩
  case unmapped =>
    intro label
    exact (Event.reads_unmapped_iff quoted label).trans (eventOf_eq_unmapped_iff candidate label)
  case expanded =>
    intro path
    exact (Event.reads_expanded_iff quoted path).trans (eventOf_eq_expanded_iff candidate path)
  case ambiguous =>
    intro count
    -- An event about an ambiguity names the anchor of the expander that raised it.
    have own : ∀ quoted other number,
        expander.eventOf candidate = .ambiguous quoted other number → other = expander.anchor :=
      fun _ _ _ same => (eventOf_eq_iff.mp same).anchor_eq
    exact (Event.reads_ambiguous_iff quoted own count).trans
      (eventOf_eq_ambiguous_iff candidate count)
  case traced =>
    intro path
    exact (Event.path?_eq_some_iff quoted path).trans (Event.reads_expanded_iff quoted path).symm
  case kept => exact Event.path?_eq_none_iff _

theorem forall₂_tells_map (candidates : List Text) :
    List.Forall₂ expander.Tells candidates (candidates.map expander.eventOf) := by
  rw [List.forall₂_map_right_iff, List.forall₂_same]
  intro candidate _
  exact expander.tells_eventOf candidate

/-- What an event puts in the place of an unambiguous candidate is what stands there. -/
theorem replaced_eventOf {candidate : Text} (unambiguous : expander.Unambiguous candidate) :
    expander.Replaced candidate ((expander.eventOf candidate).path?.getD candidate) := by
  have told := expander.told_eventOf candidate
  generalize expander.eventOf candidate = event at told ⊢
  cases told with
  | malformed error read =>
    refine .kept ?_
    intro label paths bound
    cases read.symm.trans bound.1
  | unmapped label read missing =>
    refine .kept ?_
    intro other paths bound
    cases read.symm.trans bound.1
    cases missing.symm.trans bound.2
  | expanded label path bound => exact .found label path bound
  | ambiguous label paths bound several => exact absurd (unambiguous label paths bound) several

theorem flatMap_events (parts : List Run) :
    (parts.flatMap fun run => (expander.expandRun run).events) =
      (parts.filterMap Run.candidate?).map expander.eventOf := by
  induction parts with
  | nil => rfl
  | cons run rest ih =>
    rw [List.flatMap_cons, ih]
    cases run with
    | literal text => rfl
    | candidate text => rfl

theorem events_expandTemplate (template : Text) :
    (expander.expandTemplate template).events =
      ((runs template).mapM expander.expandRun).events :=
  Expansion.events_bind_pure _ _

end Expander

/-- Where all records of expansions pass, every event of an expansion is logged. -/
theorem filter_records_of_enabled {passes : LogRecord → Bool} (events : List Event)
    (enabled : ∀ record : LogRecord, record.target = Event.target → passes record = true) :
    (events.map Event.record).filter passes = events.map Event.record := by
  rw [List.filter_eq_self]
  intro record member
  obtain ⟨event, -, rfl⟩ := List.mem_map.mp member
  exact enabled event.record rfl

namespace Dissection

/-- A template with what its events tell of: the path of a traced event stands in the place of its
candidate, and every other candidate is kept. -/
def retold (dissection : Dissection) (events : List Event) : Text :=
  dissection.front ++
    (dissection.parts.zipWith (fun (candidate, literal) event =>
      event.path?.getD candidate ++ literal) events).flatten

theorem retold_map (dissection : Dissection) (event : Text → Event) :
    dissection.retold (dissection.candidates.map event) =
      dissection.fill fun candidate => (event candidate).path?.getD candidate := by
  rw [retold, fill, candidates, List.map_map, List.zipWith_map_right, List.zipWith_self,
    List.flatMap_def]
  rfl

end Dissection

namespace Expander

variable {μ : Type} [PathMapping μ] (expander : Expander μ)
variable (dissection : Dissection) (proper : dissection.Proper)

include proper

theorem account_of_outcome_eq_ok {text : Text}
    (succeeded : (expander.expandTemplate dissection.text).outcome = .ok text) :
    (∀ candidate ∈ dissection.candidates, expander.Unambiguous candidate) ∧
      (expander.expandTemplate dissection.text).events =
        dissection.candidates.map expander.eventOf ∧
      text = dissection.retold (dissection.candidates.map expander.eventOf) := by
  have traversal := succeeded
  rw [outcome_expandTemplate, dissection.runs_text proper] at traversal
  obtain ⟨texts, traversed, -⟩ := (Fallible.map_eq_ok_iff _ _ _).mp traversal
  have succeed := Fallible.exists_of_mapM_eq_ok traversed
  have unambiguous := unambiguous_of_succeed expander succeed
  rw [dissection.filterMap_candidate?_runs] at unambiguous
  refine ⟨unambiguous, ?_, ?_⟩
  · rw [events_expandTemplate, dissection.runs_text proper,
      Expansion.events_mapM_of_ok _ succeed, flatMap_events, dissection.filterMap_candidate?_runs]
  · -- The events put in what expansion puts in, so both fill the template alike.
    have filled := outcome_of_all_replaced expander dissection proper
      fun candidate member => expander.replaced_eventOf (unambiguous candidate member)
    rw [dissection.retold_map]
    exact Except.ok.inj (succeeded.symm.trans filled)

theorem account_of_outcome_eq_error {ambiguity : Ambiguity}
    (failed : (expander.expandTemplate dissection.text).outcome = .error ambiguity) :
    ∃ earlier candidate untold, dissection.candidates = earlier ++ candidate :: untold ∧
      (∀ other ∈ earlier, expander.Unambiguous other) ∧
      (expander.expandCandidate candidate).outcome = .error ambiguity ∧
      (expander.expandTemplate dissection.text).events =
        (earlier ++ [candidate]).map expander.eventOf := by
  obtain ⟨before, candidate, after, whole, succeed, fails⟩ :=
    exists_runs_of_outcome_eq_error expander dissection proper failed
  have read : (expander.expandRun (.candidate candidate)).outcome = .error ambiguity := fails
  have told : (before ++ [Run.candidate candidate]).filterMap Run.candidate? =
      before.filterMap Run.candidate? ++ [candidate] := by
    rw [List.filterMap_append]
    rfl
  refine ⟨before.filterMap Run.candidate?, candidate, after.filterMap Run.candidate?, ?_,
    unambiguous_of_succeed expander succeed, fails, ?_⟩
  · rw [← dissection.filterMap_candidate?_runs, whole, List.filterMap_append, List.filterMap_cons]
    rfl
  · rw [events_expandTemplate, dissection.runs_text proper, whole,
      Expansion.events_mapM_of_error _ _ succeed read, flatMap_events, told]

omit proper

theorem not_refuses_eventOf {candidate : Text} (unambiguous : expander.Unambiguous candidate) :
    ¬ (expander.eventOf candidate).Refuses := by
  rw [Event.refuses_iff]
  rintro ⟨quoted, anchor, count, refused⟩
  have told := eventOf_eq_iff.mp refused
  cases told with
  | ambiguous label paths bound several => exact several (unambiguous label paths bound)

/-- The events tell of the candidates up to the one that ends the expansion, each of what became of
it, and nothing else is told. -/
theorem events_account_for_outcome :
    (∀ template, ∃! dissection : Dissection, dissection.Proper ∧ dissection.text = template) ∧
    (∀ dissection : Dissection, dissection.Proper →
      (∀ text, (expander.expand (some dissection.text)).outcome = .ok text →
        List.Forall₂ expander.Tells dissection.candidates
          (expander.expand (some dissection.text)).events ∧
        (∀ candidate ∈ dissection.candidates, expander.Unambiguous candidate) ∧
        (∀ event ∈ (expander.expand (some dissection.text)).events, ¬ event.Refuses) ∧
        text = dissection.retold (expander.expand (some dissection.text)).events) ∧
      (∀ ambiguity, (expander.expand (some dissection.text)).outcome = .error ambiguity →
        ∃ earlier candidate untold quiet last,
          dissection.candidates = earlier ++ candidate :: untold ∧
          (expander.expand (some dissection.text)).events = quiet ++ [last] ∧
          List.Forall₂ expander.Tells earlier quiet ∧ expander.Tells candidate last ∧
          (∀ other ∈ earlier, expander.Unambiguous other) ∧
          (∃ paths, expander.Bound candidate ambiguity.label paths ∧ paths.length ≠ 1 ∧
            ambiguity.count = paths.length) ∧
          last.Reads .debug
            (Event.refusal candidate expander.anchor.display ambiguity.count) ∧
          last.Refuses ∧ ∀ event ∈ quiet, ¬ event.Refuses)) ∧
    (expander.expand none).events = [] ∧
    (∀ passes : LogRecord → Bool,
      (∀ record : LogRecord, record.target = Event.target → passes record = true) →
      ∀ template, ((expander.expand template).events.map Event.record).filter passes =
        (expander.expand template).events.map Event.record) := by
  refine ⟨Dissection.existsUnique, ?_, rfl, ?_⟩
  · intro dissection proper
    constructor
    · intro text succeeded
      obtain ⟨unambiguous, told, retold⟩ :=
        account_of_outcome_eq_ok expander dissection proper succeeded
      change List.Forall₂ _ _ (expander.expandTemplate dissection.text).events ∧ _ ∧
        (∀ event ∈ (expander.expandTemplate dissection.text).events, _) ∧
        text = dissection.retold (expander.expandTemplate dissection.text).events
      rw [told]
      refine ⟨expander.forall₂_tells_map _, unambiguous, ?_, retold⟩
      intro event member
      obtain ⟨candidate, present, rfl⟩ := List.mem_map.mp member
      exact expander.not_refuses_eventOf (unambiguous candidate present)
    · intro ambiguity failed
      obtain ⟨earlier, candidate, untold, whole, unambiguous, fails, told⟩ :=
        account_of_outcome_eq_error expander dissection proper failed
      obtain ⟨paths, bound, several, count⟩ := (outcome_eq_error_iff _ _).mp fails
      -- The expansion ends with the candidate that fails, so its event is the last one.
      have last := eventOf_of_several bound several
      rw [← count] at last
      refine ⟨earlier, candidate, untold, earlier.map expander.eventOf,
        expander.eventOf candidate, whole, ?_, expander.forall₂_tells_map _,
        expander.tells_eventOf _, unambiguous, ⟨paths, bound, several, count⟩, ?_, ?_, ?_⟩
      · rw [expand, told, List.map_append]
        rfl
      · rw [last]
        exact ⟨rfl, rfl⟩
      · exact (Event.refuses_iff _).mpr ⟨_, _, _, last⟩
      · intro event member
        obtain ⟨other, present, rfl⟩ := List.mem_map.mp member
        exact expander.not_refuses_eventOf (unambiguous other present)
  · intro passes enabled template
    exact filter_records_of_enabled _ enabled

end Expander

end LabelExpansion
