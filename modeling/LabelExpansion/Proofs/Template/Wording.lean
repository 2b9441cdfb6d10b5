import LabelExpansion.Proofs.Label.Identity
import LabelExpansion.Proofs.Template.Outcome

/-!
# What the event of a candidate says

Every candidate has one event, and its severity and wording alone show which of the four outcomes
the candidate had. Two of the four are worded alike up to the reason, which starts with the broken
label in one case and with the missing artifacts in the other. What an event quotes is what the
expansion found: the diagnosis, the label, the path, or the anchor and the number of artifacts.
-/
namespace LabelExpansion

theorem LabelError.head_message (error : LabelError) :
    (Diagnostic.message error).toList.head? = some 'I' := by
  simp [Diagnostic.message, Diagnostic.chain, ToString.toString]

namespace Event

def candidate : Event → Text
  | malformed candidate _ => candidate
  | unmapped candidate _ => candidate
  | expanded candidate _ => candidate
  | ambiguous candidate _ _ => candidate

/-- The path that an event tells of, if its candidate is replaced. -/
def path? : Event → Option Text
  | expanded _ path => some path
  | _ => none

theorem path?_eq_none_iff (event : Event) : event.path? = none ↔ event.severity = .debug := by
  cases event <;> simp [path?, severity]

/-! ## The characters of a message -/

theorem toList_message_malformed (candidate : Text) (error : LabelError) :
    (malformed candidate error).message.toList = "Not expanding `".toList ++ candidate ++
      "`: ".toList ++ (Diagnostic.message error).toList := by
  change String.toList s!"Not expanding `{spell candidate}`: {Diagnostic.message error}" = _
  simp [ToString.toString, spell]

theorem toList_message_unmapped (candidate : Text) (label : Label) :
    (unmapped candidate label).message.toList = "Not expanding `".toList ++ candidate ++
      "`: no artifacts for `".toList ++ label.display ++ "`".toList := by
  change String.toList
    s!"Not expanding `{spell candidate}`: no artifacts for `{spell label.display}`" = _
  simp [ToString.toString, spell]

theorem toList_message_expanded (candidate path : Text) :
    (expanded candidate path).message.toList = "Expanded `".toList ++ candidate ++
      "` to `".toList ++ path ++ "`".toList := by
  change String.toList s!"Expanded `{spell candidate}` to `{spell path}`" = _
  simp [ToString.toString, spell]

theorem toList_message_ambiguous (candidate : Text) (anchor : Label) (count : Nat) :
    (ambiguous candidate anchor count).message.toList = "Cannot expand `".toList ++ candidate ++
      "` in target `".toList ++ anchor.display ++ "`: ".toList ++ Nat.toDigits 10 count ++
      " artifacts".toList := by
  change String.toList
    s!"Cannot expand `{spell candidate}` in target `{spell anchor.display}`: {count} artifacts" = _
  simp [ToString.toString, spell]

/-- Behind the same beginning the reasons differ in their first letters. -/
theorem message_malformed_ne_unmapped (candidate : Text) (error : LabelError) (label : Label) :
    (malformed candidate error).message ≠ (unmapped candidate label).message := by
  intro same
  have texts := congrArg String.toList same
  rw [toList_message_malformed, toList_message_unmapped] at texts
  have reason : (Diagnostic.message error).toList =
      "no artifacts for `".toList ++ label.display ++ "`".toList := by
    simpa using texts
  have first := error.head_message
  rw [reason] at first
  simp at first

/-- What is said of a candidate at which the expansion fails. -/
def refusal (candidate anchor : Text) (count : Nat) : String :=
  s!"Cannot expand `{spell candidate}` in target `{spell anchor}`: {count} artifacts"

/-- An event that tells of such a candidate. -/
def Refuses (event : Event) : Prop :=
  "Cannot expand ".toList <+: event.message.toList

theorem refuses_iff (event : Event) :
    event.Refuses ↔ ∃ candidate anchor count, event = .ambiguous candidate anchor count := by
  constructor
  · intro refuses
    -- Messages of all other kinds begin with another letter.
    cases event with
    | malformed candidate error => simp [Refuses, toList_message_malformed] at refuses
    | unmapped candidate label => simp [Refuses, toList_message_unmapped] at refuses
    | expanded candidate path => simp [Refuses, toList_message_expanded] at refuses
    | ambiguous candidate anchor count => exact ⟨candidate, anchor, count, rfl⟩
  · rintro ⟨candidate, anchor, count, rfl⟩
    simp [Refuses, toList_message_ambiguous]

/-! ## Events that are logged alike -/

/-- What an event is logged as. -/
structure Reads (event : Event) (severity : Severity) (message : String) : Prop where
  severity : event.severity = severity
  message : event.message = message

variable {event : Event} {candidate : Text} (quoted : event.candidate = candidate)

include quoted

theorem path?_eq_some_iff (path : Text) :
    event.path? = some path ↔ event = .expanded candidate path := by
  subst quoted
  cases event <;> simp [path?, Event.candidate]

theorem reads_malformed_iff :
    (∃ error : LabelError, event.Reads .debug
      s!"Not expanding `{spell candidate}`: {Diagnostic.message error}") ↔
      ∃ error, event = .malformed candidate error := by
  subst quoted
  constructor
  · rintro ⟨error, severity, message⟩
    change event.message = (malformed event.candidate error).message at message
    cases event with
    | malformed candidate own => exact ⟨own, rfl⟩
    | unmapped candidate label =>
      exact absurd message.symm (message_malformed_ne_unmapped candidate error label)
    | expanded candidate path => cases severity
    | ambiguous candidate anchor count =>
      have texts := congrArg String.toList message
      simp [toList_message_ambiguous, toList_message_malformed] at texts
  · rintro ⟨error, same⟩
    refine ⟨error, ?_⟩
    rw [same]
    exact ⟨rfl, rfl⟩

theorem reads_unmapped_iff (label : Label) :
    event.Reads .debug
      s!"Not expanding `{spell candidate}`: no artifacts for `{spell label.display}`" ↔
      event = .unmapped candidate label := by
  subst quoted
  constructor
  · rintro ⟨severity, message⟩
    change event.message = (unmapped event.candidate label).message at message
    have texts := congrArg String.toList message
    cases event with
    | malformed candidate error =>
      exact absurd message (message_malformed_ne_unmapped candidate error label)
    | unmapped candidate own =>
      have displays : own.display = label.display := by
        simpa [toList_message_unmapped, Event.candidate] using texts
      rw [Label.display_injective displays, Event.candidate]
    | expanded candidate path => cases severity
    | ambiguous candidate anchor count =>
      simp [toList_message_ambiguous, toList_message_unmapped] at texts
  · intro same
    rw [same]
    exact ⟨rfl, rfl⟩

theorem reads_expanded_iff (path : Text) :
    event.Reads .trace s!"Expanded `{spell candidate}` to `{spell path}`" ↔
      event = .expanded candidate path := by
  subst quoted
  constructor
  · rintro ⟨severity, message⟩
    change event.message = (expanded event.candidate path).message at message
    cases event with
    | malformed candidate error => cases severity
    | unmapped candidate label => cases severity
    | expanded candidate own =>
      have texts := congrArg String.toList message
      have paths : own = path := by simpa [toList_message_expanded, Event.candidate] using texts
      rw [paths, Event.candidate]
    | ambiguous candidate anchor count => cases severity
  · intro same
    rw [same]
    exact ⟨rfl, rfl⟩

theorem reads_ambiguous_iff {anchor : Label}
    (own : ∀ candidate other count, event = .ambiguous candidate other count → other = anchor)
    (count : Nat) :
    event.Reads .debug (refusal candidate anchor.display count) ↔
      event = .ambiguous candidate anchor count := by
  subst quoted
  constructor
  · rintro ⟨severity, message⟩
    change event.message = (ambiguous event.candidate anchor count).message at message
    have texts := congrArg String.toList message
    cases event with
    | malformed candidate error =>
      simp [toList_message_malformed, toList_message_ambiguous] at texts
    | unmapped candidate label =>
      simp [toList_message_unmapped, toList_message_ambiguous] at texts
    | expanded candidate path => cases severity
    | ambiguous candidate other number =>
      obtain rfl := own _ _ _ rfl
      -- Up to the counts the messages are the same, and digits tell their number.
      have digits : Nat.toDigits 10 number = Nat.toDigits 10 count := by
        simpa [toList_message_ambiguous, Event.candidate] using texts
      have numbers : number = count := by
        simpa only [Nat.ofDigitChars_ten_toDigits] using congrArg (Nat.ofDigitChars 10 · 0) digits
      rw [numbers, Event.candidate]
  · intro same
    rw [same]
    exact ⟨rfl, rfl⟩

end Event

end LabelExpansion
