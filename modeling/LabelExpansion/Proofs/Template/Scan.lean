import LabelExpansion.Proofs.Template.Runs
import LabelExpansion.Text.Cut

/-!
# Scanning a template call by call

A scanner hands out the runs of a template one by one and holds no more than the text that it has
not handed out yet. It finds the end of a run among the bytes of that text and cuts there. The main
statement says that its answers are the maximal runs of the template, in order, and after the last
of them nothing for ever; that each cut falls between two characters, also where wider characters
stand next to a run; and that no other runs would do.
-/
namespace LabelExpansion

namespace Text

/-- The byte offset of the first character that passes a test, or of the end if there is none. -/
def offsetOf (test : Char → Bool) : Text → Nat
  | [] => 0
  | c :: rest => if test c then 0 else c.utf8Size + offsetOf test rest

theorem offsetOf_eq (test : Char → Bool) (text : Text) :
    offsetOf test text = (utf8 (text.takeWhile fun c => !test c)).length := by
  induction text with
  | nil => rfl
  | cons c rest ih =>
    cases passed : test c with
    | true => simp [offsetOf, passed]
    | false => simp [offsetOf, passed, ih, String.length_utf8EncodeChar]

/-- A search that goes by characters reports offsets at which a text can be cut. -/
theorem cutAt?_offsetOf (test : Char → Bool) (text : Text) :
    cutAt? text (offsetOf test text) =
      some (text.takeWhile fun c => !test c, text.dropWhile fun c => !test c) := by
  rw [cutAt?_eq_some_iff, offsetOf_eq]
  exact ⟨(List.takeWhile_append_dropWhile).symm, rfl⟩

end Text

namespace Run

/-- The byte offset at which the front run ends: that of the first character of the other kind. -/
def endOffset : Text → Nat
  | [] => 0
  | first :: rest => Text.offsetOf
      (fun c => referenceCharacters.contains c != referenceCharacters.contains first)
      (first :: rest)

/-- One call of a scanner: its answer, and the text that it holds from then on. -/
def call (held : Text) : Option Run × Text :=
  match next? held with
  | none => (none, held)
  | some (run, rest) => (some run, rest)

/-- The text that a scanner holds after a number of calls. -/
def held (template : Text) : Nat → Text
  | 0 => template
  | calls + 1 => held (call template).2 calls

/-- The answer to the call that comes after a number of others. -/
def answer (template : Text) (calls : Nat) : Option Run :=
  (call (held template calls)).1

theorem call_nil : call [] = (none, []) := rfl

theorem call_of_next? {text rest : Text} {run : Run} (cut : next? text = some (run, rest)) :
    call text = (some run, rest) := by
  simp only [call, cut]

theorem held_add_one (template : Text) (calls : Nat) :
    held template (calls + 1) = (call (held template calls)).2 := by
  induction calls generalizing template with
  | zero => rfl
  | succ calls ih => exact ih (call template).2

/-- The run that a call answers with is cut off the front at the offset of its end. -/
theorem cutAt?_endOffset {text rest : Text} {run : Run} (cut : next? text = some (run, rest)) :
    Text.cutAt? text (endOffset text) = some (run.text, rest) := by
  cases text with
  | nil => cases cut
  | cons first more =>
    rw [next?_cons, Option.some.injEq, Prod.mk.injEq] at cut
    obtain ⟨rfl, rfl⟩ := cut
    -- A character is of the kind of the first one when the search passes over it.
    have kind : (fun c => !(referenceCharacters.contains c != referenceCharacters.contains first)) =
        sameKind first := by
      funext c
      rw [sameKind, bne, Bool.not_not]
    have own : sameKind first first = true := (sameKind_iff first first).mpr rfl
    rw [endOffset, Text.cutAt?_offsetOf, kind, text_ofKind, List.takeWhile_cons,
      List.dropWhile_cons, if_pos own, if_pos own]

end Run

/-- A scanner answers with the runs in order, and with nothing once they are used up. -/
theorem answer_eq_getElem? (template : Text) (calls : Nat) :
    Run.answer template calls = (runs template)[calls]? := by
  induction calls generalizing template with
  | zero =>
    induction template using runs_induction with
    | empty => simp [Run.answer, Run.held, Run.call_nil, runs_nil]
    | step run rest uniform stops _ =>
      have cut := (Run.next?_eq_some_iff (run.text ++ rest) rest run).mpr ⟨rfl, uniform, stops⟩
      simp [Run.answer, Run.held, Run.call_of_next? cut, runs_of_next? _ _ _ cut]
  | succ calls ih =>
    have next : Run.answer template (calls + 1) = Run.answer (Run.call template).2 calls := rfl
    rw [next, ih]
    cases cut : Run.next? template with
    | none =>
      -- Nothing was handed out, so the next call finds what this one found.
      rw [Run.next?_eq_none_iff] at cut
      simp [cut, Run.call_nil, runs_nil]
    | some front =>
      obtain ⟨run, rest⟩ := front
      simp [Run.call_of_next? cut, runs_of_next? _ _ _ cut]

/-- After some calls a scanner holds the text of the other runs. -/
theorem held_eq_flatMap_drop (template : Text) (calls : Nat) :
    Run.held template calls = ((runs template).drop calls).flatMap Run.text := by
  induction calls generalizing template with
  | zero => exact (flatMap_text_runs template).symm
  | succ calls ih =>
    rw [Run.held, ih]
    cases cut : Run.next? template with
    | none =>
      rw [Run.next?_eq_none_iff] at cut
      simp [cut, Run.call_nil, runs_nil]
    | some front =>
      obtain ⟨run, rest⟩ := front
      rw [Run.call_of_next? cut, runs_of_next? _ _ _ cut, List.drop_succ_cons]

/-- Scanning gives the one list of maximal runs of a template and then nothing, and no character is
cut in two. -/
theorem scan_gives_maximal_runs (template : Text) :
    (∀ calls, Run.answer template calls = (runs template)[calls]?) ∧
    (∀ calls run, Run.answer template calls = some run →
      Text.cutAt? (Run.held template calls) (Run.endOffset (Run.held template calls)) =
        some (run.text, Run.held template (calls + 1))) ∧
    (∀ calls,
      Text.cutAt? template (Text.utf8 (((runs template).take calls).flatMap Run.text)).length =
        some (((runs template).take calls).flatMap Run.text, Run.held template calls)) ∧
    Run.Maximal (runs template) ∧ (runs template).flatMap Run.text = template ∧
    (∀ parts, Run.Maximal parts → parts.flatMap Run.text = template → parts = runs template) := by
  refine ⟨answer_eq_getElem? template, ?_, ?_, maximal_runs template, flatMap_text_runs template,
    ?_⟩
  · intro calls run answered
    -- What is held next is what this call leaves behind the run it cuts off.
    rw [Run.held_add_one]
    cases cut : Run.next? (Run.held template calls) with
    | none => simp [Run.answer, Run.call, cut] at answered
    | some front =>
      obtain ⟨other, rest⟩ := front
      rw [Run.answer, Run.call_of_next? cut, Option.some.injEq] at answered
      subst answered
      rw [Run.cutAt?_endOffset cut, Run.call_of_next? cut]
  · intro calls
    rw [Text.cutAt?_eq_some_iff, held_eq_flatMap_drop, ← List.flatMap_append,
      List.take_append_drop, flatMap_text_runs]
    exact ⟨rfl, rfl⟩
  · intro parts maximal whole
    exact ((runs_eq_iff template parts).mpr ⟨maximal, whole⟩).symm

/-- Characters of two and three bytes on both sides of a candidate are kept whole. -/
theorem scan_between_wide_characters :
    Run.Maximal [.literal "é".toList, .candidate ":a".toList, .literal "€".toList] ∧
    Run.answer "é:a€".toList 1 = some (.candidate ":a".toList) ∧
    Text.cutAt? (Run.held "é:a€".toList 1) (Run.endOffset (Run.held "é:a€".toList 1)) =
      some (":a".toList, "€".toList) ∧
    Run.answer "é:a€".toList 3 = none := by
  obtain ⟨answers, cuts, -, -, -, only⟩ := scan_gives_maximal_runs "é:a€".toList
  have maximal :
      Run.Maximal [.literal "é".toList, .candidate ":a".toList, .literal "€".toList] :=
    ⟨by decide, by decide⟩
  have parts := only _ maximal rfl
  have answered : Run.answer "é:a€".toList 1 = some (.candidate ":a".toList) := by
    rw [answers, ← parts]
    rfl
  refine ⟨maximal, answered, cuts 1 _ answered, ?_⟩
  rw [answers, ← parts]
  rfl

end LabelExpansion
