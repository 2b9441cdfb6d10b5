import LabelExpansion.Text.AsciiSet

/-!
# Runs

A template is any text that may mention labels. It falls into runs: candidates, made of characters
that occur in label references, and literals, made of all others. A run reaches as far as it can,
so `x11` is never cut into `x1` and `1`, the two kinds alternate, and the runs concatenate to the
template.
-/
namespace LabelExpansion

/-- The alphabet of candidates. It is smaller than that of labels, so that a list such as `a,b=c`
falls into three candidates. Every colon counts: a run with a colon in a wrong place is one
candidate that cannot be read, and no part of it is tried alone. -/
def referenceCharacters : AsciiSet :=
  .alphanumeric ∪ .ofChars "_/.-+:".toList

inductive Run where
  | literal (text : Text)
  | candidate (text : Text)
  deriving DecidableEq, Repr

namespace Run

def text : Run → Text
  | literal text => text
  | candidate text => text

/-- The run at the front of a template and what follows it; none if the template is used up. -/
def next? : Text → Option (Run × Text)
  | [] => none
  | first :: rest =>
    let same c := referenceCharacters.contains c == referenceCharacters.contains first
    let run := first :: rest.takeWhile same
    some (if referenceCharacters.contains first then candidate run else literal run,
      rest.dropWhile same)

/-- The front run and the rest make up the template. -/
theorem next?_text (template rest : Text) (run : Run) (cut : next? template = some (run, rest)) :
    template = run.text ++ rest := by
  cases template with
  | nil => simp [next?] at cut
  | cons first more =>
    simp only [next?, Option.some.injEq, Prod.mk.injEq] at cut
    obtain ⟨rfl, rfl⟩ := cut
    split <;> simp [text, List.takeWhile_append_dropWhile]

theorem next?_inhabited (template rest : Text) (run : Run)
    (cut : next? template = some (run, rest)) : run.text ≠ [] := by
  cases template with
  | nil => simp [next?] at cut
  | cons first more =>
    simp only [next?, Option.some.injEq, Prod.mk.injEq] at cut
    obtain ⟨rfl, -⟩ := cut
    split <;> simp [text]

/-- Each cut makes the template shorter. -/
theorem length_rest_lt (template rest : Text) (run : Run)
    (cut : next? template = some (run, rest)) : rest.length < template.length := by
  have whole := congrArg List.length (next?_text template rest run cut)
  have some := List.length_pos_iff.mpr (next?_inhabited template rest run cut)
  rw [List.length_append] at whole
  omega

/-- Cuts runs off the front until there is none; what is left comes second. -/
def drain (template : Text) : List Run × Text :=
  match _ : next? template with
  | none => ([], template)
  | some (run, rest) => (drain rest).map (run :: ·) id
termination_by template.length
decreasing_by exact length_rest_lt template rest run (by assumption)

theorem drain_of_none (template : Text) (ended : next? template = none) :
    drain template = ([], template) := by
  rw [drain]
  split <;> simp_all

theorem drain_of_some (template rest : Text) (run : Run)
    (cut : next? template = some (run, rest)) :
    drain template = (run :: (drain rest).1, (drain rest).2) := by
  rw [drain]
  split <;> simp_all [Prod.map]

end Run

/-- The runs of a template, first to last. -/
def runs (template : Text) : List Run :=
  (Run.drain template).1

end LabelExpansion
