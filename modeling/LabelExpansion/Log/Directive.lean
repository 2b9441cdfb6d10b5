import LabelExpansion.Log.State
import LabelExpansion.Text.AsciiPattern
import LabelExpansion.Text.CharacterClass
import LabelExpansion.Text.Pieces

/-!
# Filters made of directives

A filter is a list of directives between commas, each read by itself. A directive allows a verbosity
to every record whose target begins with the target of the directive, and a bare verbosity has the
empty target. The longest target that applies decides, and of two equal targets the later. A filter
without directives passes errors alone; otherwise a record to which no directive applies is dropped.
These filters know neither spans nor fields, so a directive that asks for them is refused here.
-/
namespace LabelExpansion

/-- How much a filter lets through. -/
inductive Verbosity where
  | off
  | upTo (severity : Severity)
  deriving DecidableEq, Repr

namespace Verbosity

/-- Verbosities are ranked on the scale of severities, so that `trace` passes all and `off` none. -/
def rank : Verbosity → Nat
  | off => 0
  | upTo severity => severity.rank

def passes (verbosity : Verbosity) (severity : Severity) : Bool :=
  severity.rank ≤ verbosity.rank

/-- The verbosities with their words in lower case, by rank. -/
def words : List (Text × Verbosity) :=
  [("off".toList, off), ("error".toList, upTo .error), ("warn".toList, upTo .warn),
    ("info".toList, upTo .info), ("debug".toList, upTo .debug), ("trace".toList, upTo .trace)]

/-- The number that decimal digits stand for. -/
def digitsValue (digits : Text) : Nat :=
  digits.foldl (fun value digit => 10 * value + (digit.toNat - '0'.toNat)) 0

/-- Reads a rank in decimal: digits, any number of leading zeros among them, and before them one
plus sign at most. -/
def ofNumber? (text : Text) : Option Verbosity :=
  let digits := if text.head? = some '+' then text.tail else text
  if digits ≠ [] ∧ digits.all Char.isDigit then
    (words[digitsValue digits]?).map Prod.snd
  else none

/-- Reads a verbosity, as a rank or as a word whose ASCII letters may be of either case. -/
def ofText? (text : Text) : Option Verbosity :=
  (ofNumber? text).or (words.lookup (text.map Char.toLower))

end Verbosity

structure Directive where
  target : Text
  verbosity : Verbosity
  deriving DecidableEq, Repr

namespace Directive

def invalidReasons : List String :=
  ["invalid filter directive"]

/-- The explanation of a level is given twice, once for the directive and once for its level. -/
def invalidLevelReasons : List String :=
  List.replicate 2 ("error parsing level filter: expected one of \"off\", \"error\", "
    ++ "\"warn\", \"info\", \"debug\", \"trace\", or a number 0-5")

/-- A directive starts with a letter or a digit of any script or with one of three signs. -/
def mayStart (c : Char) : Bool :=
  ['-', ':', '_'].contains c || Text.isAlphanumeric c

/-- A piece without `=`: a verbosity for every target, or else a target with all its records. -/
def ofWord (word : Text) : Directive :=
  match Verbosity.ofText? word with
  | some verbosity => ⟨[], verbosity⟩
  | none => ⟨word, .upTo .trace⟩

/-- A target and its level. An empty level lets all records of the target through. -/
def ofParts (target level : Text) : Attempt (List String) Directive :=
  if level = [] then .returned ⟨target, .upTo .trace⟩
  else match Verbosity.ofText? level with
    | some verbosity => .returned ⟨target, verbosity⟩
    | none => .failed invalidLevelReasons

/-- A piece that is cut into target and level around a byte. Cutting inside a character panics. -/
def ofCut (piece : Text) (offset : Nat) : Attempt (List String) Directive :=
  match Text.cutAt? piece offset, Text.cutAt? piece (offset + 1) with
  | some (target, _), some (_, level) => ofParts target level
  | _, _ => .panicked

/-- Reads one piece. Its start and its first `=` are looked for without the blanks around it, but its
parts are taken from the piece as written: blanks belong to a word, and in front of a `=` they shift
the place of the cut. -/
def ofText (piece : Text) : Attempt (List String) Directive :=
  let inner := Text.trim piece
  if !inner.head?.any mayStart || (inner.takeWhile (· ≠ '=')).contains '[' then
    .failed invalidReasons
  else match AsciiPattern.equalsSign.firstIndex? inner with
    | none => .returned (ofWord piece)
    | some offset => ofCut piece offset

def applies (directive : Directive) (target : Text) : Bool :=
  directive.target.isPrefixOf target

/-- The better of a directive so far and a later one that applies: the later, unless its target is
shorter. -/
def prefer (target : Text) (best : Option Directive) (directive : Directive) : Option Directive :=
  if directive.applies target && best.all (·.target.length ≤ directive.target.length) then
    some directive
  else best

/-- The directive that decides on the records of a target. -/
def decisive? (directives : List Directive) (target : Text) : Option Directive :=
  directives.foldl (prefer target) none

end Directive

structure Filter where
  directives : List Directive
  deriving DecidableEq, Repr

namespace Filter

/-- The pieces of a filter text that are to be directives; empty pieces are skipped. -/
def directiveTexts (text : Text) : List Text :=
  (Text.pieces ',' text).filter (· ≠ [])

def ofText (text : Text) : Attempt (List String) Filter := do
  let directives ← (directiveTexts text).mapM Directive.ofText
  pure ⟨directives⟩

/-- The directive that a piece stands for, if it can be read. -/
def directive? (piece : Text) : Option Directive :=
  (Directive.ofText piece).value?

/-- The filter of the pieces that can be read. -/
def ofReadable (text : Text) : Filter :=
  ⟨(directiveTexts text).filterMap directive?⟩

/-- What a filter allows to the records of a target. -/
def verbosity (filter : Filter) (target : Text) : Verbosity :=
  if filter.directives = [] then .upTo .error
  else match Directive.decisive? filter.directives target with
    | some directive => directive.verbosity
    | none => .off

instance : LogBackend Filter where
  read := ofText
  readLoosely := ofReadable
  passes filter severity target := (filter.verbosity target).passes severity
  goneReasons := ["subscriber no longer exists"]
  takenReasons := ["a global default trace dispatcher has already been set"]

end Filter

end LabelExpansion
