import LabelExpansion.Text.Pieces

/-!
# Normalized paths

A path is cut into segments at every slash. It is normalized when it is empty or every segment is a
plain name: not empty, not `.` and not `..`. A path that is not normalized has a flaw. A slash at
the front is reported first, then one at the end, and then the leftmost segment that is no plain
name.
-/
namespace LabelExpansion

inductive PathFlaw where
  | leadingSlash
  | trailingSlash
  | emptySegment
  | dotSegment
  | dotDotSegment
  deriving DecidableEq, Repr

def PathFlaw.message : PathFlaw → String
  | .leadingSlash => "must not start with `/`"
  | .trailingSlash => "must not end with `/`"
  | .emptySegment => "must not contain empty segments (`//`)"
  | .dotSegment => "must not contain `.` segments"
  | .dotDotSegment => "must not contain `..` segments"

namespace Path

/-- The pieces of a path between its slashes. -/
def segments (path : Text) : List Text :=
  Text.pieces '/' path

/-- What keeps a segment from being a plain name. -/
def segmentFlaw? : Text → Option PathFlaw
  | [] => some .emptySegment
  | ['.'] => some .dotSegment
  | ['.', '.'] => some .dotDotSegment
  | _ => none

/-- The flaw that is reported of a path; a normalized path has none. -/
def flaw? (path : Text) : Option PathFlaw :=
  if path = [] then none
  else if path.head? = some '/' then some .leadingSlash
  else if path.getLast? = some '/' then some .trailingSlash
  else (segments path).findSome? segmentFlaw?

/-- The last segment; the empty path names no file. -/
def fileName? (path : Text) : Option Text :=
  if path = [] then none else (segments path).getLast?

end Path

/-- A path that names something: normalized and not empty. -/
structure NormalPath where
  text : Text
  inhabited : text ≠ []
  normal : Path.flaw? text = none
  deriving DecidableEq

end LabelExpansion
