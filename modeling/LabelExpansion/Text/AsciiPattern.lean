import LabelExpansion.Text.AsciiSet
import LabelExpansion.Text.Cut

/-!
# Bytewise patterns

A pattern is one or two ASCII characters. It is searched in the bytes of a text, and the offset of
a hit is then used to cut the text. An ASCII byte never occurs inside the encoding of another
character, so a hit starts and ends between two characters and every cut succeeds.
-/
namespace LabelExpansion

/-- A character with a code below 128. -/
structure AsciiChar where
  char : Char
  ascii : char.toNat < 128
  deriving DecidableEq

def AsciiChar.ofChar (c : Char) : Except AsciiError AsciiChar :=
  if ascii : c.toNat < 128 then .ok ⟨c, ascii⟩ else .error .notAscii

/-- The character at the front of a text, refused if there is none or it is not ASCII. -/
def AsciiChar.ofFront : Text → Except AsciiError AsciiChar
  | [] => .error .notAscii
  | c :: _ => ofChar c

def AsciiChar.byte (c : AsciiChar) : UInt8 :=
  UInt8.ofNat c.char.toNat

inductive AsciiPattern where
  | one (char : AsciiChar)
  | two (first second : AsciiChar)
  deriving DecidableEq

namespace AsciiPattern

/-- The characters that the pattern stands for. -/
def text : AsciiPattern → Text
  | one c => [c.char]
  | two c d => [c.char, d.char]

def bytes : AsciiPattern → List UInt8
  | one c => [c.byte]
  | two c d => [c.byte, d.byte]

/-- The bytes of a pattern are those of its text. -/
theorem utf8_text (pattern : AsciiPattern) : Text.utf8 pattern.text = pattern.bytes := by
  cases pattern with
  | one c => simp [text, bytes, AsciiChar.byte, Text.utf8EncodeChar_ascii c.char c.ascii]
  | two c d =>
    simp [text, bytes, AsciiChar.byte, Text.utf8EncodeChar_ascii c.char c.ascii,
      Text.utf8EncodeChar_ascii d.char d.ascii]

def byteLength (pattern : AsciiPattern) : Nat :=
  pattern.bytes.length

/-- A text of exactly two ASCII characters as a pattern. -/
def ofPair? : Text → Option AsciiPattern
  | [c, d] =>
    if first : c.toNat < 128 then
      if second : d.toNat < 128 then some (two ⟨c, first⟩ ⟨d, second⟩) else none
    else none
  | _ => none

/-- The offset of the first place at which `needle` begins inside `bytes`. -/
def firstOffset? (needle : List UInt8) : List UInt8 → Option Nat
  | [] => if needle.isEmpty then some 0 else none
  | byte :: rest =>
    if needle.isPrefixOf (byte :: rest) then some 0 else (firstOffset? needle rest).map (· + 1)

/-- The byte offset of the first occurrence. -/
def firstIndex? (pattern : AsciiPattern) (text : Text) : Option Nat :=
  firstOffset? pattern.bytes (Text.utf8 text)

/-- Whether the text begins with the pattern. -/
def begins (pattern : AsciiPattern) (text : Text) : Bool :=
  pattern.bytes.isPrefixOf (Text.utf8 text)

/-- The text before and after the first occurrence, which is dropped. -/
def split? (pattern : AsciiPattern) (text : Text) : Option (Text × Text) := do
  let offset ← pattern.firstIndex? text
  let (before, _) ← Text.cutAt? text offset
  let (_, after) ← Text.cutAt? text (offset + pattern.byteLength)
  pure (before, after)

/-- What follows the pattern in a text that begins with it. -/
def strip? (pattern : AsciiPattern) (text : Text) : Option Text :=
  if pattern.begins text then
    (Text.cutAt? text pattern.byteLength).map fun (_, after) => after
  else none

def colon : AsciiPattern :=
  one ⟨':', by decide⟩

def atSign : AsciiPattern :=
  one ⟨'@', by decide⟩

def equalsSign : AsciiPattern :=
  one ⟨'=', by decide⟩

def slashes : AsciiPattern :=
  two ⟨'/', by decide⟩ ⟨'/', by decide⟩

end AsciiPattern

end LabelExpansion
