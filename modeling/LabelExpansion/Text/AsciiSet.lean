import LabelExpansion.Text.Basic

/-!
# Sets of ASCII characters

A set is a word of 128 bits, one for each ASCII character, so two sets are equal exactly when
they have the same members, however they were put together. A constant alphabet is written with
`ofChars`, which is total. Sets of unknown characters go through `ofText` and `range`, which take
one byte at a time and refuse the first that is not ASCII.
-/
namespace LabelExpansion

/-- Why a set or a pattern cannot be made of a text. -/
inductive AsciiError where
  | notAscii
  deriving DecidableEq, Repr

def AsciiError.message : AsciiError → String
  | .notAscii => "not an ASCII character"

/-- The character with code `n` is a member when bit `n` is set. -/
structure AsciiSet where
  bits : BitVec 128
  deriving DecidableEq

namespace AsciiSet

def empty : AsciiSet :=
  ⟨0#128⟩

def union (left right : AsciiSet) : AsciiSet :=
  ⟨left.bits ||| right.bits⟩

instance : Union AsciiSet :=
  ⟨union⟩

/-- The set with the character of one more code; a code from 128 on has no bit to set. -/
def insertCode (set : AsciiSet) (code : Nat) : AsciiSet :=
  ⟨set.bits ||| BitVec.twoPow 128 code⟩

/-- The ASCII characters of a text. -/
def ofChars (chars : Text) : AsciiSet :=
  chars.foldl (fun set c => set.insertCode c.toNat) empty

def contains (set : AsciiSet) (c : Char) : Bool :=
  set.bits.getLsbD c.toNat

def containsByte (set : AsciiSet) (byte : UInt8) : Bool :=
  set.bits.getLsbD byte.toNat

@[simp] theorem contains_empty (c : Char) : empty.contains c = false := by
  simp [contains, empty]

@[simp] theorem contains_union (left right : AsciiSet) (c : Char) :
    (left ∪ right).contains c = (left.contains c || right.contains c) :=
  BitVec.getLsbD_or

theorem contains_insertCode (set : AsciiSet) (code : Nat) (c : Char) :
    (set.insertCode code).contains c =
      (set.contains c || decide (c.toNat = code ∧ code < 128)) := by
  simp only [contains, insertCode, BitVec.getLsbD_or, BitVec.getLsbD_twoPow]
  congr 1
  by_cases same : code = c.toNat
  · simp [same]
  · simp [same, Ne.symm same]

/-- A set holds characters with codes below 128 only. -/
theorem ascii_of_contains (set : AsciiSet) (c : Char) (member : set.contains c = true) :
    c.toNat < 128 := by
  apply Decidable.byContradiction
  intro large
  simp [contains, BitVec.getLsbD_of_ge _ _ (Nat.not_lt.mp large)] at member

theorem contains_ofChars (chars : Text) (c : Char) :
    (ofChars chars).contains c = decide (c ∈ chars ∧ c.toNat < 128) := by
  have extended (set : AsciiSet) :
      (chars.foldl (fun set c => set.insertCode c.toNat) set).contains c =
        (set.contains c || decide (c ∈ chars ∧ c.toNat < 128)) := by
    induction chars generalizing set with
    | nil => simp
    | cons first rest ih =>
      rw [List.foldl_cons, ih, contains_insertCode, Bool.or_assoc]
      congr 1
      by_cases same : c = first
      · by_cases small : c.toNat < 128 <;> simp_all
      · have codes : c.toNat ≠ first.toNat := fun equal => same (Char.toNat_inj.mp equal)
        simp [same, codes]
  simpa [ofChars] using extended empty

/-- The first character of a text that is not a member. -/
def firstOutside? (set : AsciiSet) (text : Text) : Option Char :=
  text.find? fun c => !set.contains c

/-- Nothing is outside exactly when all characters are members. -/
theorem firstOutside?_eq_none_iff (set : AsciiSet) (text : Text) :
    set.firstOutside? text = none ↔ ∀ c ∈ text, set.contains c = true := by
  simp [firstOutside?]

/-- Every byte that is a member, in ascending order. -/
def members (set : AsciiSet) : List UInt8 :=
  ((List.range 256).map UInt8.ofNat).filter set.containsByte

/-- The set with one more byte, refused from 128 on. -/
def insertByte (set : AsciiSet) (byte : UInt8) : Except AsciiError AsciiSet :=
  if byte < 128 then .ok (set.insertCode byte.toNat) else .error .notAscii

/-- The characters of a text, all of which must be ASCII. -/
def ofText (chars : Text) : Except AsciiError AsciiSet :=
  (Text.utf8 chars).foldlM insertByte empty

/-- The bytes from `next` up to `last`, added in ascending order. Counting stops at the first byte
that is refused, so the counter never passes the greatest byte. -/
def insertUpTo (set : AsciiSet) (next last : UInt8) : Except AsciiError AsciiSet :=
  if next ≤ last then
    if next < 128 then (set.insertCode next.toNat).insertUpTo (next + 1) last
    else .error .notAscii
  else .ok set
termination_by 256 - next.toNat
decreasing_by
  have small : next < 128 := by assumption
  rw [UInt8.lt_iff_toNat_lt] at small
  simp only [UInt8.toNat_add, UInt8.reduceToNat] at small ⊢
  omega

/-- The characters from `first` to `last`, both included; none if `last` comes before `first`. -/
def range (first last : UInt8) : Except AsciiError AsciiSet :=
  empty.insertUpTo first last

/-- The letters of both cases and the digits. -/
def alphanumeric : AsciiSet :=
  ofChars "abcdefghijklmnopqrstuvwxyzABCDEFGHIJKLMNOPQRSTUVWXYZ0123456789".toList

/-- One of the two words of 64 characters: number 0 is the low one and number 1 the high one. -/
def word (set : AsciiSet) (index : Nat) : BitVec 64 :=
  set.bits.extractLsb' (64 * index) 64

/-- Characters 0 to 63. -/
def lowWord (set : AsciiSet) : BitVec 64 :=
  set.word 0

/-- Characters 64 to 127. -/
def highWord (set : AsciiSet) : BitVec 64 :=
  set.word 1

/-- The diagnostic form of a set shows its two words in decimal. -/
def inspect (set : AsciiSet) : String :=
  "AsciiCharSet \x7b bits: [" ++ toString set.lowWord.toNat ++ ", "
    ++ toString set.highWord.toNat ++ "] \x7d"

end AsciiSet

end LabelExpansion
