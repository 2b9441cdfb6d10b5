import LabelExpansion.Ordered

/-!
# Texts

A text is a list of Unicode scalar values. Names, paths and templates are cut and compared
character by character, so a statement about them is an induction on a list; strings are made
only where a message is written. The bytes of a text in UTF-8 are a view of it: they fix the
order of texts and the offsets that a bytewise search reports.
-/
namespace LabelExpansion

/-- A text as its characters, first to last. -/
abbrev Text := List Char

/-- The string that holds a text, for use inside a message. -/
def spell (text : Text) : String :=
  String.ofList text

namespace Text

/-- The bytes of a text in UTF-8. -/
def utf8 (text : Text) : List UInt8 :=
  text.flatMap String.utf8EncodeChar

@[simp] theorem utf8_nil : utf8 [] = [] := rfl

@[simp] theorem utf8_cons (c : Char) (rest : Text) :
    utf8 (c :: rest) = String.utf8EncodeChar c ++ utf8 rest := rfl

@[simp] theorem utf8_append (left right : Text) :
    utf8 (left ++ right) = utf8 left ++ utf8 right :=
  List.flatMap_append

/-- An ASCII character is one byte, its code. -/
theorem utf8EncodeChar_ascii (c : Char) (ascii : c.toNat < 128) :
    String.utf8EncodeChar c = [UInt8.ofNat c.toNat] := by
  have small : c.toNat ≤ 127 := by omega
  simp [String.utf8EncodeChar, small]

/-- The letters and digits of ASCII lie between `0` and `z`. -/
theorem toNat_of_isAlphanum (c : Char) (alphanumeric : c.isAlphanum = true) :
    48 ≤ c.toNat ∧ c.toNat ≤ 122 := by
  change ((decide ('A'.val ≤ c.val ∧ c.val ≤ 'Z'.val) ||
    (decide ('a'.val ≤ c.val) && decide (c.val ≤ 'z'.val))) ||
    (decide ('0'.val ≤ c.val) && decide (c.val ≤ '9'.val))) = true at alphanumeric
  simp only [Bool.or_eq_true, Bool.and_eq_true, decide_eq_true_eq,
    UInt32.le_iff_toNat_le] at alphanumeric
  have code : c.toNat = c.val.toNat := rfl
  have upper : 'A'.val.toNat = 65 ∧ 'Z'.val.toNat = 90 := ⟨rfl, rfl⟩
  have lower : 'a'.val.toNat = 97 ∧ 'z'.val.toNat = 122 := ⟨rfl, rfl⟩
  have digit : '0'.val.toNat = 48 ∧ '9'.val.toNat = 57 := ⟨rfl, rfl⟩
  omega

theorem toByteArray_utf8 (text : Text) :
    (utf8 text).toByteArray = (String.ofList text).toByteArray := by
  simp [utf8, List.utf8Encode]

/-- Different texts have different bytes. -/
theorem utf8_injective (left right : Text) (same : utf8 left = utf8 right) : left = right := by
  have bytes : (String.ofList left).toByteArray = (String.ofList right).toByteArray := by
    rw [← toByteArray_utf8, ← toByteArray_utf8, same]
  have strings := String.toByteArray_inj.mp bytes
  have texts := congrArg String.toList strings
  simpa using texts

/-- Texts are ordered by their bytes, and a text follows its own proper beginnings. -/
def order : Text → Text → Ordering :=
  orderBy utf8 compare

instance : Std.TransCmp order :=
  inferInstanceAs (Std.TransCmp (orderBy utf8 compare))

instance : Std.LawfulEqCmp order where
  eq_of_compare {left right} equal :=
    utf8_injective left right (Std.LawfulEqOrd.eq_of_compare equal)

/-- Texts in the same place are the same. -/
theorem eq_of_order (left right : Text) (equal : order left right = .eq) : left = right :=
  Std.LawfulEqCmp.eq_of_compare equal

end Text

end LabelExpansion
