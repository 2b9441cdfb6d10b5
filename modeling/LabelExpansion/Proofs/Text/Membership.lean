import LabelExpansion.Proofs.Label.Refusal
import LabelExpansion.Proofs.Text.Occurrence

/-!
# What a set of characters holds

A set is put together from texts and from ranges of codes. It fails to be one exactly when an
operand would bring a character outside ASCII; otherwise its members are the ASCII characters that
the operands list, and its bits say nothing else, so two sets with the same members have the same
bits however they were put together. The texts are followed byte by byte and the ranges count up,
both of which end at the first byte from 128 on.
-/
namespace LabelExpansion

namespace AsciiSet

/-! ## Members and bits -/

theorem toNat_char (code : Nat) (small : code < 128) : (Char.ofNat code).toNat = code := by
  have valid : code.isValidChar := .inl (by omega)
  rw [Char.ofNat, dif_pos valid]
  rfl

theorem contains_char (set : AsciiSet) (code : Nat) (small : code < 128) :
    set.contains (Char.ofNat code) = set.bits.getLsbD code := by
  rw [contains, toNat_char code small]

theorem lt_128_iff (byte : UInt8) : byte < 128 ↔ byte.toNat < 128 :=
  UInt8.lt_iff_toNat_lt

/-- A character is looked up by the byte that its code is cut down to, and wide ones not at all. -/
theorem contains_eq_containsByte (set : AsciiSet) (c : Char) :
    set.contains c = (decide (c.toNat < 128) && set.containsByte (UInt8.ofNat c.toNat)) := by
  rw [contains, containsByte]
  by_cases small : c.toNat < 128
  · simp [Text.toNat_ofNat_ascii c small, small]
  · simp [BitVec.getLsbD_of_ge _ _ (Nat.not_lt.mp small), small]

/-- A byte is looked up as the character of its code. -/
theorem containsByte_eq (set : AsciiSet) (byte : UInt8) :
    set.containsByte byte = (decide (byte < 128) && set.contains (Char.ofNat byte.toNat)) := by
  rw [containsByte]
  by_cases small : byte.toNat < 128
  · simp [contains_char set byte.toNat small, lt_128_iff, small]
  · simp [BitVec.getLsbD_of_ge _ _ (Nat.not_lt.mp small), lt_128_iff, small]

theorem eq_of_getLsbD {left right : AsciiSet}
    (same : ∀ code < 128, left.bits.getLsbD code = right.bits.getLsbD code) : left = right := by
  have bits : left.bits = right.bits := BitVec.eq_of_getLsbD_eq same
  cases left
  cases right
  cases bits
  rfl

/-- A set is told by its members. -/
theorem eq_of_contains {left right : AsciiSet} (same : ∀ c, left.contains c = right.contains c) :
    left = right := by
  apply eq_of_getLsbD
  intro code small
  rw [← contains_char left code small, ← contains_char right code small, same]

/-! ## The two words -/

theorem getLsbD_word (set : AsciiSet) (index bit : Nat) (small : bit < 64) :
    (set.word index).getLsbD bit = set.bits.getLsbD (64 * index + bit) := by
  rw [word, BitVec.getLsbD_extractLsb']
  simp [small]

/-- A set is told by its two words. -/
theorem eq_of_words {left right : AsciiSet} (low : left.lowWord = right.lowWord)
    (high : left.highWord = right.highWord) : left = right := by
  apply eq_of_getLsbD
  intro code small
  -- Every code is a place in one of the words.
  have words : left.word (code / 64) = right.word (code / 64) := by
    have number : code / 64 = 0 ∨ code / 64 = 1 := by omega
    rcases number with first | second
    · rw [first]
      exact low
    · rw [second]
      exact high
  have place : code % 64 < 64 := Nat.mod_lt _ (by decide)
  have own := left.getLsbD_word (code / 64) (code % 64) place
  rw [words, getLsbD_word right _ _ place, Nat.div_add_mod] at own
  exact own.symm

theorem word_union (left right : AsciiSet) (index : Nat) :
    (left ∪ right).word index = left.word index ||| right.word index := by
  apply BitVec.eq_of_getLsbD_eq
  intro bit small
  rw [BitVec.getLsbD_or, getLsbD_word _ _ _ small, getLsbD_word _ _ _ small,
    getLsbD_word _ _ _ small]
  exact BitVec.getLsbD_or

theorem word_insertCode (set : AsciiSet) (code index : Nat) (ascii : code < 128) :
    (set.insertCode code).word index =
      if index = code / 64 then set.word index ||| 1#64 <<< (code % 64) else set.word index := by
  apply BitVec.eq_of_getLsbD_eq
  intro bit small
  rw [getLsbD_word _ _ _ small, insertCode, BitVec.getLsbD_or, BitVec.getLsbD_twoPow,
    decide_eq_true ascii, Bool.true_and]
  split
  next own =>
    have place : code = 64 * index + bit ↔ code % 64 = bit := by omega
    rw [← BitVec.twoPow_eq, BitVec.getLsbD_or, getLsbD_word _ _ _ small, BitVec.getLsbD_twoPow,
      decide_eq_true (Nat.mod_lt code (by decide)), Bool.true_and]
    simp only [place]
  next other =>
    have place : code ≠ 64 * index + bit := by omega
    rw [getLsbD_word _ _ _ small, decide_eq_false place, Bool.or_false]

theorem containsByte_eq_word (set : AsciiSet) (byte : UInt8) :
    set.containsByte byte = (decide (byte < 128) &&
      (set.word (byte.toNat / 64) &&& 1#64 <<< (byte.toNat % 64)) != 0#64) := by
  have small : byte.toNat % 64 < 64 := Nat.mod_lt _ (by decide)
  have own := set.getLsbD_word (byte.toNat / 64) (byte.toNat % 64) small
  rw [Nat.div_add_mod] at own
  have mask : BitVec.twoPow 64 (byte.toNat % 64) ≠ 0#64 := by
    intro zero
    have bit := congrArg (BitVec.getLsbD · (byte.toNat % 64)) zero
    simp [small] at bit
  rw [← BitVec.twoPow_eq, BitVec.and_twoPow, containsByte, own]
  by_cases ascii : byte.toNat < 128
  · cases set.bits.getLsbD byte.toNat <;> simp [mask, lt_128_iff, ascii]
  · simp [BitVec.getLsbD_of_ge _ _ (Nat.not_lt.mp ascii)]

/-! ## Texts -/

/-- The byte of an ASCII character is put in as its code. -/
theorem foldlM_insertByte_cons (set : AsciiSet) {c : Char} (ascii : c.toNat < 128) (rest : Text) :
    (Text.utf8 (c :: rest)).foldlM insertByte set =
      (Text.utf8 rest).foldlM insertByte (set.insertCode c.toNat) := by
  have code := Text.toNat_ofNat_ascii c ascii
  have byte : UInt8.ofNat c.toNat < 128 := by
    rw [lt_128_iff, code]
    exact ascii
  rw [Text.utf8_cons, Text.utf8EncodeChar_ascii c ascii, List.singleton_append, List.foldlM_cons,
    insertByte, if_pos byte, code]
  rfl

/-- The first byte of a wider character is refused. -/
theorem foldlM_insertByte_wide (set : AsciiSet) {c : Char} (wide : 128 ≤ c.toNat) (rest : Text) :
    (Text.utf8 (c :: rest)).foldlM insertByte set = .error .notAscii := by
  rw [Text.utf8_cons]
  cases encoded : String.utf8EncodeChar c with
  | nil => exact absurd encoded String.utf8EncodeChar_ne_nil
  | cons byte others =>
    have large : ¬ byte < 128 := by
      rw [lt_128_iff]
      exact Nat.not_lt.mpr (Text.wide_of_mem_utf8EncodeChar c wide byte (by simp [encoded]))
    rw [List.cons_append, List.foldlM_cons, insertByte, if_neg large]
    rfl

theorem foldlM_insertByte_eq_error_iff (chars : Text) (set : AsciiSet) :
    (Text.utf8 chars).foldlM insertByte set = .error .notAscii ↔ ∃ c ∈ chars, 128 ≤ c.toNat := by
  induction chars generalizing set with
  | nil => simp [pure, Except.pure]
  | cons first rest ih =>
    rw [List.exists_mem_cons_iff]
    by_cases ascii : first.toNat < 128
    · rw [foldlM_insertByte_cons set ascii, ih, or_iff_right (Nat.not_le.mpr ascii)]
    · have wide := Nat.not_lt.mp ascii
      rw [foldlM_insertByte_wide set wide]
      exact iff_of_true rfl (.inl wide)

/-- Bytes that are put in one by one without a refusal put in the characters. -/
theorem eq_of_foldlM_insertByte {chars : Text} {set result : AsciiSet}
    (made : (Text.utf8 chars).foldlM insertByte set = .ok result) :
    result = chars.foldl (fun set c => set.insertCode c.toNat) set := by
  induction chars generalizing set with
  | nil => exact (Except.ok.inj made).symm
  | cons first rest ih =>
    by_cases ascii : first.toNat < 128
    · rw [foldlM_insertByte_cons set ascii] at made
      exact ih made
    · rw [foldlM_insertByte_wide set (Nat.not_lt.mp ascii)] at made
      cases made

/-! ## Ranges -/

/-- Counting up to `last`: a round adds the byte that the counter shows, and the counter goes up by
one, which it never fails to do. -/
inductive Counted (last : UInt8) : AsciiSet → UInt8 → Except AsciiError AsciiSet → Prop where
  | done (set : AsciiSet) (next : UInt8) : last < next → Counted last set next (.ok set)
  | refused (set : AsciiSet) (next : UInt8) : next ≤ last → 128 ≤ next →
      Counted last set next (.error .notAscii)
  | round (set : AsciiSet) (next : UInt8) (result : Except AsciiError AsciiSet) :
      next ≤ last → next < 128 → (next + 1).toNat = next.toNat + 1 →
      Counted last (set.insertCode next.toNat) (next + 1) result → Counted last set next result

theorem counted_insertUpTo (last : UInt8) (set : AsciiSet) (next : UInt8) :
    Counted last set next (set.insertUpTo next last) := by
  induction set, next using insertUpTo.induct last with
  | case1 set next below small ih =>
    rw [insertUpTo, if_pos below, if_pos small]
    have step : (next + 1).toNat = next.toNat + 1 := by
      rw [lt_128_iff] at small
      rw [UInt8.toNat_add]
      exact Nat.mod_eq_of_lt (by simp only [UInt8.reduceToNat]; omega)
    exact .round set next _ below small step ih
  | case2 set next below large =>
    rw [insertUpTo, if_pos below, if_neg large]
    exact .refused set next below (UInt8.not_lt.mp large)
  | case3 set next above =>
    rw [insertUpTo, if_neg above]
    exact .done set next (UInt8.not_le.mp above)

theorem Counted.eq_error_iff {last next : UInt8} {set : AsciiSet}
    {result : Except AsciiError AsciiSet} (counted : Counted last set next result) :
    result = .error .notAscii ↔ next ≤ last ∧ 128 ≤ last := by
  induction counted with
  | done set next above => simp [UInt8.not_le.mpr above]
  | refused set next below large => simp [below, UInt8.le_trans large below]
  | round set next result below small step counted ih =>
    rw [ih]
    simp only [UInt8.le_iff_toNat_le, lt_128_iff, step, UInt8.reduceToNat] at below small ⊢
    omega

/-- Counting adds the codes from where it starts to the last. -/
theorem Counted.contains {last next : UInt8} {set result : AsciiSet}
    (counted : Counted last set next (.ok result)) (c : Char) :
    result.contains c = true ↔
      set.contains c = true ∨ next.toNat ≤ c.toNat ∧ c.toNat ≤ last.toNat := by
  generalize made : Except.ok result = outcome at counted
  induction counted with
  | done set next above =>
    cases made
    rw [UInt8.lt_iff_toNat_lt] at above
    have none : ¬ (next.toNat ≤ c.toNat ∧ c.toNat ≤ last.toNat) := by omega
    simp [none]
  | refused => cases made
  | round set next _ below small step _ ih =>
    rw [ih made, contains_insertCode, step]
    simp only [UInt8.le_iff_toNat_le, lt_128_iff] at below small
    simp only [Bool.or_eq_true, decide_eq_true_eq, or_assoc]
    apply or_congr_right
    omega

/-! ## Putting sets together -/

/-- A way to put a set together. -/
inductive Recipe where
  | empty
  | text (chars : Text)
  /-- Both ends are included. -/
  | range (first last : UInt8)
  | union (left right : Recipe)

namespace Recipe

def build : Recipe → Except AsciiError AsciiSet
  | empty => pure AsciiSet.empty
  | text chars => ofText chars
  | range first last => AsciiSet.range first last
  | union left right => do
    let first ← left.build
    let second ← right.build
    pure (first ∪ second)

/-- Some operand would bring a character outside ASCII. -/
def Exceeds : Recipe → Prop
  | empty => False
  | text chars => ∃ c ∈ chars, 128 ≤ c.toNat
  | range first last => first ≤ last ∧ 128 ≤ last
  | union left right => left.Exceeds ∨ right.Exceeds

/-- The characters that the operands list. -/
def Lists : Recipe → Char → Prop
  | empty, _ => False
  | text chars, c => c ∈ chars
  | range first last, c => first.toNat ≤ c.toNat ∧ c.toNat ≤ last.toNat
  | union left right, c => left.Lists c ∨ right.Lists c

open Fallible

theorem build_eq_error_iff (recipe : Recipe) :
    recipe.build = .error .notAscii ↔ recipe.Exceeds := by
  induction recipe with
  | empty => simp [build, Exceeds, pure, Except.pure]
  | text chars => exact foldlM_insertByte_eq_error_iff chars AsciiSet.empty
  | range first last => exact (counted_insertUpTo last AsciiSet.empty first).eq_error_iff
  | union left right leftIH rightIH =>
    rw [build, Exceeds, ← leftIH, ← rightIH]
    cases left.build with
    | error error =>
      cases error
      exact iff_of_true rfl (.inl rfl)
    | ok first =>
      cases right.build with
      | error error =>
        cases error
        exact iff_of_true rfl (.inr rfl)
      | ok second => simp [bind, Except.bind, pure, Except.pure]

theorem contains_of_build {recipe : Recipe} {set : AsciiSet} (built : recipe.build = .ok set)
    (c : Char) : set.contains c = true ↔ c.toNat < 128 ∧ recipe.Lists c := by
  induction recipe generalizing set with
  | empty =>
    cases built
    simp [Lists]
  | text chars =>
    have made : set = ofChars chars := eq_of_foldlM_insertByte built
    simp [made, contains_ofChars, Lists, and_comm]
  | range first last =>
    have counted := counted_insertUpTo last AsciiSet.empty first
    rw [build, AsciiSet.range] at built
    rw [built] at counted
    have listed := counted.contains c
    simp only [contains_empty, Bool.false_eq_true, false_or] at listed
    rw [listed, Lists]
    -- What is listed is a member, and a set has no members outside ASCII.
    constructor
    · intro member
      exact ⟨set.ascii_of_contains c (listed.mpr member), member⟩
    · exact And.right
  | union left right leftIH rightIH =>
    obtain ⟨first, made, rest⟩ := (bind_eq_ok_iff _ _ _).mp built
    obtain ⟨second, madeToo, whole⟩ := (bind_eq_ok_iff _ _ _).mp rest
    cases whole
    rw [contains_union, Bool.or_eq_true, leftIH made, rightIH madeToo, Lists, and_or_left]

/-- Recipes make the same set when they list the same ASCII characters. -/
theorem eq_iff_lists {recipe other : Recipe} {left right : AsciiSet}
    (built : recipe.build = .ok left) (builtToo : other.build = .ok right) :
    left = right ↔ ∀ c, c.toNat < 128 → (recipe.Lists c ↔ other.Lists c) := by
  constructor
  · rintro rfl c ascii
    have own := contains_of_build built c
    rw [contains_of_build builtToo c, and_iff_right ascii, and_iff_right ascii] at own
    exact own.symm
  · intro same
    apply eq_of_contains
    intro c
    rw [Bool.eq_iff_iff, contains_of_build built, contains_of_build builtToo]
    exact and_congr_right (same c)

/-- The letters of both cases and the digits, as three ranges of codes. -/
def lettersAndDigits : Recipe :=
  .union (.union (.range 97 122) (.range 65 90)) (.range 48 57)

/-- The ranges make the set that is written as a text. -/
theorem build_lettersAndDigits : lettersAndDigits.build = .ok alphanumeric := by
  have within : ¬ lettersAndDigits.Exceeds := by
    simp only [lettersAndDigits, Exceeds]
    decide
  have listed : ∀ code < 128, alphanumeric.bits.getLsbD code = true ↔
      lettersAndDigits.Lists (Char.ofNat code) := by
    simp only [lettersAndDigits, Lists]
    decide +kernel
  cases built : lettersAndDigits.build with
  | error error =>
    cases error
    exact absurd ((build_eq_error_iff _).mp built) within
  | ok set =>
    -- A set is told by its bits, one for each ASCII character.
    refine congrArg Except.ok (eq_of_getLsbD ?_)
    intro code small
    have ascii : (Char.ofNat code).toNat < 128 := by
      rw [toNat_char code small]
      exact small
    rw [← contains_char set code small, Bool.eq_iff_iff, contains_of_build built, listed code small,
      and_iff_right ascii]

end Recipe

/-- What there is to say of a set that is to hold the listed characters. -/
structure Holds (set : AsciiSet) (listed : Char → Prop) : Prop where
  contains : ∀ c, set.contains c = true ↔ c.toNat < 128 ∧ listed c
  containsByte : ∀ byte, set.containsByte byte = true ↔ byte < 128 ∧ listed (Char.ofNat byte.toNat)
  word : ∀ index < 2, ∀ bit < 64,
    (set.word index).getLsbD bit = true ↔ listed (Char.ofNat (64 * index + bit))
  firstOutside : ∀ text c, set.firstOutside? text = some c ↔
    ∃ before after, text = before ++ c :: after ∧ (∀ d ∈ before, d.toNat < 128 ∧ listed d) ∧
      ¬ (c.toNat < 128 ∧ listed c)
  noneOutside : ∀ text, set.firstOutside? text = none ↔ ∀ c ∈ text, c.toNat < 128 ∧ listed c

/-- All other ways to look at a set follow its members. -/
theorem holds_of_contains {set : AsciiSet} {listed : Char → Prop}
    (members : ∀ c, set.contains c = true ↔ c.toNat < 128 ∧ listed c) : Holds set listed where
  contains := members
  containsByte byte := by
    rw [containsByte_eq, Bool.and_eq_true, decide_eq_true_eq, members]
    constructor
    · rintro ⟨small, -, own⟩
      exact ⟨small, own⟩
    · rintro ⟨small, own⟩
      refine ⟨small, ?_, own⟩
      rw [lt_128_iff] at small
      rwa [toNat_char _ small]
  word index number bit small := by
    have ascii : 64 * index + bit < 128 := by omega
    rw [getLsbD_word set index bit small, ← contains_char set _ ascii, members,
      toNat_char _ ascii, and_iff_right ascii]
  firstOutside text c := firstOutside?_eq_some_iff members text c
  noneOutside text := by
    rw [firstOutside?_eq_none_iff]
    simp only [members]

/-- A set is put together unless an operand brings a character outside ASCII, and then it holds what
the operands list and nothing else. So two sets are the same, bit for bit, when they have the same
members. A range counts to its end without passing the greatest byte, and bytes are put into the two
words and looked up there by quotient and remainder. -/
theorem recipes_hold_what_they_list :
    (∀ recipe : Recipe, recipe.build = .error .notAscii ↔ recipe.Exceeds) ∧
    (∀ (recipe : Recipe) set, recipe.build = .ok set → Holds set recipe.Lists) ∧
    (∀ (recipe other : Recipe) left right, recipe.build = .ok left → other.build = .ok right →
      (left.lowWord = right.lowWord ∧ left.highWord = right.highWord ↔
        ∀ c, left.contains c = right.contains c) ∧
      (left = right ↔ ∀ c, c.toNat < 128 → (recipe.Lists c ↔ other.Lists c))) ∧
    (∀ first last, Counted last empty first (range first last)) ∧
    (∀ first last, last < first → range first last = .ok empty) ∧
    (∀ (set : AsciiSet) c,
      set.contains c = (decide (c.toNat < 128) && set.containsByte (UInt8.ofNat c.toNat))) ∧
    (∀ (set : AsciiSet) byte, set.containsByte byte = (decide (byte < 128) &&
      (set.word (byte.toNat / 64) &&& 1#64 <<< (byte.toNat % 64)) != 0#64)) ∧
    (∀ (set : AsciiSet) code index, code < 128 → (set.insertCode code).word index =
      if index = code / 64 then set.word index ||| 1#64 <<< (code % 64) else set.word index) ∧
    (∀ (left right : AsciiSet) index,
      (left ∪ right).word index = left.word index ||| right.word index) ∧
    Recipe.lettersAndDigits.build = .ok alphanumeric := by
  refine ⟨Recipe.build_eq_error_iff, ?_, ?_, fun first last => counted_insertUpTo last empty first,
    ?_, contains_eq_containsByte, containsByte_eq_word, ?_, word_union,
    Recipe.build_lettersAndDigits⟩
  · intro recipe set built
    exact holds_of_contains (Recipe.contains_of_build built)
  · intro recipe other left right built builtToo
    constructor
    · constructor
      · rintro ⟨low, high⟩ c
        rw [eq_of_words low high]
      · intro same
        rw [eq_of_contains same]
        exact ⟨rfl, rfl⟩
    · exact Recipe.eq_iff_lists built builtToo
  · intro first last above
    rw [range, insertUpTo, if_neg (UInt8.not_le.mpr above)]
  · intro set code index ascii
    exact set.word_insertCode code index ascii

end AsciiSet

end LabelExpansion
