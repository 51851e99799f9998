/-
This file proves that texts compare as their octets do. The octets of a smaller character come
before those of a greater one, whatever follows them: where both characters take the same number of
octets the first octet that differs decides, and the first octet says how many there are. Octets are
UTF-8 where they are those of a text, and a line feed at their end is a character of its own.
-/

import Gateway.Text.Utf8
import Mathlib.Data.List.Lex

namespace Gateway

/-- Where what stands for an element decides the order, whatever follows, lists compare as what
stands for their elements does. -/
theorem lex_flatMap {α β : Type} {order : α → α → Prop} {codeOrder : β → β → Prop}
    (code : α → List β)
    (decides : ∀ first second, order first second →
      ∀ rest other, List.Lex codeOrder (code first ++ rest) (code second ++ other))
    (filled : ∀ element, code element ≠ []) {first second : List α}
    (before : List.Lex order first second) :
    List.Lex codeOrder (first.flatMap code) (second.flatMap code) := by
  induction before with
  | @nil element rest =>
    obtain ⟨head, tail, same⟩ := List.exists_cons_of_ne_nil (filled element)
    rw [List.flatMap_nil, List.flatMap_cons, same]
    exact .nil
  | rel here => exact decides _ _ here _ _
  | cons _ inductionHypothesis => exact List.Lex.append_left _ inductionHypothesis _

namespace Text

theorem utf8_ofList (text : List Char) :
    utf8 (String.ofList text) = text.flatMap String.utf8EncodeChar := by
  rw [utf8, String.toUTF8, String.toByteArray_ofList, List.utf8Encode, List.toList_data_toByteArray]

/-- The octets of a smaller character come before those of a greater one, whatever follows. -/
theorem lex_utf8EncodeChar {first second : Char} (before : first < second)
    (rest other : List UInt8) :
    List.Lex (· < ·) (String.utf8EncodeChar first ++ rest)
      (String.utf8EncodeChar second ++ other) := by
  have less : first.val.toNat < second.val.toNat := UInt32.lt_iff_toNat_lt.mp before
  have high : second.val.toNat < 0x110000 := by
    rcases second.valid with low | high
    · exact Nat.lt_trans low (by decide)
    · exact high.2
  generalize firstValue : first.val.toNat = low at less
  generalize secondValue : second.val.toNat = top at less high
  have octet {value : Nat} (small : value < 256) : (UInt8.ofNat value).toNat = value :=
    UInt8.toNat_ofNat_of_lt' small
  have twice (value : Nat) : value / 4096 = value / 64 / 64 :=
    (Nat.div_div_eq_div_mul value 64 64).symm
  have thrice (value : Nat) : value / 262144 = value / 64 / 64 / 64 := by
    rw [Nat.div_div_eq_div_mul, Nat.div_div_eq_div_mul]
  simp only [String.utf8EncodeChar, firstValue, secondValue, twice, thrice]
  -- the numbers of octets are compared by the first one; of as many octets, the first that differs
  split_ifs <;>
    simp (disch := omega) only [List.cons_append, List.nil_append, List.cons_lex_cons_iff,
      UInt8.lt_iff_toNat_lt, ← UInt8.toNat_inj, octet] <;>
    generalize List.Lex (· < ·) rest other = remaining <;>
    omega

/-- The octets of the first text come before those of the second. -/
def OctetsBefore (first second : String) : Prop :=
  List.Lex (· < ·) (utf8 first) (utf8 second)

theorem octetsBefore_of_lt {first second : String} (before : first < second) :
    OctetsBefore first second := by
  rw [OctetsBefore, ← String.ofList_toList (s := first), ← String.ofList_toList (s := second),
    utf8_ofList, utf8_ofList]
  refine lex_flatMap String.utf8EncodeChar (fun _ _ => lex_utf8EncodeChar)
    (fun _ => String.utf8EncodeChar_ne_nil) ?_
  exact (List.lt_iff_lex_lt _ _).mp (String.lt_iff.mp before)

/-- Texts compare as their octets do. -/
theorem octetsBefore_iff {first second : String} : OctetsBefore first second ↔ first < second := by
  refine ⟨fun before => ?_, octetsBefore_of_lt⟩
  have never (octets : List UInt8) : ¬ List.Lex (· < ·) octets octets :=
    List.lex_irrefl (fun _ => UInt8.lt_irrefl _) octets
  by_contra notBefore
  by_cases after : second < first
  · exact never _ (List.lex_trans UInt8.lt_trans before (octetsBefore_of_lt after))
  · obtain rfl := String.le_antisymm (String.not_lt.mp after) (String.not_lt.mp notBefore)
    exact never _ before

/-! ### Octets of a text -/

theorem ofUtf8?_eq_some_iff {octets : List UInt8} {text : String} :
    ofUtf8? octets = some text ↔ octets = utf8 text := by
  refine ⟨fun read => ?_, fun same => same ▸ ofUtf8?_utf8 text⟩
  rw [ofUtf8?, String.fromUTF8?] at read
  split at read
  · obtain rfl := Option.some.inj read
    rfl
  · cases read

theorem utf8_push (text : String) (character : Char) :
    utf8 (text.push character) = utf8 text ++ String.utf8EncodeChar character := by
  rw [← String.ofList_toList (s := text.push character), ← String.ofList_toList (s := text),
    utf8_ofList, utf8_ofList, String.toList_push, String.toList_ofList, List.flatMap_append,
    List.flatMap_singleton]

/-- No octet of another character is a line feed. -/
theorem eq_lineFeed_of_mem {character : Char} (inside : 0x0A ∈ String.utf8EncodeChar character) :
    character = '\n' := by
  suffices same : character.val.toNat = 10 from Char.ext (UInt32.toNat_inj.mp same)
  simp only [String.utf8EncodeChar] at inside
  split_ifs at inside <;>
    simp only [List.mem_cons, List.not_mem_nil, or_false, ← UInt8.toNat_inj, UInt8.toNat_ofNat',
      UInt8.reduceToNat] at inside <;>
    omega

/-- Octets that end with a line feed are those of a text that does. -/
theorem concat_lineFeed_eq_utf8_iff {octets : List UInt8} {text : String} :
    octets ++ [0x0A] = utf8 text ↔ ∃ front, octets = utf8 front ∧ text = front.push '\n' := by
  constructor
  · intro same
    rcases List.eq_nil_or_concat text.toList with empty | ⟨front, last, isText⟩
    · rw [String.toList_eq_nil_iff.mp empty] at same
      cases (List.append_eq_nil_iff.mp same).2
    · obtain rfl : text = (String.ofList front).push last := by
        rw [← String.toList_inj, isText, String.toList_push, String.toList_ofList,
          List.concat_eq_append]
      rw [utf8_push] at same
      have atEnd : (String.utf8EncodeChar last).getLast? = some 0x0A := by
        rw [← List.getLast?_append_of_ne_nil (utf8 _) String.utf8EncodeChar_ne_nil, ← same,
          List.getLast?_concat]
      obtain rfl := eq_lineFeed_of_mem (List.mem_of_getLast? atEnd)
      exact ⟨String.ofList front, (List.append_inj' same rfl).1, rfl⟩
  · rintro ⟨front, rfl, rfl⟩
    exact (utf8_push front '\n').symm

end Text

end Gateway
