import LedgerWire.Proofs.Except
import LedgerWire.Proofs.Text.Numerals
import LedgerWire.Text.Base58
import Mathlib.Data.List.TakeWhile

/-!
# Base58 text and buffers correspond

A text and the buffer that it stands for are one number, in base 58 and in base 256, with as many
zeros in front. Digits are their leading zeros followed by the digits of their number, so either
list determines the other. A buffer therefore has one text, and a text is read as the buffer whose
text it is, or else has a character that is no digit.
-/

namespace LedgerWire

/-! ### Digits in two bases -/

namespace Radix

/-- Digits in two bases that are one number, with as many zeros in front. -/
structure Regrouped (base other : Nat) (left right : List Nat) : Prop where
  left_lt : ∀ digit ∈ left, digit < base
  right_lt : ∀ digit ∈ right, digit < other
  zeros : (left.takeWhile (· == 0)).length = (right.takeWhile (· == 0)).length
  number : Nat.ofDigits base left.reverse = Nat.ofDigits other right.reverse

/-- Regrouping goes both ways. -/
theorem Regrouped.symm {base other : Nat} {left right : List Nat}
    (h : Regrouped base other left right) : Regrouped other base right left :=
  ⟨h.right_lt, h.left_lt, h.zeros.symm, h.number.symm⟩

/-- Zeros in front of a list without a leading zero are the zeros that are counted. -/
theorem takeWhile_replicate_append (count : Nat) {list : List Nat} (hhead : list.head? ≠ some 0) :
    (List.replicate count 0 ++ list).takeWhile (· == 0) = List.replicate count 0 := by
  rw [List.takeWhile_append_of_pos (by simp)]
  cases list with
  | nil => simp
  | cons digit list =>
    have hdigit : digit ≠ 0 := by simpa using hhead
    simp [hdigit]

/-- Digits are their leading zeros followed by the digits of their number. The part behind the zeros
has the same number and no leading zero. -/
theorem replicate_append_digits {base : Nat} (hbase : 2 ≤ base) {list : List Nat}
    (hlt : ∀ digit ∈ list, digit < base) :
    List.replicate (list.takeWhile (· == 0)).length 0 ++ digits base (value base list) = list := by
  have hzeros : list.takeWhile (· == 0) =
      List.replicate (list.takeWhile (· == 0)).length 0 :=
    List.eq_replicate_of_mem fun digit hdigit => by simpa using List.mem_takeWhile_imp hdigit
  have hsplit := @List.takeWhile_append_dropWhile _ (· == 0) list
  have hhead : (list.dropWhile (· == 0)).head? ≠ some 0 := by
    have hnot := List.head?_dropWhile_not (· == 0) list
    cases hrest : list.dropWhile (· == 0) with
    | nil => simp
    | cons digit rest =>
      rw [hrest] at hnot
      simpa using hnot
  have hvalue : value base list = value base (list.dropWhile (· == 0)) := by
    conv_lhs => rw [← hsplit, hzeros]
    exact value_replicate_append base _ _
  have hrest : ∀ digit ∈ list.dropWhile (· == 0), digit < base :=
    fun digit hdigit => hlt digit ((List.dropWhile_suffix _).subset hdigit)
  rw [hvalue, digits_value hbase hrest hhead, ← hzeros, hsplit]

/-- The digits of a number in another base, behind as many zeros, are determined. -/
theorem regrouped_iff {base other : Nat} (hother : 2 ≤ other) {left right : List Nat} :
    Regrouped base other left right ↔ (∀ digit ∈ left, digit < base) ∧
      List.replicate (left.takeWhile (· == 0)).length 0 ++ digits other (value base left) =
        right := by
  constructor
  · rintro ⟨hleft, hright, hzeros, hnumber⟩
    rw [← value_eq, ← value_eq] at hnumber
    refine ⟨hleft, ?_⟩
    rw [hzeros, hnumber, replicate_append_digits hother hright]
  · rintro ⟨hleft, rfl⟩
    have hhead := head?_digits_ne_zero hother (value base left)
    refine ⟨hleft, ?_, ?_, ?_⟩
    · intro digit hdigit
      rcases List.mem_append.mp hdigit with hzero | hdigit
      · rw [List.eq_of_mem_replicate hzero]
        omega
      · exact lt_of_mem_digits hother hdigit
    · rw [takeWhile_replicate_append _ hhead, List.length_replicate]
    · rw [← value_eq, ← value_eq, value_replicate_append, value_digits hother]

/-- In a larger base there are no more digits. -/
theorem Regrouped.length_le {base other : Nat} {left right : List Nat}
    (h : Regrouped base other left right) (hbase : 2 ≤ base) (hle : base ≤ other) :
    right.length ≤ left.length := by
  have hdigits := length_digits_le hbase hle (value base left)
  rw [← ((regrouped_iff (hbase.trans hle)).mp h).2]
  conv_rhs => rw [← replicate_append_digits hbase h.left_lt]
  rw [List.length_append, List.length_append]
  omega

end Radix

namespace Base58

open Radix (Regrouped)

/-! ### Characters -/

/-- The characters of digits are in the alphabet. -/
theorem digitChar_mem {digit : Nat} (hdigit : digit < 58) : digitChar digit ∈ alphabet := by
  have htable : ∀ digit < 58, digitChar digit ∈ alphabet := by decide
  exact htable digit hdigit

/-- The alphabet is ASCII. -/
theorem toNat_le_of_mem {c : Char} (h : c ∈ alphabet) : c.toNat ≤ 127 := by
  have htable : (alphabet.all fun c => c.toNat ≤ 127) = true := by decide
  exact of_decide_eq_true (List.all_eq_true.mp htable c h)

/-- A character has a value exactly when it is the character of that value. -/
theorem digit?_eq_some_iff {c : Char} {digit : Nat} :
    digit? c = some digit ↔ digit < 58 ∧ c = digitChar digit := by
  constructor
  · intro h
    obtain ⟨hlt, heq, -⟩ := List.idxOf?_eq_some_iff.mp h
    refine ⟨hlt, ?_⟩
    rw [digitChar, List.getD, List.getElem?_eq_getElem hlt, Option.getD_some, heq]
  · rintro ⟨hlt, rfl⟩
    have htable : ∀ digit < 58, digit? (digitChar digit) = some digit := by decide
    exact htable digit hlt

/-- A character has no digit just when it is not in the alphabet. -/
theorem digit?_eq_none_iff {c : Char} : digit? c = none ↔ c ∉ alphabet := List.idxOf?_eq_none_iff

/-- The fault of a character outside the alphabet. -/
def foreign (c : Char) (index : Nat) : Fault :=
  if c.toNat > 127 then .notAscii index else .invalidCharacter c index

/-- A character of the alphabet adds its digit to those that follow. -/
theorem digitsFrom_cons_of_mem {c : Char} {digit : Nat} (h : digit? c = some digit) (index : Nat)
    (rest : List Char) :
    digitsFrom index (c :: rest) = (digitsFrom (index + 1) rest).map (digit :: ·) := by
  obtain ⟨hlt, rfl⟩ := digit?_eq_some_iff.mp h
  have hascii := toNat_le_of_mem (digitChar_mem hlt)
  rw [digitsFrom, if_neg (by omega), h]

/-- The first character outside the alphabet is the fault. -/
theorem digitsFrom_cons_of_not_mem {c : Char} (h : c ∉ alphabet) (index : Nat)
    (rest : List Char) : digitsFrom index (c :: rest) = .error (foreign c index) := by
  rw [digitsFrom, foreign, digit?_eq_none_iff.mpr h]
  split <;> rfl

/-- Characters are read as the digits that they are the characters of. -/
theorem digitsFrom_eq_ok_iff {index : Nat} {chars : List Char} {digits : List Nat} :
    digitsFrom index chars = .ok digits ↔
      (∀ digit ∈ digits, digit < 58) ∧ digits.map digitChar = chars := by
  induction chars generalizing index digits with
  | nil =>
    rw [digitsFrom, Except.ok.injEq, List.map_eq_nil_iff, eq_comm, iff_and_self]
    rintro rfl
    simp
  | cons c rest ih =>
    rw [List.map_eq_cons_iff]
    cases hc : digit? c with
    | none =>
      rw [digitsFrom_cons_of_not_mem (digit?_eq_none_iff.mp hc)]
      refine iff_of_false (fun h => by cases h) ?_
      rintro ⟨hlt, first, others, rfl, rfl, -⟩
      exact digit?_eq_none_iff.mp hc (digitChar_mem (hlt first List.mem_cons_self))
    | some digit =>
      obtain ⟨hdigit, rfl⟩ := digit?_eq_some_iff.mp hc
      rw [digitsFrom_cons_of_mem hc, Except.map_eq_ok_iff]
      simp only [ih]
      constructor
      · rintro ⟨others, ⟨hothers, hmap⟩, rfl⟩
        exact ⟨List.forall_mem_cons.mpr ⟨hdigit, hothers⟩, digit, others, rfl, rfl, hmap⟩
      · rintro ⟨hlt, first, others, rfl, hfirst, hmap⟩
        obtain ⟨hfirstlt, hothers⟩ := List.forall_mem_cons.mp hlt
        have hsame : digit? (digitChar digit) = some first :=
          digit?_eq_some_iff.mpr ⟨hfirstlt, hfirst.symm⟩
        obtain rfl : digit = first := Option.some.inj (hc.symm.trans hsame)
        exact ⟨others, ⟨hothers, hmap⟩, rfl⟩

/-- Characters are refused for the first of them that is outside the alphabet. -/
theorem digitsFrom_eq_error_iff {index : Nat} {chars : List Char} {fault : Fault} :
    digitsFrom index chars = .error fault ↔
      ∃ before c after, chars = before ++ c :: after ∧ (∀ c ∈ before, c ∈ alphabet) ∧
        c ∉ alphabet ∧ fault = foreign c (index + before.length) := by
  induction chars generalizing index with
  | nil =>
    refine iff_of_false (fun h => by cases h) ?_
    rintro ⟨before, c, after, hnil, -⟩
    cases before <;> cases hnil
  | cons c rest ih =>
    cases hc : digit? c with
    | none =>
      have hforeign := digit?_eq_none_iff.mp hc
      rw [digitsFrom_cons_of_not_mem hforeign, Except.error.injEq]
      constructor
      · rintro rfl
        exact ⟨[], c, rest, rfl, by simp, hforeign, rfl⟩
      · rintro ⟨before, other, after, heq, hbefore, -, rfl⟩
        cases before with
        | nil =>
          obtain ⟨rfl, -⟩ := List.cons.inj heq
          rfl
        | cons first before =>
          obtain ⟨rfl, -⟩ := List.cons.inj heq
          exact absurd (hbefore c List.mem_cons_self) hforeign
    | some digit =>
      have hmem : c ∈ alphabet := by
        obtain ⟨hdigit, rfl⟩ := digit?_eq_some_iff.mp hc
        exact digitChar_mem hdigit
      rw [digitsFrom_cons_of_mem hc, Except.map_eq_error_iff, ih]
      constructor
      · rintro ⟨before, other, after, rfl, hbefore, hother, rfl⟩
        refine ⟨c :: before, other, after, rfl, List.forall_mem_cons.mpr ⟨hmem, hbefore⟩, hother,
          ?_⟩
        rw [List.length_cons, Nat.add_assoc, Nat.add_comm 1]
      · rintro ⟨before, other, after, heq, hbefore, hother, rfl⟩
        cases before with
        | nil =>
          obtain ⟨rfl, -⟩ := List.cons.inj heq
          exact absurd hmem hother
        | cons first before =>
          obtain ⟨rfl, rfl⟩ := List.cons.inj heq
          refine ⟨before, other, after, rfl, (List.forall_mem_cons.mp hbefore).2, hother, ?_⟩
          rw [List.length_cons, Nat.add_assoc, Nat.add_comm 1]

/-! ### Texts -/

/-- A text spells a buffer when its digits are the bytes of the buffer regrouped: one number, with
as many zeros in front. -/
def Spells (text : String) (bytes : Bytes) : Prop :=
  ∃ digits : List Nat, digits.map digitChar = text.toList ∧
    Regrouped 58 256 digits (bytes.map UInt8.toNat)

/-- The text of bytes has characters of the alphabet only. -/
theorem Spells.mem_alphabet {text : String} {bytes : Bytes} (h : Spells text bytes) :
    ∀ c ∈ text.toList, c ∈ alphabet := by
  obtain ⟨digits, hchars, hregrouped⟩ := h
  rw [← hchars]
  intro c hc
  obtain ⟨digit, hdigit, rfl⟩ := List.mem_map.mp hc
  exact digitChar_mem (hregrouped.left_lt digit hdigit)

/-- A text has at least as many characters as the buffer has bytes. -/
theorem Spells.length_le {text : String} {bytes : Bytes} (h : Spells text bytes) :
    bytes.length ≤ text.length := by
  obtain ⟨digits, hchars, hregrouped⟩ := h
  have hle := hregrouped.length_le (by omega) (by omega)
  rw [List.length_map] at hle
  rw [← String.length_toList, ← hchars, List.length_map]
  exact hle

/-- Bytes are digits in base 256. -/
theorem map_toNat_lt (bytes : Bytes) : ∀ digit ∈ bytes.map UInt8.toNat, digit < 256 := by
  intro digit hdigit
  obtain ⟨byte, -, rfl⟩ := List.mem_map.mp hdigit
  exact byte.toNat_lt

/-- Numbers below 256 are the bytes of a buffer exactly when they are its bytes as numbers. -/
theorem map_ofNat_eq_iff {digits : List Nat} (hlt : ∀ digit ∈ digits, digit < 256)
    {bytes : Bytes} : digits.map UInt8.ofNat = bytes ↔ digits = bytes.map UInt8.toNat := by
  constructor
  · rintro rfl
    rw [List.map_map, List.map_congr_left (g := id), List.map_id]
    exact fun digit hdigit => UInt8.toNat_ofNat_of_lt' (hlt digit hdigit)
  · rintro rfl
    simp [List.map_map, Function.comp_def]

/-- A text is read as the buffer that it spells. -/
theorem decode_eq_ok_iff {text : String} {bytes : Bytes} :
    decode text = .ok bytes ↔ Spells text bytes := by
  have hother : 2 ≤ 256 := by omega
  simp only [decode, decodeChars, Except.map_eq_ok_iff, digitsFrom_eq_ok_iff, Spells,
    Radix.regrouped_iff hother]
  refine exists_congr fun digits => ?_
  have hbytes : ∀ digit ∈ List.replicate (digits.takeWhile (· == 0)).length 0 ++
      Radix.digits 256 (Radix.value 58 digits), digit < 256 := by
    intro digit hdigit
    rcases List.mem_append.mp hdigit with hzero | hdigit
    · rw [List.eq_of_mem_replicate hzero]
      omega
    · exact Radix.lt_of_mem_digits (by omega) hdigit
  have hmap := @map_ofNat_eq_iff _ hbytes bytes
  rw [List.map_append, List.map_replicate] at hmap
  rw [← hmap]
  tauto

/-- A buffer is written as the text that spells it. -/
theorem encode_eq_iff {text : String} {bytes : Bytes} :
    encode bytes = text ↔ Spells text bytes := by
  have hzeros : ((bytes.map UInt8.toNat).takeWhile (· == 0)).length =
      (bytes.takeWhile (· == 0)).length := by
    have hzero : ((· == 0) ∘ UInt8.toNat) = (· == (0 : UInt8)) := by
      funext byte
      exact Bool.eq_iff_iff.mpr (by simp [← UInt8.toNat_inj])
    rw [List.takeWhile_map, List.length_map, hzero]
  have hchars : encodeBytes bytes =
      (List.replicate ((bytes.map UInt8.toNat).takeWhile (· == 0)).length 0 ++
        Radix.digits 58 (Radix.value 256 (bytes.map UInt8.toNat))).map digitChar := by
    rw [encodeBytes, hzeros, Bytes.ofBigEndian_eq_value, List.map_append, List.map_replicate]
    rfl
  have htext : encode bytes = text ↔ encodeBytes bytes = text.toList := by
    rw [encode]
    exact ⟨fun h => by rw [← h, String.toList_ofList], fun h => by rw [h, String.ofList_toList]⟩
  rw [htext, hchars]
  constructor
  · intro h
    exact ⟨_, h, ((Radix.regrouped_iff (by omega)).mpr ⟨map_toNat_lt bytes, rfl⟩).symm⟩
  · rintro ⟨digits, hdigits, hregrouped⟩
    rw [((Radix.regrouped_iff (by omega)).mp hregrouped.symm).2, hdigits]

/-- Base58 text is read back as the buffer it was written for. -/
theorem decode_encode (bytes : Bytes) : decode (encode bytes) = .ok bytes :=
  decode_eq_ok_iff.mpr (encode_eq_iff.mp rfl)

/-- A text is refused for its first character outside the alphabet. -/
theorem decode_eq_error_iff {text : String} {fault : Fault} :
    decode text = .error fault ↔
      ∃ before c after, text.toList = before ++ c :: after ∧ (∀ c ∈ before, c ∈ alphabet) ∧
        c ∉ alphabet ∧ fault = foreign c before.length := by
  simp only [decode, decodeChars, Except.map_eq_error_iff, digitsFrom_eq_error_iff, Nat.zero_add]

end Base58

end LedgerWire
