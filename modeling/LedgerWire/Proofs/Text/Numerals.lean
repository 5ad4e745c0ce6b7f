import LedgerWire.Bytes
import LedgerWire.Text.Hex
import Mathlib.Data.Nat.Digits.Lemmas

/-!
# Digits of numbers and of bytes

The digits of a number are its digits in the usual sense, the highest first, so a list of digits
without a leading zero is determined by its value. Hexadecimal text, which takes each byte by
itself, gives back the buffer it was written for.
-/

namespace LedgerWire

/-! ### Digits -/

namespace Radix

/-- Taking digits off at the low end puts the usual digits before what is there already. -/
theorem digitsBefore_eq {base : Nat} (hbase : 2 ≤ base) {bound number : Nat} {low : List Nat}
    (hnumber : number < 2 ^ bound) :
    digitsBefore base bound number low = (Nat.digits base number).reverse ++ low := by
  induction bound generalizing number low with
  | zero =>
    have hzero : number = 0 := by simpa using hnumber
    simp [digitsBefore, hzero]
  | succ bound ih =>
    unfold digitsBefore
    split
    · rename_i hzero
      simp [hzero]
    · rename_i hpos
      have hhalf : number / base ≤ number / 2 := Nat.div_le_div_left hbase (by omega)
      have hquotient : number / base < 2 ^ bound := by
        rw [Nat.pow_succ] at hnumber
        omega
      have hdigits : Nat.digits base number = number % base :: Nat.digits base (number / base) :=
        Nat.digits_def' (by omega) (by omega)
      rw [ih hquotient, hdigits]
      simp

/-- The digits of a number, the high ones first, are those of the library reversed. -/
theorem digits_eq {base : Nat} (hbase : 2 ≤ base) (number : Nat) :
    digits base number = (Nat.digits base number).reverse := by
  rw [digits, digitsBefore_eq hbase Nat.lt_log2_self, List.append_nil]

/-- The value of digits is that of the library with the digits reversed. -/
theorem value_eq (base : Nat) (digits : List Nat) :
    value base digits = Nat.ofDigits base digits.reverse := by
  rw [Nat.ofDigits_eq_foldr, List.foldr_reverse, value]
  congr 1
  funext number digit
  simp [Nat.mul_comm, Nat.add_comm]

/-- A digit is below its base. -/
theorem lt_of_mem_digits {base number digit : Nat} (hbase : 2 ≤ base)
    (hdigit : digit ∈ digits base number) : digit < base := by
  rw [digits_eq hbase, List.mem_reverse] at hdigit
  exact Nat.digits_lt_base (by omega) hdigit

/-- The number of digits is the logarithm and one. -/
theorem length_digits {base number : Nat} (hbase : 2 ≤ base) (hnumber : number ≠ 0) :
    (digits base number).length = Nat.log base number + 1 := by
  rw [digits_eq hbase, List.length_reverse, Nat.length_digits base number (by omega) hnumber]

/-- In a larger base a number has no more digits. -/
theorem length_digits_le {base other : Nat} (hbase : 2 ≤ base) (hle : base ≤ other)
    (number : Nat) : (digits other number).length ≤ (digits base number).length := by
  by_cases hnumber : number = 0
  · rw [hnumber, digits_eq hbase, digits_eq (hbase.trans hle)]
    simp
  · rw [length_digits hbase hnumber, length_digits (hbase.trans hle) hnumber]
    exact Nat.succ_le_succ (Nat.log_anti_left (by omega) hle)

/-- The digits of a number have no leading zero. -/
theorem head?_digits_ne_zero {base : Nat} (hbase : 2 ≤ base) (number : Nat) :
    (digits base number).head? ≠ some 0 := by
  rw [digits_eq hbase, List.head?_reverse]
  by_cases hzero : number = 0
  · simp [hzero]
  · rw [List.getLast?_eq_some_getLast (Nat.digits_ne_nil_iff_ne_zero.mpr hzero), ne_eq,
      Option.some.injEq]
    exact Nat.getLast_digit_ne_zero base hzero

/-- Digits without a leading zero are the digits of their value. -/
theorem digits_value {base : Nat} (hbase : 2 ≤ base) {list : List Nat}
    (hlt : ∀ digit ∈ list, digit < base) (hhead : list.head? ≠ some 0) :
    digits base (value base list) = list := by
  rw [digits_eq hbase, value_eq, Nat.digits_ofDigits base (by omega), List.reverse_reverse]
  · simpa using hlt
  · intro hne hlast
    rw [List.getLast_reverse] at hlast
    exact hhead (by rw [List.head?_eq_some_head (by simpa using hne), hlast])

/-- A further digit multiplies the value by the base and adds itself. -/
theorem value_concat (base : Nat) (high : List Nat) (digit : Nat) :
    value base (high ++ [digit]) = value base high * base + digit := by
  rw [value, List.foldl_concat, value]

/-- Leading zeros leave the value as it is. -/
theorem value_replicate_append (base count : Nat) (list : List Nat) :
    value base (List.replicate count 0 ++ list) = value base list := by
  induction count with
  | zero => rfl
  | succ count ih =>
    rw [List.replicate_succ, List.cons_append, value_cons, ih, Nat.zero_mul, Nat.zero_add]

end Radix

/-- The number of a buffer has its bytes as digits. -/
theorem Bytes.ofBigEndian_eq_value (bytes : Bytes) :
    ofBigEndian bytes = Radix.value 256 (bytes.map UInt8.toNat) := by
  rw [ofBigEndian, Radix.value, List.foldl_map]

/-! ### Hexadecimal text -/

namespace Hex

/-- The character of a hexadecimal digit has this digit. -/
theorem digit?_digitChar {digit : Nat} (hdigit : digit < 16) :
    digit? (digitChar digit) = some digit := by
  have htable : ∀ digit < 16, digit? (digitChar digit) = some digit := by decide
  exact htable digit hdigit

/-- Each byte is read back from its pair of digits. -/
theorem decodeChars_flatMap_pair (bytes : Bytes) :
    decodeChars (bytes.flatMap pair) = some bytes := by
  induction bytes with
  | nil => rfl
  | cons byte rest ih =>
    have hlt : byte.toNat < 256 := byte.toNat_lt
    have hhigh : digit? (digitChar (byte.toNat / 16)) = some (byte.toNat / 16) :=
      digit?_digitChar (by omega)
    have hlow : digit? (digitChar (byte.toNat % 16)) = some (byte.toNat % 16) :=
      digit?_digitChar (by omega)
    rw [List.flatMap_cons, pair, List.cons_append, List.cons_append, List.nil_append, decodeChars,
      hhigh, hlow, ih]
    simp only [Nat.div_add_mod, UInt8.ofNat_toNat]

/-- Hexadecimal text is read back as the buffer it was written for. -/
theorem decode?_encode (bytes : Bytes) : decode? (encode bytes) = some bytes := by
  rw [decode?, encode, String.toList_ofList, decodeChars_flatMap_pair]

end Hex

end LedgerWire
