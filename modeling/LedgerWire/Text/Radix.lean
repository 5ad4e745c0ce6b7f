/-!
# Numbers as digits

Digits are listed from the highest to the lowest, with no leading zero, so zero has no digits
at all. Both decimal text and base58 text are written from these lists.
-/

namespace LedgerWire

/-- Powers of naturals are those of the core library, also in a module that brings in algebra, so
that a bound is the same term everywhere. -/
@[default_instance 20000]
instance (priority := 20000) naturalPower : Pow Nat Nat := instPowNat

/-- Powers of integers, likewise. -/
@[default_instance 20000]
instance (priority := 20000) integerPower : Pow Int Nat := instPowNat

end LedgerWire

namespace LedgerWire.Radix

/-- Puts the digits of `number` before `low`. The first argument bounds how many are taken. -/
def digitsBefore (base : Nat) : Nat → Nat → List Nat → List Nat
  | 0, _, low => low
  | bound + 1, number, low =>
    if number = 0 then low else digitsBefore base bound (number / base) (number % base :: low)

/-- The digits of `number` in `base`, which is at least two: each digit takes off at least one
binary place, so the bound is never reached. -/
def digits (base number : Nat) : List Nat := digitsBefore base (number.log2 + 1) number []

/-- The number that a list of digits stands for. -/
def value (base : Nat) (digits : List Nat) : Nat :=
  digits.foldl (fun number digit => number * base + digit) 0

/-- Digits behind others leave the value of the others shifted by their length. -/
theorem value_append (base : Nat) (high low : List Nat) :
    value base (high ++ low) = value base high * base ^ low.length + value base low := by
  have shift : ∀ (low : List Nat) (start : Nat),
      low.foldl (fun number digit => number * base + digit) start =
        start * base ^ low.length + low.foldl (fun number digit => number * base + digit) 0 := by
    intro low
    induction low with
    | nil => simp
    | cons digit rest ih =>
      intro start
      simp only [List.foldl_cons, List.length_cons, Nat.zero_mul, Nat.zero_add]
      rw [ih, ih digit, Nat.pow_succ, Nat.add_mul]
      simp [Nat.mul_assoc, Nat.mul_comm base, Nat.add_assoc]
  rw [value, List.foldl_append, shift]
  rfl

/-- The first digit counts for the power of the base that the rest is long. -/
theorem value_cons (base digit : Nat) (low : List Nat) :
    value base (digit :: low) = digit * base ^ low.length + value base low := by
  have := value_append base [digit] low
  simpa [value] using this

/-- The digits that are put before others are those of the number, if there is room for them. -/
theorem value_digitsBefore {base : Nat} (two_le : 2 ≤ base) (bound number : Nat) (low : List Nat)
    (small : number < 2 ^ bound) :
    value base (digitsBefore base bound number low) =
      number * base ^ low.length + value base low := by
  induction bound generalizing number low with
  | zero =>
    have : number = 0 := by simpa using small
    simp [digitsBefore, this]
  | succ bound ih =>
    unfold digitsBefore
    split
    · simp [*]
    · have half : number / base ≤ number / 2 := Nat.div_le_div_left two_le (by omega)
      have fits : number / base < 2 ^ bound := by
        rw [Nat.pow_succ] at small
        omega
      rw [ih _ _ fits, value_cons, List.length_cons, Nat.pow_succ, ← Nat.add_assoc]
      congr 1
      rw [Nat.mul_comm (base ^ low.length) base, ← Nat.mul_assoc, ← Nat.add_mul]
      congr 1
      rw [Nat.mul_comm]
      exact Nat.div_add_mod number base

/-- The digits of a number stand for that number. -/
theorem value_digits {base : Nat} (two_le : 2 ≤ base) (number : Nat) :
    value base (digits base number) = number := by
  have := value_digitsBefore two_le (number.log2 + 1) number [] Nat.lt_log2_self
  simpa [digits, value] using this

end LedgerWire.Radix
