import LedgerWire.Curve.Field
import LedgerWire.Proofs.Text.Numerals
import Mathlib.FieldTheory.Finite.Basic
import Mathlib.NumberTheory.LegendreSymbol.Basic
import Mathlib.NumberTheory.LucasPrimality
import Mathlib.Tactic.LinearCombination
import Mathlib.Tactic.NormNum.Prime

/-!
# The numbers below the modulus are a field

The modulus is prime, which is shown by Lucas's test from the factors of its predecessor, the
factors being shown prime in the same way. So the operations on numbers below the modulus are
those of a field, powers by squaring are powers, and the root of a fraction is found when there is
one.
-/

namespace LedgerWire

/-! ### Binary digits -/

/-- What holds of zero, and is kept by doubling and by adding one, holds along the binary digits
of a number. -/
theorem Radix.foldl_digits_two {α : Type} (holds : Nat → α → Prop) (double step : α → α)
    {start : α} (hstart : holds 0 start) (hdouble : ∀ n a, holds n a → holds (2 * n) (double a))
    (hstep : ∀ n a, holds n a → holds (n + 1) (step a)) (number : Nat) :
    holds number ((digits 2 number).foldl
      (fun a bit => if bit = 1 then step (double a) else double a) start) := by
  have hbits : ∀ (bits : List Nat) (n : Nat) (a : α), (∀ bit ∈ bits, bit < 2) → holds n a →
      holds (bits.foldl (fun n bit => n * 2 + bit) n)
        (bits.foldl (fun a bit => if bit = 1 then step (double a) else double a) a) := by
    intro bits
    induction bits with
    | nil => exact fun n a _ ha => ha
    | cons bit bits ih =>
      intro n a hlt ha
      rw [List.foldl_cons, List.foldl_cons]
      apply ih _ _ fun other hother => hlt other (List.mem_cons_of_mem _ hother)
      have hbit : bit < 2 := hlt bit List.mem_cons_self
      by_cases hone : bit = 1
      · rw [if_pos hone, hone, Nat.mul_comm]
        exact hstep _ _ (hdouble _ _ ha)
      · have hzero : bit = 0 := by omega
        rw [if_neg hone, hzero, Nat.mul_comm]
        exact hdouble _ _ ha
  have h := hbits (digits 2 number) 0 start (fun _ => lt_of_mem_digits (Nat.le_refl 2)) hstart
  rwa [show (digits 2 number).foldl (fun n bit => n * 2 + bit) 0 = number from
    value_digits (Nat.le_refl 2) number] at h

/-! ### Primes -/

/-- A power modulo a number, by squaring along the binary digits of the exponent. -/
def powMod (modulus x exponent : Nat) : Nat :=
  (Radix.digits 2 exponent).foldl
    (fun power bit => if bit = 1 then power * power % modulus * x % modulus
      else power * power % modulus) 1

/-- Squaring and multiplying gives the power, up to the modulus. -/
theorem powMod_modEq (modulus x exponent : Nat) :
    powMod modulus x exponent ≡ x ^ exponent [MOD modulus] := by
  refine Radix.foldl_digits_two (fun n power => power ≡ x ^ n [MOD modulus])
    (fun power => power * power % modulus) (fun power => power * x % modulus) ?_ ?_ ?_ exponent
  · rfl
  · intro n power hpower
    rw [two_mul, pow_add]
    exact (Nat.mod_modEq _ _).trans (hpower.mul hpower)
  · intro n power hpower
    exact (Nat.mod_modEq _ _).trans (hpower.mul_right x)

/-- Lucas's test: the factors are those of the number before p, and the powers of the root that
are one are no others than in a field with p elements. -/
def Lucas (p root : Nat) (factors : List Nat) : Prop :=
  factors.prod = p - 1 ∧ powMod p root (p - 1) ≡ 1 [MOD p] ∧
    ∀ q ∈ factors, ¬powMod p root ((p - 1) / q) ≡ 1 [MOD p]

instance (p root : Nat) (factors : List Nat) : Decidable (Lucas p root factors) :=
  inferInstanceAs (Decidable (_ ∧ _ ∧ _))

/-- A number that passes the test is prime, if the factors are. -/
theorem Lucas.prime {p root : Nat} {factors : List Nat} (htest : Lucas p root factors)
    (hfactors : ∀ q ∈ factors, q.Prime) : p.Prime := by
  obtain ⟨hprod, hone, horder⟩ := htest
  have hcast : ∀ n, (root : ZMod p) ^ n = 1 ↔ powMod p root n ≡ 1 [MOD p] := by
    intro n
    rw [← Nat.cast_pow, ← Nat.cast_one, ZMod.natCast_eq_natCast_iff]
    exact ⟨(powMod_modEq p root n).trans, (powMod_modEq p root n).symm.trans⟩
  refine lucas_primality p root ((hcast _).mpr hone) ?_
  intro q hq hdvd
  rw [← hprod] at hdvd
  obtain ⟨factor, hmem, hdvd⟩ := (Prime.dvd_prod_iff hq.prime).mp hdvd
  rw [(Nat.prime_dvd_prime_iff_eq hq (hfactors factor hmem)).mp hdvd, ne_eq, hcast]
  exact horder factor hmem

namespace Field

/-- The modulus is prime. Large factors come first in the lists, and the small ones are left to
trial division. -/
theorem modulus_prime : modulus.Prime := by
  have h1 : Nat.Prime 2773320623 := by
    have htest : Lucas 2773320623 5 [2, 2437, 569003] := by decide +kernel
    exact htest.prime (by norm_num)
  have h2 : Nat.Prime 72106336199 := by
    have htest : Lucas 72106336199 7 [2773320623, 2, 13] := by decide +kernel
    exact htest.prime (List.forall_mem_cons.mpr ⟨h1, by norm_num⟩)
  have h3 : Nat.Prime 1919519569386763 := by
    have htest : Lucas 1919519569386763 2 [2, 3, 7, 19, 47, 47, 127, 8574133] := by decide +kernel
    exact htest.prime (by norm_num)
  have h4 : Nat.Prime 75445702479781427272750846543864801 := by
    have htest : Lucas 75445702479781427272750846543864801 7
        [72106336199, 1919519569386763, 2, 2, 2, 2, 2, 3, 3, 5, 5, 75707] := by
      decide +kernel
    exact htest.prime (List.forall_mem_cons.mpr ⟨h2, List.forall_mem_cons.mpr ⟨h3, by norm_num⟩⟩)
  have h5 : Nat.Prime 31757755568855353 := by
    have htest : Lucas 31757755568855353 10 [2, 2, 2, 3, 31, 107, 223, 4153, 430751] := by
      decide +kernel
    exact htest.prime (by norm_num)
  have h6 : Nat.Prime
      74058212732561358302231226437062788676166966415465897661863160754340907 := by
    have htest : Lucas 74058212732561358302231226437062788676166966415465897661863160754340907 2
        [75445702479781427272750846543864801, 31757755568855353, 2, 3, 353, 57467, 132049,
          1923133] := by
      decide +kernel
    exact htest.prime (List.forall_mem_cons.mpr ⟨h4, List.forall_mem_cons.mpr ⟨h5, by norm_num⟩⟩)
  have htest : Lucas modulus 2
      [74058212732561358302231226437062788676166966415465897661863160754340907, 2, 2, 3,
        65147] := by
    decide +kernel
  exact htest.prime (List.forall_mem_cons.mpr ⟨h6, by norm_num⟩)

instance : Fact modulus.Prime := ⟨modulus_prime⟩

/-! ### Operations -/

/-- The elements of the field. -/
abbrev Element := ZMod modulus

/-- The modulus is positive. -/
theorem modulus_pos : 0 < modulus := modulus_prime.pos

/-- Two is not zero in the field, whose characteristic is odd. -/
theorem two_ne_zero : (2 : Element) ≠ 0 := by
  have h : ¬modulus ∣ 2 := by decide
  rwa [← ZMod.natCast_eq_zero_iff] at h

/-- A difference is reduced. -/
theorem sub_lt (x y : Nat) : sub x y < modulus := Nat.mod_lt _ modulus_pos

/-- A product is reduced. -/
theorem mul_lt (x y : Nat) : mul x y < modulus := Nat.mod_lt _ modulus_pos

/-- A negative is reduced. -/
theorem neg_lt (x : Nat) : neg x < modulus := sub_lt 0 x

/-- A number below the modulus is determined by its element. -/
theorem eq_of_cast_eq {x y : Nat} (hx : x < modulus) (hy : y < modulus)
    (h : (x : Element) = y) : x = y :=
  Nat.ModEq.eq_of_lt_of_lt ((ZMod.natCast_eq_natCast_iff _ _ _).mp h) hx hy

/-- A number below the modulus is the least number of its element. -/
theorem eq_val {x : Nat} {a : Element} (hx : x < modulus) (h : (x : Element) = a) : x = a.val := by
  rw [← h, ZMod.val_cast_of_lt hx]

/-- The sum of residues stands for the sum in the field. -/
@[simp] theorem cast_add (x y : Nat) : (add x y : Element) = x + y := by
  rw [add, ZMod.natCast_mod, Nat.cast_add]

/-- The difference of residues stands for the difference in the field. -/
@[simp] theorem cast_sub (x y : Nat) : (sub x y : Element) = x - y := by
  have hle : y % modulus ≤ modulus := Nat.le_of_lt (Nat.mod_lt y modulus_pos)
  rw [sub, ZMod.natCast_mod, Nat.cast_add, Nat.cast_sub hle, ZMod.natCast_self,
    ZMod.natCast_mod]
  ring

/-- The product of residues stands for the product in the field. -/
@[simp] theorem cast_mul (x y : Nat) : (mul x y : Element) = x * y := by
  rw [mul, ZMod.natCast_mod, Nat.cast_mul]

/-- The negative of a residue stands for the negative in the field. -/
@[simp] theorem cast_neg (x : Nat) : (neg x : Element) = -x := by
  rw [neg, cast_sub, Nat.cast_zero, zero_sub]

/-- The power of a residue stands for the power in the field. -/
@[simp] theorem cast_pow (x exponent : Nat) :
    (pow x exponent : Element) = (x : Element) ^ exponent := by
  refine Radix.foldl_digits_two (fun n (power : Nat) => (power : Element) = (x : Element) ^ n)
    (fun power => mul power power) (fun power => mul power x) ?_ ?_ ?_ exponent
  · rw [Nat.cast_one, pow_zero]
  · intro n power hpower
    rw [cast_mul, hpower, ← pow_add, two_mul]
  · intro n power hpower
    rw [cast_mul, hpower, pow_succ]

/-- The inverse of a residue stands for the inverse in the field. -/
@[simp] theorem cast_inv (x : Nat) : (inv x : Element) = (x : Element)⁻¹ := by
  rw [inv, cast_pow]
  by_cases hx : (x : Element) = 0
  · rw [hx, inv_zero]
    exact zero_pow (by decide)
  · refine eq_inv_of_mul_eq_one_left ?_
    rw [← pow_succ]
    exact ZMod.pow_card_sub_one_eq_one hx

/-! ### Square roots -/

/-- The root of minus one is one. -/
theorem cast_rootOfMinusOne_sq : (rootOfMinusOne : Element) ^ 2 = -1 := by
  have h : mul rootOfMinusOne rootOfMinusOne = neg 1 := by decide
  have hcast := congrArg (Nat.cast : Nat → Element) h
  rwa [cast_mul, cast_neg, Nat.cast_one, ← sq] at hcast

/-- The negative of a residue that is not zero is its difference to the modulus. -/
theorem neg_eq_sub {x : Nat} (hpos : 0 < x) (hx : x < modulus) : neg x = modulus - x := by
  rw [neg, sub, Nat.zero_add, Nat.mod_eq_of_lt hx]
  exact Nat.mod_eq_of_lt (by omega)

/-- The modulus is odd, so the negative of an element other than zero has the other parity. -/
theorem neg_mod_two {x : Nat} (hpos : 0 < x) (hx : x < modulus) : neg x % 2 = 1 - x % 2 := by
  have hmodulus : modulus % 2 = 1 := by decide
  rw [neg_eq_sub hpos hx]
  omega

/-- The candidate for a root of `u / v`. -/
def candidate (u v : Element) : Element := u * v ^ 3 * (u * v ^ 7) ^ ((modulus - 5) / 8)

/-- The square of the candidate is that of the root up to a power that is one or minus one. -/
theorem candidate_sq {u v x : Element} (hv : v ≠ 0) (h : u = x ^ 2 * v) :
    candidate u v ^ 2 = x ^ 2 ∨ candidate u v ^ 2 = -x ^ 2 := by
  have hexponent : (modulus - 5) / 8 * 4 + 2 = modulus / 2 := by decide
  have hpower : candidate u v ^ 2 = x ^ 2 * (x * v ^ 4) ^ (modulus / 2) := by
    rw [candidate, ← hexponent, h]
    generalize (modulus - 5) / 8 = k
    have hroot : x ^ 2 * v * v ^ 7 = (x * v ^ 4) ^ 2 := by ring
    rw [hroot]
    ring
  rw [hpower]
  by_cases hx : x = 0
  · left
    rw [hx]
    ring
  · have hbase : x * v ^ 4 ≠ 0 := mul_ne_zero hx (pow_ne_zero 4 hv)
    rcases ZMod.pow_div_two_eq_neg_one_or_one modulus hbase with hone | hone
    · left
      rw [hone, mul_one]
    · right
      rw [hone]
      ring

/-- What is found as the root of a fraction is one. -/
theorem sq_mul_of_sqrtRatio {u v root : Nat} (h : sqrtRatio u v = some root) :
    (root : Element) ^ 2 * v = u := by
  simp only [sqrtRatio, Option.map_eq_some_iff] at h
  obtain ⟨found, hfound, rfl⟩ := h
  generalize mul (mul u (mul (mul v v) v)) (pow (mul u (mul (mul (mul (mul v v) v)
    (mul (mul v v) v)) v)) ((modulus - 5) / 8)) = candidate at hfound
  have hsq : (found : Element) ^ 2 * v = u := by
    split at hfound
    · rename_i hcheck
      obtain rfl := Option.some.inj hfound
      rw [← hcheck, cast_mul, cast_mul]
      ring
    · split at hfound
      · rename_i hcheck
        have hcast := congrArg (Nat.cast : Nat → Element) hcheck
        rw [cast_neg, cast_mul, cast_mul] at hcast
        rw [← Option.some.inj hfound, cast_mul, mul_pow, cast_rootOfMinusOne_sq]
        linear_combination -hcast
      · cases hfound
  split
  · exact hsq
  · rw [cast_neg, neg_sq, hsq]

/-- A fraction that is a square has an even square root. Of a root and its negative, the even
one is taken. -/
theorem sqrtRatio_of_sq {u v : Nat} {x : Element} (hu : u < modulus) (hv : (v : Element) ≠ 0)
    (h : (u : Element) = x ^ 2 * v) :
    ∃ root, sqrtRatio u v = some root ∧ root < modulus ∧ root % 2 = 0 ∧
      (root : Element) ^ 2 = x ^ 2 := by
  have heven : ∀ root, root < modulus → (root : Element) ^ 2 = x ^ 2 →
      ∃ chosen, (if root % 2 = 0 then root else neg root) = chosen ∧ chosen < modulus ∧
        chosen % 2 = 0 ∧ (chosen : Element) ^ 2 = x ^ 2 := by
    intro root hlt hsq
    by_cases hparity : root % 2 = 0
    · exact ⟨root, if_pos hparity, hlt, hparity, hsq⟩
    · have hneg : neg root % 2 = 1 - root % 2 := neg_mod_two (by omega) hlt
      refine ⟨neg root, if_neg hparity, neg_lt root, by omega, ?_⟩
      rw [cast_neg, neg_sq, hsq]
  simp only [sqrtRatio, Option.map_eq_some_iff]
  generalize hfound : mul (mul u (mul (mul v v) v)) (pow (mul u (mul (mul (mul (mul v v) v)
    (mul (mul v v) v)) v)) ((modulus - 5) / 8)) = found
  have hcast : (found : Element) = candidate u v := by
    rw [← hfound, candidate]
    simp only [cast_mul, cast_pow]
    ring
  have hlt : found < modulus := hfound ▸ mul_lt _ _
  have hcheck : (mul v (mul found found) : Element) = v * candidate u v ^ 2 := by
    rw [cast_mul, cast_mul, hcast, sq]
  have hroot : ∃ root, (if mul v (mul found found) = u then some found
      else if mul v (mul found found) = neg u then some (mul found rootOfMinusOne)
      else none) = some root ∧ root < modulus ∧ (root : Element) ^ 2 = x ^ 2 := by
    by_cases hfirst : mul v (mul found found) = u
    · refine ⟨found, if_pos hfirst, hlt, mul_left_cancel₀ hv ?_⟩
      rw [hcast, ← hcheck, hfirst, h, mul_comm]
    · have hsq : candidate u v ^ 2 = -x ^ 2 := by
        refine (candidate_sq hv h).resolve_left fun hsq => hfirst ?_
        refine eq_of_cast_eq (mul_lt _ _) hu ?_
        rw [hcheck, hsq, h, mul_comm]
      have hsecond : mul v (mul found found) = neg u := by
        refine eq_of_cast_eq (mul_lt _ _) (neg_lt u) ?_
        rw [hcheck, hsq, cast_neg, h]
        ring
      refine ⟨mul found rootOfMinusOne, ?_, mul_lt _ _, ?_⟩
      · rw [if_neg hfirst, if_pos hsecond]
      · rw [cast_mul, hcast, mul_pow, hsq, cast_rootOfMinusOne_sq]
        ring
  obtain ⟨root, hsome, hlt, hsq⟩ := hroot
  obtain ⟨chosen, hchosen, hfacts⟩ := heven root hlt hsq
  exact ⟨chosen, ⟨root, hsome, hchosen⟩, hfacts⟩

end Field

end LedgerWire
