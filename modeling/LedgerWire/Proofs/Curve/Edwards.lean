import Mathlib.Algebra.Field.Basic
import Mathlib.Algebra.Group.Even
import Mathlib.Tactic.LinearCombination
import Mathlib.Tactic.FieldSimp
import Mathlib.Tactic.Ring

/-!
# The group of the curve

Over a field in which minus one is a square and d is not, the sum of any two points of the curve
−x² + y² = 1 + d·x²·y² is given by one pair of fractions, whose denominators are never zero. With
this sum the points are a commutative group. Apart from the denominators, everything is an
identity of polynomials that holds on the curve.
-/

namespace LedgerWire

/-- What makes the sum of two points of the curve defined everywhere. -/
class CompleteEdwards {F : Type} [Field F] (d : F) : Prop where
  two_ne_zero : (2 : F) ≠ 0
  isSquare_neg_one : IsSquare (-1 : F)
  not_isSquare : ¬IsSquare d

/-- A point of the curve −x² + y² = 1 + d·x²·y². -/
@[ext]
structure AffinePoint {F : Type} [Field F] (d : F) where
  x : F
  y : F
  onCurve : y ^ 2 - x ^ 2 = 1 + d * (x * y) ^ 2

namespace AffinePoint

variable {F : Type} [Field F] {d : F}

/-- The numerator of the x coordinate of a sum. -/
def numeratorX (P Q : AffinePoint d) : F := P.x * Q.y + P.y * Q.x

/-- The numerator of the y coordinate of a sum. -/
def numeratorY (P Q : AffinePoint d) : F := P.y * Q.y + P.x * Q.x

/-- How far the denominators of a sum are from one, up for x and down for y. -/
def excess (P Q : AffinePoint d) : F := d * (P.x * P.y) * (Q.x * Q.y)

/-! ### The denominators -/

/-- A square is the non-square times another square only when both are zero. -/
theorem eq_zero_of_sq_eq [CompleteEdwards d] {a b : F} (h : a ^ 2 = d * b ^ 2) : b = 0 := by
  by_contra hb
  refine CompleteEdwards.not_isSquare (d := d) ⟨a / b, ?_⟩
  field_simp
  exact h.symm

/-- A denominator that is zero would make d a square, or one of the coordinates zero. -/
theorem sq_eq_of_excess_sq {P Q : AffinePoint d} {root : F} (hroot : root * root = -1)
    (hone : excess P Q ^ 2 = 1) :
    (P.y + excess P Q * root * P.x) ^ 2 = d * (P.x * P.y * (Q.y + root * Q.x)) ^ 2 := by
  have hP := P.onCurve
  have hQ := Q.onCurve
  unfold excess at *
  linear_combination hP - d * (P.x * P.y) ^ 2 * hQ - (1 + P.x ^ 2) * hone +
    ((d * (P.x * P.y) * (Q.x * Q.y)) ^ 2 * P.x ^ 2 - d * (P.x * P.y) ^ 2 * Q.x ^ 2) * hroot

/-- The excess of two points of the curve is neither one nor minus one. -/
theorem excess_sq_ne_one [CompleteEdwards d] (P Q : AffinePoint d) : excess P Q ^ 2 ≠ 1 := by
  intro hone
  obtain ⟨root, hroot⟩ := CompleteEdwards.isSquare_neg_one d
  have hne : d * (P.x * P.y) * (Q.x * Q.y) ≠ 0 := by
    intro hzero
    rw [excess, hzero] at hone
    simp at hone
  have hfirst : P.x * P.y * (Q.y + root * Q.x) = 0 :=
    eq_zero_of_sq_eq (sq_eq_of_excess_sq hroot.symm hone)
  have hsecond : P.x * P.y * (Q.y + -root * Q.x) = 0 :=
    eq_zero_of_sq_eq (sq_eq_of_excess_sq (by rw [neg_mul_neg]; exact hroot.symm) hone)
  have hdouble : 2 * root * (P.x * P.y * Q.x) = 0 := by
    linear_combination hfirst - hsecond
  have htwo : (2 : F) ≠ 0 := CompleteEdwards.two_ne_zero d
  have hroot' : root ≠ 0 := by
    rintro rfl
    simp at hroot
  have hthree : P.x * P.y * Q.x = 0 :=
    (mul_eq_zero.mp hdouble).resolve_left (mul_ne_zero htwo hroot')
  refine hne ?_
  linear_combination d * Q.y * hthree

/-- The denominator of the first coordinate of a sum is not zero. -/
theorem one_add_excess_ne_zero [CompleteEdwards d] (P Q : AffinePoint d) :
    1 + excess P Q ≠ 0 := by
  intro hzero
  refine excess_sq_ne_one P Q ?_
  linear_combination (excess P Q - 1) * hzero

/-- The denominator of the second coordinate of a sum is not zero. -/
theorem one_sub_excess_ne_zero [CompleteEdwards d] (P Q : AffinePoint d) :
    1 - excess P Q ≠ 0 := by
  intro hzero
  refine excess_sq_ne_one P Q ?_
  linear_combination -(excess P Q + 1) * hzero

/-! ### The sum of two points -/

/-- The fractions of a sum are on the curve. -/
theorem sum_onCurve (P Q : AffinePoint d) :
    (numeratorY P Q * (1 + excess P Q)) ^ 2 - (numeratorX P Q * (1 - excess P Q)) ^ 2 =
      ((1 + excess P Q) * (1 - excess P Q)) ^ 2 + d * (numeratorX P Q * numeratorY P Q) ^ 2 := by
  have hP := P.onCurve
  have hQ := Q.onCurve
  unfold numeratorX numeratorY excess
  linear_combination
    ((1 + (d * (P.x * P.y) * (Q.x * Q.y)) ^ 2) * (Q.y ^ 2 - Q.x ^ 2) -
      d * (Q.x * Q.y) ^ 2 * (P.y ^ 2 - P.x ^ 2 + 1 + d * (P.x * P.y) ^ 2)) * hP +
    ((1 + (d * (P.x * P.y) * (Q.x * Q.y)) ^ 2) * (1 + d * (P.x * P.y) ^ 2) -
      d * (P.x * P.y) ^ 2 * (Q.y ^ 2 - Q.x ^ 2 + 1 + d * (Q.x * Q.y) ^ 2)) * hQ

/-- The denominator of the x coordinate of a sum of three points. -/
def denominatorX (P Q R : AffinePoint d) : F :=
  (1 + excess P Q) * (1 - excess P Q) + d * (numeratorX P Q * numeratorY P Q) * (R.x * R.y)

/-- The denominator of the y coordinate of a sum of three points. -/
def denominatorY (P Q R : AffinePoint d) : F :=
  (1 + excess P Q) * (1 - excess P Q) - d * (numeratorX P Q * numeratorY P Q) * (R.x * R.y)

/-- The x coordinate of a sum of three points stays the same when the first goes to the end. Cleared
of denominators, the two sides differ by multiples of the equations of the three points. -/
theorem rotate_x (P Q R : AffinePoint d) :
    (numeratorX P Q * (1 - excess P Q) * R.y + numeratorY P Q * (1 + excess P Q) * R.x) *
        denominatorX Q R P =
      (numeratorX Q R * (1 - excess Q R) * P.y + numeratorY Q R * (1 + excess Q R) * P.x) *
        denominatorX P Q R := by
  obtain ⟨x1, y1, hP⟩ := P
  obtain ⟨x2, y2, hQ⟩ := Q
  obtain ⟨x3, y3, hR⟩ := R
  simp only [denominatorX, numeratorX, numeratorY, excess]
  linear_combination d * (x2 * y2) *
    ((x1 * (y2 * y3 + x2 * x3) * (x3 * y3 + x2 * y2 * (y3 ^ 2 - x3 ^ 2 - 1)) -
        y1 * (x2 * y3 + y2 * x3) * (x3 * y3 - x2 * y2 * (y3 ^ 2 - x3 ^ 2 - 1))) * hP +
      d * (x1 * y1) * (x3 * y3) *
        (x1 * y1 * (y1 * (x2 * y3 + y2 * x3) - x1 * (y2 * y3 + x2 * x3)) -
          x3 * y3 * (y3 * (x1 * y2 + y1 * x2) - x3 * (y1 * y2 + x1 * x2))) * hQ +
      (y3 * (x1 * y2 + y1 * x2) * (x1 * y1 - x2 * y2 * (y1 ^ 2 - x1 ^ 2 - 1)) -
        x3 * (y1 * y2 + x1 * x2) * (x1 * y1 + x2 * y2 * (y1 ^ 2 - x1 ^ 2 - 1))) * hR)

/-- The y coordinate of a sum of three points stays the same when the first goes to the end. The
multiples are those for the x coordinate with the coordinates exchanged. -/
theorem rotate_y (P Q R : AffinePoint d) :
    (numeratorY P Q * (1 + excess P Q) * R.y + numeratorX P Q * (1 - excess P Q) * R.x) *
        denominatorY Q R P =
      (numeratorY Q R * (1 + excess Q R) * P.y + numeratorX Q R * (1 - excess Q R) * P.x) *
        denominatorY P Q R := by
  obtain ⟨x1, y1, hP⟩ := P
  obtain ⟨x2, y2, hQ⟩ := Q
  obtain ⟨x3, y3, hR⟩ := R
  simp only [denominatorY, numeratorX, numeratorY, excess]
  linear_combination d * (x2 * y2) *
    ((y1 * (y2 * y3 + x2 * x3) * (x3 * y3 + x2 * y2 * (y3 ^ 2 - x3 ^ 2 - 1)) -
        x1 * (x2 * y3 + y2 * x3) * (x3 * y3 - x2 * y2 * (y3 ^ 2 - x3 ^ 2 - 1))) * hP +
      d * (x1 * y1) * (x3 * y3) *
        (x1 * y1 * (x1 * (x2 * y3 + y2 * x3) - y1 * (y2 * y3 + x2 * x3)) -
          x3 * y3 * (x3 * (x1 * y2 + y1 * x2) - y3 * (y1 * y2 + x1 * x2))) * hQ +
      (x3 * (x1 * y2 + y1 * x2) * (x1 * y1 - x2 * y2 * (y1 ^ 2 - x1 ^ 2 - 1)) -
        y3 * (y1 * y2 + x1 * x2) * (x1 * y1 + x2 * y2 * (y1 ^ 2 - x1 ^ 2 - 1))) * hR)

/-! ### The group -/

instance : Zero (AffinePoint d) := ⟨⟨0, 1, by ring⟩⟩

instance : Neg (AffinePoint d) := ⟨fun P => ⟨-P.x, P.y, by linear_combination P.onCurve⟩⟩

/-- The first coordinate of the neutral point is zero. -/
@[simp] theorem zero_x : (0 : AffinePoint d).x = 0 := rfl

/-- The second coordinate of the neutral point is one. -/
@[simp] theorem zero_y : (0 : AffinePoint d).y = 1 := rfl

/-- The negative of a point has the negative first coordinate. -/
@[simp] theorem neg_x (P : AffinePoint d) : (-P).x = -P.x := rfl

/-- The negative of a point has the same second coordinate. -/
@[simp] theorem neg_y (P : AffinePoint d) : (-P).y = P.y := rfl

variable [CompleteEdwards d]

instance : Add (AffinePoint d) where
  add P Q :=
    { x := numeratorX P Q / (1 + excess P Q)
      y := numeratorY P Q / (1 - excess P Q)
      onCurve := by
        have hup := one_add_excess_ne_zero P Q
        have hdown := one_sub_excess_ne_zero P Q
        have h := sum_onCurve P Q
        field_simp
        linear_combination h }

/-- The first coordinate of a sum, cleared of its denominator. -/
theorem add_x (P Q : AffinePoint d) : (P + Q).x * (1 + excess P Q) = numeratorX P Q :=
  div_mul_cancel₀ _ (one_add_excess_ne_zero P Q)

/-- The second coordinate of a sum, cleared of its denominator. -/
theorem add_y (P Q : AffinePoint d) : (P + Q).y * (1 - excess P Q) = numeratorY P Q :=
  div_mul_cancel₀ _ (one_sub_excess_ne_zero P Q)

/-- A point is a sum when its coordinates are the fractions of the sum. -/
theorem eq_add_of_mul_eq {P Q R : AffinePoint d} (hx : R.x * (1 + excess P Q) = numeratorX P Q)
    (hy : R.y * (1 - excess P Q) = numeratorY P Q) : R = P + Q := by
  ext
  · exact mul_right_cancel₀ (one_add_excess_ne_zero P Q) (hx.trans (add_x P Q).symm)
  · exact mul_right_cancel₀ (one_sub_excess_ne_zero P Q) (hy.trans (add_y P Q).symm)

/-- The order of two points in a sum does not matter. -/
protected theorem add_comm (P Q : AffinePoint d) : P + Q = Q + P := by
  apply eq_add_of_mul_eq
  · have h := add_x P Q
    unfold numeratorX excess at *
    linear_combination h
  · have h := add_y P Q
    unfold numeratorY excess at *
    linear_combination h

/-- The neutral point changes no point. -/
protected theorem zero_add (P : AffinePoint d) : 0 + P = P := by
  symm
  apply eq_add_of_mul_eq
  · show P.x * (1 + d * (0 * 1) * (P.x * P.y)) = 0 * P.y + 1 * P.x
    ring
  · show P.y * (1 - d * (0 * 1) * (P.x * P.y)) = 1 * P.y + 0 * P.x
    ring

/-- A point and its negative sum up to the neutral point. -/
protected theorem neg_add_cancel (P : AffinePoint d) : -P + P = 0 := by
  have hP := P.onCurve
  symm
  apply eq_add_of_mul_eq
  · show 0 * (1 + d * (-P.x * P.y) * (P.x * P.y)) = -P.x * P.y + P.y * P.x
    ring
  · show 1 * (1 - d * (-P.x * P.y) * (P.x * P.y)) = P.y * P.y + -P.x * P.x
    linear_combination -hP

/-- The denominator of the first coordinate of a sum of three points is not zero. -/
theorem denominatorX_ne_zero (P Q R : AffinePoint d) : denominatorX P Q R ≠ 0 := by
  have h : denominatorX P Q R =
      (1 + excess P Q) * (1 - excess P Q) * (1 + excess (P + Q) R) := by
    rw [denominatorX, ← add_x, ← add_y]
    unfold excess
    ring
  rw [h]
  exact mul_ne_zero (mul_ne_zero (one_add_excess_ne_zero P Q) (one_sub_excess_ne_zero P Q))
    (one_add_excess_ne_zero (P + Q) R)

/-- The denominator of the second coordinate of a sum of three points is not zero. -/
theorem denominatorY_ne_zero (P Q R : AffinePoint d) : denominatorY P Q R ≠ 0 := by
  have h : denominatorY P Q R =
      (1 + excess P Q) * (1 - excess P Q) * (1 - excess (P + Q) R) := by
    rw [denominatorY, ← add_x, ← add_y]
    unfold excess
    ring
  rw [h]
  exact mul_ne_zero (mul_ne_zero (one_add_excess_ne_zero P Q) (one_sub_excess_ne_zero P Q))
    (one_sub_excess_ne_zero (P + Q) R)

/-- The first coordinate of a sum of three points, cleared of its denominators. -/
theorem add_add_x (P Q R : AffinePoint d) :
    (P + Q + R).x * denominatorX P Q R =
      numeratorX P Q * (1 - excess P Q) * R.y + numeratorY P Q * (1 + excess P Q) * R.x := by
  have h := add_x (P + Q) R
  rw [denominatorX, ← add_x P Q, ← add_y P Q]
  simp only [excess, numeratorX] at h ⊢
  linear_combination (1 + d * (P.x * P.y) * (Q.x * Q.y)) * (1 - d * (P.x * P.y) * (Q.x * Q.y)) * h

/-- The second coordinate of a sum of three points, cleared of its denominators. -/
theorem add_add_y (P Q R : AffinePoint d) :
    (P + Q + R).y * denominatorY P Q R =
      numeratorY P Q * (1 + excess P Q) * R.y + numeratorX P Q * (1 - excess P Q) * R.x := by
  have h := add_y (P + Q) R
  rw [denominatorY, ← add_x P Q, ← add_y P Q]
  simp only [excess, numeratorY] at h ⊢
  linear_combination (1 + d * (P.x * P.y) * (Q.x * Q.y)) * (1 - d * (P.x * P.y) * (Q.x * Q.y)) * h

/-- In a sum of three points the first may go to the end. -/
theorem add_rotate (P Q R : AffinePoint d) : P + Q + R = Q + R + P := by
  ext
  · refine mul_right_cancel₀
      (mul_ne_zero (denominatorX_ne_zero P Q R) (denominatorX_ne_zero Q R P)) ?_
    linear_combination denominatorX Q R P * add_add_x P Q R + rotate_x P Q R -
      denominatorX P Q R * add_add_x Q R P
  · refine mul_right_cancel₀
      (mul_ne_zero (denominatorY_ne_zero P Q R) (denominatorY_ne_zero Q R P)) ?_
    linear_combination denominatorY Q R P * add_add_y P Q R + rotate_y P Q R -
      denominatorY P Q R * add_add_y Q R P

/-- The points of the curve are a commutative group. -/
instance : AddCommGroup (AffinePoint d) where
  add_assoc P Q R := by
    rw [add_rotate]
    exact AffinePoint.add_comm (Q + R) P
  zero_add := AffinePoint.zero_add
  add_zero P := by
    rw [AffinePoint.add_comm]
    exact P.zero_add
  neg_add_cancel := AffinePoint.neg_add_cancel
  add_comm := AffinePoint.add_comm
  nsmul := nsmulRec
  zsmul := zsmulRec

end AffinePoint

end LedgerWire
