import Gxfp.Fprint.Match
import Gxfp.Lib.Circle

/-!
# The floating point of the score, in real numbers

Reads the lengths and angles that `sigfm_match_score` computes in `double` as real
numbers.  Every stored angle is two folds of the rotation that takes one
displacement to the other, and the tolerance test on the two is the distance around
the circle.

No quotient of the score has a zero below it: a pair of the set is displaced on at
least one side, and the test of the lengths then leaves no side without
displacement.
-/

namespace Gxfp.Fprint

open Real
open Lib.Circle

/-! ## The computations -/

/-- `struct angle` without the correspondences it keeps. -/
structure Angle where
  cos : ℝ
  sin : ℝ

/-- `length_match`. -/
noncomputable def LENGTH_MATCH : ℝ := 0.05

/-- `angle_tol_rad`. -/
noncomputable def ANGLE_TOL_RAD : ℝ := 0.10

/-- `clamp_unit`. -/
noncomputable def clampUnit (value : ℝ) : ℝ :=
  max (-1) (min value 1)

/-- The computations of the score in real numbers. -/
noncomputable def realMeasure : Measure Angle where
  lengthMatch sq1 sq2 :=
    decide (1 - min √(sq1 : ℝ) √(sq2 : ℝ) / max √(sq1 : ℝ) √(sq2 : ℝ) ≤ LENGTH_MATCH)
  angle sq1 sq2 dot cross :=
    let product := √(sq1 : ℝ) * √(sq2 : ℝ)
    ⟨π / 2 + arcsin (clampUnit (dot / product)), arccos (clampUnit (cross / product))⟩
  close angle1 angle2 :=
    decide (|angle1.sin - angle2.sin| ≤ ANGLE_TOL_RAD ∧ |angle1.cos - angle2.cos| ≤ ANGLE_TOL_RAD)
  close_comm := by
    intro angle1 angle2
    rw [abs_sub_comm, abs_sub_comm angle1.cos]

/-! ## Rotations -/

/-- The angle the score stores for two displacements. -/
noncomputable def vecAngle (v w : ℤ × ℤ) : Angle :=
  realMeasure.angle (vecSq v) (vecSq w) (vecDot v w) (vecCross v w)

/-- An integer vector in the complex plane. -/
def vecComplex (v : ℤ × ℤ) : ℂ :=
  ⟨v.1, v.2⟩

/-- The signed angle, in `(-π, π]`, of the rotation that takes the direction of one
vector to that of the other. -/
noncomputable def rotationAngle (v w : ℤ × ℤ) : ℝ :=
  (vecComplex w / vecComplex v).arg

/-- What the loops store for a pair is the angle of its displacements, as long as no
product leaves the range of an `int`. -/
theorem pairAngle_realMeasure {match1 match2 : Match} {vec1 vec2 : Point2i}
    (isVec1 : vec1 = match1.p1.sub match2.p1) (isVec2 : vec2 = match1.p2.sub match2.p2)
    (dotFits : -2147483648 ≤ vecDot vec1.toVec vec2.toVec ∧
      vecDot vec1.toVec vec2.toVec < 2147483648)
    (crossFits : -2147483648 ≤ vecCross vec1.toVec vec2.toVec ∧
      vecCross vec1.toVec vec2.toVec < 2147483648) :
    pairAngle realMeasure match1 match2 =
      if realMeasure.lengthMatch (vecSq vec1.toVec) (vecSq vec2.toVec) then
        some (vecAngle vec1.toVec vec2.toVec)
      else
        none := by
  unfold pairAngle
  rw [← isVec1, ← isVec2]
  dsimp only
  rw [Point2i.dot_eq dotFits, Point2i.cross_eq crossFits, Point2i.sq_eq, Point2i.sq_eq, vecAngle]

/-! ## The stored angle -/

theorem vecComplex_ne_zero {v : ℤ × ℤ} (nonzero : v ≠ 0) : vecComplex v ≠ 0 := by
  intro zero
  apply nonzero
  have re := congrArg Complex.re zero
  have im := congrArg Complex.im zero
  simp only [vecComplex, Complex.zero_re, Complex.zero_im, Int.cast_eq_zero] at re im
  exact Prod.ext re im

/-- The length of a vector. -/
theorem sqrt_vecSq (v : ℤ × ℤ) : √(vecSq v : ℝ) = ‖vecComplex v‖ := by
  rw [Complex.norm_eq_sqrt_sq_add_sq]
  simp [vecSq, vecComplex]

section Rotation

variable {v w : ℤ × ℤ}

/-- The quotient of the two vectors, by its parts and its length. -/
theorem vecComplex_div (nonzeroV : v ≠ 0) :
    (vecComplex w / vecComplex v).re = vecDot v w / ‖vecComplex v‖ ^ 2 ∧
      (vecComplex w / vecComplex v).im = vecCross v w / ‖vecComplex v‖ ^ 2 := by
  have length := norm_pos_iff.mpr (vecComplex_ne_zero nonzeroV)
  rw [Complex.div_re, Complex.div_im, Complex.normSq_eq_norm_sq]
  constructor
  · simp only [vecComplex, vecDot, Int.cast_add, Int.cast_mul]
    ring
  · simp only [vecComplex, vecCross, Int.cast_sub, Int.cast_mul]
    ring

/-- The scalar product over the lengths is the cosine of the rotation. -/
theorem vecDot_div (nonzeroV : v ≠ 0) (nonzeroW : w ≠ 0) :
    (vecDot v w : ℝ) / (√(vecSq v : ℝ) * √(vecSq w : ℝ)) = Real.cos (rotationAngle v w) := by
  have lengthV := norm_pos_iff.mpr (vecComplex_ne_zero nonzeroV)
  have lengthW := norm_pos_iff.mpr (vecComplex_ne_zero nonzeroW)
  have nonzero := div_ne_zero (vecComplex_ne_zero nonzeroW) (vecComplex_ne_zero nonzeroV)
  rw [rotationAngle, Complex.cos_arg nonzero, (vecComplex_div nonzeroV).1, norm_div, sqrt_vecSq,
    sqrt_vecSq]
  field_simp

/-- The cross product over the lengths is its sine. -/
theorem vecCross_div (nonzeroV : v ≠ 0) (nonzeroW : w ≠ 0) :
    (vecCross v w : ℝ) / (√(vecSq v : ℝ) * √(vecSq w : ℝ)) = Real.sin (rotationAngle v w) := by
  have lengthV := norm_pos_iff.mpr (vecComplex_ne_zero nonzeroV)
  have lengthW := norm_pos_iff.mpr (vecComplex_ne_zero nonzeroW)
  rw [rotationAngle, Complex.sin_arg, (vecComplex_div nonzeroV).2, norm_div, sqrt_vecSq,
    sqrt_vecSq]
  field_simp

/-- Between `-1` and `1` the clamp does nothing. -/
theorem clampUnit_of_mem {value : ℝ} (above : -1 ≤ value) (below : value ≤ 1) :
    clampUnit value = value := by
  rw [clampUnit, min_eq_left below, max_eq_right above]

/-- The score stores the two folds of the rotation. -/
theorem vecAngle_eq (nonzeroV : v ≠ 0) (nonzeroW : w ≠ 0) :
    vecAngle v w =
      ⟨π / 2 + arcsin (Real.cos (rotationAngle v w)), arccos (Real.sin (rotationAngle v w))⟩ := by
  simp only [vecAngle, realMeasure, vecDot_div nonzeroV nonzeroW, vecCross_div nonzeroV nonzeroW,
    clampUnit_of_mem (neg_one_le_cos _) (cos_le_one _),
    clampUnit_of_mem (neg_one_le_sin _) (sin_le_one _)]

theorem cos_vecAngle (nonzeroV : v ≠ 0) (nonzeroW : w ≠ 0) :
    (vecAngle v w).cos = π - |rotationAngle v w| := by
  have above := (Complex.neg_pi_lt_arg (vecComplex w / vecComplex v)).le
  have below := Complex.arg_le_pi (vecComplex w / vecComplex v)
  rw [vecAngle_eq nonzeroV nonzeroW, arcsin_eq_pi_div_two_sub_arccos]
  dsimp only
  rw [rotationAngle, arccos_cos_eq_abs above below]
  ring

theorem sin_vecAngle (nonzeroV : v ≠ 0) (nonzeroW : w ≠ 0) :
    (vecAngle v w).sin = π / 2 - arcsin (Real.sin (rotationAngle v w)) := by
  rw [vecAngle_eq nonzeroV nonzeroW, arccos_eq_pi_div_two_sub_arcsin]

end Rotation

/-- The tolerance test on two stored angles is the distance of the two rotations
around the circle. -/
theorem realMeasure_close_iff {v1 v2 w1 w2 : ℤ × ℤ} (nonzeroV1 : v1 ≠ 0) (nonzeroV2 : v2 ≠ 0)
    (nonzeroW1 : w1 ≠ 0) (nonzeroW2 : w2 ≠ 0) :
    realMeasure.close (vecAngle v1 v2) (vecAngle w1 w2) = true ↔
      circularDistance (rotationAngle v1 v2) (rotationAngle w1 w2) ≤ 0.10 := by
  have small : 2 * ANGLE_TOL_RAD < π := by
    have large := two_le_pi
    norm_num [ANGLE_TOL_RAD]
    linarith
  have folds := folds_close_iff (Complex.neg_pi_lt_arg (vecComplex v2 / vecComplex v1)).le
    (Complex.arg_le_pi (vecComplex v2 / vecComplex v1))
    (Complex.neg_pi_lt_arg (vecComplex w2 / vecComplex w1)).le
    (Complex.arg_le_pi (vecComplex w2 / vecComplex w1)) small
  change _ ↔ circularDistance (rotationAngle v1 v2) (rotationAngle w1 w2) ≤ ANGLE_TOL_RAD
  rw [rotationAngle, rotationAngle, ← folds, realMeasure, decide_eq_true_eq,
    cos_vecAngle nonzeroV1 nonzeroV2, cos_vecAngle nonzeroW1 nonzeroW2,
    sin_vecAngle nonzeroV1 nonzeroV2, sin_vecAngle nonzeroW1 nonzeroW2, sub_sub_sub_cancel_left,
    sub_sub_sub_cancel_left, abs_sub_comm, abs_sub_comm |rotationAngle w1 w2|]
  rfl

/-- A quarter turn, and a rotation close to it. -/
theorem realMeasure_close_iff_quarter :
    realMeasure.close (vecAngle (1, 0) (0, 1)) (vecAngle (20, 0) (-1, 20)) = true ↔
      circularDistance (rotationAngle (1, 0) (0, 1)) (rotationAngle (20, 0) (-1, 20)) ≤ 0.10 :=
  realMeasure_close_iff (by decide) (by decide) (by decide) (by decide)

/-! ## Quotients -/

theorem Point2i.sub_eq_zero_iff {a b : Point2i} : a.sub b = ⟨0, 0⟩ ↔ a = b := by
  obtain ⟨ax, ay⟩ := a
  obtain ⟨bx, by_⟩ := b
  simp only [sub, Point2i.mk.injEq]
  grind

/-- Only the zero vector has no length. -/
theorem Point2i.sq_pos {v : Point2i} (nonzero : v ≠ ⟨0, 0⟩) : 0 < v.sq := by
  have someCoordinate : v.x.toInt ≠ 0 ∨ v.y.toInt ≠ 0 := by
    by_contra! zero
    apply nonzero
    obtain ⟨x, y⟩ := v
    rw [Point2i.mk.injEq]
    exact ⟨Int32.toInt_inj.mp zero.1, Int32.toInt_inj.mp zero.2⟩
  rw [sq]
  rcases someCoordinate with x | y
  · positivity
  · positivity

/-- Distinct correspondences are displaced on one side at least. -/
theorem Match.displaced {match1 match2 : Match} (distinct : match1 ≠ match2) :
    ¬ (match1.p1.sub match2.p1 = ⟨0, 0⟩ ∧ match1.p2.sub match2.p2 = ⟨0, 0⟩) := by
  rintro ⟨first, second⟩
  apply distinct
  obtain ⟨p1, p2⟩ := match1
  obtain ⟨q1, q2⟩ := match2
  rw [Match.mk.injEq]
  exact ⟨Point2i.sub_eq_zero_iff.mp first, Point2i.sub_eq_zero_iff.mp second⟩

/-- Lengths that match are both positive, once one of them is. -/
theorem lengths_pos_of_lengthMatch {length1 length2 : ℝ} (displaced : 0 < max length1 length2)
    (matches_ : 1 - min length1 length2 / max length1 length2 ≤ LENGTH_MATCH) :
    0 < length1 ∧ 0 < length2 := by
  have ratio : 0 < min length1 length2 / max length1 length2 := by
    norm_num [LENGTH_MATCH] at matches_
    linarith
  have shorter : 0 < min length1 length2 := by
    by_contra! zero
    have quotient := div_nonpos_of_nonpos_of_nonneg zero displaced.le
    linarith
  exact lt_min_iff.mp shorter

/-- No two distinct elements of the set have both displacements zero, so the ratio of
their lengths has a positive length below it; and where the ratio passes the test,
the product below the scalar and the cross product is positive. -/
theorem matchesUnique_quotients (accepted : List Match) :
    (matchesUnique accepted).Nodup ∧
    ∀ match1 ∈ matchesUnique accepted, ∀ match2 ∈ matchesUnique accepted, match1 ≠ match2 →
      let vec1 := match1.p1.sub match2.p1
      let vec2 := match1.p2.sub match2.p2
      ¬ (vec1 = ⟨0, 0⟩ ∧ vec2 = ⟨0, 0⟩) ∧
      0 < max √(vec1.sq : ℝ) √(vec2.sq : ℝ) ∧
      (realMeasure.lengthMatch vec1.sq vec2.sq = true →
        0 < √(vec1.sq : ℝ) ∧ 0 < √(vec2.sq : ℝ) ∧ 0 < √(vec1.sq : ℝ) * √(vec2.sq : ℝ)) := by
  refine ⟨matchesUnique_nodup accepted, ?_⟩
  intro match1 _ match2 _ distinct vec1 vec2
  have displaced : ¬ (vec1 = ⟨0, 0⟩ ∧ vec2 = ⟨0, 0⟩) := Match.displaced distinct
  have longer : 0 < max √(vec1.sq : ℝ) √(vec2.sq : ℝ) := by
    rw [lt_max_iff, sqrt_pos, sqrt_pos, Int.cast_pos, Int.cast_pos]
    rcases not_and_or.mp displaced with first | second
    · exact .inl (Point2i.sq_pos first)
    · exact .inr (Point2i.sq_pos second)
  refine ⟨displaced, longer, ?_⟩
  intro matched
  obtain ⟨first, second⟩ := lengths_pos_of_lengthMatch longer (of_decide_eq_true matched)
  exact ⟨first, second, mul_pos first second⟩

/-- Two points that were found at one pixel, with partners that were not. -/
theorem matchesUnique_quotients_shared :
    0 < max √((⟨0, 0⟩ : Point2i).sq : ℝ) √((⟨-3, -4⟩ : Point2i).sq : ℝ) :=
  ((matchesUnique_quotients [⟨⟨1, 1⟩, ⟨0, 0⟩⟩, ⟨⟨1, 1⟩, ⟨3, 4⟩⟩]).2 ⟨⟨1, 1⟩, ⟨0, 0⟩⟩ (by decide)
    ⟨⟨1, 1⟩, ⟨3, 4⟩⟩ (by decide) (by decide)).2.1

end Gxfp.Fprint
