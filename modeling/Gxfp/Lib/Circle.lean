import Mathlib.Analysis.SpecialFunctions.Complex.Arg
import Mathlib.Analysis.SpecialFunctions.Trigonometric.Inverse

/-!
# Angles folded at their axes

The arc cosine of the cosine folds the circle at one axis and the arc sine of the
sine folds it at the other; neither tells an angle from its mirror image.  Two
angles are close around the circle exactly when both folds say so, for every
tolerance below a quarter turn.

On angles of one sign the first fold loses nothing and the second brings nothing
further apart.  On angles of opposite signs the first fold compares them with one
mirrored, and only the second fold tells how far they are from meeting at zero or
at half a turn.
-/

namespace Lib.Circle

open Real

variable {t u a b tolerance : ℝ}

/-- The distance around the circle of two angles between `-π` and `π`. -/
noncomputable def circularDistance (t u : ℝ) : ℝ :=
  min |t - u| (π + π - |t - u|)

theorem circularDistance_comm (t u : ℝ) : circularDistance t u = circularDistance u t := by
  simp only [circularDistance, abs_sub_comm]

/-! ## The folds -/

/-- The first fold is the absolute value. -/
theorem arccos_cos_eq_abs (above : -π ≤ t) (below : t ≤ π) : arccos (cos t) = |t| := by
  rw [← cos_abs]
  exact arccos_cos (abs_nonneg t) (abs_le.mpr ⟨above, below⟩)

/-- The second fold of an angle on the upper half. -/
theorem arcsin_sin_of_nonneg (above : 0 ≤ t) (below : t ≤ π) :
    arcsin (sin t) = min t (π - t) := by
  have positive := pi_pos
  by_cases first : t ≤ π / 2
  · rw [arcsin_sin (by linarith) first, min_eq_left (by linarith)]
  · rw [← sin_pi_sub, arcsin_sin (by linarith) (by linarith), min_eq_right (by linarith)]

/-- The second fold of an angle on the lower half. -/
theorem arcsin_sin_of_nonpos (above : -π ≤ t) (below : t ≤ 0) :
    arcsin (sin t) = -min (-t) (π - -t) := by
  have mirrored := arcsin_sin_of_nonneg (neg_nonneg.mpr below) (neg_le.mp above)
  rw [← mirrored, sin_neg, arcsin_neg, neg_neg]

/-! ## Angles of one sign -/

/-- The second fold does not bring angles of the upper half further apart. -/
theorem abs_min_sub_min_le (a b : ℝ) : |min a (π - a) - min b (π - b)| ≤ |a - b| := by
  have bound := abs_min_sub_min_le_max a (π - a) b (π - b)
  rwa [sub_sub_sub_cancel_left, abs_sub_comm b a, max_self] at bound

theorem circularDistance_of_abs_le (near : |t - u| ≤ π) : circularDistance t u = |t - u| := by
  rw [circularDistance, min_eq_left]
  linarith

theorem close_iff_of_nonneg (aboveT : 0 ≤ t) (belowT : t ≤ π) (aboveU : 0 ≤ u) (belowU : u ≤ π) :
    |arcsin (sin t) - arcsin (sin u)| ≤ tolerance ∧ |(|t| - |u|)| ≤ tolerance ↔
      circularDistance t u ≤ tolerance := by
  have near : |t - u| ≤ π := abs_sub_le_of_nonneg_of_le aboveT belowT aboveU belowU
  rw [circularDistance_of_abs_le near, abs_of_nonneg aboveT, abs_of_nonneg aboveU,
    arcsin_sin_of_nonneg aboveT belowT, arcsin_sin_of_nonneg aboveU belowU]
  constructor
  · rintro ⟨_, close⟩
    exact close
  · intro close
    exact ⟨(abs_min_sub_min_le t u).trans close, close⟩

/-! ## Angles of opposite signs -/

/-- Where one angle is mirrored, both folds together tell whether the two are close
to meeting at zero or at half a turn. -/
theorem fold_add_le_iff (aboveA : 0 ≤ a) (belowA : a ≤ π) (aboveB : 0 ≤ b) (belowB : b ≤ π)
    (small : 2 * tolerance < π) :
    min a (π - a) + min b (π - b) ≤ tolerance ∧ |a - b| ≤ tolerance ↔
      min (a + b) (π + π - (a + b)) ≤ tolerance := by
  rw [min_le_iff, abs_le]
  constructor
  · rintro ⟨folded, lower, upper⟩
    rcases min_choice a (π - a) with isA | isA
    · rcases min_choice b (π - b) with isB | isB
      · left
        rw [isA, isB] at folded
        exact folded
      · rw [isA, isB] at folded
        linarith
    · rcases min_choice b (π - b) with isB | isB
      · rw [isA, isB] at folded
        linarith
      · right
        rw [isA, isB] at folded
        linarith
  · rintro (atZero | atHalf)
    · have leA := min_le_left a (π - a)
      have leB := min_le_left b (π - b)
      exact ⟨by linarith, by linarith, by linarith⟩
    · have leA := min_le_right a (π - a)
      have leB := min_le_right b (π - b)
      exact ⟨by linarith, by linarith, by linarith⟩

theorem close_iff_of_nonneg_of_nonpos (aboveT : 0 ≤ t) (belowT : t ≤ π) (aboveU : -π ≤ u)
    (belowU : u ≤ 0) (small : 2 * tolerance < π) :
    |arcsin (sin t) - arcsin (sin u)| ≤ tolerance ∧ |(|t| - |u|)| ≤ tolerance ↔
      circularDistance t u ≤ tolerance := by
  have aboveB : 0 ≤ -u := neg_nonneg.mpr belowU
  have belowB : -u ≤ π := neg_le.mp aboveU
  have foldsT : 0 ≤ min t (π - t) := le_min aboveT (sub_nonneg.mpr belowT)
  have foldsU : 0 ≤ min (-u) (π - -u) := le_min aboveB (sub_nonneg.mpr belowB)
  have apart : |t - u| = t + -u := by
    rw [← sub_eq_add_neg]
    exact abs_of_nonneg (by linarith)
  rw [circularDistance, apart, ← fold_add_le_iff aboveT belowT aboveB belowB small,
    arcsin_sin_of_nonneg aboveT belowT, arcsin_sin_of_nonpos aboveU belowU, sub_neg_eq_add,
    abs_of_nonneg (add_nonneg foldsT foldsU), abs_of_nonneg aboveT, abs_of_nonpos belowU]

/-! ## All angles -/

theorem circularDistance_neg (t u : ℝ) : circularDistance (-t) (-u) = circularDistance t u := by
  rw [circularDistance, circularDistance, neg_sub_neg, abs_sub_comm]

/-- Two angles are close around the circle exactly when both folds bring them
close. -/
theorem folds_close_iff (aboveT : -π ≤ t) (belowT : t ≤ π) (aboveU : -π ≤ u) (belowU : u ≤ π)
    (small : 2 * tolerance < π) :
    |arcsin (sin t) - arcsin (sin u)| ≤ tolerance ∧ |(|t| - |u|)| ≤ tolerance ↔
      circularDistance t u ≤ tolerance := by
  rcases le_total 0 t with upperT | lowerT
  · rcases le_total 0 u with upperU | lowerU
    · exact close_iff_of_nonneg upperT belowT upperU belowU
    · exact close_iff_of_nonneg_of_nonpos upperT belowT aboveU lowerU small
  · rcases le_total 0 u with upperU | lowerU
    · have mirrored := close_iff_of_nonneg_of_nonpos upperU belowU aboveT lowerT small
      rw [circularDistance_comm, abs_sub_comm (arcsin (sin t)), abs_sub_comm |t|]
      exact mirrored
    · have mirrored := @close_iff_of_nonneg (-t) (-u) tolerance (neg_nonneg.mpr lowerT)
        (neg_le.mp aboveT) (neg_nonneg.mpr lowerU) (neg_le.mp aboveU)
      rw [circularDistance_neg, sin_neg, sin_neg, arcsin_neg, arcsin_neg, neg_sub_neg,
        abs_sub_comm (arcsin (sin u)), abs_neg, abs_neg] at mirrored
      exact mirrored

end Lib.Circle
