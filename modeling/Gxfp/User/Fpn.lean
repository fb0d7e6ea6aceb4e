import Gxfp.User.Decoder
import Mathlib.Tactic.NormNum
import Mathlib.Tactic.Linarith

/-!
# The correction with a dark frame

`gxfp_fpn_correct` takes the absolute difference to a dark frame, looks for the
least and the greatest difference off the border, and stretches every pixel from
that range to twelve bits.  The stretch clamps, so a stretched image always fits.
When the least difference is not below the greatest, nothing is stretched and the
image stays as the subtraction left it; this is so exactly for images that are
flat off the border, at a value of twelve bits.
-/

namespace Gxfp.User

open Gxfp.Errno

/-! ## Least and greatest -/

/-- A scan that keeps the better of two values ends with the best one. -/
theorem foldl_best {α : Type*} (better : α → α → Prop) [DecidableRel better]
    (irrefl : ∀ a, ¬ better a a) (asymm : ∀ a b, better a b → ¬ better b a)
    (trans : ∀ a b c, ¬ better a b → ¬ better b c → ¬ better a c) (values : List α) (start : α) :
    let best := values.foldl (fun best v => if better v best then v else best) start
    ¬ better start best ∧ (∀ v ∈ values, ¬ better v best) ∧ (best = start ∨ best ∈ values) := by
  induction values generalizing start with
  | nil => exact ⟨irrefl start, fun v member => absurd member List.not_mem_nil, .inl rfl⟩
  | cons value values ih =>
      rw [List.foldl_cons]
      by_cases wins : better value start
      · rw [if_pos wins]
        obtain ⟨overStart, overRest, source⟩ := ih value
        refine ⟨trans _ _ _ (asymm _ _ wins) overStart, ?_, .inr ?_⟩
        · intro v member
          rcases List.mem_cons.mp member with rfl | later
          · exact overStart
          · exact overRest v later
        · rcases source with here | later
          · rw [here]
            exact List.mem_cons_self
          · exact List.mem_cons_of_mem _ later
      · rw [if_neg wins]
        obtain ⟨overStart, overRest, source⟩ := ih start
        refine ⟨overStart, ?_, source.imp_right (List.mem_cons_of_mem _)⟩
        intro v member
        rcases List.mem_cons.mp member with rfl | later
        · exact trans _ _ _ wins overStart
        · exact overRest v later

/-- `gmin` of `gxfp_fpn_correct`. -/
def fpnMin (inner : List UInt16) : UInt16 :=
  inner.foldl (fun gmin v => if v < gmin then v else gmin) 4095

/-- `gmax` of `gxfp_fpn_correct`. -/
def fpnMax (inner : List UInt16) : UInt16 :=
  inner.foldl (fun gmax v => if v > gmax then v else gmax) 0

theorem fpnMin_spec (inner : List UInt16) :
    (fpnMin inner).toNat ≤ 4095 ∧ (∀ v ∈ inner, (fpnMin inner).toNat ≤ v.toNat) ∧
      (fpnMin inner = 4095 ∨ fpnMin inner ∈ inner) := by
  have scan := foldl_best (fun a b : UInt16 => a < b) (fun a => UInt16.lt_irrefl a)
    (fun a b less => UInt16.lt_asymm less)
    (fun a b c first second => by
      rw [UInt16.not_lt] at first second ⊢
      exact UInt16.le_trans second first) inner 4095
  refine ⟨UInt16.le_iff_toNat_le.mp (UInt16.not_lt.mp scan.1), ?_, scan.2.2⟩
  intro v member
  exact UInt16.le_iff_toNat_le.mp (UInt16.not_lt.mp (scan.2.1 v member))

theorem fpnMax_spec (inner : List UInt16) :
    (∀ v ∈ inner, v.toNat ≤ (fpnMax inner).toNat) ∧
      (fpnMax inner = 0 ∨ fpnMax inner ∈ inner) := by
  have scan := foldl_best (fun a b : UInt16 => a > b) (fun a => UInt16.lt_irrefl a)
    (fun a b less => UInt16.lt_asymm less)
    (fun a b c first second => by
      rw [gt_iff_lt, UInt16.not_lt] at first second ⊢
      exact UInt16.le_trans first second) inner 0
  refine ⟨?_, scan.2.2⟩
  intro v member
  exact UInt16.le_iff_toNat_le.mp (UInt16.not_lt.mp (scan.2.1 v member))

/-- The scan finds no range exactly where all values are the same one of twelve
bits. -/
theorem fpn_flat_iff (inner : List UInt16) :
    ¬ fpnMax inner > fpnMin inner ↔ ∃ level ≤ 4095, ∀ v ∈ inner, v.toNat = level := by
  obtain ⟨minSmall, minBelow, minSource⟩ := fpnMin_spec inner
  obtain ⟨maxAbove, maxSource⟩ := fpnMax_spec inner
  rw [gt_iff_lt, UInt16.not_lt, UInt16.le_iff_toNat_le]
  constructor
  · intro none
    refine ⟨(fpnMin inner).toNat, minSmall, ?_⟩
    intro v member
    exact Nat.le_antisymm (Nat.le_trans (maxAbove v member) none) (minBelow v member)
  · rintro ⟨level, small, flat⟩
    have maxLe : (fpnMax inner).toNat ≤ level := by
      rcases maxSource with zero | member
      · rw [zero]
        exact Nat.zero_le _
      · exact Nat.le_of_eq (flat _ member)
    have leMin : level ≤ (fpnMin inner).toNat := by
      rcases minSource with top | member
      · rw [top]
        exact small
      · exact Nat.le_of_eq (flat _ member).symm
    exact Nat.le_trans maxLe leMin

/-! ## The stretch -/

/-- A stretched pixel has twelve bits. -/
theorem fpnStretch_le (gmin gmax pixel : UInt16) : (fpnStretch gmin gmax pixel).toNat ≤ 4095 := by
  have rounded (v : Rat) : (UInt16.ofNat
      ((if v > 4095 then 4095 else v) + 1 / 2).floor.toNat).toNat ≤ 4095 := by
    have below : (if v > 4095 then 4095 else v) ≤ 4095 := by
      split
      · exact le_refl _
      · next clamped => exact not_lt.mp clamped
    have lower : ((if v > 4095 then 4095 else v) + 1 / 2).floor < 4096 := by
      rw [Rat.floor_lt_iff]
      push_cast
      linarith
    rw [UInt16.toNat_ofNat']
    exact Nat.le_trans (Nat.mod_le _ _) (by omega)
  exact rounded _

/-! ## The whole correction -/

/-- The difference of two pixels. -/
theorem fpnSubtract_getElem? (pixels dark : List UInt16) (index : Nat) :
    ((fpnSubtract pixels dark)[index]?).map UInt16.toNat =
      (pixels[index]?).map fun pixel =>
        ((pixel.toNat : Int) - ((dark.getD index 0).toNat : Int)).natAbs := by
  unfold fpnSubtract
  rw [List.getElem?_mapIdx, Option.map_map]
  apply congrFun
  apply congrArg
  funext pixel
  have pixelLt := pixel.toNat_lt
  have darkLt := (dark.getD index 0).toNat_lt
  rw [Function.comp_apply, UInt16.toNat_ofNat']
  exact Nat.mod_eq_of_lt (by omega)

@[simp]
theorem fpnSubtract_length (pixels dark : List UInt16) :
    (fpnSubtract pixels dark).length = pixels.length := by
  simp [fpnSubtract]

/-- `gxfp_fpn_correct` with a dark frame of the same geometry. -/
theorem fpnCorrect_eq {pixels : List UInt16} {rows cols : Int} (rowsPos : 0 < rows)
    (colsPos : 0 < cols) (dark : List UInt16) :
    fpnCorrect pixels rows cols (some ⟨dark, rows, cols⟩) =
      let difference := fpnSubtract pixels dark
      let inner := fpnInner difference rows.toNat cols.toNat
      if fpnMax inner > fpnMin inner then
        .ok (difference.map (fpnStretch (fpnMin inner) (fpnMax inner)))
      else
        .ok difference := by
  have positive : ¬ (rows ≤ 0 ∨ cols ≤ 0) := by omega
  have same : ¬ (some (FpnDark.mk dark rows cols)).any fun dark => dark.rows ≠ rows ∨
      dark.cols ≠ cols := by
    simp
  unfold fpnCorrect
  rw [if_neg positive, if_neg same]
  rfl

end Gxfp.User
