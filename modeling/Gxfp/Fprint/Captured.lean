import Gxfp.User.DecoderAuto
import Gxfp.User.Fpn

/-!
# Captured images for libfprint

Embeds the conversion in `emit_image_captured` of
`libfprint/libfprint/drivers/gxfp.c`, which takes the pixels of a corrected
image to have twelve bits and scales them to eight.

A stretched image fits.  An image that is flat off the border is not stretched:
its border keeps the differences to the dark frame, and those of samples with
sixteen bits need not fit.
-/

namespace Gxfp.Fprint

open Lib.Bytes
open Lib.Chunks
open Gxfp.User

/-! ## The conversion -/

/-- The data byte of a pixel in `emit_image_captured`. -/
def capturedByte (p : UInt16) : Byte :=
  (p.toUInt32 * 255 / 4095).toUInt8

/-- The data that `emit_image_captured` hands to libfprint. -/
def capturedData (img : DecodedImage) : List Byte :=
  (List.range img.rows.toNat).flatMap fun y =>
    (List.range img.cols.toNat).map fun x =>
      capturedByte (img.pixels.getD (y * img.cols.toNat + x) 0)

/-- The pixels of an image have twelve bits, their scaled values eight, and the
bytes handed to libfprint are those values. -/
structure FitsConversion (img : DecodedImage) : Prop where
  pixel : ∀ p ∈ img.pixels, p.toNat ≤ 4095
  scaled : ∀ p ∈ img.pixels, p.toNat * 255 / 4095 ≤ 255
  data : (capturedData img).map UInt8.toNat = img.pixels.map fun p => p.toNat * 255 / 4095

theorem capturedByte_toNat (p : UInt16) :
    (capturedByte p).toNat = p.toNat * 255 / 4095 % 256 := by
  have bound := p.toNat_lt
  have product : p.toNat * 255 % 4294967296 = p.toNat * 255 := Nat.mod_eq_of_lt (by omega)
  simp [capturedByte, product]

/-- The rows of an image, one after the other, are its pixels. -/
theorem capturedData_eq {pixels : List UInt16} {rows cols : Nat}
    (length : pixels.length = rows * cols) :
    capturedData ⟨pixels, rows, cols⟩ = pixels.map capturedByte := by
  have byRow := flatMap_range_mul (fun index => [capturedByte (pixels.getD index 0)]) cols rows
  simp only [← List.map_eq_flatMap] at byRow
  unfold capturedData
  simp only [Int.toNat_natCast]
  rw [byRow, ← length]
  apply List.ext_getElem?
  intro index
  by_cases inside : index < pixels.length
  · simp [inside]
  · simp [inside]

/-- Pixels of twelve bits are all that the conversion asks for. -/
theorem fitsConversion_iff {pixels : List UInt16} {rows cols : Nat}
    (length : pixels.length = rows * cols) :
    FitsConversion ⟨pixels, rows, cols⟩ ↔ ∀ p ∈ pixels, p.toNat ≤ 4095 := by
  constructor
  · intro fits
    exact fits.pixel
  · intro small
    refine ⟨small, ?_, ?_⟩
    · intro p member
      have := small p member
      omega
    · rw [capturedData_eq length, List.map_map]
      apply List.map_congr_left
      intro p member
      have := small p member
      rw [Function.comp_apply, capturedByte_toNat]
      omega

/-! ## Corrected images -/

/-- The difference of two frames at an index. -/
def frameDifference (finger dark : DecodedImage) (index : Nat) : Nat :=
  (((finger.pixels.getD index 0).toNat : Int) - ((dark.pixels.getD index 0).toNat : Int)).natAbs

/-- Off the border, two frames differ by the same value of twelve bits
everywhere. -/
def FlatInside (finger dark : DecodedImage) : Prop :=
  ∃ level ≤ 4095, ∀ y x : Nat, 1 ≤ y → (y : Int) + 1 < finger.rows → 1 ≤ x →
    (x : Int) + 1 < finger.cols →
    frameDifference finger dark (y * finger.cols.toNat + x) = level

/-- Every difference of two frames has twelve bits. -/
def SmallDifferences (finger dark : DecodedImage) : Prop :=
  ∀ index < finger.pixels.length, frameDifference finger dark index ≤ 4095

theorem fpnSubtract_getD {finger dark : DecodedImage} {index : Nat}
    (inside : index < finger.pixels.length) :
    ((fpnSubtract finger.pixels dark.pixels).getD index 0).toNat =
      frameDifference finger dark index := by
  have atIndex := fpnSubtract_getElem? finger.pixels dark.pixels index
  have inDifference : index < (fpnSubtract finger.pixels dark.pixels).length := by
    rwa [fpnSubtract_length]
  unfold frameDifference
  rw [List.getD_eq_getElem _ _ inDifference, List.getD_eq_getElem _ _ inside]
  rw [List.getElem?_eq_getElem inDifference, List.getElem?_eq_getElem inside] at atIndex
  exact Option.some.inj atIndex

theorem smallDifferences_iff (finger dark : DecodedImage) :
    (∀ p ∈ fpnSubtract finger.pixels dark.pixels, p.toNat ≤ 4095) ↔
      SmallDifferences finger dark := by
  constructor
  · intro small index inside
    rw [← fpnSubtract_getD inside]
    apply small
    rw [List.getD_eq_getElem _ _ (by rwa [fpnSubtract_length])]
    exact List.getElem_mem _
  · intro small p member
    obtain ⟨index, inside, rfl⟩ := List.getElem_of_mem member
    have inFinger := inside
    rw [fpnSubtract_length] at inFinger
    rw [← List.getD_eq_getElem _ 0 inside, fpnSubtract_getD inFinger]
    exact small index inFinger

/-- The pixels that the scan looks at are those off the border. -/
theorem flatInside_iff {finger dark : DecodedImage} {rows cols : Nat} (rowsEq : finger.rows = rows)
    (colsEq : finger.cols = cols) (length : finger.pixels.length = rows * cols) :
    (∃ level ≤ 4095,
        ∀ v ∈ fpnInner (fpnSubtract finger.pixels dark.pixels) rows cols, v.toNat = level) ↔
      FlatInside finger dark := by
  have insideImage {y x : Nat} (yLt : y + 1 < rows) (xLt : x + 1 < cols) :
      y * cols + x < finger.pixels.length := by
    rw [length]
    calc y * cols + x
        < y * cols + cols := Nat.add_lt_add_left (by omega) _
      _ = (y + 1) * cols := (Nat.succ_mul y cols).symm
      _ ≤ rows * cols := Nat.mul_le_mul_right cols (Nat.le_of_lt yLt)
  unfold FlatInside
  rw [rowsEq, colsEq, Int.toNat_natCast]
  apply exists_congr
  intro level
  apply and_congr_right
  intro _
  constructor
  · intro flat y x yPos yLt xPos xLt
    have yBefore : y + 1 < rows := by omega
    have xBefore : x + 1 < cols := by omega
    rw [← fpnSubtract_getD (insideImage yBefore xBefore)]
    apply flat
    apply List.mem_flatMap_of_mem (List.mem_range'_1.mpr ⟨yPos, by omega⟩)
    exact List.mem_map_of_mem (List.mem_range'_1.mpr ⟨xPos, by omega⟩)
  · intro flat v member
    obtain ⟨y, yMem, inRow⟩ := List.mem_flatMap.mp member
    obtain ⟨x, xMem, rfl⟩ := List.mem_map.mp inRow
    rw [List.mem_range'_1] at yMem xMem
    rw [fpnSubtract_getD (insideImage (by omega) (by omega))]
    exact flat y x yMem.1 (by omega) xMem.1 (by omega)

/-- A correction for any geometry. -/
theorem fpnCorrect_fits {finger dark : DecodedImage} {rows cols : Nat} (rowsPos : 0 < rows)
    (colsPos : 0 < cols) (rowsEq : finger.rows = rows) (colsEq : finger.cols = cols)
    (length : finger.pixels.length = rows * cols) :
    (∃ corrected,
        fpnCorrect finger.pixels finger.rows finger.cols
            (some ⟨dark.pixels, finger.rows, finger.cols⟩) = .ok corrected ∧
          FitsConversion ⟨corrected, finger.rows, finger.cols⟩) ↔
      (FlatInside finger dark → SmallDifferences finger dark) := by
  have differenceLength : (fpnSubtract finger.pixels dark.pixels).length = rows * cols := by
    rw [fpnSubtract_length, length]
  rw [fpnCorrect_eq (by omega) (by omega), ← smallDifferences_iff,
    ← flatInside_iff rowsEq colsEq length, rowsEq, colsEq, Int.toNat_natCast, Int.toNat_natCast,
    ← fpn_flat_iff]
  dsimp only
  split
  · next stretched =>
      constructor
      · intro _ flat
        exact absurd stretched flat
      · intro _
        refine ⟨_, rfl, (fitsConversion_iff (by rwa [List.length_map])).mpr ?_⟩
        intro p member
        obtain ⟨pixel, _, rfl⟩ := List.mem_map.mp member
        exact fpnStretch_le _ _ pixel
  · next flat =>
      constructor
      · rintro ⟨corrected, same, fits⟩ _
        cases same
        exact fits.pixel
      · intro small
        exact ⟨_, rfl, (fitsConversion_iff differenceLength).mpr (small flat)⟩

/-- For a decoded finger frame and any dark frame of its geometry, the corrected
pixels fit the conversion exactly if the frames are not flat off the border or
differ by at most twelve bits everywhere. -/
theorem fpnCorrect_fits_iff (env : Env) (io : Io) {buf : List Byte} {finger dark : DecodedImage}
    (decoded : (decodeImage env io buf).1 = .ok finger) (sameRows : dark.rows = finger.rows)
    (sameCols : dark.cols = finger.cols) :
    (∃ corrected,
        fpnCorrect finger.pixels finger.rows finger.cols
            (some ⟨dark.pixels, dark.rows, dark.cols⟩) = .ok corrected ∧
          FitsConversion ⟨corrected, finger.rows, finger.cols⟩) ↔
      (FlatInside finger dark → SmallDifferences finger dark) := by
  obtain ⟨row, member, _, decodedBy⟩ := decodeImage_decodedBy decoded
  have positive := decodeModes_pos member
  rw [sameRows, sameCols]
  exact fpnCorrect_fits positive.1 positive.2 decodedBy.rows decodedBy.cols decodedBy.length

/-- A buffer that is detected as packed samples. -/
def PackedBuf (buf : List Byte) : Prop :=
  ∀ row ∈ decodeModes, Framed buf.length row.packedLen → row.mode.packed = true

theorem packed_getD_le {env : Env} {io : Io} {buf : List Byte} {image : DecodedImage}
    (decoded : (decodeImage env io buf).1 = .ok image) (packed : PackedBuf buf) (index : Nat) :
    (image.pixels.getD index 0).toNat ≤ 4095 := by
  obtain ⟨row, member, framed, decodedBy⟩ := decodeImage_decodedBy decoded
  by_cases inside : index < image.pixels.length
  · rw [List.getD_eq_getElem _ _ inside]
    exact decodedBy.packed (packed row member framed) _ (List.getElem_mem inside)
  · rw [List.getD_eq_default _ _ (Nat.not_lt.mp inside)]
    exact Nat.zero_le _

/-- Frames of packed samples always fit once they are corrected. -/
theorem fpnCorrect_packed_fits (env : Env) (fingerIo darkIo : Io)
    {fingerBuf darkBuf : List Byte} {finger dark : DecodedImage}
    (fingerDecoded : (decodeImage env fingerIo fingerBuf).1 = .ok finger)
    (darkDecoded : (decodeImage env darkIo darkBuf).1 = .ok dark)
    (fingerPacked : PackedBuf fingerBuf) (darkPacked : PackedBuf darkBuf)
    (sameRows : dark.rows = finger.rows) (sameCols : dark.cols = finger.cols) :
    ∃ corrected,
      fpnCorrect finger.pixels finger.rows finger.cols
          (some ⟨dark.pixels, dark.rows, dark.cols⟩) = .ok corrected ∧
        FitsConversion ⟨corrected, finger.rows, finger.cols⟩ := by
  obtain ⟨row, member, _, decodedBy⟩ := decodeImage_decodedBy fingerDecoded
  have positive := decodeModes_pos member
  rw [sameRows, sameCols]
  apply (fpnCorrect_fits positive.1 positive.2 decodedBy.rows decodedBy.cols decodedBy.length).mpr
  intro _ index _
  have fingerLe := packed_getD_le fingerDecoded fingerPacked index
  have darkLe := packed_getD_le darkDecoded darkPacked index
  unfold frameDifference
  omega

/-! ## A bright corner -/

/-- A navigation image of sixteen-bit samples with one sample in front of zeros. -/
def cornerBuf (low high : Byte) : List Byte :=
  low :: high :: List.replicate (2 * 1599) 0

/-- The frame of that image. -/
def cornerFrame (corner : UInt16) : DecodedImage :=
  ⟨corner :: List.replicate 1599 0, 64, 25⟩

theorem u16leSamples_corner (low high : Byte) (zeros : Nat) :
    u16leSamples (low :: high :: List.replicate (2 * zeros) 0) (zeros + 1) =
      ((high.toUInt16 <<< 8) ||| low.toUInt16) :: List.replicate zeros 0 := by
  have zeroAt (index : Nat) : (List.replicate (2 * zeros) (0 : Byte)).getD index 0 = 0 := by
    rw [List.getD_eq_getElem?_getD, List.getElem?_replicate]
    split <;> rfl
  unfold u16leSamples
  rw [List.range_succ_eq_map, List.map_cons, List.map_map]
  apply congrArg
  rw [List.eq_replicate_iff]
  constructor
  · rw [List.length_map, List.length_range]
  · intro sample member
    obtain ⟨i, _, rfl⟩ := List.mem_map.mp member
    have even : (i + 1) * 2 = i * 2 + 1 + 1 := by omega
    rw [Function.comp_apply, Nat.succ_eq_add_one, even, List.getD_cons_succ, List.getD_cons_succ,
      List.getD_cons_succ, List.getD_cons_succ, zeroAt, zeroAt]
    rfl

theorem cornerFrame_decoded (low high : Byte) :
    (decodeImage steadyEnv ⟨0, []⟩ (cornerBuf low high)).1 =
      .ok (cornerFrame ((high.toUInt16 <<< 8) ||| low.toUInt16)) := by
  have row : (⟨.chicagohNavU16le, 0x0C80, 0x40, 0x19⟩ : DecodeMode) ∈ decodeModes := by decide
  have framing : ((0, 0) : Nat × Nat) ∈ framings := by decide
  have length : (cornerBuf low high).length = 3200 := by
    rw [cornerBuf, List.length_cons, List.length_cons, List.length_replicate]
  rw [decodeImage_framed steadyEnv ⟨0, []⟩ row framing length, List.drop_zero,
    List.take_of_length_le (Nat.le_of_eq length)]
  have decoded := @decodeChicago_u16le_eq steadyEnv ⟨0, []⟩ (cornerBuf low high) 64 25
    (by decide) (by decide)
  rw [length, if_neg (by decide)] at decoded
  exact decoded.trans (congrArg (fun pixels => Except.ok (DecodedImage.mk pixels 64 25))
    (u16leSamples_corner low high 1599))

theorem cornerFrame_getD_succ (corner : UInt16) (index : Nat) :
    (cornerFrame corner).pixels.getD (index + 1) 0 = 0 := by
  unfold cornerFrame
  rw [List.getD_cons_succ, List.getD_eq_getElem?_getD, List.getElem?_replicate]
  split <;> rfl

/-- A corner in front of zeros is flat off the border. -/
theorem cornerFrame_flat (corner : UInt16) :
    FlatInside (cornerFrame corner) (cornerFrame 0) := by
  refine ⟨0, Nat.zero_le _, ?_⟩
  intro y x _ _ xPos _
  obtain ⟨index, place⟩ : ∃ index, y * (cornerFrame corner).cols.toNat + x = index + 1 :=
    ⟨_, (Nat.succ_pred_eq_of_pos (Nat.add_pos_right _ xPos)).symm⟩
  unfold frameDifference
  rw [place, cornerFrame_getD_succ, cornerFrame_getD_succ]
  rfl

/-- A finger frame of sixteen-bit samples that is zero but for one corner, and a
dark frame of zeros: the corner survives the correction, and its byte is not its
scaled value. -/
theorem fpnCorrect_corner :
    (decodeImage steadyEnv ⟨0, []⟩ (cornerBuf 0x88 0x13)).1 = .ok (cornerFrame 5000) ∧
      (decodeImage steadyEnv ⟨0, []⟩ (cornerBuf 0 0)).1 = .ok (cornerFrame 0) ∧
      ¬ (∃ corrected,
        fpnCorrect (cornerFrame 5000).pixels (cornerFrame 5000).rows (cornerFrame 5000).cols
            (some ⟨(cornerFrame 0).pixels, (cornerFrame 0).rows, (cornerFrame 0).cols⟩) =
              .ok corrected ∧
          FitsConversion ⟨corrected, (cornerFrame 5000).rows, (cornerFrame 5000).cols⟩) ∧
      (5000 : UInt16).toNat * 255 / 4095 = 311 ∧ capturedByte 5000 = 55 := by
  refine ⟨cornerFrame_decoded 0x88 0x13, cornerFrame_decoded 0 0, ?_, by decide, by decide⟩
  have length : (cornerFrame 5000).pixels.length = 64 * 25 := by
    unfold cornerFrame
    rw [List.length_cons, List.length_replicate]
  rw [show (cornerFrame 0).rows = (cornerFrame 5000).rows from rfl,
    show (cornerFrame 0).cols = (cornerFrame 5000).cols from rfl,
    fpnCorrect_fits (by decide) (by decide) rfl rfl length]
  intro fits
  have small := fits (cornerFrame_flat 5000) 0 (by rw [length]; decide)
  exact absurd small (by decide)

/-- A corner of twelve bits fits. -/
theorem fpnCorrect_fits_iff_corner :
    (decodeImage steadyEnv ⟨0, []⟩ (cornerBuf 0xFF 0x0F)).1 = .ok (cornerFrame 4095) ∧
      ∃ corrected,
        fpnCorrect (cornerFrame 4095).pixels 64 25 (some ⟨(cornerFrame 0).pixels, 64, 25⟩) =
            .ok corrected ∧
          FitsConversion ⟨corrected, 64, 25⟩ := by
  have decoded : (decodeImage steadyEnv ⟨0, []⟩ (cornerBuf 0xFF 0x0F)).1 =
      .ok (cornerFrame 4095) := cornerFrame_decoded 0xFF 0x0F
  have fits := @fpnCorrect_fits_iff steadyEnv ⟨0, []⟩ _ (cornerFrame 4095) (cornerFrame 0) decoded
    rfl rfl
  refine ⟨decoded, fits.mpr ?_⟩
  intro _ index _
  cases index with
  | zero => decide
  | succ index =>
      unfold frameDifference
      rw [cornerFrame_getD_succ, cornerFrame_getD_succ]
      decide

end Gxfp.Fprint
