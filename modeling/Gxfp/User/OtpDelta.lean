import Mathlib.Data.List.Find
import Mathlib.Data.List.GetD
import Gxfp.User.Session

/-!
# The FDT delta of the sensor and of the library

The OTP of a sensor gives a delta for finger detection.  It goes two ways: into
the high byte of register `0x0082` of the uploaded configuration, and into the
offset that the library adds when it derives the baseline for a lifted finger.
Without a valid delta both keep the same default.

The register has eight bits for it and the library sixteen, so the two agree as
long as the delta fits a byte.
-/

namespace Gxfp.User

open Lib.Bytes
open Gxfp.Errno

/-! ## Registers of a configuration -/

/-- The offsets of the entries of a section. -/
def cfgEntries (cfg : List Byte) (sectionIdx : Nat) : List Nat :=
  (List.range (((cfg.getD (2 + sectionIdx * 2) 0).toNat + 3) / 4)).map fun index =>
    (cfg.getD (1 + sectionIdx * 2) 0).toNat + 4 * index

/-- Where a register stands in a section. -/
def cfgFindReg (cfg : List Byte) (reg : UInt16) (sectionIdx : Nat) : Option Nat :=
  (cfgEntries cfg sectionIdx).find? fun off => le16At cfg off = reg

/-- The high byte of a register in a section. -/
def cfgRegHigh (cfg : List Byte) (reg : UInt16) (sectionIdx : Nat) : Option Byte :=
  (cfgFindReg cfg reg sectionIdx).map fun off => cfg.getD (off + 3) 0

/-- The bytes of a register that a patch writes. -/
def cfgWrite (cfg : List Byte) (off : Nat) (val : UInt16) (mode : CfgWriteMode) : List Byte :=
  let cfg := if mode ≠ .high then cfg.set (off + 2) val.toUInt8 else cfg
  if mode ≠ .low then cfg.set (off + 3) (val >>> 8).toUInt8 else cfg

theorem cfgPatchLoop_found {cfg : List Byte} {sectionOff : Nat} {reg : UInt16} {steps : List Nat}
    {off : Nat} (inside : ∀ step ∈ steps, sectionOff + step + 4 ≤ cfg.length)
    (found : (steps.map fun step => sectionOff + step).find? (fun off => le16At cfg off = reg) =
      some off) (val : UInt16) (mode : CfgWriteMode) :
    cfgPatchLoop cfg sectionOff reg val mode steps =
      .ok (cfgRecalcChecksum (cfgWrite cfg off val mode)) := by
  induction steps with
  | nil => cases found
  | cons step steps ih =>
      have here := inside step List.mem_cons_self
      rw [cfgPatchLoop]
      dsimp only
      rw [if_neg (Nat.not_lt.mpr here)]
      rw [List.map_cons, List.find?_cons] at found
      by_cases match_ : le16At cfg (sectionOff + step) = reg
      · rw [decide_eq_true match_] at found
        cases found
        rw [if_neg (not_not.mpr match_)]
        rfl
      · rw [decide_eq_false match_] at found
        rw [if_pos match_]
        exact ih (fun step member => inside step (List.mem_cons_of_mem _ member)) found

/-- A patch of a register that the section has. -/
theorem cfgPatchReg_found {cfg : List Byte} {reg : UInt16} {sectionIdx off : Nat}
    (length : cfg.length = MILANL_CFG_LEN) (sectionLe : sectionIdx ≤ 7)
    (fits : (cfg.getD (1 + sectionIdx * 2) 0).toNat + (cfg.getD (2 + sectionIdx * 2) 0).toNat ≤
      cfg.length)
    (inside : ∀ entry ∈ cfgEntries cfg sectionIdx, entry + 4 ≤ cfg.length)
    (found : cfgFindReg cfg reg sectionIdx = some off) (val : UInt16) (mode : CfgWriteMode) :
    cfgPatchReg cfg reg val sectionIdx mode =
      .ok (cfgRecalcChecksum (cfgWrite cfg off val mode)) := by
  unfold cfgPatchReg
  rw [if_neg (not_not.mpr length), if_neg (Nat.not_lt.mpr sectionLe)]
  dsimp only
  rw [if_neg (Nat.not_lt.mpr fits)]
  apply cfgPatchLoop_found
  · intro step member
    obtain ⟨index, indexMem, rfl⟩ := List.mem_map.mp member
    exact inside _ (List.mem_map.mpr ⟨index, indexMem, rfl⟩)
  · rw [List.map_map]
    exact found

/-! ## What a patch leaves alone -/

theorem getD_set_ne {cfg : List Byte} {index other : Nat} (apart : index ≠ other) (value : Byte) :
    (cfg.set index value).getD other 0 = cfg.getD other 0 := by
  rw [List.getD_eq_getElem?_getD, List.getElem?_set_ne apart, ← List.getD_eq_getElem?_getD]

theorem cfgRecalcChecksum_length (cfg : List Byte) :
    (cfgRecalcChecksum cfg).length = cfg.length := by
  unfold cfgRecalcChecksum
  split
  · rfl
  · dsimp only
    rw [List.length_set, List.length_set]

theorem cfgRecalcChecksum_getD {cfg : List Byte} {index : Nat} (low : CFG_CHECKSUM_OFF ≠ index)
    (high : CFG_CHECKSUM_OFF + 1 ≠ index) :
    (cfgRecalcChecksum cfg).getD index 0 = cfg.getD index 0 := by
  unfold cfgRecalcChecksum
  split
  · rfl
  · dsimp only
    rw [getD_set_ne high, getD_set_ne low]

theorem cfgWrite_length (cfg : List Byte) (off : Nat) (val : UInt16) (mode : CfgWriteMode) :
    (cfgWrite cfg off val mode).length = cfg.length := by
  cases mode <;> simp [cfgWrite]

theorem cfgWrite_getD {cfg : List Byte} {off index : Nat} (low : off + 2 ≠ index)
    (high : off + 3 ≠ index) (val : UInt16) (mode : CfgWriteMode) :
    (cfgWrite cfg off val mode).getD index 0 = cfg.getD index 0 := by
  cases mode with
  | both =>
      change ((cfg.set (off + 2) _).set (off + 3) _).getD index 0 = _
      rw [getD_set_ne high, getD_set_ne low]
  | low => exact getD_set_ne low _
  | high => exact getD_set_ne high _

/-! ## The patched template -/

/-- The bytes of the template that `gxfp_milanl_apply_otp_patch` may write: the
values of registers `0x0220`, `0x0082` and `0x005c`, and the checksum. -/
def milanlPatched : List Nat :=
  [0x73, 0x74, 0x9f, 0xa0, 0xc3, 0xc4, 0xde, 0xdf]

/-- A configuration that is the template up to the patched bytes. -/
structure PatchedTemplate (cfg : List Byte) : Prop where
  length : cfg.length = MILANL_CFG_LEN
  same : ∀ index, index ∉ milanlPatched → cfg.getD index 0 = milanlCfgTemplate.getD index 0

theorem patchedTemplate_template : PatchedTemplate milanlCfgTemplate :=
  ⟨rfl, fun _ _ => rfl⟩

/-- The sections of the patched registers hold no patched byte in their table
entries and register numbers, and end inside the configuration. -/
theorem template_sections : ∀ sectionIdx ∈ [0, 2, 4],
    1 + sectionIdx * 2 ∉ milanlPatched ∧ 2 + sectionIdx * 2 ∉ milanlPatched ∧
      (milanlCfgTemplate.getD (1 + sectionIdx * 2) 0).toNat +
        (milanlCfgTemplate.getD (2 + sectionIdx * 2) 0).toNat ≤ MILANL_CFG_LEN ∧
      ∀ off ∈ cfgEntries milanlCfgTemplate sectionIdx,
        off ∉ milanlPatched ∧ off + 1 ∉ milanlPatched ∧ off + 4 ≤ MILANL_CFG_LEN := by
  decide +kernel

theorem template_find_dac : cfgFindReg milanlCfgTemplate 0x0220 0 = some 0x71 := by
  decide +kernel

theorem template_find_tcode : cfgFindReg milanlCfgTemplate 0x005c 4 = some 0xc1 := by
  decide +kernel

theorem template_find_delta : cfgFindReg milanlCfgTemplate 0x0082 2 = some 0x9d := by
  decide +kernel

namespace PatchedTemplate

variable {cfg : List Byte} (patched : PatchedTemplate cfg)

include patched

theorem entries {sectionIdx : Nat} (member : sectionIdx ∈ [0, 2, 4]) :
    cfgEntries cfg sectionIdx = cfgEntries milanlCfgTemplate sectionIdx := by
  obtain ⟨offKept, lenKept, -, -⟩ := template_sections sectionIdx member
  unfold cfgEntries
  rw [patched.same _ offKept, patched.same _ lenKept]

/-- Registers stand where they stand in the template. -/
theorem findReg {sectionIdx : Nat} (member : sectionIdx ∈ [0, 2, 4]) (reg : UInt16) :
    cfgFindReg cfg reg sectionIdx = cfgFindReg milanlCfgTemplate reg sectionIdx := by
  obtain ⟨-, -, -, entries⟩ := template_sections sectionIdx member
  unfold cfgFindReg
  rw [patched.entries member]
  apply List.find?_congr
  intro off offMem
  obtain ⟨lowKept, highKept, -⟩ := entries off offMem
  unfold le16At
  rw [patched.same off lowKept, patched.same (off + 1) highKept]

theorem patchReg {sectionIdx off : Nat} (member : sectionIdx ∈ [0, 2, 4]) {reg : UInt16}
    (found : cfgFindReg milanlCfgTemplate reg sectionIdx = some off) (val : UInt16)
    (mode : CfgWriteMode) :
    cfgPatchReg cfg reg val sectionIdx mode =
      .ok (cfgRecalcChecksum (cfgWrite cfg off val mode)) := by
  obtain ⟨offKept, lenKept, fits, inside⟩ := template_sections sectionIdx member
  apply cfgPatchReg_found patched.length
  · simp only [List.mem_cons, List.not_mem_nil, or_false] at member
    omega
  · rw [patched.same _ offKept, patched.same _ lenKept, patched.length]
    exact fits
  · rw [patched.entries member, patched.length]
    exact fun entry entryMem => (inside entry entryMem).2.2
  · rw [patched.findReg member]
    exact found

/-- A patch whose bytes are patched bytes keeps the rest of the template. -/
theorem write {off : Nat} (low : off + 2 ∈ milanlPatched) (high : off + 3 ∈ milanlPatched)
    (val : UInt16) (mode : CfgWriteMode) :
    PatchedTemplate (cfgRecalcChecksum (cfgWrite cfg off val mode)) := by
  constructor
  · rw [cfgRecalcChecksum_length, cfgWrite_length, patched.length]
  · intro index kept
    rw [cfgRecalcChecksum_getD, cfgWrite_getD, patched.same index kept]
    · exact fun atLow => kept (atLow ▸ low)
    · exact fun atHigh => kept (atHigh ▸ high)
    · exact fun atChecksum => kept (atChecksum ▸ by decide)
    · exact fun atChecksum => kept (atChecksum ▸ by decide)

end PatchedTemplate

theorem shiftLeft_shiftRight_toUInt8 (word : UInt16) :
    ((word <<< 8) >>> 8).toUInt8 = word.toUInt8 := by
  apply UInt8.toNat_inj.mp
  have wordLt := word.toNat_lt
  simp only [UInt16.toNat_toUInt8, UInt16.toNat_shiftRight, UInt16.toNat_shiftLeft]
  change (word.toNat <<< 8 % 65536) >>> 8 % 256 = word.toNat % 256
  rw [Nat.shiftLeft_eq, Nat.shiftRight_eq_div_pow]
  omega

/-- The high byte that a patch of register `0x0082` leaves. -/
theorem cfgWrite_high_getD {cfg : List Byte} (inside : 0x9d + 3 < cfg.length) (delta : UInt16) :
    (cfgRecalcChecksum (cfgWrite cfg 0x9d (delta <<< 8) .high)).getD (0x9d + 3) 0 =
      delta.toUInt8 := by
  rw [cfgRecalcChecksum_getD (by decide) (by decide)]
  change (cfg.set (0x9d + 3) ((delta <<< 8) >>> 8).toUInt8).getD (0x9d + 3) 0 = _
  rw [List.getD_eq_getElem?_getD, List.getElem?_set_self inside, Option.getD_some,
    shiftLeft_shiftRight_toUInt8]

/-- `gxfp_milanl_apply_otp_patch` on the template: it succeeds, and the high
byte of register `0x0082` is the low byte of the delta, or that of the template
where there is none. -/
theorem milanlApplyOtpPatch_template (otpCfg : MilanlOtpCfg) :
    ∃ cfg, milanlApplyOtpPatch milanlCfgTemplate otpCfg = .ok cfg ∧
      cfgRegHigh cfg 0x0082 2 =
        some (if otpCfg.hasTcodeDelta then otpCfg.fdtDelta.toUInt8 else 0x15) := by
  have dacPatch := patchedTemplate_template.patchReg (by decide) template_find_dac otpCfg.dac .both
  have dacPatched := patchedTemplate_template.write (show 0x71 + 2 ∈ milanlPatched by decide)
    (by decide) otpCfg.dac .both
  have highKept : (cfgRecalcChecksum (cfgWrite milanlCfgTemplate 0x71 otpCfg.dac .both)).getD
      0xa0 0 = 0x15 := by
    rw [cfgRecalcChecksum_getD (by decide) (by decide), cfgWrite_getD (by decide) (by decide)]
    decide
  have lengthKept : ¬ milanlCfgTemplate.length ≠ MILANL_CFG_LEN :=
    not_not.mpr patchedTemplate_template.length
  unfold milanlApplyOtpPatch
  rw [if_neg lengthKept, dacPatch]
  dsimp only
  generalize cfgRecalcChecksum (cfgWrite milanlCfgTemplate 0x71 otpCfg.dac .both) = cfg at *
  cases otpCfg.hasTcodeDelta with
  | false =>
      refine ⟨cfg, rfl, ?_⟩
      rw [cfgRegHigh, dacPatched.findReg (by decide), template_find_delta]
      exact congrArg some highKept
  | true =>
      have tcodePatch := dacPatched.patchReg (by decide) template_find_tcode otpCfg.tcode .both
      have tcodePatched := dacPatched.write (show 0xc1 + 2 ∈ milanlPatched by decide)
        (by decide) otpCfg.tcode .both
      rw [if_pos rfl, tcodePatch]
      dsimp only
      generalize cfgRecalcChecksum (cfgWrite cfg 0xc1 otpCfg.tcode .both) = cfg at *
      have deltaPatch := tcodePatched.patchReg (by decide) template_find_delta
        (otpCfg.fdtDelta <<< 8) .high
      have deltaPatched := tcodePatched.write (show 0x9d + 2 ∈ milanlPatched by decide)
        (by decide) (otpCfg.fdtDelta <<< 8) .high
      refine ⟨_, deltaPatch, ?_⟩
      rw [cfgRegHigh, deltaPatched.findReg (by decide), template_find_delta]
      exact congrArg some (cfgWrite_high_getD (by rw [tcodePatched.length]; decide) _)

/-! ## The delta of an OTP -/

/-- The offset that `fdt_upbase_from_raw` adds to half of a raw value. -/
def fdtUpOffset (dacOffset : UInt16) : UInt16 :=
  if dacOffset = 0 then FDT_UP_DEFAULT_OFFSET else dacOffset

/-- `fdt_upbase_from_raw` in terms of its offset. -/
theorem fdtUpbaseFromRaw_offset (touchflag : UInt16) (secondFlag diffUse : Bool)
    (dacOffset : UInt16) (rawBase : List Byte) (table : FdtTable) :
    fdtUpbaseFromRaw touchflag secondFlag diffUse dacOffset rawBase table =
      (List.range (fdtUpdateEntries rawBase)).foldl
        (fun merged index =>
          let moved := (le16At rawBase (index * 2) >>> 1) + fdtUpOffset dacOffset
          let encoded := (moved <<< 8) ||| moved
          let encoded :=
            if !secondFlag ∧ (touchflag >>> UInt16.ofNat index) &&& 1 = 0 then
              if dacOffset = 0 then
                (encoded >>> 8) ||| FDT_UP_NOTOUCH_FALLBACK
              else
                ((dacOffset - 2) <<< 8) ||| (encoded >>> 8)
            else
              encoded
          let prev := le16At merged.toList (index * 2)
          merged.setEntry index (if diffUse ∧ encoded > prev then prev else encoded))
        table :=
  rfl

/-- The tcode of an OTP and its complement are valid. -/
def TcodeValid (otp : List Byte) : Prop :=
  otp.getD MILANL_OTP_IDX_TCODE 0 ≠ 0 ∧
    otp.getD MILANL_OTP_IDX_TCODE 0 + otp.getD MILANL_OTP_IDX_TCODE_NEG 0 = 0xff

instance (otp : List Byte) : Decidable (TcodeValid otp) :=
  inferInstanceAs (Decidable (_ ∧ _))

/-- The tcode of a raw value. -/
def rawTcode (raw : Byte) : UInt16 :=
  ((raw >>> 4).toUInt16 + 1) * 0x10

/-- The delta of a raw value. -/
def rawFdtDelta (raw : Byte) : UInt16 :=
  let fdtDelta : UInt32 :=
    (((raw &&& 0x0f).toUInt32 + 2) * 0x6400 / (rawTcode raw).toUInt32 / 3) >>> 4
  fdtDelta.toUInt16

/-- The delta in whole numbers: a hundred times the low nibble over three times
the high one, with their offsets. -/
theorem rawFdtDelta_toNat (raw : Byte) :
    (rawFdtDelta raw).toNat = (raw.toNat % 16 + 2) * 100 / (3 * (raw.toNat / 16 + 1)) := by
  have all : ∀ value : Fin 256, (rawFdtDelta (UInt8.ofNat value.val)).toNat =
      (value.val % 16 + 2) * 100 / (3 * (value.val / 16 + 1)) := by
    decide +kernel
  have atRaw := all ⟨raw.toNat, raw.toNat_lt⟩
  rwa [UInt8.ofNat_toNat] at atRaw

theorem rawTcode_ne_zero (raw : Byte) : rawTcode raw ≠ 0 := by
  have all : ∀ value : Fin 256, rawTcode (UInt8.ofNat value.val) ≠ 0 := by
    decide +kernel
  have atRaw := all ⟨raw.toNat, raw.toNat_lt⟩
  rwa [UInt8.ofNat_toNat] at atRaw

/-- The delta that `gxfp_milanl_parse_otp` returns. -/
theorem milanlParseOtp_delta {otp : List Byte} {otpCfg : MilanlOtpCfg}
    (parsed : milanlParseOtp otp = .ok otpCfg) :
    (TcodeValid otp ∧ otpCfg.hasTcodeDelta = true ∧
        otpCfg.fdtDelta = rawFdtDelta (otp.getD MILANL_OTP_IDX_TCODE 0)) ∨
      (¬ TcodeValid otp ∧ otpCfg.hasTcodeDelta = false) := by
  unfold milanlParseOtp at parsed
  split at parsed
  · cases parsed
  · dsimp only at parsed
    split at parsed
    · rename_i valid
      have nonzero : ((otp.getD MILANL_OTP_IDX_TCODE 0 >>> 4).toUInt16 + 1) * 0x10 ≠ 0 :=
        rawTcode_ne_zero _
      rw [if_pos nonzero] at parsed
      cases parsed
      exact .inl ⟨valid, rfl, rfl⟩
    · rename_i invalid
      cases parsed
      exact .inr ⟨invalid, rfl⟩

/-- A delta fits a byte exactly when the quotient of the nibbles is small
enough. -/
theorem rawFdtDelta_lt_iff (raw : Byte) :
    (rawFdtDelta raw).toNat < 256 ↔
      25 * (raw.toNat % 16 + 2) < 192 * (raw.toNat / 16 + 1) := by
  rw [rawFdtDelta_toNat, Nat.div_lt_iff_lt_mul (by omega)]
  omega

theorem rawFdtDelta_ne_zero (raw : Byte) : rawFdtDelta raw ≠ 0 := by
  intro zero
  have value := rawFdtDelta_toNat raw
  have rawLt := raw.toNat_lt
  rw [zero, eq_comm, show (0 : UInt16).toNat = 0 from rfl, Nat.div_eq_zero_iff] at value
  omega

/-! ## Agreement -/

variable {E : Type}

/-- The offset the library adds after it has taken over an OTP. -/
def runtimeOffset (impl : SessionImpl E) (otpCfg : MilanlOtpCfg) : UInt16 :=
  fdtUpOffset
    (sessionApplyFdtRuntimeFromOtp
      { impl with
        otpCtx := ⟨otpCfg.tcode, otpCfg.fdtDelta, otpCfg.hasTcodeDelta⟩ }).fdt.cmd.upDacOffset

/-- The patched template has the library's offset as the high byte of register
`0x0082`. -/
def FdtDeltaAgrees (impl : SessionImpl E) (otpCfg : MilanlOtpCfg) : Prop :=
  ∃ cfg high, milanlApplyOtpPatch milanlCfgTemplate otpCfg = .ok cfg ∧
    cfgRegHigh cfg 0x0082 2 = some high ∧ high.toNat = (runtimeOffset impl otpCfg).toNat

/-- The delta in the uploaded configuration is the offset of the library
exactly when the OTP has no valid tcode or its delta fits a byte. -/
theorem fdtDelta_agrees_iff (impl : SessionImpl E) {otp : List Byte} {otpCfg : MilanlOtpCfg}
    (parsed : milanlParseOtp otp = .ok otpCfg) :
    FdtDeltaAgrees impl otpCfg ↔
      ¬ (otp.getD 0x16 0 ≠ 0 ∧ otp.getD 0x16 0 + otp.getD 0x17 0 = 0xff) ∨
        25 * ((otp.getD 0x16 0).toNat % 16 + 2) < 192 * ((otp.getD 0x16 0).toNat / 16 + 1) := by
  obtain ⟨cfg, patched, register⟩ := milanlApplyOtpPatch_template otpCfg
  have unique : FdtDeltaAgrees impl otpCfg ↔
      (if otpCfg.hasTcodeDelta then otpCfg.fdtDelta.toUInt8 else 0x15).toNat =
        (runtimeOffset impl otpCfg).toNat := by
    constructor
    · rintro ⟨other, high, otherPatched, otherRegister, same⟩
      rw [patched] at otherPatched
      cases otherPatched
      rw [register] at otherRegister
      cases otherRegister
      exact same
    · intro same
      exact ⟨cfg, _, patched, register, same⟩
  rw [unique]
  rcases milanlParseOtp_delta parsed with ⟨valid, has, delta⟩ | ⟨invalid, hasNot⟩
  · have offset : runtimeOffset impl otpCfg = rawFdtDelta (otp.getD MILANL_OTP_IDX_TCODE 0) := by
      simp only [runtimeOffset, sessionApplyFdtRuntimeFromOtp, cmdFdtStateSetRuntime, has, if_true,
        delta, fdtUpOffset, rawFdtDelta_ne_zero, if_false]
    have fits := rawFdtDelta_lt_iff (otp.getD MILANL_OTP_IDX_TCODE 0)
    rw [offset, has, if_pos rfl, delta, UInt16.toNat_toUInt8]
    constructor
    · intro same
      exact .inr (fits.mp (by omega))
    · rintro (invalid | small)
      · exact absurd valid invalid
      · exact Nat.mod_eq_of_lt (fits.mpr small)
  · have offset : runtimeOffset impl otpCfg = 0x15 := by
      simp only [runtimeOffset, sessionApplyFdtRuntimeFromOtp, cmdFdtStateSetRuntime, hasNot,
        Bool.false_eq_true, if_false, fdtUpOffset, if_true, FDT_UP_DEFAULT_OFFSET]
    rw [offset, hasNot, if_neg Bool.false_ne_true]
    exact iff_of_true rfl (.inl invalid)

/-- A session that has just been made. -/
def freshImpl : SessionImpl Unit where
  fd := 0
  svc := none
  fdt := fdtFlowInit
  psk := none
  tapIoBuf := false
  mode := .closed
  dark := none
  pendingImg := none
  otpCtx := ⟨0, 0, false⟩

/-- An OTP with the given tcode and its complement. -/
def otpWithTcode (raw : Byte) : List Byte :=
  List.replicate 0x16 0 ++ [raw, 0xff - raw] ++ List.replicate 8 0

/-- With tcode `0x0f` the library adds 566 and the register holds 54. -/
theorem fdtDelta_differs_tcode :
    ¬ ∀ (impl : SessionImpl Unit) (otp : List Byte) (otpCfg : MilanlOtpCfg),
      milanlParseOtp otp = .ok otpCfg → FdtDeltaAgrees impl otpCfg := by
  intro agrees
  obtain ⟨cfg, high, patched, register, same⟩ :=
    agrees freshImpl (otpWithTcode 0x0f) ⟨0x10, 566, 0x0008, true, true⟩ (by decide +kernel)
  obtain ⟨other, otherPatched, otherRegister⟩ :=
    milanlApplyOtpPatch_template ⟨0x10, 566, 0x0008, true, true⟩
  rw [patched] at otherPatched
  cases otherPatched
  rw [register] at otherRegister
  cases otherRegister
  exact absurd same (by decide +kernel)

/-- With tcode `0x71` both are the same. -/
theorem fdtDelta_agrees_tcode :
    milanlParseOtp (otpWithTcode 0x71) = .ok ⟨0x80, 12, 0x0008, true, true⟩ ∧
      FdtDeltaAgrees freshImpl ⟨0x80, 12, 0x0008, true, true⟩ := by
  have parsed : milanlParseOtp (otpWithTcode 0x71) = .ok ⟨0x80, 12, 0x0008, true, true⟩ := by
    decide +kernel
  exact ⟨parsed, (fdtDelta_agrees_iff freshImpl parsed).mpr (.inr (by decide +kernel))⟩

end Gxfp.User
