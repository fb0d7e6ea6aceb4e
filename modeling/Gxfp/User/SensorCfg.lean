import Gxfp.User.Fdt

/-!
# The sensor configuration

Embeds `src/algo/sensor_cfg.c`: the calibration data in the OTP, the built-in
configuration and the patches that carry the one into the other.  Every patch
ends with the checksum of the whole configuration.
-/

namespace Gxfp.User

open Lib.Bytes
open Gxfp.Errno

def MILANL_OTP_IDX_TCODE : Nat := 0x16
def MILANL_OTP_IDX_TCODE_NEG : Nat := 0x17
def MILANL_OTP_IDX_DAC : Nat := 0x1f
def MILANL_DEFAULT_TCODE : UInt16 := 0x80
def MILANL_DEFAULT_FDT_DELTA : UInt16 := 0x15
def CFG_CHECKSUM_WORDS : Nat := 0x6f
def CFG_CHECKSUM_OFF : Nat := 0xde
def MILANL_CFG_LEN : Nat := 0xE0

/-! ## The OTP -/

/-- `struct gxfp_milanl_otp_cfg`. -/
structure MilanlOtpCfg where
  tcode : UInt16
  fdtDelta : UInt16
  dac : UInt16
  hasDac : Bool
  hasTcodeDelta : Bool
  deriving DecidableEq, Repr

/-- `gxfp_milanl_parse_otp`. -/
def milanlParseOtp (otp : List Byte) : Except Errno MilanlOtpCfg :=
  if otp.length ≤ MILANL_OTP_IDX_DAC then
    .error EBADMSG
  else
    let dac := ((otp.getD MILANL_OTP_IDX_DAC 0).toUInt16 <<< 4) ||| 0x0008
    let rawTcode := otp.getD MILANL_OTP_IDX_TCODE 0
    let defaults : MilanlOtpCfg :=
      ⟨MILANL_DEFAULT_TCODE, MILANL_DEFAULT_FDT_DELTA, dac, true, false⟩
    if rawTcode ≠ 0 ∧ rawTcode + otp.getD MILANL_OTP_IDX_TCODE_NEG 0 = 0xff then
      let tcode : UInt16 := ((rawTcode >>> 4).toUInt16 + 1) * 0x10
      if tcode ≠ 0 then
        let fdtDelta : UInt32 :=
          (((rawTcode &&& 0x0f).toUInt32 + 2) * 0x6400 / tcode.toUInt32 / 3) >>> 4
        .ok { defaults with tcode := tcode, fdtDelta := fdtDelta.toUInt16, hasTcodeDelta := true }
      else
        .ok defaults
    else
      .ok defaults

/-! ## Patches -/

/-- `gxfp_cfg_recalc_checksum`. -/
def cfgRecalcChecksum (cfg : List Byte) : List Byte :=
  if cfg.length < MILANL_CFG_LEN then
    cfg
  else
    let sum :=
      (List.range CFG_CHECKSUM_WORDS).foldl (fun sum index => sum + le16At cfg (index * 2)) 0xa5a5
    let sum := -sum
    (cfg.set CFG_CHECKSUM_OFF sum.toUInt8).set (CFG_CHECKSUM_OFF + 1) (sum >>> 8).toUInt8

/-- Which bytes of a register a patch writes: `write_mode` 0, 1 and 2. -/
inductive CfgWriteMode
  | both
  | low
  | high
  deriving DecidableEq, Repr

/-- The loop of `gxfp_cfg_patch_reg` over the steps that are left. -/
def cfgPatchLoop (cfg : List Byte) (sectionOff : Nat) (reg val : UInt16) (mode : CfgWriteMode) :
    List Nat → Except Errno (List Byte)
  | [] => .error ENOENT
  | step :: steps =>
      let off := sectionOff + step
      if off + 4 > cfg.length then
        .error EBADMSG
      else if le16At cfg off ≠ reg then
        cfgPatchLoop cfg sectionOff reg val mode steps
      else
        let cfg := if mode ≠ .high then cfg.set (off + 2) val.toUInt8 else cfg
        let cfg := if mode ≠ .low then cfg.set (off + 3) (val >>> 8).toUInt8 else cfg
        .ok (cfgRecalcChecksum cfg)

/-- `gxfp_cfg_patch_reg`.  A section ends within the configuration, so its
8-bit step counter does not wrap. -/
def cfgPatchReg (cfg : List Byte) (reg val : UInt16) (sectionIdx : Nat) (mode : CfgWriteMode) :
    Except Errno (List Byte) :=
  if cfg.length ≠ MILANL_CFG_LEN then
    .error EINVAL
  else if sectionIdx > 7 then
    .error EINVAL
  else
    let sectionOff := (cfg.getD (1 + sectionIdx * 2) 0).toNat
    let sectionLen := (cfg.getD (2 + sectionIdx * 2) 0).toNat
    if sectionOff + sectionLen > cfg.length then
      .error EBADMSG
    else
      cfgPatchLoop cfg sectionOff reg val mode
        ((List.range ((sectionLen + 3) / 4)).map fun index => 4 * index)

/-- `gxfp_milanl_cfg_template`. -/
def milanlCfgTemplate : List Byte :=
  [0x30, 0x11, 0x64, 0x75, 0x00, 0x75, 0x2c, 0xa1, 0x1c, 0xbd, 0x18, 0xd5, 0x00, 0xd5, 0x00, 0xd5,
    0x00, 0xba, 0x00, 0x00, 0x80, 0xca, 0x00, 0x06, 0x00, 0x84, 0x00, 0xbe, 0xb2, 0x86, 0x00, 0xc5,
    0xb9, 0x88, 0x00, 0xb5, 0xad, 0x8a, 0x00, 0x9d, 0x95, 0x8c, 0x00, 0x00, 0xbe, 0x8e, 0x00, 0x00,
    0xc5, 0x90, 0x00, 0x00, 0xb5, 0x92, 0x00, 0x00, 0x9d, 0x94, 0x00, 0x00, 0xaf, 0x96, 0x00, 0x00,
    0xbf, 0x98, 0x00, 0x00, 0xb6, 0x9a, 0x00, 0x00, 0xa7, 0xd2, 0x00, 0x00, 0x00, 0xd4, 0x00, 0x00,
    0x00, 0xd6, 0x00, 0x00, 0x00, 0xd8, 0x00, 0x00, 0x00, 0x12, 0x00, 0x03, 0x04, 0xd0, 0x00, 0x00,
    0x00, 0x70, 0x00, 0x00, 0x00, 0x72, 0x00, 0x78, 0x56, 0x74, 0x00, 0x34, 0x12, 0x20, 0x00, 0x10,
    0x40, 0x20, 0x02, 0x08, 0x10, 0x2a, 0x01, 0x82, 0x03, 0x22, 0x00, 0x01, 0x20, 0x24, 0x00, 0x14,
    0x00, 0x80, 0x00, 0x01, 0x04, 0x5c, 0x00, 0x00, 0x01, 0x56, 0x00, 0x0c, 0x24, 0x58, 0x00, 0x05,
    0x00, 0x32, 0x00, 0x08, 0x02, 0x66, 0x00, 0x00, 0x02, 0x7c, 0x00, 0x00, 0x38, 0x82, 0x00, 0x80,
    0x15, 0x2a, 0x01, 0x08, 0x00, 0x5c, 0x00, 0x80, 0x00, 0x54, 0x00, 0x00, 0x01, 0x62, 0x00, 0x38,
    0x04, 0x64, 0x00, 0x10, 0x00, 0x66, 0x00, 0x00, 0x02, 0x7c, 0x00, 0x01, 0x38, 0x2a, 0x01, 0x08,
    0x00, 0x5c, 0x00, 0x80, 0x00, 0x52, 0x00, 0x08, 0x00, 0x54, 0x00, 0x00, 0x01, 0x66, 0x00, 0x00,
    0x02, 0x7c, 0x00, 0x01, 0x38, 0x00, 0x00, 0x00, 0x00, 0x00, 0x00, 0x00, 0x00, 0x00, 0x00, 0x00]

/-- `gxfp_milanl_prepare_cfg_blob`; the capacity is that of the caller's
buffer. -/
def milanlPrepareCfgBlob (template : List Byte) (outCfgCap : Nat) : Except Errno (List Byte) :=
  if template.length ≠ MILANL_CFG_LEN then
    .error EINVAL
  else if outCfgCap < template.length then
    .error EMSGSIZE
  else
    .ok template

/-- `gxfp_milanl_apply_otp_patch`. -/
def milanlApplyOtpPatch (cfg : List Byte) (otpCfg : MilanlOtpCfg) : Except Errno (List Byte) :=
  if cfg.length ≠ MILANL_CFG_LEN then
    .error EINVAL
  else
    match cfgPatchReg cfg 0x0220 otpCfg.dac 0 .both with
    | .error errno => .error errno
    | .ok cfg =>
        if otpCfg.hasTcodeDelta then
          match cfgPatchReg cfg 0x005c otpCfg.tcode 4 .both with
          | .error errno => .error errno
          | .ok cfg => cfgPatchReg cfg 0x0082 (otpCfg.fdtDelta <<< 8) 2 .high
        else
          .ok cfg

end Gxfp.User
