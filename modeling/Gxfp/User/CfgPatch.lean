import Gxfp.User.OtpDelta

/-!
# Patching a configuration

A configuration describes its own sections: a table in front gives an offset
and a length for each.  `gxfp_cfg_patch_reg` walks a section with an 8-bit step
counter, and a hostile table may point anywhere, at the table itself or at the
checksum.

The model here runs the loop with its counter and notes every index that is
read or written.  A section that ends inside the configuration is at most 224
bytes long, so the counter never wraps: the walk ends, stays inside, and does
what the patch of `SensorCfg` does.
-/

namespace Gxfp.User

open Lib.Bytes
open Gxfp.Errno

/-! ## Runs -/

/-- A patch that has returned: the return code, the configuration, and the
indices of it that were read or written. -/
structure CfgRun where
  rc : Int
  cfg : List Byte
  touched : List Nat

/-- A run after other indices were touched. -/
def CfgRun.after (run : CfgRun) (touched : List Nat) : CfgRun :=
  { run with touched := touched ++ run.touched }

/-- What `gxfp_cfg_recalc_checksum` touches. -/
def cfgRecalcTouched (cfg : List Byte) : List Nat :=
  if cfg.length < MILANL_CFG_LEN then
    []
  else
    ((List.range CFG_CHECKSUM_WORDS).flatMap fun index => [index * 2, index * 2 + 1]) ++
      [CFG_CHECKSUM_OFF, CFG_CHECKSUM_OFF + 1]

/-- What the stores of a patch touch. -/
def cfgWriteTouched (off : Nat) (mode : CfgWriteMode) : List Nat :=
  (if mode ≠ .high then [off + 2] else []) ++ if mode ≠ .low then [off + 3] else []

/-- The loop of `gxfp_cfg_patch_reg` from a value of its counter; `none` where it
takes more than the given number of rounds. -/
def cfgPatchSteps (cfg : List Byte) (sectionOff sectionLen : Byte) (reg val : UInt16)
    (mode : CfgWriteMode) : Nat → Byte → Option CfgRun
  | 0, _ => none
  | rounds + 1, step =>
      if step < sectionLen then
        let off := sectionOff.toNat + step.toNat
        if off + 4 > cfg.length then
          some ⟨EBADMSG.rc, cfg, []⟩
        else if le16At cfg off ≠ reg then
          (cfgPatchSteps cfg sectionOff sectionLen reg val mode rounds (step + 4)).map fun run =>
            run.after [off, off + 1]
        else
          let written := cfgWrite cfg off val mode
          some
            ⟨0, cfgRecalcChecksum written,
              [off, off + 1] ++ cfgWriteTouched off mode ++ cfgRecalcTouched written⟩
      else
        some ⟨ENOENT.rc, cfg, []⟩

/-- `gxfp_cfg_patch_reg`. -/
def cfgPatchRegRun (rounds : Nat) (cfg : List Byte) (reg val : UInt16) (sectionIdx : Nat)
    (mode : CfgWriteMode) : Option CfgRun :=
  if cfg.length ≠ MILANL_CFG_LEN then
    some ⟨EINVAL.rc, cfg, []⟩
  else if sectionIdx > 7 then
    some ⟨EINVAL.rc, cfg, []⟩
  else
    let sectionOff := cfg.getD (1 + sectionIdx * 2) 0
    let sectionLen := cfg.getD (2 + sectionIdx * 2) 0
    let table := [1 + sectionIdx * 2, 2 + sectionIdx * 2]
    if sectionOff.toNat + sectionLen.toNat > cfg.length then
      some ⟨EBADMSG.rc, cfg, table⟩
    else
      (cfgPatchSteps cfg sectionOff sectionLen reg val mode rounds 0).map fun run =>
        run.after table

/-- `gxfp_milanl_apply_otp_patch`. -/
def milanlApplyOtpPatchRun (rounds : Nat) (cfg : List Byte) (otpCfg : MilanlOtpCfg) :
    Option CfgRun :=
  if cfg.length ≠ MILANL_CFG_LEN then
    some ⟨EINVAL.rc, cfg, []⟩
  else
    (cfgPatchRegRun rounds cfg 0x0220 otpCfg.dac 0 .both).bind fun dac =>
      if dac.rc < 0 then
        some dac
      else if otpCfg.hasTcodeDelta then
        (cfgPatchRegRun rounds dac.cfg 0x005c otpCfg.tcode 4 .both).bind fun tcode =>
          if tcode.rc < 0 then
            some (tcode.after dac.touched)
          else
            (cfgPatchRegRun rounds tcode.cfg 0x0082 (otpCfg.fdtDelta <<< 8) 2 .high).bind
              fun delta =>
                if delta.rc < 0 then
                  some (delta.after (dac.touched ++ tcode.touched))
                else
                  some ⟨0, delta.cfg, dac.touched ++ tcode.touched ++ delta.touched⟩
      else
        some ⟨0, dac.cfg, dac.touched⟩

/-! ## One patch -/

/-- A run that returns what a patch returns, with the configuration as it was
when the patch fails. -/
def CfgRun.Returns (run : CfgRun) (cfg : List Byte) : Except Errno (List Byte) → Prop
  | .ok result => run.rc = 0 ∧ run.cfg = result
  | .error errno => run.rc = errno.rc ∧ run.cfg = cfg

/-- A run inside a configuration of the given length. -/
def CfgRun.Inside (run : CfgRun) (length : Nat) : Prop :=
  ∀ index ∈ run.touched, index < length

/-- A run that touches nothing is inside. -/
theorem CfgRun.inside_nil (rc : Int) (cfg : List Byte) (length : Nat) :
    CfgRun.Inside ⟨rc, cfg, []⟩ length := by
  intro index member
  cases member

theorem CfgRun.Inside.after {run : CfgRun} {length : Nat} (inside : run.Inside length)
    {touched : List Nat} (before : ∀ index ∈ touched, index < length) :
    (run.after touched).Inside length := by
  intro index member
  rcases List.mem_append.mp member with early | late
  · exact before index early
  · exact inside index late

theorem cfgRecalcTouched_lt (cfg : List Byte) :
    ∀ index ∈ cfgRecalcTouched cfg, index < MILANL_CFG_LEN := by
  have all : ∀ index ∈ ((List.range CFG_CHECKSUM_WORDS).flatMap fun index =>
      [index * 2, index * 2 + 1]) ++ [CFG_CHECKSUM_OFF, CFG_CHECKSUM_OFF + 1],
      index < MILANL_CFG_LEN := by
    decide +kernel
  unfold cfgRecalcTouched
  split
  · intro index member
    cases member
  · exact all

theorem cfgWriteTouched_lt {off length : Nat} (inside : off + 4 ≤ length) (mode : CfgWriteMode) :
    ∀ index ∈ cfgWriteTouched off mode, index < length := by
  intro index member
  have place : index = off + 2 ∨ index = off + 3 := by
    cases mode with
    | both => simpa [cfgWriteTouched] using member
    | low => exact .inl (by simpa [cfgWriteTouched] using member)
    | high => exact .inr (by simpa [cfgWriteTouched] using member)
  omega

/-- The two bytes of a register that is read. -/
theorem cfgReadTouched_lt {off length : Nat} (inside : off + 4 ≤ length) :
    ∀ index ∈ [off, off + 1], index < length := by
  intro index member
  simp only [List.mem_cons, List.not_mem_nil, or_false] at member
  omega

/-- The loop ends once its counter has passed the section. -/
theorem cfgPatchSteps_done {cfg : List Byte} {sectionOff sectionLen step : Byte}
    (passed : sectionLen.toNat ≤ step.toNat) (reg val : UInt16) (mode : CfgWriteMode)
    (rounds : Nat) :
    cfgPatchSteps cfg sectionOff sectionLen reg val mode (rounds + 1) step =
      some ⟨ENOENT.rc, cfg, []⟩ := by
  have ended : ¬ step < sectionLen := by
    rw [UInt8.lt_iff_toNat_lt]
    exact Nat.not_lt.mpr passed
  rw [cfgPatchSteps, if_neg ended]

/-- One round of the loop while its counter has not wrapped. -/
theorem cfgPatchSteps_round {cfg : List Byte} {sectionOff sectionLen : Byte} {done : Nat}
    (going : 4 * done < sectionLen.toNat) (reg val : UInt16) (mode : CfgWriteMode)
    (rounds : Nat) :
    cfgPatchSteps cfg sectionOff sectionLen reg val mode (rounds + 1) (UInt8.ofNat (4 * done)) =
      if sectionOff.toNat + 4 * done + 4 > cfg.length then
        some ⟨EBADMSG.rc, cfg, []⟩
      else if le16At cfg (sectionOff.toNat + 4 * done) ≠ reg then
        (cfgPatchSteps cfg sectionOff sectionLen reg val mode rounds
          (UInt8.ofNat (4 * (done + 1)))).map fun run =>
            run.after [sectionOff.toNat + 4 * done, sectionOff.toNat + 4 * done + 1]
      else
        some
          ⟨0, cfgRecalcChecksum (cfgWrite cfg (sectionOff.toNat + 4 * done) val mode),
            [sectionOff.toNat + 4 * done, sectionOff.toNat + 4 * done + 1] ++
              cfgWriteTouched (sectionOff.toNat + 4 * done) mode ++
              cfgRecalcTouched (cfgWrite cfg (sectionOff.toNat + 4 * done) val mode)⟩ := by
  have counter : (UInt8.ofNat (4 * done)).toNat = 4 * done := by
    have bounded := sectionLen.toNat_lt
    rw [UInt8.toNat_ofNat']
    omega
  have below : UInt8.ofNat (4 * done) < sectionLen := by
    rw [UInt8.lt_iff_toNat_lt, counter]
    exact going
  have next : UInt8.ofNat (4 * done) + 4 = UInt8.ofNat (4 * (done + 1)) := by
    rw [Nat.mul_succ, UInt8.ofNat_add]
    rfl
  rw [cfgPatchSteps, if_pos below]
  simp only [counter, next]

section Patch

variable {cfg : List Byte} (length : cfg.length = MILANL_CFG_LEN)

include length

/-- The loop from its `done`th step on.  The section ends inside the
configuration, so the counter has not wrapped. -/
theorem cfgPatchSteps_from {sectionOff sectionLen : Byte}
    (fits : sectionOff.toNat + sectionLen.toNat ≤ cfg.length) (reg val : UInt16)
    (mode : CfgWriteMode) (left done : Nat) (all : done + left = (sectionLen.toNat + 3) / 4) :
    ∃ run : CfgRun,
      (∀ rounds, left < rounds →
        cfgPatchSteps cfg sectionOff sectionLen reg val mode rounds (UInt8.ofNat (4 * done)) =
          some run) ∧
        run.Returns cfg
          (cfgPatchLoop cfg sectionOff.toNat reg val mode
            ((List.range' done left).map fun index => 4 * index)) ∧
        run.Inside cfg.length := by
  have short : sectionLen.toNat ≤ 224 := by
    have : cfg.length = 224 := length
    omega
  induction left generalizing done with
  | zero =>
      refine ⟨⟨ENOENT.rc, cfg, []⟩, ?_, ⟨rfl, rfl⟩, CfgRun.inside_nil _ _ _⟩
      intro rounds enough
      obtain ⟨rounds, rfl⟩ := Nat.exists_eq_succ_of_ne_zero (Nat.ne_of_gt enough)
      apply cfgPatchSteps_done
      rw [UInt8.toNat_ofNat']
      omega
  | succ left ih =>
      have round := @cfgPatchSteps_round cfg sectionOff sectionLen done (by omega) reg val mode
      rw [List.range'_succ, List.map_cons, cfgPatchLoop]
      by_cases beyond : sectionOff.toNat + 4 * done + 4 > cfg.length
      · refine ⟨⟨EBADMSG.rc, cfg, []⟩, ?_, ?_, CfgRun.inside_nil _ _ _⟩
        · intro rounds enough
          obtain ⟨rounds, rfl⟩ := Nat.exists_eq_succ_of_ne_zero (show rounds ≠ 0 by omega)
          rw [round, if_pos beyond]
        · rw [if_pos beyond]
          exact ⟨rfl, rfl⟩
      by_cases other : le16At cfg (sectionOff.toNat + 4 * done) ≠ reg
      · obtain ⟨run, returned, same, inside⟩ := ih (done + 1) (by omega)
        refine ⟨run.after [sectionOff.toNat + 4 * done, sectionOff.toNat + 4 * done + 1], ?_, ?_,
          inside.after (cfgReadTouched_lt (Nat.not_lt.mp beyond))⟩
        · intro rounds enough
          obtain ⟨rounds, rfl⟩ := Nat.exists_eq_succ_of_ne_zero (show rounds ≠ 0 by omega)
          rw [round, if_neg beyond, if_pos other, returned rounds (by omega)]
          rfl
        · rw [if_neg beyond, if_pos other]
          exact same
      · refine ⟨⟨0, cfgRecalcChecksum (cfgWrite cfg (sectionOff.toNat + 4 * done) val mode),
          [sectionOff.toNat + 4 * done, sectionOff.toNat + 4 * done + 1] ++
            cfgWriteTouched (sectionOff.toNat + 4 * done) mode ++
            cfgRecalcTouched (cfgWrite cfg (sectionOff.toNat + 4 * done) val mode)⟩, ?_, ?_, ?_⟩
        · intro rounds enough
          obtain ⟨rounds, rfl⟩ := Nat.exists_eq_succ_of_ne_zero (show rounds ≠ 0 by omega)
          rw [round, if_neg beyond, if_neg other]
        · rw [if_neg beyond, if_neg other]
          exact ⟨rfl, rfl⟩
        · intro index member
          rcases List.mem_append.mp member with early | late
          · rcases List.mem_append.mp early with read | written
            · exact cfgReadTouched_lt (Nat.not_lt.mp beyond) index read
            · exact cfgWriteTouched_lt (Nat.not_lt.mp beyond) mode index written
          · rw [length]
            exact cfgRecalcTouched_lt _ index late

/-- A run of one patch: it ends after at most as many rounds as a section has
entries, stays inside, and returns what the patch returns. -/
theorem cfgPatchRegRun_spec (reg val : UInt16) (sectionIdx : Nat) (mode : CfgWriteMode) :
    ∃ run : CfgRun,
      (∀ rounds, 57 ≤ rounds → cfgPatchRegRun rounds cfg reg val sectionIdx mode = some run) ∧
        run.Returns cfg (cfgPatchReg cfg reg val sectionIdx mode) ∧
        run.Inside MILANL_CFG_LEN := by
  have size : cfg.length = 224 := length
  unfold cfgPatchRegRun cfgPatchReg
  rw [if_neg (not_not.mpr length)]
  by_cases known : sectionIdx > 7
  · refine ⟨⟨EINVAL.rc, cfg, []⟩, ?_, ?_, CfgRun.inside_nil _ _ _⟩
    · intro rounds _
      rw [if_neg (not_not.mpr length), if_pos known]
    · rw [if_pos known]
      exact ⟨rfl, rfl⟩
  have table : ∀ index ∈ [1 + sectionIdx * 2, 2 + sectionIdx * 2], index < MILANL_CFG_LEN := by
    rw [← length, size]
    simp only [List.mem_cons, List.not_mem_nil, or_false]
    omega
  rw [if_neg known]
  dsimp only
  by_cases beyond : (cfg.getD (1 + sectionIdx * 2) 0).toNat +
      (cfg.getD (2 + sectionIdx * 2) 0).toNat > cfg.length
  · refine ⟨⟨EBADMSG.rc, cfg, [1 + sectionIdx * 2, 2 + sectionIdx * 2]⟩, ?_, ?_, table⟩
    · intro rounds _
      rw [if_neg (not_not.mpr length), if_neg known, if_pos beyond]
    · rw [if_pos beyond]
      exact ⟨rfl, rfl⟩
  · obtain ⟨run, returned, same, inside⟩ := cfgPatchSteps_from length (Nat.not_lt.mp beyond) reg val
      mode _ 0 (Nat.zero_add _)
    rw [length] at inside
    refine ⟨run.after [1 + sectionIdx * 2, 2 + sectionIdx * 2], ?_, ?_, inside.after table⟩
    · intro rounds enough
      have ended := returned rounds (by omega)
      rw [Nat.mul_zero] at ended
      rw [if_neg (not_not.mpr length), if_neg known, if_neg beyond]
      exact congrArg (Option.map _) ended
    · rw [if_neg beyond, List.range_eq_range']
      exact same

end Patch

theorem cfgPatchLoop_ok {cfg result : List Byte} {sectionOff : Nat} {reg val : UInt16}
    {mode : CfgWriteMode} {steps : List Nat}
    (patched : cfgPatchLoop cfg sectionOff reg val mode steps = .ok result) :
    ∃ off, (steps.map fun step => sectionOff + step).find? (fun off => le16At cfg off = reg) =
        some off ∧
      off + 4 ≤ cfg.length ∧ result = cfgRecalcChecksum (cfgWrite cfg off val mode) := by
  induction steps with
  | nil => cases patched
  | cons step steps ih =>
      rw [cfgPatchLoop] at patched
      dsimp only at patched
      split at patched
      · cases patched
      · next inside =>
          split at patched
          · next other =>
              obtain ⟨off, found, within, written⟩ := ih patched
              refine ⟨off, ?_, within, written⟩
              rw [List.map_cons, List.find?_cons, decide_eq_false other]
              exact found
          · next here =>
              cases patched
              refine ⟨sectionOff + step, ?_, Nat.not_lt.mp inside, rfl⟩
              rw [List.map_cons, List.find?_cons, decide_eq_true (not_not.mp here)]

/-- A patch that succeeds has found its register. -/
theorem cfgPatchReg_ok {cfg result : List Byte} {reg val : UInt16} {sectionIdx : Nat}
    {mode : CfgWriteMode} (patched : cfgPatchReg cfg reg val sectionIdx mode = .ok result) :
    ∃ off, cfgFindReg cfg reg sectionIdx = some off ∧ off + 4 ≤ cfg.length ∧
      result = cfgRecalcChecksum (cfgWrite cfg off val mode) := by
  unfold cfgPatchReg at patched
  split at patched
  · cases patched
  · split at patched
    · cases patched
    · dsimp only at patched
      split at patched
      · cases patched
      · obtain ⟨off, found, within, written⟩ := cfgPatchLoop_ok patched
        rw [List.map_map] at found
        exact ⟨off, found, within, written⟩

/-! ## The checksum -/

/-- `0xa5a5` and all 16-bit words of a configuration. -/
def cfgWordSum (cfg : List Byte) : UInt16 :=
  (List.range 112).foldl (fun sum index => sum + le16At cfg (index * 2)) 0xa5a5

theorem le16At_congr {first second : List Byte} {off : Nat}
    (low : first.getD off 0 = second.getD off 0)
    (high : first.getD (off + 1) 0 = second.getD (off + 1) 0) :
    le16At first off = le16At second off := by
  unfold le16At
  rw [low, high]

/-- A word that was stored as two bytes. -/
theorem le16At_of_bytes {data : List Byte} {off : Nat} {word : UInt16}
    (low : data.getD off 0 = word.toUInt8) (high : data.getD (off + 1) 0 = (word >>> 8).toUInt8) :
    le16At data off = word := by
  have wordLt := word.toNat_lt
  have highByte : (word >>> 8).toUInt8.toNat = word.toNat / 256 := by
    rw [UInt16.toNat_toUInt8, UInt16.toNat_shiftRight]
    change word.toNat >>> 8 % 2 ^ 8 = _
    rw [Nat.shiftRight_eq_div_pow]
    omega
  apply UInt16.toNat_inj.mp
  unfold le16At le16
  rw [low, high, UInt16.toNat_ofNat', UInt16.toNat_toUInt8, highByte]
  omega

theorem getD_set_self {cfg : List Byte} {index : Nat} (inside : index < cfg.length) (value : Byte) :
    (cfg.set index value).getD index 0 = value := by
  rw [List.getD_eq_getElem?_getD, List.getElem?_set_self inside, Option.getD_some]

/-- The checksum makes up for all the other words. -/
theorem cfgWordSum_recalc {cfg : List Byte} (length : cfg.length = MILANL_CFG_LEN) :
    cfgWordSum (cfgRecalcChecksum cfg) = 0 := by
  have last : CFG_CHECKSUM_OFF + 1 < cfg.length := by
    rw [length]
    decide
  have others : (List.range CFG_CHECKSUM_WORDS).foldl
      (fun sum index => sum + le16At (cfgRecalcChecksum cfg) (index * 2)) 0xa5a5 =
      (List.range CFG_CHECKSUM_WORDS).foldl (fun sum index => sum + le16At cfg (index * 2))
        0xa5a5 := by
    apply List.foldl_ext
    intro sum index member
    have before : index < 0x6f := List.mem_range.mp member
    rw [le16At_congr]
    · exact cfgRecalcChecksum_getD (show 0xde ≠ index * 2 by omega)
        (show 0xde + 1 ≠ index * 2 by omega)
    · exact cfgRecalcChecksum_getD (show 0xde ≠ index * 2 + 1 by omega)
        (show 0xde + 1 ≠ index * 2 + 1 by omega)
  have checksum : le16At (cfgRecalcChecksum cfg) (CFG_CHECKSUM_WORDS * 2) =
      -(List.range CFG_CHECKSUM_WORDS).foldl (fun sum index => sum + le16At cfg (index * 2))
        0xa5a5 := by
    unfold cfgRecalcChecksum
    rw [if_neg (by rw [length]; exact Nat.lt_irrefl _)]
    apply le16At_of_bytes
    · change ((cfg.set CFG_CHECKSUM_OFF _).set (CFG_CHECKSUM_OFF + 1) _).getD CFG_CHECKSUM_OFF 0 = _
      rw [getD_set_ne (by decide), getD_set_self (Nat.lt_of_succ_lt last)]
    · change ((cfg.set CFG_CHECKSUM_OFF _).set (CFG_CHECKSUM_OFF + 1) _).getD
        (CFG_CHECKSUM_OFF + 1) 0 = _
      rw [getD_set_self (by rwa [List.length_set])]
  unfold cfgWordSum
  rw [show 112 = CFG_CHECKSUM_WORDS + 1 from rfl, List.range_succ, List.foldl_append, others,
    List.foldl_cons, List.foldl_nil, checksum]
  exact UInt16.add_right_neg _

/-! ## Several patches -/

/-- One call of `gxfp_cfg_patch_reg`. -/
structure CfgPatch where
  reg : UInt16
  val : UInt16
  sectionIdx : Nat
  mode : CfgWriteMode

/-- The calls of `gxfp_milanl_apply_otp_patch`. -/
def otpPatches (otpCfg : MilanlOtpCfg) : List CfgPatch :=
  ⟨0x0220, otpCfg.dac, 0, .both⟩ ::
    if otpCfg.hasTcodeDelta then
      [⟨0x005c, otpCfg.tcode, 4, .both⟩, ⟨0x0082, otpCfg.fdtDelta <<< 8, 2, .high⟩]
    else
      []

/-- The entries that patches match, each in the configuration as the patches
before it have left it. -/
def matchedEntries : List CfgPatch → List Byte → List Nat
  | [], _ => []
  | patch :: patches, cfg =>
      match cfgFindReg cfg patch.reg patch.sectionIdx with
      | none => []
      | some off =>
          off :: matchedEntries patches
            (cfgRecalcChecksum (cfgWrite cfg off patch.val patch.mode))

/-- Patches one after the other, up to the first that fails. -/
def cfgPatchesRun (rounds : Nat) : List CfgPatch → List Byte → Option CfgRun
  | [], cfg => some ⟨0, cfg, []⟩
  | patch :: patches, cfg =>
      (cfgPatchRegRun rounds cfg patch.reg patch.val patch.sectionIdx patch.mode).bind fun run =>
        if run.rc < 0 then
          some run
        else
          (cfgPatchesRun rounds patches run.cfg).map fun rest => rest.after run.touched

/-- What is left when some patches have succeeded. -/
structure Patched (patches : List CfgPatch) (cfg result : List Byte) : Prop where
  length : result.length = cfg.length
  checksum : (patches = [] ∧ result = cfg) ∨ cfgWordSum result = 0
  entries : ∀ off ∈ matchedEntries patches cfg, off + 4 ≤ cfg.length
  matched : (matchedEntries patches cfg).length = patches.length
  same : ∀ index, (∀ off ∈ matchedEntries patches cfg, index ≠ off + 2 ∧ index ≠ off + 3) →
    index ≠ CFG_CHECKSUM_OFF → index ≠ CFG_CHECKSUM_OFF + 1 →
    result.getD index 0 = cfg.getD index 0

theorem patched_cons {patch : CfgPatch} {patches : List CfgPatch} {cfg result : List Byte}
    {off : Nat} (length : cfg.length = MILANL_CFG_LEN)
    (found : cfgFindReg cfg patch.reg patch.sectionIdx = some off) (inside : off + 4 ≤ cfg.length)
    (rest : Patched patches (cfgRecalcChecksum (cfgWrite cfg off patch.val patch.mode)) result) :
    Patched (patch :: patches) cfg result := by
  have sameLength : (cfgRecalcChecksum (cfgWrite cfg off patch.val patch.mode)).length =
      cfg.length := by
    rw [cfgRecalcChecksum_length, cfgWrite_length]
  have entriesEq : matchedEntries (patch :: patches) cfg = off :: matchedEntries patches
      (cfgRecalcChecksum (cfgWrite cfg off patch.val patch.mode)) := by
    rw [matchedEntries, found]
  refine ⟨rest.length.trans sameLength, .inr ?_, ?_, ?_, ?_⟩
  · rcases rest.checksum with ⟨_, rfl⟩ | zero
    · exact cfgWordSum_recalc (by rw [cfgWrite_length, length])
    · exact zero
  · rw [entriesEq]
    intro entry member
    rcases List.mem_cons.mp member with rfl | later
    · exact inside
    · exact sameLength ▸ rest.entries entry later
  · rw [entriesEq, List.length_cons, List.length_cons, rest.matched]
  · intro index apart low high
    rw [entriesEq] at apart
    obtain ⟨notLow, notHigh⟩ := apart off List.mem_cons_self
    rw [rest.same index (fun entry later => apart entry (List.mem_cons_of_mem _ later)) low high,
      cfgRecalcChecksum_getD low.symm high.symm, cfgWrite_getD notLow.symm notHigh.symm]

/-- Patches in the model of `SensorCfg`. -/
def cfgPatches (cfg : List Byte) (patches : List CfgPatch) : Except Errno (List Byte) :=
  patches.foldlM
    (fun cfg patch => cfgPatchReg cfg patch.reg patch.val patch.sectionIdx patch.mode) cfg

/-- Runs of several patches: they end, stay inside, and succeed where the model
of `SensorCfg` does, with its result. -/
theorem cfgPatchesRun_spec (patches : List CfgPatch) {cfg : List Byte}
    (length : cfg.length = MILANL_CFG_LEN) :
    ∃ run : CfgRun,
      (∀ rounds, 57 ≤ rounds → cfgPatchesRun rounds patches cfg = some run) ∧
        run.Inside MILANL_CFG_LEN ∧
        (∀ result, cfgPatches cfg patches = .ok result → run.rc = 0 ∧ run.cfg = result) ∧
        (run.rc = 0 → Patched patches cfg run.cfg) := by
  induction patches generalizing cfg with
  | nil =>
      refine ⟨⟨0, cfg, []⟩, fun rounds _ => rfl, CfgRun.inside_nil _ _ _, ?_, ?_⟩
      · rintro result ⟨⟩
        exact ⟨rfl, rfl⟩
      · intro _
        exact ⟨rfl, .inl ⟨rfl, rfl⟩, (fun off member => nomatch member), rfl, fun _ _ _ _ => rfl⟩
  | cons patch patches ih =>
      obtain ⟨run, ended, returned, inside⟩ := cfgPatchRegRun_spec length patch.reg patch.val
        patch.sectionIdx patch.mode
      unfold cfgPatches
      rw [List.foldlM_cons]
      cases outcome : cfgPatchReg cfg patch.reg patch.val patch.sectionIdx patch.mode with
      | error errno =>
          rw [outcome] at returned
          have failed : run.rc < 0 := returned.1 ▸ errno.rc_neg
          refine ⟨run, ?_, inside, ?_, ?_⟩
          · intro rounds enough
            rw [cfgPatchesRun, ended rounds enough]
            exact if_pos failed
          · rintro result ⟨⟩
          · intro success
            omega
      | ok written =>
          rw [outcome] at returned
          obtain ⟨success, rfl⟩ := returned
          obtain ⟨off, found, within, writtenEq⟩ := cfgPatchReg_ok outcome
          have writtenLength : run.cfg.length = MILANL_CFG_LEN := by
            rw [writtenEq, cfgRecalcChecksum_length, cfgWrite_length, length]
          obtain ⟨rest, restEnded, restInside, restResult, restPatched⟩ := ih writtenLength
          refine ⟨rest.after run.touched, ?_, restInside.after inside, restResult, ?_⟩
          · intro rounds enough
            rw [cfgPatchesRun, ended rounds enough]
            change (if run.rc < 0 then _ else _) = _
            rw [if_neg (by omega), restEnded rounds enough]
            rfl
          · intro restSuccess
            rw [writtenEq] at restPatched
            exact patched_cons length found within (restPatched restSuccess)

/-! ## The patches of an OTP -/

theorem milanlApplyOtpPatchRun_eq (rounds : Nat) {cfg : List Byte}
    (length : cfg.length = MILANL_CFG_LEN) (otpCfg : MilanlOtpCfg) :
    milanlApplyOtpPatchRun rounds cfg otpCfg = cfgPatchesRun rounds (otpPatches otpCfg) cfg := by
  unfold milanlApplyOtpPatchRun otpPatches
  rw [if_neg (not_not.mpr length)]
  cases otpCfg.hasTcodeDelta with
  | false => simp [cfgPatchesRun, CfgRun.after]
  | true =>
      simp only [cfgPatchesRun, if_true, Option.map_some, CfgRun.after, List.append_nil]
      apply congrArg
      funext dac
      cases cfgPatchRegRun rounds dac.cfg 0x005c otpCfg.tcode 4 .both with
      | none => rfl
      | some tcode =>
          simp only [Option.bind_some]
          cases cfgPatchRegRun rounds tcode.cfg 0x0082 (otpCfg.fdtDelta <<< 8) 2 .high with
          | none => simp
          | some delta =>
              by_cases dacFailed : dac.rc < 0
              · rw [if_pos dacFailed, if_pos dacFailed]
              · rw [if_neg dacFailed, if_neg dacFailed]
                by_cases tcodeFailed : tcode.rc < 0
                · rw [if_pos tcodeFailed, if_pos tcodeFailed]
                  rfl
                · rw [if_neg tcodeFailed, if_neg tcodeFailed, Option.bind_some, Option.bind_some]
                  by_cases deltaFailed : delta.rc < 0
                  · rw [if_pos deltaFailed, if_pos deltaFailed, List.append_assoc]
                    rfl
                  · rw [if_neg deltaFailed, if_neg deltaFailed, List.append_assoc]
                    rfl

theorem milanlApplyOtpPatch_eq {cfg : List Byte} (length : cfg.length = MILANL_CFG_LEN)
    (otpCfg : MilanlOtpCfg) :
    milanlApplyOtpPatch cfg otpCfg = cfgPatches cfg (otpPatches otpCfg) := by
  unfold milanlApplyOtpPatch cfgPatches otpPatches
  rw [if_neg (not_not.mpr length), List.foldlM_cons]
  cases cfgPatchReg cfg 0x0220 otpCfg.dac 0 .both with
  | error errno => rfl
  | ok dac =>
      cases otpCfg.hasTcodeDelta with
      | false => rfl
      | true =>
          cases second : cfgPatchReg dac 0x005c otpCfg.tcode 4 .both with
          | error errno => simp [second, bind, Except.bind]
          | ok tcode =>
              cases third : cfgPatchReg tcode 0x0082 (otpCfg.fdtDelta <<< 8) 2 .high with
              | error errno => simp [second, third, bind, Except.bind]
              | ok delta => simp [second, third, bind, Except.bind, pure, Except.pure]

/-- The value of a register in a section. -/
def cfgRegValue (cfg : List Byte) (reg : UInt16) (sectionIdx : Nat) : Option UInt16 :=
  (cfgFindReg cfg reg sectionIdx).map fun off => le16At cfg (off + 2)

/-- A word that a patch has not written. -/
theorem patch_le16At_apart {cfg : List Byte} {off at_ : Nat}
    (apart : at_ + 1 < off + 2 ∨ off + 3 < at_) (before : at_ + 1 < CFG_CHECKSUM_OFF)
    (val : UInt16) (mode : CfgWriteMode) :
    le16At (cfgRecalcChecksum (cfgWrite cfg off val mode)) at_ = le16At cfg at_ := by
  apply le16At_congr
  · rw [cfgRecalcChecksum_getD (by omega) (by omega), cfgWrite_getD (by omega) (by omega)]
  · rw [cfgRecalcChecksum_getD (by omega) (by omega), cfgWrite_getD (by omega) (by omega)]

/-- The word that a patch has written. -/
theorem patch_le16At {cfg : List Byte} {off : Nat} (length : cfg.length = MILANL_CFG_LEN)
    (before : off + 3 < CFG_CHECKSUM_OFF) (val : UInt16) :
    le16At (cfgRecalcChecksum (cfgWrite cfg off val .both)) (off + 2) = val := by
  have inside : off + 3 < cfg.length := by
    rw [length]
    exact Nat.lt_trans before (by decide)
  apply le16At_of_bytes
  · rw [cfgRecalcChecksum_getD (by omega) (by omega)]
    change ((cfg.set (off + 2) val.toUInt8).set (off + 3) _).getD (off + 2) 0 = _
    rw [getD_set_ne (by omega), getD_set_self (by omega)]
  · rw [cfgRecalcChecksum_getD (by omega) (by omega)]
    change ((cfg.set (off + 2) val.toUInt8).set (off + 3) _).getD (off + 3) 0 = _
    rw [getD_set_self (by rwa [List.length_set])]

/-- On the template all patches succeed and are found again. -/
theorem milanlApplyOtpPatch_template_registers (otpCfg : MilanlOtpCfg) :
    ∃ cfg, milanlApplyOtpPatch milanlCfgTemplate otpCfg = .ok cfg ∧
      cfgRegValue cfg 0x0220 0 = some otpCfg.dac ∧
      (otpCfg.hasTcodeDelta = true →
        cfgRegValue cfg 0x005c 4 = some otpCfg.tcode ∧
          cfgRegHigh cfg 0x0082 2 = some otpCfg.fdtDelta.toUInt8) ∧
      (otpCfg.hasTcodeDelta = false →
        cfgRegValue cfg 0x005c 4 = cfgRegValue milanlCfgTemplate 0x005c 4 ∧
          cfgRegValue cfg 0x0082 2 = cfgRegValue milanlCfgTemplate 0x0082 2) := by
  have dacPatch := patchedTemplate_template.patchReg (by decide) template_find_dac otpCfg.dac .both
  have dacPatched := patchedTemplate_template.write (show 0x71 + 2 ∈ milanlPatched by decide)
    (by decide) otpCfg.dac .both
  have dacValue := patch_le16At patchedTemplate_template.length
    (show 0x71 + 3 < CFG_CHECKSUM_OFF by decide) otpCfg.dac
  have tcodeKept : le16At (cfgRecalcChecksum (cfgWrite milanlCfgTemplate 0x71 otpCfg.dac .both))
      (0xc1 + 2) = le16At milanlCfgTemplate (0xc1 + 2) :=
    patch_le16At_apart (.inr (by decide)) (by decide) _ _
  have deltaKept : le16At (cfgRecalcChecksum (cfgWrite milanlCfgTemplate 0x71 otpCfg.dac .both))
      (0x9d + 2) = le16At milanlCfgTemplate (0x9d + 2) :=
    patch_le16At_apart (.inr (by decide)) (by decide) _ _
  unfold milanlApplyOtpPatch
  rw [if_neg (not_not.mpr patchedTemplate_template.length), dacPatch]
  dsimp only
  generalize cfgRecalcChecksum (cfgWrite milanlCfgTemplate 0x71 otpCfg.dac .both) = cfg at *
  cases otpCfg.hasTcodeDelta with
  | false =>
      refine ⟨cfg, rfl, ?_, (fun set => nomatch set), fun _ => ⟨?_, ?_⟩⟩
      · rw [cfgRegValue, dacPatched.findReg (by decide), template_find_dac]
        exact congrArg some dacValue
      · rw [cfgRegValue, cfgRegValue, dacPatched.findReg (by decide), template_find_tcode]
        exact congrArg some tcodeKept
      · rw [cfgRegValue, cfgRegValue, dacPatched.findReg (by decide), template_find_delta]
        exact congrArg some deltaKept
  | true =>
      have tcodePatch := dacPatched.patchReg (by decide) template_find_tcode otpCfg.tcode .both
      have tcodePatched := dacPatched.write (show 0xc1 + 2 ∈ milanlPatched by decide)
        (by decide) otpCfg.tcode .both
      have tcodeValue := patch_le16At dacPatched.length
        (show 0xc1 + 3 < CFG_CHECKSUM_OFF by decide) otpCfg.tcode
      have dacKept : le16At (cfgRecalcChecksum (cfgWrite cfg 0xc1 otpCfg.tcode .both))
          (0x71 + 2) = otpCfg.dac :=
        (patch_le16At_apart (.inl (by decide)) (by decide) _ _).trans dacValue
      rw [if_pos rfl, tcodePatch]
      dsimp only
      generalize cfgRecalcChecksum (cfgWrite cfg 0xc1 otpCfg.tcode .both) = cfg at *
      have deltaPatch := tcodePatched.patchReg (by decide) template_find_delta
        (otpCfg.fdtDelta <<< 8) .high
      have deltaPatched := tcodePatched.write (show 0x9d + 2 ∈ milanlPatched by decide)
        (by decide) (otpCfg.fdtDelta <<< 8) .high
      refine ⟨_, deltaPatch, ?_, fun _ => ⟨?_, ?_⟩, fun clear => nomatch clear⟩
      · rw [cfgRegValue, deltaPatched.findReg (by decide), template_find_dac]
        exact congrArg some
          ((patch_le16At_apart (.inl (by decide)) (by decide) _ _).trans dacKept)
      · rw [cfgRegValue, deltaPatched.findReg (by decide), template_find_tcode]
        exact congrArg some
          ((patch_le16At_apart (.inr (by decide)) (by decide) _ _).trans tcodeValue)
      · rw [cfgRegHigh, deltaPatched.findReg (by decide), template_find_delta]
        exact congrArg some (cfgWrite_high_getD (by rw [tcodePatched.length]; decide) _)

/-- `gxfp_milanl_apply_otp_patch` on any configuration of 224 bytes ends and
touches no index outside.  When it returns 0, the words add up to zero with
`0xa5a5`, and only value bytes of the entries that its patches matched and the
checksum may have changed.  On the template it returns 0, and the registers have
the values of the OTP. -/
theorem milanlApplyOtpPatch_sound (otpCfg : MilanlOtpCfg) :
    (∀ cfg : List Byte, cfg.length = MILANL_CFG_LEN →
      ∃ run : CfgRun,
        (∀ rounds, 57 ≤ rounds → milanlApplyOtpPatchRun rounds cfg otpCfg = some run) ∧
          (∀ index ∈ run.touched, index < MILANL_CFG_LEN) ∧
          (run.rc = 0 →
            run.cfg.length = MILANL_CFG_LEN ∧ cfgWordSum run.cfg = 0 ∧
              (matchedEntries (otpPatches otpCfg) cfg).length = (otpPatches otpCfg).length ∧
              ∀ index,
                (∀ off ∈ matchedEntries (otpPatches otpCfg) cfg,
                  index ≠ off + 2 ∧ index ≠ off + 3) →
                index ≠ CFG_CHECKSUM_OFF → index ≠ CFG_CHECKSUM_OFF + 1 →
                run.cfg.getD index 0 = cfg.getD index 0)) ∧
      ∃ run : CfgRun,
        (∀ rounds, 57 ≤ rounds →
          milanlApplyOtpPatchRun rounds milanlCfgTemplate otpCfg = some run) ∧
          run.rc = 0 ∧ cfgRegValue run.cfg 0x0220 0 = some otpCfg.dac ∧
          (otpCfg.hasTcodeDelta = true →
            cfgRegValue run.cfg 0x005c 4 = some otpCfg.tcode ∧
              cfgRegHigh run.cfg 0x0082 2 = some otpCfg.fdtDelta.toUInt8) ∧
          (otpCfg.hasTcodeDelta = false →
            cfgRegValue run.cfg 0x005c 4 = cfgRegValue milanlCfgTemplate 0x005c 4 ∧
              cfgRegValue run.cfg 0x0082 2 = cfgRegValue milanlCfgTemplate 0x0082 2) := by
  constructor
  · intro cfg length
    obtain ⟨run, ended, inside, -, patched⟩ := cfgPatchesRun_spec (otpPatches otpCfg) length
    refine ⟨run, ?_, inside, ?_⟩
    · intro rounds enough
      rw [milanlApplyOtpPatchRun_eq rounds length]
      exact ended rounds enough
    · intro success
      have result := patched success
      refine ⟨result.length.trans length, ?_, result.matched, result.same⟩
      rcases result.checksum with ⟨none, _⟩ | zero
      · cases none
      · exact zero
  · obtain ⟨cfg, applied, registers⟩ := milanlApplyOtpPatch_template_registers otpCfg
    obtain ⟨run, ended, -, success, -⟩ :=
      cfgPatchesRun_spec (otpPatches otpCfg) patchedTemplate_template.length
    rw [milanlApplyOtpPatch_eq patchedTemplate_template.length] at applied
    obtain ⟨returned, rfl⟩ := success cfg applied
    refine ⟨run, ?_, returned, registers⟩
    intro rounds enough
    rw [milanlApplyOtpPatchRun_eq rounds patchedTemplate_template.length]
    exact ended rounds enough

/-- The template with the values of `gxfp_milanl_apply_default_patch`. -/
theorem milanlApplyOtpPatch_sound_default :
    milanlCfgTemplate.length = MILANL_CFG_LEN ∧
      ∃ run : CfgRun,
        milanlApplyOtpPatchRun 57 milanlCfgTemplate ⟨0x80, 0x15, 0x0008, true, true⟩ = some run ∧
          ∀ index ∈ run.touched, index < MILANL_CFG_LEN := by
  have length : milanlCfgTemplate.length = MILANL_CFG_LEN := rfl
  obtain ⟨run, ended, inside, -⟩ :=
    (milanlApplyOtpPatch_sound ⟨0x80, 0x15, 0x0008, true, true⟩).1 milanlCfgTemplate length
  exact ⟨length, run, ended 57 (Nat.le_refl 57), inside⟩

end Gxfp.User
