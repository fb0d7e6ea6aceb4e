import Gxfp.User.Recovery
import Gxfp.User.SessionOffset

/-!
# OTPs without a delta

`gxfp_session_open` reads the OTP of a sensor and keeps its delta, if it has a
valid one.  A session opened without a delta and a session opened with the
default one are the same up to their offsets, so both arm the sensor with the
same tables for as long as they are used.
-/

namespace Gxfp.User

open Lib
open Lib.Bytes
open Lib.Execution
open Gxfp.Errno

section Session

variable {E : Type} (env : Env) (engine : TlsEngine E)

/-! ## Opening -/

/-- The OTP that the configuration part of `gxfp_session_open` reads. -/
def sessionBootstrapOtp (impl : SessionImpl E) (io : Io) : Option (List Byte) :=
  let chip := cmdReadChipId env impl.fd (devFlushRxq impl.fd io)
  if chip.1 = .ok 0x2208 then
    (cmdReadOtp env impl.fd chip.2 256).1.toOption
  else
    none

/-- The OTP that `gxfp_session_open` reads on its way. -/
def sessionOpenOtp (session : Session E) (io : Io) : Option (List Byte) :=
  match sessionEnsureImpl env session io with
  | (.error _, _) => none
  | (.ok impl, io) =>
      let reset := sessionResetRuntime impl io
      let opened := devOpen env reset.2
      let buffered :=
        sessionEnsureTapIoBuffer env { reset.1 with fd := opened.2.1, mode := .ready } opened.2.2
      sessionBootstrapOtp env buffered.2.1 buffered.2.2

/-- `gxfp_session_open` has succeeded with this key: the OTP it has read and the
session it has left. -/
inductive SessionOpened (psk : List Byte) : Option (List Byte) → SessionImpl E → Prop
  | intro (session : Session E) (io : Io) (devPath : String) (errbufLen : Nat)
      (impl : SessionImpl E)
      (zero : (sessionOpen env engine session io devPath psk errbufLen).ret = 0)
      (left : (sessionOpen env engine session io devPath psk errbufLen).session = some impl) :
      SessionOpened psk (sessionOpenOtp env session io) impl

/-- The OTP has no pair of tcode and delta, or none was read. -/
def CarriesNoPair (otp : Option (List Byte)) : Prop :=
  ∀ bytes otpCfg, otp = some bytes → milanlParseOtp bytes = .ok otpCfg →
    otpCfg.hasTcodeDelta = false

/-- The OTP has a pair of tcode and this delta. -/
def GivesDelta (otp : Option (List Byte)) (delta : UInt16) : Prop :=
  ∃ bytes otpCfg, otp = some bytes ∧ milanlParseOtp bytes = .ok otpCfg ∧
    otpCfg.hasTcodeDelta = true ∧ otpCfg.fdtDelta = delta

/-- The calibration data that an OTP leaves in a session that had none. -/
def KeepsOtp (otp : Option (List Byte)) (otpCtx : OtpCtx) : Prop :=
  otp = none ∧ otpCtx = ⟨0, 0, false⟩ ∨
    ∃ bytes otpCfg, otp = some bytes ∧ milanlParseOtp bytes = .ok otpCfg ∧
      otpCtx = ⟨otpCfg.tcode, otpCfg.fdtDelta, otpCfg.hasTcodeDelta⟩

theorem KeepsOtp.delta_of_noPair {otp : Option (List Byte)} {otpCtx : OtpCtx}
    (kept : KeepsOtp otp otpCtx) (noPair : CarriesNoPair otp) : otpCtx.runtimeDelta = 0 := by
  rcases kept with ⟨-, rfl⟩ | ⟨bytes, otpCfg, otpEq, parsed, rfl⟩
  · rfl
  · have none := noPair bytes otpCfg otpEq parsed
    unfold OtpCtx.runtimeDelta
    dsimp only
    rw [none]
    rfl

theorem KeepsOtp.delta_of_gives {otp : Option (List Byte)} {otpCtx : OtpCtx} {delta : UInt16}
    (kept : KeepsOtp otp otpCtx) (gives : GivesDelta otp delta) :
    otpCtx.runtimeDelta = delta := by
  obtain ⟨bytes, otpCfg, otpEq, parsed, has, deltaEq⟩ := gives
  rcases kept with ⟨absent, -⟩ | ⟨other, otherCfg, otherEq, otherParsed, rfl⟩
  · rw [absent] at otpEq
    cases otpEq
  · rw [otpEq] at otherEq
    cases otherEq
    rw [parsed] at otherParsed
    cases otherParsed
    unfold OtpCtx.runtimeDelta
    dsimp only
    rw [has, if_pos rfl]
    exact deltaEq

/-- The configuration part keeps what it reads from the OTP. -/
theorem sessionBootstrap_keepsOtp {impl : SessionImpl E} {io : Io}
    (fresh : impl.otpCtx = ⟨0, 0, false⟩) (returned : ¬ (sessionBootstrap env impl io).1 < 0) :
    KeepsOtp (sessionBootstrapOtp env impl io) (sessionBootstrap env impl io).2.1.otpCtx := by
  unfold sessionBootstrap at returned ⊢
  unfold sessionBootstrapOtp
  dsimp only at returned ⊢
  split at returned
  · rename_i milanl
    rw [if_pos milanl, if_pos milanl]
    unfold sessionApplyMilanlCfg at returned ⊢
    dsimp only at returned ⊢
    generalize cmdReadOtp env impl.fd _ 256 = read at returned ⊢
    obtain ⟨result, io⟩ := read
    cases result with
    | error rc => exact .inl ⟨rfl, fresh⟩
    | ok otp =>
        dsimp only at returned ⊢
        cases parsed : milanlParseOtp otp with
        | error errno =>
            rw [parsed] at returned
            exact absurd (rc_neg errno) returned
        | ok otpCfg =>
            rw [parsed] at returned
            dsimp only at returned ⊢
            split at returned
            · exact absurd (rc_neg _) returned
            · split at returned
              · exact absurd (rc_neg _) returned
              · split at returned
                · rename_i failed
                  exact absurd failed returned
                · rename_i notFailed
                  rw [if_neg notFailed]
                  exact .inr ⟨otp, otpCfg, rfl, parsed, rfl⟩
  · rename_i other
    rw [if_neg other, if_neg other]
    exact .inl ⟨rfl, fresh⟩

theorem sessionEnsureTapIoBuffer_kept {impl : SessionImpl E} {io : Io}
    (returned : ¬ (sessionEnsureTapIoBuffer env impl io).1 < 0) :
    (sessionEnsureTapIoBuffer env impl io).2.1 = { impl with tapIoBuf := true } := by
  unfold sessionEnsureTapIoBuffer at returned ⊢
  by_cases allocated : impl.tapIoBuf = true
  · rw [if_pos allocated, ← allocated]
  · rw [if_neg allocated] at returned ⊢
    split at returned
    · exact absurd (rc_neg ENOMEM) returned
    · rename_i hasMemory
      rw [if_neg hasMemory]

/-- The session that a successful `gxfp_session_open` leaves. -/
def openedImpl (fd : Int) (svc : TlsService E) (psk : List Byte) (otpCtx : OtpCtx) :
    SessionImpl E :=
  sessionApplyFdtRuntimeFromOtp
    { fd := fd
      svc := svc
      fdt := fdtFlowInit
      psk := some psk
      tapIoBuf := true
      mode := .ready
      dark := none
      pendingImg := none
      otpCtx := otpCtx }

/-- The end of `gxfp_session_open`, after its configuration part. -/
def sessionOpenBooted (psk : List Byte) (text : String → Option String)
    (booted : Int × SessionImpl E × Io) : OpenOut E :=
  if booted.1 < 0 then
    sessionOpenFail booted.2.1 booted.2.2 booted.1
      (text ("otp/config bootstrap failed: " ++ env.strerror (-booted.1)))
  else if !env.malloc booted.2.2.count then
    sessionOpenFail booted.2.1 booted.2.2.tick ENOMEM.rc none
  else
    let started := sessionTlsInit env engine { booted.2.1 with psk := some psk } booted.2.2.tick
    if started.1 < 0 then
      sessionOpenFail started.2.1 started.2.2 started.1
        (text ("tls_service_init failed: " ++ env.strerror (-started.1)))
    else
      ⟨0,
        some
          { sessionApplyFdtRuntimeFromOtp { started.2.1 with fdt := fdtFlowInit } with
            mode := .ready },
        started.2.2, none⟩

theorem sessionOpenBooted_zero {psk : List Byte} {text : String → Option String}
    {booted : Int × SessionImpl E × Io}
    (zero : (sessionOpenBooted env engine psk text booted).ret = 0) :
    ¬ booted.1 < 0 ∧ ∃ svc, (sessionOpenBooted env engine psk text booted).session =
      some (sessionApplyFdtRuntimeFromOtp
        { booted.2.1 with psk := some psk, svc := svc, fdt := fdtFlowInit, mode := .ready }) := by
  unfold sessionOpenBooted sessionTlsInit at *
  dsimp only at *
  by_cases bootFailed : booted.1 < 0
  · rw [if_pos bootFailed] at zero
    exact absurd zero bootFailed.ne
  rw [if_neg bootFailed] at zero ⊢
  by_cases noCopy : (!env.malloc booted.2.2.count) = true
  · rw [if_pos noCopy] at zero
    exact absurd zero (rc_neg ENOMEM).ne
  rw [if_neg noCopy] at zero ⊢
  generalize tlsServiceInit env booted.2.1.fd engine booted.2.2.tick booted.2.1.svc ⟨20000, true⟩
    (some psk) = init at zero ⊢
  by_cases initFailed : init.1 < 0
  · rw [if_pos initFailed] at zero
    exact absurd zero initFailed.ne
  rw [if_neg initFailed]
  exact ⟨bootFailed, init.2.1, rfl⟩

theorem SessionOpened.opened {psk : List Byte} {otp : Option (List Byte)} {impl : SessionImpl E}
    (opened : SessionOpened env engine psk otp impl) :
    KeepsOtp otp impl.otpCtx ∧ impl = openedImpl impl.fd impl.svc psk impl.otpCtx := by
  obtain ⟨session, io, devPath, errbufLen, impl, zero, left⟩ := opened
  generalize outEq : sessionOpen env engine session io devPath psk errbufLen = out at zero left
  unfold sessionOpen at outEq
  unfold sessionOpenOtp
  by_cases noPsk : psk.length = 0
  · rw [if_pos noPsk] at outEq
    rw [← outEq] at zero
    exact absurd zero (rc_neg EINVAL).ne
  rw [if_neg noPsk] at outEq
  generalize sessionEnsureImpl env session io = ensured at outEq ⊢
  obtain ⟨result, next⟩ := ensured
  cases result with
  | error errno =>
      rw [← outEq] at zero
      exact absurd zero (rc_neg errno).ne
  | ok made =>
      generalize (fun message =>
        if errbufLen = 0 then none else some (snprintf errbufLen message)) = text at outEq
      change (if (devOpen env (sessionResetRuntime made next).2).1 < 0 then _
        else if _ < 0 then _ else sessionOpenBooted env engine psk text
          (sessionBootstrap env _ _)) = out at outEq
      dsimp only at outEq ⊢
      have resetEq : (sessionResetRuntime made next).1 =
          { (sessionResetRuntime made next).1 with
            dark := none, pendingImg := none, otpCtx := ⟨0, 0, false⟩ } :=
        rfl
      generalize sessionResetRuntime made next = reset at resetEq outEq ⊢
      generalize devOpen env reset.2 = device at outEq ⊢
      by_cases openFailed : device.1 < 0
      · rw [if_pos openFailed] at outEq
        rw [← outEq] at zero
        exact absurd zero openFailed.ne
      rw [if_neg openFailed] at outEq
      have kept := @sessionEnsureTapIoBuffer_kept E env
        { reset.1 with fd := device.2.1, mode := .ready } device.2.2
      generalize sessionEnsureTapIoBuffer env { reset.1 with fd := device.2.1, mode := .ready }
        device.2.2 = buffered at kept outEq ⊢
      by_cases bufferFailed : buffered.1 < 0
      · rw [if_pos bufferFailed] at outEq
        rw [← outEq] at zero
        exact absurd zero bufferFailed.ne
      rw [if_neg bufferFailed] at outEq
      have bufferedEq := kept bufferFailed
      rw [resetEq] at bufferedEq
      have fresh : buffered.2.1.otpCtx = ⟨0, 0, false⟩ := by
        rw [bufferedEq]
      obtain ⟨fdt, otpCtx, bootedEq⟩ := sessionBootstrap_impl env buffered.2.1 buffered.2.2
      rw [← outEq] at zero left
      obtain ⟨booted, svc, sessionEq⟩ := sessionOpenBooted_zero env engine zero
      have keeps := sessionBootstrap_keepsOtp env fresh booted
      rw [left, bootedEq, bufferedEq] at sessionEq
      rw [bootedEq] at keeps
      cases sessionEq
      exact ⟨keeps, rfl⟩

theorem openedImpl_resolved (fd : Int) (svc : TlsService E) (psk : List Byte) (otpCtx : OtpCtx) :
    (openedImpl fd svc psk otpCtx).resolved = openedImpl fd svc psk otpCtx.resolved :=
  rfl

/-- Opened sessions differ at most in their offsets. -/
theorem SessionOpened.resolved_eq {firstHost secondHost : Env} {psk : List Byte}
    {firstOtp secondOtp : Option (List Byte)} {first second : SessionImpl E}
    (firstOpened : SessionOpened firstHost engine psk firstOtp first)
    (secondOpened : SessionOpened secondHost engine psk secondOtp second)
    (sameFd : second.fd = first.fd) (sameSvc : second.svc = first.svc)
    (sameOffset : fdtUpOffset first.otpCtx.runtimeDelta = fdtUpOffset second.otpCtx.runtimeDelta) :
    first.resolved = second.resolved := by
  have firstEq := firstOpened.opened.2
  have secondEq := secondOpened.opened.2
  rw [sameFd, sameSvc] at secondEq
  rw [firstEq, secondEq, openedImpl_resolved, openedImpl_resolved, OtpCtx.resolved, sameOffset]
  rfl

end Session

/-! ## Payloads -/

/-- The payload of an `FDT_UP` command. -/
def Out.fdtUpPayload (out : Out) : Option (List Byte) :=
  match out.command with
  | some (cmd, payload) => if cmd = CMD_FDT_UP then some payload else none
  | none => none

/-- The payloads of the `FDT_UP` commands sent so far, newest first. -/
def Io.fdtUpPayloads (io : Io) : List (List Byte) :=
  io.trace.filterMap Out.fdtUpPayload

/-- Offset zero and offset `0x15` give the same table, for every raw baseline;
either changes only the entries the baseline has values for, and reads nothing
behind its end.  A session that was opened with an OTP without a delta sends
the same `FDT_UP` payloads as one whose OTP gives `0x15`, whatever the host
delivers and whatever is called. -/
theorem fdtUp_default_offset {E : Type} (engine : TlsEngine E) :
    (∀ (touchflag : UInt16) (secondFlag diffUse : Bool) (rawBase : List Byte) (table : FdtTable),
      fdtUpbaseFromRaw touchflag secondFlag diffUse 0 rawBase table =
          fdtUpbaseFromRaw touchflag secondFlag diffUse 0x15 rawBase table ∧
        ∀ dacOffset : UInt16,
          (∀ (position : Nat) (inside : position < 24),
            2 * min 10 (rawBase.length / 2) ≤ position →
              (fdtUpbaseFromRaw touchflag secondFlag diffUse dacOffset rawBase table)[position] =
                table[position]) ∧
          fdtUpbaseWithin touchflag secondFlag diffUse dacOffset rawBase table =
            some (fdtUpbaseFromRaw touchflag secondFlag diffUse dacOffset rawBase table)) ∧
      ∀ (firstHost secondHost : Env) (psk : List Byte) (firstOtp secondOtp : Option (List Byte))
        (first second : SessionImpl E),
        SessionOpened firstHost engine psk firstOtp first →
        SessionOpened secondHost engine psk secondOtp second →
        CarriesNoPair firstOtp → GivesDelta secondOtp 0x15 →
        second.fd = first.fd → second.svc = first.svc →
        ∀ (host : Env) (io : Io) (calls : List SessionCall),
          (final (sessionStep host engine) ⟨some first, io⟩ calls).io.fdtUpPayloads =
            (final (sessionStep host engine) ⟨some second, io⟩ calls).io.fdtUpPayloads := by
  constructor
  · intro touchflag secondFlag diffUse rawBase table
    constructor
    · exact (fdtUpbaseFromRaw_resolved touchflag secondFlag diffUse 0 rawBase table).symm
    · intro dacOffset
      constructor
      · intro position inside behind
        apply fdtUpbaseFromRaw_kept
        rw [fdtUpdateEntries, FDT_BASE_UPDATE_ENTRIES, Nat.min_comm, Nat.mul_comm]
        exact behind
      · exact fdtUpbaseWithin_eq touchflag secondFlag diffUse dacOffset rawBase table
  · intro firstHost secondHost psk firstOtp secondOtp first second firstOpened secondOpened noPair
      gives sameFd sameSvc host io calls
    have firstDelta := firstOpened.opened.1.delta_of_noPair noPair
    have secondDelta := secondOpened.opened.1.delta_of_gives gives
    have sameOffset : fdtUpOffset first.otpCtx.runtimeDelta =
        fdtUpOffset second.otpCtx.runtimeDelta := by
      rw [firstDelta, secondDelta]
      rfl
    have sameImpl :=
      firstOpened.resolved_eq engine secondOpened sameFd sameSvc sameOffset
    have sameRun : (⟨some first, io⟩ : SessionRun E).resolved =
        (⟨some second, io⟩ : SessionRun E).resolved :=
      congrArg (fun impl => (⟨some impl, io⟩ : SessionRun E)) sameImpl
    rw [(run_eq_of_resolved host engine sameRun calls).2]

/-! ## Two sensors -/

deriving instance DecidableEq for Channel
deriving instance DecidableEq for TlsServiceImpl

/-- A read that delivers a whole frame. -/
def frameRead (cmd : Byte) (payload : List Byte) : Except ℕ+ (List Byte) :=
  let frame :=
    [cmd] ++ le16Bytes (1 + payload.length) ++ payload ++
      [goodixProtoChecksum cmd (1 + payload.length) payload]
  .ok (recordBytes
    ⟨frame.length, GOODIX_MP_TYPE_CMD.toNat, 0, 0, Vector.replicate 16 0⟩ frame)

/-- A sensor of the Milan family that answers with this OTP. -/
def milanlEnv (otp : List Byte) : Env :=
  { steadyEnv with
    wait := fun _ _ =>
      [.read (frameRead CMD_REG_READ [0x00, 0x08, 0x22, 0x00]),
        .read (frameRead CMD_READ_OTP otp), .read (frameRead CMD_ACK [0x00])] }

/-- `gxfp_session_open` on a sensor with this tcode. -/
def milanlOpen (raw : Byte) : OpenOut Channel :=
  sessionOpen (milanlEnv (otpWithTcode raw)) (channelEngine clearCipher) none ⟨0, []⟩ "/dev/gxfp"
    (List.replicate PSK_LEN 0) 0

/-- A host that reports a finger on the first zone, with the raw values of three
zones. -/
def touchEnv : Env :=
  { steadyEnv with
    reads := fun _ =>
      [frameRead CMD_FDT_STATUS [0x02, 0x00, 0x01, 0x00, 0x34, 0x12, 0xfe, 0xff, 0x10, 0x00]] }

/-- A session that waits for a finger to leave, before and after a report. -/
def liftCalls : List SessionCall :=
  [.activate, .pump false, .onFd 1 false, .changeState .idle, .changeState .awaitFingerOff]

theorem milanlOpen_returns : ∀ raw ∈ ([0x00, 0xa5] : List Byte),
    (milanlOpen raw).ret = 0 ∧ (milanlOpen raw).session.isSome = true ∧
      sessionOpenOtp (E := Channel) (milanlEnv (otpWithTcode raw)) none ⟨0, []⟩ =
        some (otpWithTcode raw) := by
  decide +kernel

theorem milanlOpen_opened {raw : Byte} (member : raw ∈ ([0x00, 0xa5] : List Byte)) :
    ∃ impl, (milanlOpen raw).session = some impl ∧
      SessionOpened (milanlEnv (otpWithTcode raw)) (channelEngine clearCipher)
        (List.replicate PSK_LEN 0) (some (otpWithTcode raw)) impl := by
  obtain ⟨zero, isSome, read⟩ := milanlOpen_returns raw member
  obtain ⟨impl, left⟩ := Option.isSome_iff_exists.mp isSome
  rw [← read]
  exact ⟨impl, left, .intro none ⟨0, []⟩ "/dev/gxfp" 0 impl zero left⟩

/-- A sensor without a tcode and one with tcode `0xa5`, whose delta is `0x15`,
are armed twice with the same tables. -/
theorem fdtUp_default_offset_milanl :
    ∃ first second, (milanlOpen 0x00).session = some first ∧
      (milanlOpen 0xa5).session = some second ∧
      (final (sessionStep touchEnv (channelEngine clearCipher)) ⟨some first, ⟨0, []⟩⟩
          liftCalls).io.fdtUpPayloads.length = 2 ∧
      (final (sessionStep touchEnv (channelEngine clearCipher)) ⟨some first, ⟨0, []⟩⟩
          liftCalls).io.fdtUpPayloads =
        (final (sessionStep touchEnv (channelEngine clearCipher)) ⟨some second, ⟨0, []⟩⟩
          liftCalls).io.fdtUpPayloads := by
  have alike : (milanlOpen 0xa5).session.map (fun impl => (impl.fd, impl.svc)) =
      (milanlOpen 0x00).session.map (fun impl => (impl.fd, impl.svc)) := by
    decide +kernel
  have armedTwice : (milanlOpen 0x00).session.map (fun first =>
      (final (sessionStep touchEnv (channelEngine clearCipher)) ⟨some first, ⟨0, []⟩⟩
        liftCalls).io.fdtUpPayloads.length) = some 2 := by
    decide +kernel
  obtain ⟨first, firstLeft, firstOpened⟩ := @milanlOpen_opened 0x00 (by decide)
  obtain ⟨second, secondLeft, secondOpened⟩ := @milanlOpen_opened 0xa5 (by decide)
  rw [firstLeft, secondLeft] at alike
  rw [firstLeft] at armedTwice
  obtain ⟨sameFd, sameSvc⟩ := Prod.mk.inj (Option.some.inj alike)
  have noPair : CarriesNoPair (some (otpWithTcode 0x00)) := by
    intro bytes otpCfg bytesEq parsed
    cases bytesEq
    rcases milanlParseOtp_delta parsed with ⟨valid, -, -⟩ | ⟨-, hasNot⟩
    · exact absurd valid (by decide +kernel)
    · exact hasNot
  have gives : GivesDelta (some (otpWithTcode 0xa5)) 0x15 :=
    ⟨otpWithTcode 0xa5, ⟨0xb0, 0x15, 0x0008, true, true⟩, rfl, by decide +kernel, rfl, rfl⟩
  exact ⟨first, second, firstLeft, secondLeft, Option.some.inj armedTwice,
    (fdtUp_default_offset (channelEngine clearCipher)).2 _ _ _ _ _ first second firstOpened
      secondOpened noPair gives sameFd sameSvc touchEnv ⟨0, []⟩ liftCalls⟩

end Gxfp.User
