import Gxfp.Lib.Execution
import Gxfp.User.FdtOffset

/-!
# Sessions and the default offset

A session takes the offset of its finger-up baseline from the OTP it has read,
and zero where that has none.  `resolved` makes the offset explicit in the FDT
flow and in the calibration data that later activations read again.  Every call
does the same to a session and to its resolved form, up to the offset itself, so
two sessions with one resolved form cannot be told apart by what they return or
send.
-/

namespace Gxfp.User

open Lib
open Lib.Bytes
open Lib.Execution
open Gxfp.Errno

/-! ## Resolved sessions -/

/-- The delta that `session_apply_fdt_runtime_from_otp` takes from the
calibration data. -/
def OtpCtx.runtimeDelta (otpCtx : OtpCtx) : UInt16 :=
  if otpCtx.hasTcodeDelta then otpCtx.fdtDelta else 0

/-- Calibration data with the offset that its own stands for. -/
def OtpCtx.resolved (otpCtx : OtpCtx) : OtpCtx :=
  ⟨0, fdtUpOffset otpCtx.runtimeDelta, true⟩

section Session

variable {E : Type} (env : Env) (engine : TlsEngine E)

/-- A session with its offsets resolved. -/
def SessionImpl.resolved (impl : SessionImpl E) : SessionImpl E :=
  { impl with fdt := impl.fdt.resolved, otpCtx := impl.otpCtx.resolved }

/-- A session inside a call with its offsets resolved. -/
def InCall.resolved (call : InCall E) : InCall E :=
  { call with impl := call.impl.resolved }

theorem OtpCtx.resolved_idem (otpCtx : OtpCtx) : otpCtx.resolved.resolved = otpCtx.resolved := by
  have delta : otpCtx.resolved.runtimeDelta = fdtUpOffset otpCtx.runtimeDelta := rfl
  rw [OtpCtx.resolved, delta, fdtUpOffset_idem]
  rfl

theorem SessionImpl.resolved_idem (impl : SessionImpl E) :
    impl.resolved.resolved = impl.resolved := by
  have flow := FdtFlow.resolved_idem impl.fdt
  have otpCtx := OtpCtx.resolved_idem impl.otpCtx
  unfold resolved
  rw [flow, otpCtx]

theorem InCall.resolved_idem (call : InCall E) : call.resolved.resolved = call.resolved := by
  have impl := SessionImpl.resolved_idem call.impl
  unfold resolved
  rw [impl]

theorem sessionModeHasIo_resolved (impl : SessionImpl E) :
    sessionModeHasIo impl.resolved = sessionModeHasIo impl :=
  rfl

namespace InCall

variable (call : InCall E)

@[simp]
theorem resolved_mode : call.resolved.impl.mode = call.impl.mode :=
  rfl

@[simp]
theorem resolved_svc : call.resolved.impl.svc = call.impl.svc :=
  rfl

@[simp]
theorem resolved_fd : call.resolved.impl.fd = call.impl.fd :=
  rfl

@[simp]
theorem resolved_fdt : call.resolved.impl.fdt = call.impl.fdt.resolved :=
  rfl

@[simp]
theorem resolved_tapIoBuf : call.resolved.impl.tapIoBuf = call.impl.tapIoBuf :=
  rfl

@[simp]
theorem resolved_hasIo : sessionModeHasIo call.resolved.impl = sessionModeHasIo call.impl :=
  sessionModeHasIo_resolved call.impl

@[simp]
theorem resolved_ev : call.resolved.ev = call.ev :=
  rfl

@[simp]
theorem resolved_io : call.resolved.io = call.io :=
  rfl

end InCall

/-! ## Errors, resets and cleanup -/

theorem sessionSetError_resolved (call : InCall E) (err : Int) (target : ErrorTarget)
    (msg : String) :
    sessionSetError env call.resolved err target msg =
      (sessionSetError env call err target msg).resolved :=
  rfl

theorem sessionSetError_absorbs (call : InCall E) (err : Int) (target : ErrorTarget)
    (msg : String) :
    (sessionSetError env call.resolved err target msg).resolved =
      (sessionSetError env call err target msg).resolved := by
  rw [sessionSetError_resolved, InCall.resolved_idem]

theorem sessionStopRun_resolved (impl : SessionImpl E) :
    sessionStopRun impl.resolved = (sessionStopRun impl).resolved := by
  have modeEq : impl.resolved.mode = impl.mode := rfl
  unfold sessionStopRun
  rw [modeEq]
  split
  · rfl
  · rfl

/-- A reset leaves no offset behind. -/
theorem sessionResetRuntime_resolved (impl : SessionImpl E) (io : Io) :
    sessionResetRuntime impl.resolved io = sessionResetRuntime impl io :=
  rfl

theorem sessionBeginCleanup_resolved (call : InCall E) (goal : CleanupGoal) (resetMcu : Bool) :
    (sessionBeginCleanup env call.resolved goal resetMcu).resolved =
      (sessionBeginCleanup env call goal resetMcu).resolved := by
  have stopped : sessionStopRun call.resolved.impl = (sessionStopRun call.impl).resolved :=
    sessionStopRun_resolved call.impl
  have idem := SessionImpl.resolved_idem (sessionStopRun call.impl)
  unfold sessionBeginCleanup
  dsimp only
  rw [stopped, sessionModeHasIo_resolved]
  generalize sessionStopRun call.impl = impl at idem
  split
  · cases goal with
    | deactivate =>
        unfold InCall.resolved
        rw [idem]
    | close =>
        unfold InCall.resolved
        rw [idem]
  · cases goal with
    | deactivate =>
        have ready : ({ impl.resolved with mode := .ready }).resolved =
            ({ impl with mode := .ready }).resolved :=
          congrArg (fun resolved => { resolved with mode := SessionMode.ready }) idem
        unfold InCall.resolved
        rw [ready]
    | close => rfl

/-! ## Activation -/

theorem sessionSetFdtMode_resolved (call : InCall E) (mode : FdtMode) :
    sessionSetFdtMode env call.resolved mode = (sessionSetFdtMode env call mode).resolved := by
  unfold sessionSetFdtMode
  rw [call.resolved_hasIo, call.resolved_fd, call.resolved_io, call.resolved_fdt,
    fdtFlowSetMode_resolved]
  dsimp only
  split
  · rfl
  · split
    · rfl
    · rfl

theorem sessionRearmTlsIfNeeded_resolved (call : InCall E) :
    sessionRearmTlsIfNeeded env engine call.resolved =
      (sessionRearmTlsIfNeeded env engine call).resolved := by
  unfold sessionRearmTlsIfNeeded
  rw [call.resolved_svc]
  cases tlsServiceState call.impl.svc with
  | error =>
      dsimp only
      have started : sessionTlsInit env engine
          { call.resolved.impl with svc := tlsServiceFree call.impl.svc }
          (devFlushRxq call.resolved.impl.fd call.resolved.io) =
          ((sessionTlsInit env engine { call.impl with svc := tlsServiceFree call.impl.svc }
              (devFlushRxq call.impl.fd call.io)).1,
            (sessionTlsInit env engine { call.impl with svc := tlsServiceFree call.impl.svc }
              (devFlushRxq call.impl.fd call.io)).2.1.resolved,
            (sessionTlsInit env engine { call.impl with svc := tlsServiceFree call.impl.svc }
              (devFlushRxq call.impl.fd call.io)).2.2) :=
        rfl
      rw [started]
      dsimp only
      split
      · rfl
      · rfl
  | _ => rfl

/-- An activation takes its offset from the calibration data again, which is
resolved with the session. -/
theorem sessionActivate_resolved (call : InCall E) :
    sessionActivate env engine call.resolved =
      ((sessionActivate env engine call).1, (sessionActivate env engine call).2.resolved) := by
  have ready : (if call.resolved.impl.mode = .failed then call.resolved.setMode .ready
      else call.resolved) =
      (if call.impl.mode = .failed then call.setMode .ready else call).resolved := by
    rw [apply_ite InCall.resolved]
    rfl
  unfold sessionActivate
  dsimp only
  rw [call.resolved_hasIo, ready, sessionRearmTlsIfNeeded_resolved, InCall.resolved_ev]
  generalize sessionRearmTlsIfNeeded env engine _ = rearmed
  split
  · rfl
  · split
    · rfl
    · rfl

theorem sessionMaybeFinishActivation_resolved (call : InCall E) :
    sessionMaybeFinishActivation env call.resolved =
      (sessionMaybeFinishActivation env call).resolved := by
  unfold sessionMaybeFinishActivation
  dsimp only
  rw [call.resolved_mode, call.resolved_svc, sessionSetFdtMode_resolved, InCall.resolved_ev]
  split
  · rfl
  · split
    · rfl
    · split
      · rfl
      · rfl

/-! ## Captures -/

theorem sessionSetDarkFromImage_resolved (call : InCall E) (img : DecodedImage) :
    sessionSetDarkFromImage env call.resolved img =
      ((sessionSetDarkFromImage env call img).1,
        (sessionSetDarkFromImage env call img).2.resolved) := by
  unfold sessionSetDarkFromImage
  rw [call.resolved_io]
  split
  · rfl
  · split
    · rfl
    · rfl

theorem sessionFinishDark_resolved (call : InCall E) (img : DecodedImage) :
    sessionFinishDark env call.resolved img = (sessionFinishDark env call img).resolved := by
  unfold sessionFinishDark
  dsimp only
  rw [sessionSetDarkFromImage_resolved, sessionSetError_resolved, sessionSetFdtMode_resolved,
    InCall.resolved_ev]
  split
  · rfl
  · split
    · rfl
    · rfl

theorem sessionFinishImage_resolved (call : InCall E) (img : DecodedImage) :
    sessionFinishImage env call.resolved img = (sessionFinishImage env call img).resolved := by
  have darkEq : call.resolved.impl.dark = call.impl.dark := rfl
  unfold sessionFinishImage
  dsimp only
  rw [darkEq]
  split
  · rfl
  · rfl

theorem sessionFinalizeCapture_resolved (call : InCall E) (target : ErrorTarget) :
    sessionFinalizeCapture env call.resolved target =
      (sessionFinalizeCapture env call target).resolved := by
  unfold sessionFinalizeCapture
  dsimp only
  rw [call.resolved_svc, call.resolved_io]
  split
  · rfl
  · generalize tlsServiceGetRawImage env call.io call.impl.svc = raw
    split
    · rfl
    · have emptied : call.resolved.setSvc raw.svc raw.io = (call.setSvc raw.svc raw.io).resolved :=
        rfl
      rw [emptied]
      generalize call.setSvc raw.svc raw.io = taken
      rw [taken.resolved_io]
      generalize decodeImage env taken.io (raw.body.getD []) = decoded
      obtain ⟨result, io⟩ := decoded
      cases result with
      | error rc => rfl
      | ok img =>
          dsimp only
          rw [taken.resolved_mode]
          split
          · exact sessionFinishDark_resolved env { taken with io := io } img
          · exact sessionFinishImage_resolved env { taken with io := io } img

theorem sessionTakeImage_resolved (impl : SessionImpl E) :
    sessionTakeImage impl.resolved =
      ((sessionTakeImage impl).1, (sessionTakeImage impl).2.1,
        (sessionTakeImage impl).2.2.resolved) := by
  have pendingEq : impl.resolved.pendingImg = impl.pendingImg := rfl
  unfold sessionTakeImage
  rw [pendingEq]
  cases impl.pendingImg with
  | none => rfl
  | some img => rfl

/-! ## Ticks -/

theorem sessionPollLoop_resolved (rounds : Nat) (call : InCall E) :
    sessionPollLoop env engine rounds call.resolved =
      (sessionPollLoop env engine rounds call).resolved := by
  induction rounds generalizing call with
  | zero => rfl
  | succ rounds ih =>
      unfold sessionPollLoop
      dsimp only
      rw [call.resolved_svc, call.resolved_fd, call.resolved_io]
      generalize tlsServiceStep env call.impl.fd engine call.io call.impl.svc = stepped
      split
      · rfl
      · split
        · rfl
        · have asked : (if rounds = 0 then
              (call.resolved.setSvc stepped.2.1 stepped.2.2).requestTick 0
            else
              call.resolved.setSvc stepped.2.1 stepped.2.2) =
              (if rounds = 0 then
                (call.setSvc stepped.2.1 stepped.2.2).requestTick 0
              else
                call.setSvc stepped.2.1 stepped.2.2).resolved := by
            rw [apply_ite InCall.resolved]
            rfl
          rw [asked]
          exact ih _

theorem sessionPollFdt_resolved (call : InCall E) :
    sessionPollFdt env call.resolved =
      ((sessionPollFdt env call).1, (sessionPollFdt env call).2.resolved) := by
  unfold sessionPollFdt
  dsimp only
  rw [call.resolved_mode, call.resolved_fd, call.resolved_io, call.resolved_fdt,
    fdtFlowPoll_resolved]
  split
  · split
    · rfl
    · rfl
  · rfl

theorem InCall.tickIf_resolved (call : InCall E) (condition : Bool) :
    call.resolved.tickIf condition = (call.tickIf condition).resolved := by
  cases condition with
  | false => rfl
  | true => rfl

theorem sessionPumpTick_resolved (call : InCall E) :
    sessionPumpTick call.resolved = (sessionPumpTick call).resolved := by
  unfold sessionPumpTick
  dsimp only
  rw [call.resolved_svc, call.resolved_mode, InCall.tickIf_resolved, InCall.resolved_mode,
    InCall.tickIf_resolved, InCall.resolved_mode, InCall.tickIf_resolved]

theorem sessionPumpEnd_resolved (call : InCall E) :
    sessionPumpEnd env call.resolved = (sessionPumpEnd env call).resolved := by
  unfold sessionPumpEnd
  rw [call.resolved_mode, sessionFinalizeCapture_resolved, ← sessionPumpTick_resolved,
    apply_ite InCall.resolved]

theorem sessionPump_resolved (call : InCall E) (actionCancelled : Bool) :
    sessionPump env engine call.resolved actionCancelled =
      (sessionPump env engine call actionCancelled).resolved := by
  unfold sessionPump sessionPollTls
  dsimp only
  rw [call.resolved_mode, sessionPollLoop_resolved, InCall.resolved_ev,
    sessionMaybeFinishActivation_resolved, InCall.resolved_ev, sessionPollFdt_resolved,
    sessionPumpEnd_resolved]
  split
  · rfl
  · split
    · rfl
    · split
      · rfl
      · split
        · rfl
        · split
          · rfl
          · rfl

/-! ## Records -/

theorem sessionFingerEvents_resolved (call : InCall E) (events : FdtEvents) :
    sessionFingerEvents call.resolved events = (sessionFingerEvents call events).resolved := by
  unfold sessionFingerEvents
  rw [call.resolved_mode]
  by_cases down : call.impl.mode = .waitFingerOn ∧ events.down = true
  · rw [if_pos down, if_pos down]
    dsimp only
    rw [call.resolved_mode]
    split
    · rfl
    · rfl
  · rw [if_neg down, if_neg down]
    dsimp only
    rw [call.resolved_mode]
    split
    · rfl
    · rfl

theorem sessionRequestDark_resolved (call : InCall E) (events : FdtEvents) :
    sessionRequestDark env call.resolved events =
      ((sessionRequestDark env call events).1,
        (sessionRequestDark env call events).2.resolved) := by
  unfold sessionRequestDark
  dsimp only
  rw [call.resolved_mode, call.resolved_svc]
  split
  · split
    · rfl
    · rfl
  · rfl

/-- One record in the loop of `gxfp_session_on_fd` after the FDT flow has seen
it. -/
def sessionRecordFed (call : InCall E) (fed : FdtFeed) (hdr : TapHdr) (payload : List Byte) :
    Bool × InCall E :=
  let call := call.setFdt fed.flow fed.io
  if fed.ret < 0 ∧ fed.ret ≠ EAGAIN.rc then
    (false,
      sessionSetError env call fed.ret .generic
        ("fdt_feed_record failed: " ++ env.strerror (-fed.ret)))
  else
    let requested := sessionRequestDark env (sessionFingerEvents call fed.events) fed.events
    if requested.1 < 0 then
      (false, requested.2)
    else
      let call := requested.2
      let out := tlsServiceFeedTapRecord env engine call.io call.impl.svc hdr payload
      let call := call.setSvc out.2.1 out.2.2
      if out.1 < 0 then
        (false,
          sessionSetError env call out.1 .generic ("gxfp feed failed: " ++ env.strerror (-out.1)))
      else
        (true, call)

theorem sessionOnRecord_fed (call : InCall E) (hdr : TapHdr) (payload : List Byte) :
    sessionOnRecord env engine call hdr payload =
      sessionRecordFed env engine call
        (fdtFlowFeedRecord env call.impl.fd call.io call.impl.fdt hdr payload) hdr payload :=
  rfl

theorem sessionRecordFed_resolved (call : InCall E) (fed : FdtFeed) (hdr : TapHdr)
    (payload : List Byte) :
    sessionRecordFed env engine call.resolved fed.resolved hdr payload =
      ((sessionRecordFed env engine call fed hdr payload).1,
        (sessionRecordFed env engine call fed hdr payload).2.resolved) := by
  obtain ⟨ret, events, flow, io⟩ := fed
  have put : call.resolved.setFdt flow.resolved io = (call.setFdt flow io).resolved := rfl
  unfold sessionRecordFed FdtFeed.resolved
  dsimp only
  rw [put, sessionFingerEvents_resolved, sessionRequestDark_resolved]
  generalize sessionRequestDark env (sessionFingerEvents (call.setFdt flow io) events) events =
    requested
  split
  · rfl
  · dsimp only
    rw [InCall.resolved_io, InCall.resolved_svc]
    split
    · rfl
    · split
      · rfl
      · rfl

/-- A record does the same to a resolved session. -/
theorem sessionOnRecord_resolved (call : InCall E) (hdr : TapHdr) (payload : List Byte) :
    (sessionOnRecord env engine call.resolved hdr payload).1 =
        (sessionOnRecord env engine call hdr payload).1 ∧
      (sessionOnRecord env engine call.resolved hdr payload).2.resolved =
        (sessionOnRecord env engine call hdr payload).2.resolved := by
  have fedAlike := fdtFlowFeedRecord_resolved env call.impl.fd call.io call.impl.fdt hdr payload
  have first := sessionRecordFed_resolved env engine call.resolved
    (fdtFlowFeedRecord env call.impl.fd call.io call.impl.fdt.resolved hdr payload) hdr payload
  have second := sessionRecordFed_resolved env engine call
    (fdtFlowFeedRecord env call.impl.fd call.io call.impl.fdt hdr payload) hdr payload
  rw [call.resolved_idem, fedAlike, second, Prod.mk.injEq] at first
  rw [sessionOnRecord_fed, sessionOnRecord_fed]
  exact ⟨first.1.symm, first.2.symm⟩

theorem sessionOnFdLoop_resolved (results : List (Except ℕ+ (List Byte))) (call : InCall E) :
    (sessionOnFdLoop env engine results call.resolved).resolved =
      (sessionOnFdLoop env engine results call).resolved := by
  induction results generalizing call with
  | nil =>
      unfold sessionOnFdLoop
      rw [call.resolved_tapIoBuf, call.resolved_fd]
      split
      · exact sessionSetError_absorbs env call _ _ _
      · split
        · exact sessionSetError_absorbs env call _ _ _
        · exact call.resolved_idem
  | cons result results ih =>
      unfold sessionOnFdLoop
      rw [call.resolved_tapIoBuf, call.resolved_fd]
      split
      · exact sessionSetError_absorbs env call _ _ _
      · split
        · exact sessionSetError_absorbs env call _ _ _
        · dsimp only
          cases devReadRecord result with
          | error rc =>
              dsimp only
              split
              · exact call.resolved_idem
              · exact sessionSetError_absorbs env call _ _ _
          | ok record =>
              obtain ⟨goesOn, handled⟩ :=
                sessionOnRecord_resolved env engine call record.1 record.2
              dsimp only
              rw [goesOn]
              split
              · rw [← ih, handled]
                exact ih _
              · exact handled

theorem sessionOnFd_resolved (call : InCall E) (condition : UInt32) (actionCancelled : Bool) :
    (sessionOnFd env engine call.resolved condition actionCancelled).resolved =
      (sessionOnFd env engine call condition actionCancelled).resolved := by
  have looped := sessionOnFdLoop_resolved env engine (env.reads call.io.count)
    { call with io := call.io.emit .read }
  unfold sessionOnFd
  dsimp only
  rw [call.resolved_mode, call.resolved_io]
  split
  · exact call.resolved_idem
  · split
    · exact sessionSetError_absorbs env call _ _ _
    · rw [← sessionPump_resolved, ← sessionPump_resolved]
      exact congrArg (sessionPump env engine · actionCancelled) looped

/-! ## State changes -/

theorem sessionAwait_resolved (call : InCall E) (mode : SessionMode) (fdtMode : FdtMode) :
    sessionAwait env call.resolved mode fdtMode =
      (sessionAwait env call mode fdtMode).resolved := by
  have moved : call.resolved.setMode mode = (call.setMode mode).resolved := rfl
  unfold sessionAwait
  dsimp only
  rw [moved, sessionSetFdtMode_resolved, InCall.resolved_ev]
  split
  · rfl
  · rfl

theorem sessionStartCapture_resolved (call : InCall E) :
    sessionStartCapture env call.resolved = (sessionStartCapture env call).resolved := by
  unfold sessionStartCapture
  dsimp only
  rw [call.resolved_mode, call.resolved_svc]
  split
  · rfl
  · split
    · rfl
    · rfl

theorem sessionChangeState_resolved (call : InCall E) (state : SessionState) :
    sessionChangeState env call.resolved state = (sessionChangeState env call state).resolved := by
  unfold sessionChangeState
  rw [call.resolved_hasIo, call.resolved_mode]
  split
  · rfl
  · cases state with
    | inactive =>
        have stopped : ({ call.resolved with impl := sessionStopRun call.resolved.impl }) =
            ({ call with impl := sessionStopRun call.impl }).resolved :=
          congrArg (fun impl => { call with impl := impl }) (sessionStopRun_resolved call.impl)
        dsimp only
        rw [stopped]
        exact sessionSetFdtMode_resolved env _ .idle
    | idle => exact sessionSetFdtMode_resolved env (call.setMode .idle) .idle
    | awaitFingerOn => exact sessionAwait_resolved env call .waitFingerOn .waitDown
    | capture => exact sessionStartCapture_resolved env call
    | awaitFingerOff => exact sessionAwait_resolved env call .waitFingerOff .waitUp

/-! ## Runs -/

/-- A run with the offsets of its session resolved. -/
def SessionRun.resolved (run : SessionRun E) : SessionRun E :=
  { run with session := run.session.map SessionImpl.resolved }

theorem SessionRun.resolved_idem (run : SessionRun E) : run.resolved.resolved = run.resolved := by
  obtain ⟨session, io⟩ := run
  cases session with
  | none => rfl
  | some impl =>
      have idem := impl.resolved_idem
      exact congrArg (fun resolved => (⟨some resolved, io⟩ : SessionRun E)) idem

theorem sessionOpen_resolved (session : Session E) (io : Io) (devPath : String) (psk : List Byte)
    (hasPsk : psk.length ≠ 0) (errbufLen : Nat) :
    sessionOpen env engine (session.map SessionImpl.resolved) io devPath psk errbufLen =
      sessionOpen env engine session io devPath psk errbufLen := by
  cases session with
  | none => rfl
  | some impl =>
      have reset := sessionResetRuntime_resolved impl io
      unfold sessionOpen sessionEnsureImpl
      rw [if_neg hasPsk, if_neg hasPsk, Option.map_some]
      dsimp only
      rw [reset]

/-- A call whose body does the same to a resolved session. -/
theorem SessionRun.within_resolved (run : SessionRun E) (absent : Int)
    {body : InCall E → Int × InCall E}
    (alike : ∀ call, (body call.resolved).1 = (body call).1 ∧
      (body call.resolved).2.resolved = (body call).2.resolved) :
    (run.resolved.within absent body).2 = (run.within absent body).2 ∧
      (run.resolved.within absent body).1.resolved = (run.within absent body).1.resolved := by
  obtain ⟨session, io⟩ := run
  cases session with
  | none => exact ⟨rfl, rfl⟩
  | some impl =>
      obtain ⟨sameRet, sameCall⟩ := alike ⟨impl, sessionEventsClear, io⟩
      have sameEv := congrArg InCall.ev sameCall
      have sameIo := congrArg InCall.io sameCall
      have sameImpl := congrArg InCall.impl sameCall
      constructor
      · exact congrArg₂ (fun ret ev => (⟨ret, ev, none, none⟩ : SessionOut)) sameRet sameEv
      · exact congrArg₂ (fun impl io => (⟨some impl, io⟩ : SessionRun E)) sameImpl sameIo

theorem sessionStep_openPath_resolved (run : SessionRun E) (devPath : String) (psk : List Byte)
    (errbufLen : Nat) :
    (sessionStep env engine run.resolved (.openPath devPath psk errbufLen)).2 =
        (sessionStep env engine run (.openPath devPath psk errbufLen)).2 ∧
      (sessionStep env engine run.resolved (.openPath devPath psk errbufLen)).1.resolved =
        (sessionStep env engine run (.openPath devPath psk errbufLen)).1.resolved := by
  by_cases noPsk : psk.length = 0
  · have refused (run : SessionRun E) :
        sessionStep env engine run (.openPath devPath psk errbufLen) =
          (run, ⟨EINVAL.rc, sessionEventsClear, none, none⟩) := by
      have returned : sessionOpen env engine run.session run.io devPath psk errbufLen =
          ⟨EINVAL.rc, run.session, run.io, none⟩ :=
        if_pos noPsk
      dsimp only [sessionStep]
      rw [returned]
    rw [refused, refused]
    exact ⟨rfl, run.resolved_idem⟩
  · have same : sessionOpen env engine run.resolved.session run.resolved.io devPath psk
        errbufLen = sessionOpen env engine run.session run.io devPath psk errbufLen :=
      sessionOpen_resolved env engine run.session run.io devPath psk noPsk errbufLen
    dsimp only [sessionStep]
    rw [same]
    exact ⟨rfl, rfl⟩

/-- A call returns the same on a resolved session, and leaves the same up to the
offsets. -/
theorem sessionStep_resolved (run : SessionRun E) (call : SessionCall) :
    (sessionStep env engine run.resolved call).2 = (sessionStep env engine run call).2 ∧
      (sessionStep env engine run.resolved call).1.resolved =
        (sessionStep env engine run call).1.resolved := by
  cases call with
  | init => exact ⟨rfl, rfl⟩
  | dispose =>
      obtain ⟨session, io⟩ := run
      cases session with
      | none => exact ⟨rfl, rfl⟩
      | some impl => exact ⟨rfl, rfl⟩
  | openPath devPath psk errbufLen =>
      exact sessionStep_openPath_resolved env engine run devPath psk errbufLen
  | requestClose resetMcu =>
      apply run.within_resolved
      intro call
      exact ⟨rfl, sessionBeginCleanup_resolved env call .close resetMcu⟩
  | requestDeactivate =>
      apply run.within_resolved
      intro call
      exact ⟨rfl, sessionBeginCleanup_resolved env call .deactivate false⟩
  | activate =>
      apply run.within_resolved
      intro call
      rw [sessionActivate_resolved]
      exact ⟨rfl, InCall.resolved_idem _⟩
  | changeState state =>
      apply run.within_resolved
      intro call
      dsimp only
      rw [sessionChangeState_resolved]
      exact ⟨rfl, InCall.resolved_idem _⟩
  | onFd condition actionCancelled =>
      apply run.within_resolved
      intro call
      exact ⟨rfl, sessionOnFd_resolved env engine call condition actionCancelled⟩
  | pump actionCancelled =>
      apply run.within_resolved
      intro call
      dsimp only
      rw [sessionPump_resolved]
      exact ⟨rfl, InCall.resolved_idem _⟩
  | takeImage =>
      obtain ⟨session, io⟩ := run
      cases session with
      | none => exact ⟨rfl, rfl⟩
      | some impl =>
          have taken := sessionTakeImage_resolved impl
          have left := SessionRun.resolved_idem ⟨some (sessionTakeImage impl).2.2, io⟩
          change (SessionOut.mk (sessionTakeImage impl.resolved).1 _ _
              (sessionTakeImage impl.resolved).2.1) = _ ∧
            (SessionRun.mk (some (sessionTakeImage impl.resolved).2.2) io).resolved = _
          rw [taken]
          exact ⟨rfl, left⟩

/-- Two sessions that are the same up to their offsets return and send the same
in every run. -/
theorem run_eq_of_resolved {first second : SessionRun E} (same : first.resolved = second.resolved)
    (calls : List SessionCall) :
    (transitions (sessionStep env engine) first calls).map Transition.output =
        (transitions (sessionStep env engine) second calls).map Transition.output ∧
      (final (sessionStep env engine) first calls).io =
        (final (sessionStep env engine) second calls).io := by
  have runs := @outputs_eq_of_related _ _ _ (sessionStep env engine)
    (fun left right => left.resolved = right.resolved)
    (by
      intro left right call alike
      obtain ⟨leftOut, leftRun⟩ := sessionStep_resolved env engine left call
      obtain ⟨rightOut, rightRun⟩ := sessionStep_resolved env engine right call
      rw [alike] at leftOut leftRun
      exact ⟨leftOut.symm.trans rightOut, leftRun.symm.trans rightRun⟩)
    first second same calls
  have sameIo := congrArg SessionRun.io runs.2
  exact ⟨runs.1, sameIo⟩

end Session

end Gxfp.User
