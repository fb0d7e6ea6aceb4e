import Gxfp.Lib.Execution
import Gxfp.User.FdtCalls
import Gxfp.User.Session
import Gxfp.User.TlsSteps

/-!
# A session moves its TLS service

Every call of a session is a sequence of moves of its TLS service: whatever
else it does to the sensor is quiet, and the recovery of its error path is
marked.  A session without a service counts as a service that is not there.
-/

namespace Gxfp.User

open Lib
open Lib.Bytes
open Lib.Execution
open Gxfp.Errno

/-! ## Routine parts -/

section Routine

variable (env : Env) (fd : Int) {allowed : Out → Prop}

section Decode

theorem decodeMilan_extends (io : Io) (payload : List Byte) (rows cols : Int) :
    io.Extends allowed (decodeMilan env io payload rows cols).2 := by
  have one : io.Extends allowed io.tick := (Io.Extends.refl io).tick
  unfold decodeMilan
  split
  · exact .refl io
  · dsimp only
    split
    · exact .refl io
    · split
      · exact one
      · split
        · exact one.tick
        · split
          · exact one.tick
          · split
            · exact one.tick.tick
            · exact one.tick.tick

theorem decodeChicago_extends (io : Io) (payload : List Byte) (rows cols : Int) (isU16le : Bool) :
    io.Extends allowed (decodeChicago env io payload rows cols isU16le).2 := by
  have one : io.Extends allowed io.tick := (Io.Extends.refl io).tick
  unfold decodeChicago
  split
  · exact .refl io
  · dsimp only
    split
    · split
      · exact .refl io
      · split
        · exact one
        · exact one
    · split
      · exact .refl io
      · split
        · exact one
        · split
          · exact one
          · exact one

theorem decodeImage_extends (io : Io) (buf : List Byte) :
    io.Extends allowed (decodeImage env io buf).2 := by
  unfold decodeImage
  split
  · exact .refl io
  · rename_i format payload _
    cases format with
    | milangRaw => exact decodeMilan_extends env io _ _ _
    | milangNav => exact decodeMilan_extends env io _ _ _
    | chicagohRaw => exact decodeChicago_extends env io _ _ _ _
    | chicagohNav => exact decodeChicago_extends env io _ _ _ _
    | chicagohRawU16le => exact decodeChicago_extends env io _ _ _ _
    | chicagohNavU16le => exact decodeChicago_extends env io _ _ _ _

end Decode

variable [Out.AdmitsRoutine allowed]

theorem cmdReadChipId_routine (io : Io) : io.Extends allowed (cmdReadChipId env fd io).2 := by
  have requested : io.Extends allowed _ := goodixRequestSelected_routine env fd io CMD_REG_READ
    ([0x00] ++ le16Bytes 0x0000 ++ le16Bytes 4) IOCTL_TAP_PAYLOAD_MAX 3 500 selectAnyFrame
    (show CMD_REG_READ ≠ _ by decide) (by decide) (by decide)
  have read : io.Extends allowed (cmdReadReg env fd io 0x0000 4).2 := by
    unfold cmdReadReg
    rw [if_neg (by decide)]
    dsimp only
    split
    · exact requested
    · split
      · exact requested
      · split
        · exact requested
        · exact requested
  unfold cmdReadChipId
  dsimp only
  split
  · exact read
  · exact read

theorem cmdReadOtp_routine (io : Io) (otpCap : Nat) :
    io.Extends allowed (cmdReadOtp env fd io otpCap).2 := by
  have requested : io.Extends allowed _ := goodixRequestSelected_routine env fd io CMD_READ_OTP
    [0x00, 0x00] IOCTL_TAP_PAYLOAD_MAX 8 500 selectAnyFrame (show CMD_READ_OTP ≠ _ by decide)
    (by decide) (by decide)
  unfold cmdReadOtp
  split
  · exact .refl io
  · dsimp only
    split
    · exact requested
    · split
      · exact requested
      · split
        · exact requested
        · exact requested

theorem cmdUploadConfigMcu_routine (io : Io) (cfg : List Byte) :
    io.Extends allowed (cmdUploadConfigMcu env fd io cfg).2 := by
  have requested : io.Extends allowed _ := goodixRequestSelected_routine env fd io CMD_ACK cfg
    IOCTL_TAP_PAYLOAD_MAX 2 2000 selectAnyFrame (show CMD_UPLOAD_CONFIG_MCU ≠ _ by decide)
    (by decide) (by decide)
  unfold cmdUploadConfigMcu
  split
  · exact .refl io
  · dsimp only
    split
    · exact requested
    · split
      · exact requested
      · exact requested

end Routine

/-! ## Quiet parts -/

theorem Out.opened_quiet (fd : Nat) : (Out.opened fd).Quiet :=
  quiet_of_command_none rfl (by simp)

theorem Out.closed_quiet (fd : Int) : (Out.closed fd).Quiet :=
  quiet_of_command_none rfl (by simp)

section Quiet

variable (env : Env) (fd : Int)

theorem devClose_quiet (io : Io) : io.Extends Out.Quiet (devClose fd io) := by
  unfold devClose
  split
  · exact (Io.Extends.refl io).emit (Out.closed_quiet fd)
  · exact .refl io

theorem devOpen_quiet (io : Io) : io.Extends Out.Quiet (devOpen env io).2.2 := by
  unfold devOpen
  split
  · exact (Io.Extends.refl io).tick
  · exact (Io.Extends.refl io).emit (Out.opened_quiet _)

end Quiet

/-! ## Parts of a call -/

section Calls

variable {E : Type} (env : Env) (engine : TlsEngine E)

/-- The service of a session in a call, and the world. -/
def InCall.world (call : InCall E) : ServiceWorld E :=
  (call.impl.svc, call.io)

/-- A part of a call moves the service. -/
abbrev InCall.Moves (before after : InCall E) : Prop :=
  ServiceMoves before.world after.world

theorem InCall.Moves.trace_suffix {before after : InCall E} (moves : before.Moves after) :
    before.io.trace <:+ after.io.trace :=
  ServiceMoves.trace_suffix moves

theorem sessionSetError_moves (call : InCall E) (err : Int) (target : ErrorTarget) (msg : String) :
    call.Moves (sessionSetError env call err target msg) := by
  unfold sessionSetError
  dsimp only
  split
  · have marked : ServiceMoves call.world
        (call.impl.svc, call.io.emit (.recovery (call.impl.svc.map TlsServiceImpl.state))) :=
      .one (.recovery _ _)
    exact marked.trans
      (ServiceMoves.quiet (deviceRecovery_routine env call.impl.fd _ true true false))
  · exact .refl

theorem sessionSetFdtMode_moves (call : InCall E) (mode : FdtMode) :
    call.Moves (sessionSetFdtMode env call mode) := by
  unfold sessionSetFdtMode
  split
  · exact .refl
  · have flowed : call.Moves
        (call.setFdt (fdtFlowSetMode env call.impl.fd call.io call.impl.fdt mode).2.1
          (fdtFlowSetMode env call.impl.fd call.io call.impl.fdt mode).2.2) :=
      .quiet (fdtFlowSetMode_extends env call.impl.fd Out.quiet_of_fdtUp call.io call.impl.fdt mode)
    dsimp only
    split
    · exact flowed.trans (sessionSetError_moves env _ _ _ _)
    · exact flowed

theorem sessionTlsInit_moves (impl : SessionImpl E) (io : Io) :
    ServiceMoves (impl.svc, io)
      ((sessionTlsInit env engine impl io).2.1.svc, (sessionTlsInit env engine impl io).2.2) :=
  tlsServiceInit_moves env impl.fd engine io impl.svc ⟨20000, true⟩ impl.psk

theorem sessionRearmTlsIfNeeded_moves (call : InCall E) :
    call.Moves (sessionRearmTlsIfNeeded env engine call) := by
  unfold sessionRearmTlsIfNeeded
  cases tlsServiceState call.impl.svc with
  | init => exact .refl
  | connecting => exact .refl
  | connected => exact .refl
  | capturing => exact .refl
  | done => exact .refl
  | error =>
      have freed : ServiceMoves call.world (none, call.io) := .one (.free _ _)
      have flushed : ServiceMoves call.world (none, devFlushRxq call.impl.fd call.io) :=
        freed.trans (ServiceMoves.quiet (devFlushRxq_routine call.impl.fd call.io))
      have started := flushed.trans (sessionTlsInit_moves env engine
        { call.impl with svc := none } (devFlushRxq call.impl.fd call.io))
      dsimp only [tlsServiceFree]
      generalize sessionTlsInit env engine { call.impl with svc := none } _ = out at started ⊢
      have placed : call.Moves { call with impl := out.2.1, io := out.2.2 } := started
      split
      · exact placed.trans (sessionSetError_moves env _ _ _ _)
      · exact placed

theorem sessionActivate_moves (call : InCall E) :
    call.Moves (sessionActivate env engine call).2 := by
  unfold sessionActivate
  split
  · exact .refl
  · have rearmed : call.Moves (sessionRearmTlsIfNeeded env engine
        (if call.impl.mode = .failed then call.setMode .ready else call)) := by
      split
      · exact sessionRearmTlsIfNeeded_moves env engine (call.setMode .ready)
      · exact sessionRearmTlsIfNeeded_moves env engine call
    dsimp only
    generalize sessionRearmTlsIfNeeded env engine _ = after at rearmed ⊢
    split
    · exact rearmed
    · exact rearmed

theorem sessionMaybeFinishActivation_moves (call : InCall E) :
    call.Moves (sessionMaybeFinishActivation env call) := by
  unfold sessionMaybeFinishActivation
  split
  · exact .refl
  · split
    · exact .refl
    · have flowed := sessionSetFdtMode_moves env call .waitUp
      dsimp only
      split
      · exact flowed
      · exact flowed

theorem sessionSetDarkFromImage_moves (call : InCall E) (img : DecodedImage) :
    call.Moves (sessionSetDarkFromImage env call img).2 := by
  unfold sessionSetDarkFromImage
  split
  · exact .refl
  · split
    · exact .quiet (Io.Extends.refl call.io).tick
    · exact .quiet (Io.Extends.refl call.io).tick

theorem sessionFinishDark_moves (call : InCall E) (img : DecodedImage) :
    call.Moves (sessionFinishDark env call img) := by
  have loaded := sessionSetDarkFromImage_moves env call img
  unfold sessionFinishDark
  dsimp only
  split
  · exact loaded.trans (sessionSetError_moves env _ _ _ _)
  · have flowed := loaded.trans (sessionSetFdtMode_moves env _ .idle)
    split
    · exact flowed
    · exact flowed

theorem sessionFinishImage_moves (call : InCall E) (img : DecodedImage) :
    call.Moves (sessionFinishImage env call img) := by
  unfold sessionFinishImage
  dsimp only
  split
  · exact sessionSetError_moves env call _ _ _
  · exact .refl

theorem sessionFinalizeCapture_moves (call : InCall E) (target : ErrorTarget) :
    call.Moves (sessionFinalizeCapture env call target) := by
  unfold sessionFinalizeCapture
  split
  · exact .refl
  · have taken : call.Moves (call.setSvc (tlsServiceGetRawImage env call.io call.impl.svc).svc
        (tlsServiceGetRawImage env call.io call.impl.svc).io) :=
      tlsServiceGetRawImage_moves env call.io call.impl.svc
    dsimp only
    generalize tlsServiceGetRawImage env call.io call.impl.svc = raw at taken ⊢
    split
    · exact taken.trans (sessionSetError_moves env _ _ _ _)
    · have decoded : call.Moves { call.setSvc raw.svc raw.io with
          io := (decodeImage env raw.io (raw.body.getD [])).2 } :=
        taken.trans (ServiceMoves.quiet (decodeImage_extends env raw.io _))
      split
      · exact decoded.trans (sessionSetError_moves env _ _ _ _)
      · split
        · exact decoded.trans (sessionFinishDark_moves env _ _)
        · exact decoded.trans (sessionFinishImage_moves env _ _)

/-- What polling the service can do is a run of service steps. -/
theorem sessionPollLoop_moves (rounds : Nat) (call : InCall E) :
    call.Moves (sessionPollLoop env engine rounds call) := by
  induction rounds generalizing call with
  | zero => exact .refl
  | succ rounds ih =>
      have stepped : call.Moves (call.setSvc
          (tlsServiceStep env call.impl.fd engine call.io call.impl.svc).2.1
          (tlsServiceStep env call.impl.fd engine call.io call.impl.svc).2.2) :=
        tlsServiceStep_moves env call.impl.fd engine call.io call.impl.svc
      unfold sessionPollLoop
      dsimp only
      generalize call.setSvc _ _ = after at stepped ⊢
      split
      · exact stepped
      · split
        · exact stepped.trans (sessionSetError_moves env after _ _ _)
        · split
          · have rest : after.Moves _ := ih (after.requestTick 0)
            exact stepped.trans rest
          · exact stepped.trans (ih after)

theorem sessionPollFdt_moves (call : InCall E) : call.Moves (sessionPollFdt env call).2 := by
  unfold sessionPollFdt
  split
  · have flowed : call.Moves
        (call.setFdt
          (fdtFlowPoll env call.impl.fd (monotonicMs env call.io).2 call.impl.fdt
            (monotonicMs env call.io).1).2.1
          (fdtFlowPoll env call.impl.fd (monotonicMs env call.io).2 call.impl.fdt
            (monotonicMs env call.io).1).2.2) :=
      .quiet ((Io.Extends.refl call.io).tick.trans
        (fdtFlowPoll_extends env call.impl.fd Out.quiet_of_fdtUp _ _ _))
    dsimp only
    split
    · exact flowed.trans (sessionSetError_moves env _ _ _ _)
    · exact flowed
  · exact .refl

theorem sessionPumpTick_world (call : InCall E) : (sessionPumpTick call).world = call.world := by
  simp [InCall.world]

theorem sessionPumpEnd_moves (call : InCall E) : call.Moves (sessionPumpEnd env call) := by
  unfold sessionPumpEnd InCall.Moves
  rw [sessionPumpTick_world]
  split
  · exact sessionFinalizeCapture_moves env call _
  · exact .refl

theorem sessionPump_moves (call : InCall E) (actionCancelled : Bool) :
    call.Moves (sessionPump env engine call actionCancelled) := by
  unfold sessionPump
  split
  · exact .refl
  · split
    · have failed := sessionSetError_moves env call ECANCELED.rc
        (if call.impl.mode ≠ .capturing then .activate else .capture) "Cancelled"
      exact failed
    · have polled : call.Moves (sessionPollTls env engine call) :=
        sessionPollLoop_moves env engine 64 call
      dsimp only
      split
      · exact polled
      · have finished := polled.trans (sessionMaybeFinishActivation_moves env _)
        split
        · exact finished
        · have flowed := finished.trans (sessionPollFdt_moves env _)
          split
          · exact flowed
          · exact flowed.trans (sessionPumpEnd_moves env _)

theorem sessionFingerEvents_world (call : InCall E) (events : FdtEvents) :
    (sessionFingerEvents call events).world = call.world := by
  unfold sessionFingerEvents
  dsimp only
  split
  all_goals split
  all_goals rfl

theorem sessionRequestDark_moves (call : InCall E) (events : FdtEvents) :
    call.Moves (sessionRequestDark env call events).2 := by
  unfold sessionRequestDark
  split
  · have requested : call.Moves
        (call.setSvc (tlsServiceRequestCapture call.impl.svc).2 call.io) :=
      tlsServiceRequestCapture_moves call.io call.impl.svc
    dsimp only
    split
    · exact requested.trans (sessionSetError_moves env _ _ _ _)
    · exact requested
  · exact .refl

theorem sessionOnRecord_moves (call : InCall E) (hdr : TapHdr) (payload : List Byte) :
    call.Moves (sessionOnRecord env engine call hdr payload).2 := by
  unfold sessionOnRecord
  have flowed : call.Moves
      (call.setFdt (fdtFlowFeedRecord env call.impl.fd call.io call.impl.fdt hdr payload).flow
        (fdtFlowFeedRecord env call.impl.fd call.io call.impl.fdt hdr payload).io) :=
    .quiet (fdtFlowFeedRecord_routine env call.impl.fd call.io call.impl.fdt hdr payload)
  generalize fdtFlowFeedRecord env call.impl.fd call.io call.impl.fdt hdr payload = fed
    at flowed ⊢
  dsimp only
  split
  · exact flowed.trans (sessionSetError_moves env _ _ _ _)
  · have fingered : call.Moves (sessionFingerEvents (call.setFdt fed.flow fed.io) fed.events) := by
      rw [InCall.Moves, sessionFingerEvents_world]
      exact flowed
    have requested := fingered.trans (sessionRequestDark_moves env _ fed.events)
    generalize sessionRequestDark env _ fed.events = asked at requested ⊢
    split
    · exact requested
    · have fedTls : call.Moves (asked.2.setSvc
          (tlsServiceFeedTapRecord env engine asked.2.io asked.2.impl.svc hdr payload).2.1
          (tlsServiceFeedTapRecord env engine asked.2.io asked.2.impl.svc hdr payload).2.2) :=
        requested.trans
          (tlsServiceFeedTapRecord_moves env engine asked.2.io asked.2.impl.svc hdr payload)
      split
      · exact fedTls.trans (sessionSetError_moves env _ _ _ _)
      · exact fedTls

theorem sessionOnFdLoop_moves (results : List (Except ℕ+ (List Byte))) (call : InCall E) :
    call.Moves (sessionOnFdLoop env engine results call) := by
  induction results generalizing call with
  | nil =>
      unfold sessionOnFdLoop
      split
      · exact sessionSetError_moves env call _ _ _
      · split
        · exact sessionSetError_moves env call _ _ _
        · exact .refl
  | cons result results ih =>
      unfold sessionOnFdLoop
      split
      · exact sessionSetError_moves env call _ _ _
      · split
        · exact sessionSetError_moves env call _ _ _
        · dsimp only
          split
          · split
            · exact .refl
            · exact sessionSetError_moves env call _ _ _
          · rename_i hdr payload _
            have handled := sessionOnRecord_moves env engine call hdr payload
            split
            · exact handled.trans (ih _)
            · exact handled

theorem sessionOnFd_moves (call : InCall E) (condition : UInt32) (actionCancelled : Bool) :
    call.Moves (sessionOnFd env engine call condition actionCancelled) := by
  unfold sessionOnFd
  split
  · exact .refl
  · split
    · exact sessionSetError_moves env call _ _ _
    · have reading : call.Moves { call with io := call.io.emit .read } :=
        .quiet ((Io.Extends.refl call.io).emit Out.AdmitsRoutine.read)
      exact (reading.trans (sessionOnFdLoop_moves env engine _ _)).trans
        (sessionPump_moves env engine _ actionCancelled)

theorem sessionAwait_moves (call : InCall E) (mode : SessionMode) (fdtMode : FdtMode) :
    call.Moves (sessionAwait env call mode fdtMode) := by
  have flowed : call.Moves (sessionSetFdtMode env (call.setMode mode) fdtMode) :=
    sessionSetFdtMode_moves env (call.setMode mode) fdtMode
  unfold sessionAwait
  dsimp only
  split
  · exact flowed
  · exact flowed

theorem sessionStartCapture_moves (call : InCall E) :
    call.Moves (sessionStartCapture env call) := by
  unfold sessionStartCapture
  split
  · exact sessionSetError_moves env call _ _ _
  · have requested : call.Moves
        (call.setSvc (tlsServiceRequestCapture call.impl.svc).2 call.io) :=
      tlsServiceRequestCapture_moves call.io call.impl.svc
    dsimp only
    split
    · exact requested.trans (sessionSetError_moves env _ _ _ _)
    · exact requested

theorem sessionChangeState_moves (call : InCall E) (state : SessionState) :
    call.Moves (sessionChangeState env call state) := by
  unfold sessionChangeState
  split
  · exact .refl
  · cases state with
    | awaitFingerOn => exact sessionAwait_moves env call _ _
    | capture => exact sessionStartCapture_moves env call
    | awaitFingerOff => exact sessionAwait_moves env call _ _
    | idle => exact sessionSetFdtMode_moves env (call.setMode .idle) .idle
    | inactive =>
        have stopped :
            InCall.world { call with impl := sessionStopRun call.impl } = call.world := by
          rw [InCall.world, sessionStopRun_svc]
          rfl
        dsimp only
        rw [InCall.Moves, ← stopped]
        exact sessionSetFdtMode_moves env _ .idle

/-! ## Runs -/

theorem sessionResetRuntime_moves (impl : SessionImpl E) (io : Io) :
    ServiceMoves (impl.svc, io)
      ((sessionResetRuntime impl io).1.svc, (sessionResetRuntime impl io).2) := by
  have freed : ServiceMoves (impl.svc, io) (none, io) := .one (.free _ _)
  unfold sessionResetRuntime
  dsimp only
  split
  · exact freed.trans (ServiceMoves.quiet (devClose_quiet impl.fd io))
  · exact freed

theorem sessionBeginCleanup_moves (call : InCall E) (goal : CleanupGoal) (resetMcu : Bool) :
    call.Moves (sessionBeginCleanup env call goal resetMcu) := by
  have stopped : ((sessionStopRun call.impl).svc, call.io) = call.world := by
    rw [sessionStopRun_svc]
    rfl
  unfold sessionBeginCleanup InCall.Moves
  rw [← stopped]
  dsimp only
  generalize sessionStopRun call.impl = impl
  split
  · cases goal with
    | close => exact .refl
    | deactivate => exact .refl
  · cases goal with
    | deactivate => exact .refl
    | close =>
        dsimp only
        split
        · have recovered : call.io.Extends Out.Quiet _ :=
            deviceRecovery_routine env impl.fd call.io true true false
          exact (ServiceMoves.quiet recovered).trans (sessionResetRuntime_moves impl _)
        · exact sessionResetRuntime_moves impl call.io

/-- The configuration of a session changes its calibration data and the FDT
flow. -/
theorem sessionApplyMilanlCfg_impl (impl : SessionImpl E) (io : Io) :
    ∃ fdt otpCtx, (sessionApplyMilanlCfg env impl io).2.1 =
      { impl with fdt := fdt, otpCtx := otpCtx } := by
  unfold sessionApplyMilanlCfg
  dsimp only
  split
  · exact ⟨_, _, rfl⟩
  · split
    · exact ⟨_, _, rfl⟩
    · split
      · exact ⟨_, _, rfl⟩
      · split
        · exact ⟨_, _, rfl⟩
        · split
          · exact ⟨_, _, rfl⟩
          · exact ⟨_, _, rfl⟩

theorem sessionBootstrap_impl (impl : SessionImpl E) (io : Io) :
    ∃ fdt otpCtx, (sessionBootstrap env impl io).2.1 =
      { impl with fdt := fdt, otpCtx := otpCtx } := by
  unfold sessionBootstrap
  dsimp only
  split
  · exact sessionApplyMilanlCfg_impl env impl _
  · exact ⟨_, _, rfl⟩

section Routine

variable {allowed : Out → Prop} [Out.AdmitsRoutine allowed]

theorem sessionApplyMilanlCfg_routine (impl : SessionImpl E) (io : Io) :
    io.Extends allowed (sessionApplyMilanlCfg env impl io).2.2 := by
  have read : io.Extends allowed _ := cmdReadOtp_routine env impl.fd io 256
  unfold sessionApplyMilanlCfg
  dsimp only
  split
  · exact read
  · split
    · exact read
    · split
      · exact read
      · split
        · exact read
        · rename_i blob _
          have uploaded := read.trans (cmdUploadConfigMcu_routine env impl.fd _ blob)
          split
          · exact uploaded
          · exact uploaded

theorem sessionBootstrap_routine (impl : SessionImpl E) (io : Io) :
    io.Extends allowed (sessionBootstrap env impl io).2.2 := by
  have chip : io.Extends allowed _ := (devFlushRxq_routine impl.fd io).trans
    (cmdReadChipId_routine env impl.fd (devFlushRxq impl.fd io))
  unfold sessionBootstrap
  dsimp only
  split
  · exact chip.trans (sessionApplyMilanlCfg_routine env impl _)
  · exact chip

end Routine

/-- The service of a session in a run, and the world. -/
def SessionRun.world (run : SessionRun E) : ServiceWorld E :=
  (run.session.bind SessionImpl.svc, run.io)

theorem sessionEnsureImpl_moves (session : Session E) (io : Io) :
    (∃ errno, (sessionEnsureImpl env session io).1 = .error errno ∧
        io.Extends Out.Quiet (sessionEnsureImpl env session io).2) ∨
      (∃ impl, (sessionEnsureImpl env session io).1 = .ok impl ∧
        impl.svc = session.bind SessionImpl.svc ∧
        io.Extends Out.Quiet (sessionEnsureImpl env session io).2) := by
  unfold sessionEnsureImpl
  cases session with
  | some impl => exact Or.inr ⟨impl, rfl, rfl, .refl io⟩
  | none =>
      dsimp only
      split
      · exact Or.inl ⟨ENOMEM, rfl, (Io.Extends.refl io).tick⟩
      · exact Or.inr ⟨_, rfl, rfl, (Io.Extends.refl io).tick⟩

theorem sessionEnsureTapIoBuffer_quiet (impl : SessionImpl E) (io : Io) :
    (sessionEnsureTapIoBuffer env impl io).2.1.svc = impl.svc ∧
      io.Extends Out.Quiet (sessionEnsureTapIoBuffer env impl io).2.2 := by
  unfold sessionEnsureTapIoBuffer
  split
  · exact ⟨rfl, .refl io⟩
  · split
    · exact ⟨rfl, (Io.Extends.refl io).tick⟩
    · exact ⟨rfl, (Io.Extends.refl io).tick⟩

theorem sessionOpen_moves (session : Session E) (io : Io) (devPath : String) (psk : List Byte)
    (errbufLen : Nat) :
    ServiceMoves (session.bind SessionImpl.svc, io)
      ((sessionOpen env engine session io devPath psk errbufLen).session.bind SessionImpl.svc,
        (sessionOpen env engine session io devPath psk errbufLen).io) := by
  unfold sessionOpen
  split
  · exact .refl
  · have ensured := sessionEnsureImpl_moves env session io
    generalize sessionEnsureImpl env session io = out at ensured ⊢
    rcases out with ⟨result, next⟩
    rcases ensured with ⟨errno, resultEq, quiet⟩ | ⟨impl, resultEq, svcEq, quiet⟩
    · subst resultEq
      exact ServiceMoves.quiet quiet
    · subst resultEq
      have ready : ServiceMoves (session.bind SessionImpl.svc, io) (impl.svc, next) := by
        rw [svcEq]
        exact .quiet quiet
      have reset := ready.trans (sessionResetRuntime_moves impl next)
      dsimp only
      generalize sessionResetRuntime impl next = cleared at reset ⊢
      have opened := reset.trans (ServiceMoves.quiet (devOpen_quiet env cleared.2))
      generalize devOpen env cleared.2 = device at opened ⊢
      by_cases openFailed : device.1 < 0
      · rw [if_pos openFailed]
        exact opened
      · rw [if_neg openFailed]
        have buffer := sessionEnsureTapIoBuffer_quiet env
          { cleared.1 with fd := device.2.1, mode := .ready } device.2.2
        generalize sessionEnsureTapIoBuffer env _ device.2.2 = buffered at buffer ⊢
        have kept : ServiceMoves (session.bind SessionImpl.svc, io)
            (buffered.2.1.svc, buffered.2.2) := by
          rw [buffer.1]
          exact opened.trans (ServiceMoves.quiet buffer.2)
        by_cases bufferFailed : buffered.1 < 0
        · rw [if_pos bufferFailed]
          exact kept.trans (sessionResetRuntime_moves _ _)
        · rw [if_neg bufferFailed]
          have bootImpl := sessionBootstrap_impl env buffered.2.1 buffered.2.2
          have bootIo : buffered.2.2.Extends Out.Quiet _ :=
            sessionBootstrap_routine env buffered.2.1 buffered.2.2
          generalize sessionBootstrap env buffered.2.1 buffered.2.2 = booted at bootImpl bootIo ⊢
          obtain ⟨fdt, otpCtx, bootEq⟩ := bootImpl
          have bootSvc : booted.2.1.svc = buffered.2.1.svc := by rw [bootEq]
          have configured : ServiceMoves (session.bind SessionImpl.svc, io)
              (booted.2.1.svc, booted.2.2) := by
            rw [bootSvc]
            exact kept.trans (ServiceMoves.quiet bootIo)
          have copied : ServiceMoves (session.bind SessionImpl.svc, io)
              (booted.2.1.svc, booted.2.2.tick) :=
            configured.trans (ServiceMoves.quiet (Io.Extends.refl booted.2.2).tick)
          by_cases bootFailed : booted.1 < 0
          · rw [if_pos bootFailed]
            exact configured.trans (sessionResetRuntime_moves _ _)
          · rw [if_neg bootFailed]
            split
            · exact copied.trans (sessionResetRuntime_moves _ _)
            · have started := copied.trans (sessionTlsInit_moves env engine
                { booted.2.1 with psk := some psk } booted.2.2.tick)
              generalize sessionTlsInit env engine _ booted.2.2.tick = init at started ⊢
              split
              · exact started.trans (sessionResetRuntime_moves _ _)
              · exact started

theorem SessionRun.within_moves (run : SessionRun E) (absent : Int)
    (body : InCall E → Int × InCall E) (moves : ∀ call : InCall E, call.Moves (body call).2) :
    ServiceMoves run.world (run.within absent body).1.world := by
  rcases run with ⟨session, io⟩
  cases session with
  | none => exact .refl
  | some impl => exact moves ⟨impl, sessionEventsClear, io⟩

/-- Every call moves the service. -/
theorem sessionStep_moves (run : SessionRun E) (call : SessionCall) :
    ServiceMoves run.world (sessionStep env engine run call).1.world := by
  cases call with
  | init =>
      have freed : ServiceMoves run.world (none, run.io) := .one (.free _ _)
      have ensured := sessionEnsureImpl_moves (E := E) env none run.io
      unfold sessionStep
      generalize sessionEnsureImpl (E := E) env none run.io = out at ensured ⊢
      rcases out with ⟨result, next⟩
      rcases ensured with ⟨errno, resultEq, quiet⟩ | ⟨impl, resultEq, svcEq, quiet⟩
      · subst resultEq
        exact freed.trans (ServiceMoves.quiet quiet)
      · subst resultEq
        have placed : SessionRun.world ⟨some impl, next⟩ = (none, next) := by
          rw [SessionRun.world, Option.bind_some, svcEq]
          rfl
        dsimp only
        rw [placed]
        exact freed.trans (ServiceMoves.quiet quiet)
  | dispose =>
      rcases run with ⟨session, io⟩
      cases session with
      | none => exact .refl
      | some impl => exact sessionResetRuntime_moves impl io
  | openPath devPath psk errbufLen =>
      exact sessionOpen_moves env engine run.session run.io devPath psk errbufLen
  | requestClose resetMcu =>
      exact run.within_moves 0 _ fun call => sessionBeginCleanup_moves env call .close resetMcu
  | requestDeactivate =>
      exact run.within_moves 0 _ fun call => sessionBeginCleanup_moves env call .deactivate false
  | activate => exact run.within_moves EINVAL.rc _ fun call => sessionActivate_moves env engine call
  | changeState state =>
      exact run.within_moves 0 _ fun call => sessionChangeState_moves env call state
  | onFd condition actionCancelled =>
      exact run.within_moves 0 _ fun call =>
        sessionOnFd_moves env engine call condition actionCancelled
  | pump actionCancelled =>
      exact run.within_moves 0 _ fun call => sessionPump_moves env engine call actionCancelled
  | takeImage =>
      rcases run with ⟨session, io⟩
      cases session with
      | none => exact .refl
      | some impl =>
          dsimp only [sessionStep, sessionTakeImage]
          split
          · exact .refl
          · exact .refl

/-- What every move of the service preserves holds after every run that starts
from a null session. -/
theorem sessionRun_preserves {invariant : ServiceWorld E → Prop}
    (preserved : ∀ before after, ServiceMove before after → invariant before → invariant after)
    {io : Io} (start : invariant (none, io)) (calls : List SessionCall) :
    invariant (final (sessionStep env engine) ⟨none, io⟩ calls).world := by
  have step (run : SessionRun E) (call : SessionCall) (holds : invariant run.world) :
      invariant (sessionStep env engine run call).1.world :=
    (sessionStep_moves env engine run call).preserves preserved holds
  exact @final_preserved _ _ _ _ (fun run : SessionRun E => invariant run.world) step ⟨none, io⟩
    start calls

/-- It also holds before and after each of its calls. -/
theorem sessionTransitions_preserves {invariant : ServiceWorld E → Prop}
    (preserved : ∀ before after, ServiceMove before after → invariant before → invariant after)
    {io : Io} (start : invariant (none, io)) (calls : List SessionCall) :
    ∀ transition ∈ transitions (sessionStep env engine) ⟨none, io⟩ calls,
      invariant transition.before.world ∧ invariant transition.after.world := by
  have step (run : SessionRun E) (call : SessionCall) (holds : invariant run.world) (_ : True) :
      invariant (sessionStep env engine run call).1.world :=
    (sessionStep_moves env engine run call).preserves preserved holds
  exact @transitions_invariant _ _ _ _ (fun run : SessionRun E => invariant run.world)
    (fun _ => True) step ⟨none, io⟩ calls start (fun _ _ => trivial)

/-- Along a run the trace only grows. -/
theorem sessionTransitions_trace {start : SessionRun E} {calls : List SessionCall} :
    ∀ transition ∈ transitions (sessionStep env engine) start calls,
      transition.after.io.trace <:+ (final (sessionStep env engine) start calls).io.trace :=
  @transitions_related_final _ _ _ _ (fun first second => first.io.trace <:+ second.io.trace)
    (fun _ => List.suffix_refl _) (fun _ _ _ => List.IsSuffix.trans)
    (fun run call => (sessionStep_moves env engine run call).trace_suffix) start calls

end Calls

end Gxfp.User
