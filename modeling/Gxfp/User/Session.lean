import Gxfp.User.Decoder
import Gxfp.User.SensorCfg
import Gxfp.User.TlsService

/-!
# The session

Embeds `src/flow/session.c`, the component that `libfprint` drives: it opens
the device, keeps the TLS service and the FDT flow, and turns ticks and records
into the events of an image device.

A function of the source that works on a session and an event record is a
function on `InCall`, which also holds the world.  `enable_log` is left out; it
only chooses a log file.
-/

namespace Gxfp.User

open Lib
open Lib.Bytes
open Gxfp.Errno

/-! ## State and events -/

/-- `enum gxfp_session_mode`. -/
inductive SessionMode
  | closed
  | ready
  | activatingTls
  | activatingWaitUp
  | activatingDarkCapture
  | idle
  | waitFingerOn
  | capturing
  | waitFingerOff
  | failed
  deriving DecidableEq, Repr

/-- `enum gxfp_session_state`. -/
inductive SessionState
  | inactive
  | idle
  | awaitFingerOn
  | capture
  | awaitFingerOff
  deriving DecidableEq, Repr

/-- `enum gxfp_session_error_target`. -/
inductive ErrorTarget
  | generic
  | activate
  | capture
  deriving DecidableEq, Repr

/-- `struct gxfp_session_events`. -/
structure SessionEvents where
  activateComplete : Bool
  deactivateComplete : Bool
  closeComplete : Bool
  sessionError : Bool
  fingerStatusChanged : Bool
  fingerPresent : Bool
  imageReady : Bool
  requestTick : Bool
  tickDelayMs : Int
  cancelTick : Bool
  errorCode : Int
  errorTarget : ErrorTarget
  errorMsg : String
  deriving DecidableEq, Repr

/-- `gxfp_session_events_clear`. -/
def sessionEventsClear : SessionEvents where
  activateComplete := false
  deactivateComplete := false
  closeComplete := false
  sessionError := false
  fingerStatusChanged := false
  fingerPresent := false
  imageReady := false
  requestTick := false
  tickDelayMs := 0
  cancelTick := false
  errorCode := 0
  errorTarget := .generic
  errorMsg := ""

/-- The calibration data a session keeps. -/
structure OtpCtx where
  tcode : UInt16
  fdtDelta : UInt16
  hasTcodeDelta : Bool
  deriving DecidableEq, Repr

/-- `struct gxfp_session_impl`.  The dark frame and the pending image are there
where `dark_loaded` and `pending_img_ready` are set; `tapIoBuf` tells whether
the record buffer is allocated. -/
structure SessionImpl (E : Type) where
  fd : Int
  svc : TlsService E
  fdt : FdtFlow
  psk : Option (List Byte)
  tapIoBuf : Bool
  mode : SessionMode
  dark : Option FpnDark
  pendingImg : Option DecodedImage
  otpCtx : OtpCtx

/-- `struct gxfp_session`: the implementation, or a null pointer. -/
abbrev Session (E : Type) := Option (SessionImpl E)

/-- A session inside one of its calls. -/
structure InCall (E : Type) where
  impl : SessionImpl E
  ev : SessionEvents
  io : Io

namespace InCall

variable {E : Type}

/-- Set the mode. -/
def setMode (call : InCall E) (mode : SessionMode) : InCall E :=
  { call with impl := { call.impl with mode := mode } }

/-- Ask for a tick after a delay. -/
def requestTick (call : InCall E) (delayMs : Int) : InCall E :=
  { call with ev := { call.ev with requestTick := true, tickDelayMs := delayMs } }

/-- Ask for a tick in 20 milliseconds under a condition. -/
def tickIf (call : InCall E) (condition : Bool) : InCall E :=
  if condition then call.requestTick 20 else call

@[simp]
theorem tickIf_impl (call : InCall E) (condition : Bool) :
    (call.tickIf condition).impl = call.impl := by
  cases condition with
  | false => rfl
  | true => rfl

@[simp]
theorem tickIf_io (call : InCall E) (condition : Bool) :
    (call.tickIf condition).io = call.io := by
  cases condition with
  | false => rfl
  | true => rfl

@[simp]
theorem tickIf_requestTick (call : InCall E) (condition : Bool) :
    (call.tickIf condition).ev.requestTick = (call.ev.requestTick || condition) := by
  cases condition with
  | false => exact (Bool.or_false _).symm
  | true => exact (Bool.or_true _).symm

/-- Put a service and a world back. -/
def setSvc (call : InCall E) (svc : TlsService E) (io : Io) : InCall E :=
  { call with impl := { call.impl with svc := svc }, io := io }

/-- Put a flow and a world back. -/
def setFdt (call : InCall E) (fdt : FdtFlow) (io : Io) : InCall E :=
  { call with impl := { call.impl with fdt := fdt }, io := io }

end InCall

section Session

variable {E : Type} (env : Env) (engine : TlsEngine E)

/-! ## Errors and resets -/

/-- What `vsnprintf` leaves in a buffer of `cap` bytes. -/
def snprintf (cap : Nat) (text : String) : String :=
  String.ofList (text.toList.take (cap - 1))

/-- `gxfp_session_mode_has_io`. -/
def sessionModeHasIo (impl : SessionImpl E) : Bool :=
  impl.mode ≠ .closed

/-- `session_set_error`. -/
def sessionSetError (call : InCall E) (err : Int) (target : ErrorTarget) (msg : String) :
    InCall E :=
  let ev :=
    { call.ev with
      sessionError := true
      errorCode := err
      errorTarget := target
      errorMsg := snprintf 192 msg }
  let io :=
    if err ≠ ECANCELED.rc ∧ (target = .generic ∨ target = .activate) ∧
        sessionModeHasIo call.impl then
      (deviceRecovery env call.impl.fd
        (call.io.emit (.recovery (call.impl.svc.map TlsServiceImpl.state))) true true false).2
    else
      call.io
  ⟨{ call.impl with mode := .failed }, ev, io⟩

/-- `gxfp_session_stop_run`. -/
def sessionStopRun (impl : SessionImpl E) : SessionImpl E :=
  if impl.mode ≠ .closed then { impl with mode := .ready } else impl

@[simp]
theorem sessionStopRun_svc (impl : SessionImpl E) : (sessionStopRun impl).svc = impl.svc := by
  unfold sessionStopRun
  split
  · rfl
  · rfl

@[simp]
theorem sessionStopRun_fdt (impl : SessionImpl E) : (sessionStopRun impl).fdt = impl.fdt := by
  unfold sessionStopRun
  split
  · rfl
  · rfl

/-- `session_apply_fdt_runtime_from_otp`. -/
def sessionApplyFdtRuntimeFromOtp (impl : SessionImpl E) : SessionImpl E :=
  let fdtDelta := if impl.otpCtx.hasTcodeDelta then impl.otpCtx.fdtDelta else 0
  { impl with
    fdt := { impl.fdt with cmd := cmdFdtStateSetRuntime impl.fdt.cmd false false false fdtDelta } }

/-- `gxfp_dev_close`. -/
def devClose (fd : Int) (io : Io) : Io :=
  if fd ≥ 0 then io.emit (.closed fd) else io

/-- `gxfp_session_reset_runtime`. -/
def sessionResetRuntime (impl : SessionImpl E) (io : Io) : SessionImpl E × Io :=
  let io := if sessionModeHasIo impl then devClose impl.fd io else io
  let impl :=
    sessionApplyFdtRuntimeFromOtp
      { impl with fd := 0, svc := none, fdt := fdtFlowInit, otpCtx := ⟨0, 0, false⟩ }
  ({ impl with psk := none, dark := none, pendingImg := none, mode := .closed }, io)

/-- `session_ensure_impl`. -/
def sessionEnsureImpl (session : Session E) (io : Io) : Except Errno (SessionImpl E) × Io :=
  match session with
  | some impl => (.ok impl, io)
  | none =>
      if !env.malloc io.count then
        (.error ENOMEM, io.tick)
      else
        (.ok
          { fd := 0
            svc := none
            fdt := fdtFlowInit
            psk := none
            tapIoBuf := false
            mode := .closed
            dark := none
            pendingImg := none
            otpCtx := ⟨0, 0, false⟩ },
          io.tick)

/-- `session_ensure_tap_io_buffer`. -/
def sessionEnsureTapIoBuffer (impl : SessionImpl E) (io : Io) : Int × SessionImpl E × Io :=
  if impl.tapIoBuf then
    (0, impl, io)
  else if !env.malloc io.count then
    (ENOMEM.rc, impl, io.tick)
  else
    (0, { impl with tapIoBuf := true }, io.tick)

/-! ## Opening and closing -/

/-- `session_apply_milanl_cfg`. -/
def sessionApplyMilanlCfg (impl : SessionImpl E) (io : Io) : Int × SessionImpl E × Io :=
  let read := cmdReadOtp env impl.fd io 256
  match read.1 with
  | .error rc => (rc, impl, read.2)
  | .ok otp =>
      match milanlParseOtp otp with
      | .error errno => (errno.rc, impl, read.2)
      | .ok otpCfg =>
          match milanlPrepareCfgBlob milanlCfgTemplate MILANL_CFG_LEN with
          | .error errno => (errno.rc, impl, read.2)
          | .ok cfgBlob =>
              match milanlApplyOtpPatch cfgBlob otpCfg with
              | .error errno => (errno.rc, impl, read.2)
              | .ok cfgBlob =>
                  let uploaded := cmdUploadConfigMcu env impl.fd read.2 cfgBlob
                  if uploaded.1 < 0 then
                    (uploaded.1, impl, uploaded.2)
                  else
                    (0,
                      sessionApplyFdtRuntimeFromOtp
                        { impl with
                          otpCtx := ⟨otpCfg.tcode, otpCfg.fdtDelta, otpCfg.hasTcodeDelta⟩ },
                      uploaded.2)

/-- `session_tls_init`. -/
def sessionTlsInit (impl : SessionImpl E) (io : Io) : Int × SessionImpl E × Io :=
  let out := tlsServiceInit env impl.fd engine io impl.svc ⟨20000, true⟩ impl.psk
  (out.1, { impl with svc := out.2.1 }, out.2.2)

/-- `gxfp_dev_open`. -/
def devOpen (io : Io) : Int × Int × Io :=
  match env.openDev io.count with
  | .error errno => (-(errno : Int), -1, io.tick)
  | .ok fd => (0, fd, io.emit (.opened fd))

/-- What `gxfp_session_open` returns; `errbuf` is there where it is written. -/
structure OpenOut (E : Type) where
  ret : Int
  session : Session E
  io : Io
  errbuf : Option String

/-- An error return of `gxfp_session_open` after the device is open. -/
def sessionOpenFail (impl : SessionImpl E) (io : Io) (rc : Int) (errbuf : Option String) :
    OpenOut E :=
  let reset := sessionResetRuntime impl io
  ⟨rc, some reset.1, reset.2, errbuf⟩

/-- The configuration part of `gxfp_session_open`. -/
def sessionBootstrap (impl : SessionImpl E) (io : Io) : Int × SessionImpl E × Io :=
  let chip := cmdReadChipId env impl.fd (devFlushRxq impl.fd io)
  if chip.1 = .ok 0x2208 then
    sessionApplyMilanlCfg env impl chip.2
  else
    (0, impl, chip.2)

/-- `gxfp_session_open`. -/
def sessionOpen (session : Session E) (io : Io) (devPath : String) (psk : List Byte)
    (errbufLen : Nat) : OpenOut E :=
  if psk.length = 0 then
    ⟨EINVAL.rc, session, io, none⟩
  else
    match sessionEnsureImpl env session io with
    | (.error errno, io) => ⟨errno.rc, session, io, none⟩
    | (.ok impl, io) =>
        let text (message : String) : Option String :=
          if errbufLen = 0 then none else some (snprintf errbufLen message)
        let reset := sessionResetRuntime impl io
        let opened := devOpen env reset.2
        let impl := { reset.1 with fd := opened.2.1 }
        if opened.1 < 0 then
          ⟨opened.1, some impl, opened.2.2,
            text ("open(" ++ devPath ++ ") failed: " ++ env.strerror (-opened.1))⟩
        else
          let buffered := sessionEnsureTapIoBuffer env { impl with mode := .ready } opened.2.2
          if buffered.1 < 0 then
            sessionOpenFail buffered.2.1 buffered.2.2 buffered.1
              (text "failed to allocate tap io buffer")
          else
            let booted := sessionBootstrap env buffered.2.1 buffered.2.2
            if booted.1 < 0 then
              sessionOpenFail booted.2.1 booted.2.2 booted.1
                (text ("otp/config bootstrap failed: " ++ env.strerror (-booted.1)))
            else if !env.malloc booted.2.2.count then
              sessionOpenFail booted.2.1 booted.2.2.tick ENOMEM.rc none
            else
              let started :=
                sessionTlsInit env engine { booted.2.1 with psk := some psk } booted.2.2.tick
              if started.1 < 0 then
                sessionOpenFail started.2.1 started.2.2 started.1
                  (text ("tls_service_init failed: " ++ env.strerror (-started.1)))
              else
                ⟨0,
                  some
                    { sessionApplyFdtRuntimeFromOtp { started.2.1 with fdt := fdtFlowInit } with
                      mode := .ready },
                  started.2.2, none⟩

/-- `enum gxfp_cleanup_goal`. -/
inductive CleanupGoal
  | deactivate
  | close
  deriving DecidableEq, Repr

/-- `session_begin_cleanup`. -/
def sessionBeginCleanup (call : InCall E) (goal : CleanupGoal) (resetMcu : Bool) : InCall E :=
  let impl := sessionStopRun call.impl
  let ev := { call.ev with cancelTick := true }
  if !sessionModeHasIo impl then
    match goal with
    | .close => ⟨impl, { ev with closeComplete := true }, call.io⟩
    | .deactivate => ⟨impl, { ev with deactivateComplete := true }, call.io⟩
  else
    match goal with
    | .deactivate => ⟨{ impl with mode := .ready }, { ev with deactivateComplete := true }, call.io⟩
    | .close =>
        let io :=
          if resetMcu then (deviceRecovery env impl.fd call.io true true false).2 else call.io
        let reset := sessionResetRuntime impl io
        ⟨reset.1, { ev with closeComplete := true }, reset.2⟩

/-! ## Activation -/

/-- The number behind a mode of the FDT flow. -/
def FdtMode.code : FdtMode → Nat
  | .idle => 0
  | .waitDown => 1
  | .waitUp => 2

/-- `session_set_fdt_mode`. -/
def sessionSetFdtMode (call : InCall E) (mode : FdtMode) : InCall E :=
  if !sessionModeHasIo call.impl then
    call
  else
    let out := fdtFlowSetMode env call.impl.fd call.io call.impl.fdt mode
    let call := call.setFdt out.2.1 out.2.2
    if out.1 < 0 then
      sessionSetError env call out.1 .generic
        ("fdt_set_mode(" ++ toString mode.code ++ ") failed: " ++ env.strerror (-out.1))
    else
      call

/-- `session_rearm_tls_if_needed`. -/
def sessionRearmTlsIfNeeded (call : InCall E) : InCall E :=
  match tlsServiceState call.impl.svc with
  | .init | .connecting => call
  | .connected | .capturing | .done => call
  | .error =>
      let impl := { call.impl with svc := tlsServiceFree call.impl.svc }
      let started := sessionTlsInit env engine impl (devFlushRxq impl.fd call.io)
      let call := { call with impl := started.2.1, io := started.2.2 }
      if started.1 < 0 then
        sessionSetError env call started.1 .activate
          ("tls_service init failed: " ++ env.strerror (-started.1))
      else
        call

/-- `gxfp_session_activate`. -/
def sessionActivate (call : InCall E) : Int × InCall E :=
  if !sessionModeHasIo call.impl then
    (EINVAL.rc, call)
  else
    let call := if call.impl.mode = .failed then call.setMode .ready else call
    let call := sessionRearmTlsIfNeeded env engine call
    if call.ev.sessionError then
      (if call.ev.errorCode ≠ 0 then call.ev.errorCode else EIO.rc, call)
    else
      let impl := sessionApplyFdtRuntimeFromOtp { call.impl with fdt := fdtFlowInit }
      (0, ({ call with impl := { impl with mode := .activatingTls } }).requestTick 0)

/-- `session_maybe_finish_activation`. -/
def sessionMaybeFinishActivation (call : InCall E) : InCall E :=
  if call.impl.mode ≠ .activatingTls then
    call
  else if tlsServiceState call.impl.svc ≠ .connected ∧ tlsServiceState call.impl.svc ≠ .done then
    call
  else
    let call := sessionSetFdtMode env call .waitUp
    if call.ev.sessionError then
      call
    else
      (call.setMode .activatingWaitUp).requestTick 0

/-! ## Captures -/

/-- `session_set_dark_from_image`. -/
def sessionSetDarkFromImage (call : InCall E) (img : DecodedImage) : Int × InCall E :=
  if img.rows ≤ 0 ∨ img.cols ≤ 0 then
    (EINVAL.rc, call)
  else if !env.malloc call.io.count then
    (ENOMEM.rc, { call with io := call.io.tick })
  else
    (0,
      { call with
        impl := { call.impl with dark := some ⟨img.pixels, img.rows, img.cols⟩ }
        io := call.io.tick })

/-- The end of `session_finalize_capture` for a dark frame. -/
def sessionFinishDark (call : InCall E) (img : DecodedImage) : InCall E :=
  let loaded := sessionSetDarkFromImage env call img
  let call := loaded.2
  if loaded.1 < 0 then
    sessionSetError env call loaded.1 .activate ("dark frame failed: " ++ env.strerror (-loaded.1))
  else
    let call := sessionSetFdtMode env call .idle
    if call.ev.sessionError then
      call
    else
      let call := call.setMode .idle
      { call with ev := { call.ev with activateComplete := true } }

/-- Its end for a finger. -/
def sessionFinishImage (call : InCall E) (img : DecodedImage) : InCall E :=
  let corrected : Except Errno (List UInt16) :=
    match call.impl.dark with
    | none => .ok img.pixels
    | some dark => fpnCorrect img.pixels img.rows img.cols (some dark)
  match corrected with
  | .error errno =>
      sessionSetError env call errno.rc .capture
        ("fpn correct failed: " ++ env.strerror (-errno.rc))
  | .ok pixels =>
      { call with
        impl := { call.impl with pendingImg := some { img with pixels := pixels }, mode := .idle }
        ev := { call.ev with imageReady := true } }

/-- `session_finalize_capture`. -/
def sessionFinalizeCapture (call : InCall E) (target : ErrorTarget) : InCall E :=
  if tlsServiceState call.impl.svc ≠ .done then
    call
  else
    let raw := tlsServiceGetRawImage env call.io call.impl.svc
    let call := call.setSvc raw.svc raw.io
    if raw.ret ≤ 0 then
      sessionSetError env call (if raw.ret < 0 then raw.ret else EIO.rc) target
        ("capture finished but no image (r=" ++ toString raw.ret ++ ")")
    else
      let decoded := decodeImage env call.io (raw.body.getD [])
      let call := { call with io := decoded.2 }
      match decoded.1 with
      | .error rc => sessionSetError env call rc target ("decode failed: " ++ env.strerror (-rc))
      | .ok img =>
          if call.impl.mode = .activatingDarkCapture then
            sessionFinishDark env call img
          else
            sessionFinishImage env call img

/-- `gxfp_session_take_image`. -/
def sessionTakeImage (impl : SessionImpl E) : Int × Option DecodedImage × SessionImpl E :=
  match impl.pendingImg with
  | none => (ENOENT.rc, none, impl)
  | some img => (0, some img, { impl with pendingImg := none })

/-! ## Ticks -/

/-- The loop of `session_poll_tls` with the rounds that are left. -/
def sessionPollLoop : Nat → InCall E → InCall E
  | 0, call => call
  | rounds + 1, call =>
      let stepped := tlsServiceStep env call.impl.fd engine call.io call.impl.svc
      let call := call.setSvc stepped.2.1 stepped.2.2
      if stepped.1 = EAGAIN.rc ∨ stepped.1 = 1 then
        call
      else if stepped.1 < 0 then
        sessionSetError env call stepped.1 .generic ("step failed: " ++ env.tlsStrerror stepped.1)
      else
        sessionPollLoop rounds (if rounds = 0 then call.requestTick 0 else call)

/-- `session_poll_tls`. -/
def sessionPollTls (call : InCall E) : InCall E :=
  sessionPollLoop env engine 64 call

/-- The modes in which nothing runs. -/
def SessionMode.isStopped (mode : SessionMode) : Bool :=
  mode = .closed ∨ mode = .ready ∨ mode = .failed

/-- The modes that a cancelled action ends. -/
def SessionMode.isCancellable (mode : SessionMode) : Bool :=
  mode = .activatingTls ∨ mode = .activatingWaitUp ∨ mode = .activatingDarkCapture ∨
    mode = .capturing

/-- The modes that wait for a capture. -/
def SessionMode.isCapture (mode : SessionMode) : Bool :=
  mode = .activatingDarkCapture ∨ mode = .capturing

/-- The finger-up retry of `gxfp_session_pump`, with the result of the poll. -/
def sessionPollFdt (call : InCall E) : Int × InCall E :=
  if call.impl.mode = .waitFingerOff ∨ call.impl.mode = .activatingWaitUp then
    let now := monotonicMs env call.io
    let out := fdtFlowPoll env call.impl.fd now.2 call.impl.fdt now.1
    let call := call.setFdt out.2.1 out.2.2
    if out.1 < 0 then
      (out.1,
        sessionSetError env call out.1 .generic
          ("fdt wait-up retry failed: " ++ env.strerror (-out.1)))
    else
      (out.1, call)
  else
    (0, call)

/-- The ticks that `gxfp_session_pump` asks for at its end. -/
def sessionPumpTick (call : InCall E) : InCall E :=
  let state := tlsServiceState call.impl.svc
  let call :=
    call.tickIf (call.impl.mode = .activatingTls ∧ state ≠ .connected ∧ state ≠ .error)
  let call := call.tickIf (call.impl.mode.isCapture ∧ state ≠ .done ∧ state ≠ .error)
  call.tickIf
    (call.impl.mode = .waitFingerOn ∨ call.impl.mode = .waitFingerOff ∨
      call.impl.mode = .activatingWaitUp)

@[simp]
theorem sessionPumpTick_impl (call : InCall E) : (sessionPumpTick call).impl = call.impl := by
  simp [sessionPumpTick]

@[simp]
theorem sessionPumpTick_io (call : InCall E) : (sessionPumpTick call).io = call.io := by
  simp [sessionPumpTick]

/-- The part of `gxfp_session_pump` after the finger-up retry. -/
def sessionPumpEnd (call : InCall E) : InCall E :=
  sessionPumpTick
    (if call.impl.mode.isCapture then
      sessionFinalizeCapture env call
        (if call.impl.mode = .capturing then .capture else .activate)
    else
      call)

/-- `gxfp_session_pump`. -/
def sessionPump (call : InCall E) (actionCancelled : Bool) : InCall E :=
  if call.impl.mode.isStopped then
    call
  else if actionCancelled && call.impl.mode.isCancellable then
    let target : ErrorTarget := if call.impl.mode ≠ .capturing then .activate else .capture
    let call := sessionSetError env call ECANCELED.rc target "Cancelled"
    { call with ev := { call.ev with cancelTick := true } }
  else
    let call := sessionPollTls env engine call
    if call.ev.sessionError then
      call
    else
      let call := sessionMaybeFinishActivation env call
      if call.ev.sessionError then
        call
      else
        let polled := sessionPollFdt env call
        if polled.1 < 0 then polled.2 else sessionPumpEnd env polled.2

/-! ## Records -/

/-- The finger events of one record in `gxfp_session_on_fd`. -/
def sessionFingerEvents (call : InCall E) (events : FdtEvents) : InCall E :=
  let call :=
    if call.impl.mode = .waitFingerOn ∧ events.down then
      { call with ev := { call.ev with fingerStatusChanged := true, fingerPresent := true } }
    else
      call
  if call.impl.mode = .waitFingerOff ∧ events.up then
    { call with ev := { call.ev with fingerStatusChanged := true, fingerPresent := false } }
  else
    call

/-- The request for a dark frame in `gxfp_session_on_fd`, with the result of
the request. -/
def sessionRequestDark (call : InCall E) (events : FdtEvents) : Int × InCall E :=
  if call.impl.mode = .activatingWaitUp ∧ events.up then
    let out := tlsServiceRequestCapture call.impl.svc
    let call := call.setSvc out.2 call.io
    if out.1 < 0 then
      (out.1,
        sessionSetError env call out.1 .activate
          ("dark frame request_capture failed: " ++ env.strerror (-out.1)))
    else
      (0, (call.setMode .activatingDarkCapture).requestTick 0)
  else
    (0, call)

/-- One record in the loop of `gxfp_session_on_fd`; the flag tells whether the
loop goes on. -/
def sessionOnRecord (call : InCall E) (hdr : TapHdr) (payload : List Byte) : Bool × InCall E :=
  let fed := fdtFlowFeedRecord env call.impl.fd call.io call.impl.fdt hdr payload
  let call := call.setFdt fed.flow fed.io
  if fed.ret < 0 ∧ fed.ret ≠ EAGAIN.rc then
    (false,
      sessionSetError env call fed.ret .generic
        ("fdt_feed_record failed: " ++ env.strerror (-fed.ret)))
  else
    let requested := sessionRequestDark env (sessionFingerEvents call fed.events) fed.events
    if requested.1 < 0 then
      (false, requested.2)
    else
      let call := requested.2
      let out := tlsServiceFeedTapRecord env engine call.io call.impl.svc hdr payload
      let call := call.setSvc out.2.1 out.2.2
      if out.1 < 0 then
        (false,
          sessionSetError env call out.1 .generic ("gxfp feed failed: " ++ env.strerror (-out.1)))
      else
        (true, call)

/-- The loop of `gxfp_session_on_fd` over the results of `read(2)`; behind
them it would block. -/
def sessionOnFdLoop : List (Except ℕ+ (List Byte)) → InCall E → InCall E
  | results, call =>
      if !call.impl.tapIoBuf then
        sessionSetError env call ENOMEM.rc .generic "gxfp io buffer unavailable"
      else if call.impl.fd < 0 then
        sessionSetError env call EINVAL.rc .generic
          ("gxfp read failed: " ++ env.strerror (-EINVAL.rc))
      else
        match results with
        | [] => call
        | result :: results =>
            match devReadRecord result with
            | .error rc =>
                if rc = EAGAIN.rc then
                  call
                else
                  sessionSetError env call rc .generic
                    ("gxfp read failed: " ++ env.strerror (-rc))
            | .ok (hdr, payload) =>
                let handled := sessionOnRecord env engine call hdr payload
                if handled.1 then sessionOnFdLoop results handled.2 else handled.2

/-- `GXFP_SESSION_IO_ERR | GXFP_SESSION_IO_HUP | GXFP_SESSION_IO_NVAL`. -/
def SESSION_IO_BAD : UInt32 := 0x38

/-- `gxfp_session_on_fd`. -/
def sessionOnFd (call : InCall E) (condition : UInt32) (actionCancelled : Bool) : InCall E :=
  if call.impl.mode.isStopped then
    call
  else if condition &&& SESSION_IO_BAD ≠ 0 then
    sessionSetError env call EIO.rc .generic "gxfp fd error/hup"
  else
    let results := env.reads call.io.count
    let call := sessionOnFdLoop env engine results { call with io := call.io.emit .read }
    sessionPump env engine call actionCancelled

/-! ## State changes -/

/-- The waits of `gxfp_session_change_state`: a mode of the session and one of
the FDT flow. -/
def sessionAwait (call : InCall E) (mode : SessionMode) (fdtMode : FdtMode) : InCall E :=
  let call := sessionSetFdtMode env (call.setMode mode) fdtMode
  if !call.ev.sessionError then call.requestTick 0 else call

/-- The capture branch of `gxfp_session_change_state`. -/
def sessionStartCapture (call : InCall E) : InCall E :=
  if call.impl.mode ≠ .idle ∧ call.impl.mode ≠ .waitFingerOn then
    sessionSetError env call EINVAL.rc .capture "capture state transition rejected"
  else
    let out := tlsServiceRequestCapture call.impl.svc
    let call := call.setSvc out.2 call.io
    if out.1 < 0 then
      sessionSetError env call out.1 .capture ("request_capture failed: " ++ env.strerror (-out.1))
    else
      (call.setMode .capturing).requestTick 0

/-- `gxfp_session_change_state`. -/
def sessionChangeState (call : InCall E) (state : SessionState) : InCall E :=
  if !sessionModeHasIo call.impl ∨ call.impl.mode = .failed then
    call
  else
    match state with
    | .awaitFingerOn => sessionAwait env call .waitFingerOn .waitDown
    | .capture => sessionStartCapture env call
    | .awaitFingerOff => sessionAwait env call .waitFingerOff .waitUp
    | .idle => sessionSetFdtMode env (call.setMode .idle) .idle
    | .inactive => sessionSetFdtMode env { call with impl := sessionStopRun call.impl } .idle

/-! ## Runs -/

/-- The calls of a session. -/
inductive SessionCall
  | init
  | dispose
  | openPath (devPath : String) (psk : List Byte) (errbufLen : Nat)
  | requestClose (resetMcu : Bool)
  | requestDeactivate
  | activate
  | changeState (state : SessionState)
  | onFd (condition : UInt32) (actionCancelled : Bool)
  | pump (actionCancelled : Bool)
  | takeImage
  deriving DecidableEq, Repr

/-- What a call returns.  A function of the source without a result has
`ret = 0`; the events are those after a call with cleared events. -/
structure SessionOut where
  ret : Int
  ev : SessionEvents
  errbuf : Option String
  image : Option DecodedImage

/-- A session in a run. -/
structure SessionRun (E : Type) where
  session : Session E
  io : Io

/-- A call on an implementation, with cleared events. -/
def SessionRun.within (run : SessionRun E) (absent : Int) (body : InCall E → Int × InCall E) :
    SessionRun E × SessionOut :=
  match run.session with
  | none => (run, ⟨absent, sessionEventsClear, none, none⟩)
  | some impl =>
      let out := body ⟨impl, sessionEventsClear, run.io⟩
      (⟨some out.2.impl, out.2.io⟩, ⟨out.1, out.2.ev, none, none⟩)

/-- One call. -/
def sessionStep (run : SessionRun E) : SessionCall → SessionRun E × SessionOut
  | .init =>
      match sessionEnsureImpl (E := E) env none run.io with
      | (.error _, io) => (⟨none, io⟩, ⟨0, sessionEventsClear, none, none⟩)
      | (.ok impl, io) => (⟨some impl, io⟩, ⟨0, sessionEventsClear, none, none⟩)
  | .dispose =>
      match run.session with
      | none => (run, ⟨0, sessionEventsClear, none, none⟩)
      | some impl =>
          (⟨none, (sessionResetRuntime impl run.io).2⟩, ⟨0, sessionEventsClear, none, none⟩)
  | .openPath devPath psk errbufLen =>
      let out := sessionOpen env engine run.session run.io devPath psk errbufLen
      (⟨out.session, out.io⟩, ⟨out.ret, sessionEventsClear, out.errbuf, none⟩)
  | .requestClose resetMcu =>
      run.within 0 fun call => (0, sessionBeginCleanup env call .close resetMcu)
  | .requestDeactivate =>
      run.within 0 fun call => (0, sessionBeginCleanup env call .deactivate false)
  | .activate => run.within EINVAL.rc (sessionActivate env engine)
  | .changeState state => run.within 0 fun call => (0, sessionChangeState env call state)
  | .onFd condition actionCancelled =>
      run.within 0 fun call => (0, sessionOnFd env engine call condition actionCancelled)
  | .pump actionCancelled =>
      run.within 0 fun call => (0, sessionPump env engine call actionCancelled)
  | .takeImage =>
      match run.session with
      | none => (run, ⟨EINVAL.rc, sessionEventsClear, none, none⟩)
      | some impl =>
          let out := sessionTakeImage impl
          (⟨some out.2.2, run.io⟩, ⟨out.1, sessionEventsClear, none, out.2.1⟩)

end Session

end Gxfp.User
