import Gxfp.User.SessionSteps

/-!
# The calls of a session

What `gxfp_session_activate`, `gxfp_session_open` and the cleanup calls do, said
once for all results about runs: `SessionActivates` and `SessionOpens` have one
case for each way out of the function.

The trace of an opened session is described up to the entries that are allowed
in it, so that the same specification serves for events, for commands that arm
the sensor and for the use of the device.
-/

namespace Gxfp.User

open Lib
open Lib.Bytes
open Lib.EventLog
open Gxfp.Errno

section Calls

variable {E : Type} (env : Env) (engine : TlsEngine E)

/-! ## Activation -/

/-- `session_rearm_tls_if_needed`: what is returned, the service afterwards and
the world. -/
inductive ServiceRearmed (call : InCall E) : Int → TlsService E → Io → Prop
  | kept (working : tlsServiceState call.impl.svc ≠ .error) :
      ServiceRearmed call 0 call.impl.svc call.io
  | replaced (broken : tlsServiceState call.impl.svc = .error) :
      ServiceRearmed call
        (tlsServiceInit env call.impl.fd engine (devFlushRxq call.impl.fd call.io) none
          ⟨20000, true⟩ call.impl.psk).1
        (tlsServiceInit env call.impl.fd engine (devFlushRxq call.impl.fd call.io) none
          ⟨20000, true⟩ call.impl.psk).2.1
        (tlsServiceInit env call.impl.fd engine (devFlushRxq call.impl.fd call.io) none
          ⟨20000, true⟩ call.impl.psk).2.2

/-- The implementation of a session that has just been activated. -/
def SessionImpl.activated (impl : SessionImpl E) (svc : TlsService E) : SessionImpl E :=
  { sessionApplyFdtRuntimeFromOtp { impl with svc := svc, fdt := fdtFlowInit } with
    mode := .activatingTls }

/-- `gxfp_session_activate`: what it returns and the call afterwards. -/
inductive SessionActivates (call : InCall E) : Int → InCall E → Prop
  | closed (closed : call.impl.mode = .closed) : SessionActivates call EINVAL.rc call
  /-- The TLS service cannot be started again. -/
  | failed {ret : Int} {svc : TlsService E} {io : Io} (isOpen : call.impl.mode ≠ .closed)
      (rearmed : ServiceRearmed env engine call ret svc io) (negative : ret < 0) (msg : String) :
      SessionActivates call ret (sessionSetError env (call.setSvc svc io) ret .activate msg)
  | activated {ret : Int} {svc : TlsService E} {io : Io} {next : InCall E}
      (isOpen : call.impl.mode ≠ .closed) (rearmed : ServiceRearmed env engine call ret svc io)
      (notNegative : ¬ ret < 0)
      (same : InCall.SameCore ⟨call.impl.activated svc, call.ev, io⟩ next) :
      SessionActivates call 0 next

theorem sessionRearmTlsIfNeeded_spec (call : InCall E) :
    ∃ ret svc io, ServiceRearmed env engine call ret svc io ∧
      ((ret < 0 ∧ ∃ msg, sessionRearmTlsIfNeeded env engine call =
          sessionSetError env (call.setSvc svc io) ret .activate msg) ∨
        (¬ ret < 0 ∧ sessionRearmTlsIfNeeded env engine call = call.setSvc svc io)) := by
  by_cases broken : tlsServiceState call.impl.svc = .error
  · refine ⟨_, _, _, .replaced broken, ?_⟩
    unfold sessionRearmTlsIfNeeded
    rw [broken]
    dsimp only [tlsServiceFree, sessionTlsInit]
    split
    · rename_i negative
      exact Or.inl ⟨negative, _, rfl⟩
    · rename_i notNegative
      exact Or.inr ⟨notNegative, rfl⟩
  · refine ⟨_, _, _, .kept broken, Or.inr ⟨Int.lt_irrefl 0, ?_⟩⟩
    unfold sessionRearmTlsIfNeeded
    cases state : tlsServiceState call.impl.svc with
    | error => exact absurd state broken
    | init => rfl
    | connecting => rfl
    | connected => rfl
    | capturing => rfl
    | done => rfl

theorem sessionActivate_spec {call : InCall E} (clear : call.ev.sessionError = false) :
    SessionActivates env engine call (sessionActivate env engine call).1
      (sessionActivate env engine call).2 := by
  by_cases closed : call.impl.mode = .closed
  · have same : sessionActivate env engine call = (EINVAL.rc, call) := by
      simp [sessionActivate, sessionModeHasIo, closed]
    rw [same]
    exact .closed closed
  -- A failed session is taken for a ready one; the service does not see the difference.
  obtain ⟨mode, opens, readied⟩ : ∃ mode, mode ≠ .closed ∧
      (if call.impl.mode = .failed then call.setMode .ready else call) = call.setMode mode := by
    split
    · exact ⟨.ready, SessionMode.noConfusion, rfl⟩
    · exact ⟨call.impl.mode, closed, rfl⟩
  have hasIo : ¬ (!sessionModeHasIo call.impl) = true := by
    rw [sessionModeHasIo_of_open closed]
    exact Bool.false_ne_true
  obtain ⟨ret, svc, io, rearmedMode, outcome⟩ :=
    sessionRearmTlsIfNeeded_spec env engine (call.setMode mode)
  have rearmed : ServiceRearmed env engine call ret svc io := by
    cases rearmedMode with
    | kept working => exact .kept working
    | replaced broken => exact .replaced broken
  unfold sessionActivate
  rw [if_neg hasIo]
  dsimp only
  rw [readied]
  rcases outcome with ⟨negative, msg, outcome⟩ | ⟨notNegative, outcome⟩
  · rw [outcome]
    have failed := SessionActivates.failed closed rearmed negative msg
    have sameError : sessionSetError env ((call.setMode mode).setSvc svc io) ret .activate msg =
        sessionSetError env (call.setSvc svc io) ret .activate msg :=
      sessionSetError_setMode env (show (call.setSvc svc io).impl.mode ≠ .closed from closed) opens
        ret .activate msg
    rw [sameError]
    have reported : (sessionSetError env (call.setSvc svc io) ret .activate msg).ev.sessionError =
        true := rfl
    have code : (sessionSetError env (call.setSvc svc io) ret .activate msg).ev.errorCode = ret :=
      rfl
    rw [if_pos reported, code, if_pos (Int.ne_of_lt negative)]
    exact failed
  · rw [outcome]
    have notReported : ¬ ((call.setMode mode).setSvc svc io).ev.sessionError = true := by
      change ¬ call.ev.sessionError = true
      rw [clear]
      exact Bool.false_ne_true
    rw [if_neg notReported]
    exact .activated closed rearmed notNegative ⟨rfl, rfl, rfl, rfl, rfl⟩

/-- A restart of the service uses the device and starts a TLS session. -/
theorem ServiceRearmed.extends {allowed : Out → Prop} [Out.AdmitsRoutine allowed]
    (admitsStart : ∀ out : Out, out.isCommand CMD_TLS_SERVER_INIT → allowed out)
    {call : InCall E} {ret : Int} {svc : TlsService E} {io : Io}
    (rearmed : ServiceRearmed env engine call ret svc io) : call.io.Extends allowed io := by
  cases rearmed with
  | kept working => exact .refl call.io
  | replaced broken =>
      have flushed : call.io.Extends allowed _ := devFlushRxq_routine call.impl.fd call.io
      exact flushed.trans (tlsServiceInit_extends env call.impl.fd engine admitsStart _ none
        ⟨20000, true⟩ call.impl.psk)

/-! ## Opening -/

/-- A flow that has been initialised and not used. -/
structure FdtFlow.Unused (flow : FdtFlow) : Prop where
  mode : flow.mode = .idle
  retries : flow.waitUpRetries = 0

/-- A closed session holds nothing. -/
structure SessionImpl.Released (impl : SessionImpl E) : Prop where
  mode : impl.mode = .closed
  svc : impl.svc = none
  psk : impl.psk = none
  dark : impl.dark = none
  pendingImg : impl.pendingImg = none
  fdt : impl.fdt.Unused

theorem sessionResetRuntime_released (impl : SessionImpl E) (io : Io) :
    (sessionResetRuntime impl io).1.Released :=
  ⟨rfl, rfl, rfl, rfl, rfl, rfl, rfl⟩

/-- The world after a session has given up its device. -/
def Session.released (session : Session E) (io : Io) : Io :=
  match session with
  | none => io
  | some impl => (sessionResetRuntime impl io).2

theorem sessionResetRuntime_closed {impl : SessionImpl E} (closed : impl.mode = .closed) (io : Io) :
    (sessionResetRuntime impl io).2 = io := by
  simp [sessionResetRuntime, sessionModeHasIo, closed]

/-- An open session gives its device back. -/
theorem sessionResetRuntime_open {impl : SessionImpl E} (isOpen : impl.mode ≠ .closed) {fd : Nat}
    (fdEq : impl.fd = fd) (io : Io) : (sessionResetRuntime impl io).2 = io.emit (.closed fd) := by
  simp [sessionResetRuntime, sessionModeHasIo_of_open isOpen, devClose, fdEq]

/-- `session_ensure_impl` finds an implementation, makes one that is closed, or
has no memory for it. -/
theorem sessionEnsureImpl_cases (session : Session E) (io : Io) :
    (session = none ∧ sessionEnsureImpl env session io = (.error ENOMEM, io.tick)) ∨
      (∃ impl next, sessionEnsureImpl env session io = (.ok impl, next) ∧
        (session = some impl ∨ session = none ∧ impl.Released) ∧
        (sessionResetRuntime impl next).2.trace = (session.released io).trace) := by
  unfold sessionEnsureImpl
  cases session with
  | some impl => exact Or.inr ⟨impl, io, rfl, Or.inl rfl, rfl⟩
  | none =>
      dsimp only
      split
      · exact Or.inl ⟨rfl, rfl⟩
      · exact Or.inr ⟨_, _, rfl, Or.inr ⟨rfl, rfl, rfl, rfl, rfl, rfl, rfl, rfl⟩, rfl⟩

/-- `gxfp_session_open`, with the entries it may leave in the trace while it
holds the device. -/
inductive SessionOpens (allowed : Out → Prop) (session : Session E) (io : Io) (psk : List Byte) :
    OpenOut E → Prop
  /-- The argument check. -/
  | refused (noPsk : psk.length = 0) :
      SessionOpens allowed session io psk ⟨EINVAL.rc, session, io, none⟩
  | noMemory (hasPsk : psk.length ≠ 0) (absent : session = none) :
      SessionOpens allowed session io psk ⟨ENOMEM.rc, session, io.tick, none⟩
  | noDevice {out : OpenOut E} {impl : SessionImpl E} (hasPsk : psk.length ≠ 0)
      (negative : out.ret < 0) (sessionEq : out.session = some impl) (released : impl.Released)
      (trace : out.io.trace = (session.released io).trace) :
      SessionOpens allowed session io psk out
  /-- A later step fails, and the device is closed again. -/
  | failed {out : OpenOut E} {impl : SessionImpl E} {fd : Nat} {middle : Io}
      (hasPsk : psk.length ≠ 0) (negative : out.ret < 0) (sessionEq : out.session = some impl)
      (released : impl.Released)
      (used : ((session.released io).emit (.opened fd)).Extends allowed middle)
      (closed : out.io = middle.emit (.closed fd)) : SessionOpens allowed session io psk out
  | opened {out : OpenOut E} {impl : SessionImpl E} {fd : Nat} {service : TlsServiceImpl E}
      (hasPsk : psk.length ≠ 0) (zero : out.ret = 0) (sessionEq : out.session = some impl)
      (ready : impl.mode = .ready) (fdEq : impl.fd = fd) (svc : impl.svc = some service)
      (fresh : FreshService engine service) (manual : service.cfg.manualPendingRequest = true)
      (unused : impl.fdt.Unused) (dark : impl.dark = none) (pendingImg : impl.pendingImg = none)
      (used : ((session.released io).emit (.opened fd)).Extends allowed out.io) :
      SessionOpens allowed session io psk out

/-- A session on its way to be open. -/
structure SessionImpl.Opening (impl : SessionImpl E) (fd : Nat) : Prop where
  mode : impl.mode = .ready
  fd : impl.fd = fd
  svc : impl.svc = none
  dark : impl.dark = none
  pendingImg : impl.pendingImg = none

variable {env engine} {allowed : Out → Prop} {session : Session E} {io : Io} {psk : List Byte}

/-- An error return after the device is open. -/
theorem sessionOpenFail_opens {impl : SessionImpl E} {fd : Nat} {middle : Io} {rc : Int}
    (hasPsk : psk.length ≠ 0) (ready : impl.mode = .ready) (fdEq : impl.fd = fd)
    (used : ((session.released io).emit (.opened fd)).Extends allowed middle) (negative : rc < 0)
    (errbuf : Option String) :
    SessionOpens engine allowed session io psk (sessionOpenFail impl middle rc errbuf) := by
  have isOpen : impl.mode ≠ .closed := by
    rw [ready]
    exact SessionMode.noConfusion
  exact .failed hasPsk negative rfl (sessionResetRuntime_released impl middle) used
    (sessionResetRuntime_open isOpen fdEq middle)

variable (env engine)

theorem sessionEnsureTapIoBuffer_opening {impl : SessionImpl E} {fd : Nat}
    (opening : impl.Opening fd) (io : Io) :
    (sessionEnsureTapIoBuffer env impl io).2.1.Opening fd ∧
      io.Extends allowed (sessionEnsureTapIoBuffer env impl io).2.2 := by
  obtain ⟨mode, fdEq, svc, dark, pendingImg⟩ := opening
  unfold sessionEnsureTapIoBuffer
  split
  · exact ⟨⟨mode, fdEq, svc, dark, pendingImg⟩, .refl io⟩
  · split
    · exact ⟨⟨mode, fdEq, svc, dark, pendingImg⟩, (Io.Extends.refl io).tick⟩
    · exact ⟨⟨mode, fdEq, svc, dark, pendingImg⟩, (Io.Extends.refl io).tick⟩

theorem sessionBootstrap_opening {impl : SessionImpl E} {fd : Nat} (opening : impl.Opening fd)
    (io : Io) : (sessionBootstrap env impl io).2.1.Opening fd := by
  obtain ⟨fdt, otpCtx, implEq⟩ := sessionBootstrap_impl env impl io
  rw [implEq]
  exact ⟨opening.mode, opening.fd, opening.svc, opening.dark, opening.pendingImg⟩

theorem sessionOpen_spec [Out.AdmitsRoutine allowed]
    (admitsStart : ∀ out : Out, out.isCommand CMD_TLS_SERVER_INIT → allowed out)
    (session : Session E) (io : Io) (devPath : String) (psk : List Byte) (errbufLen : Nat) :
    SessionOpens engine allowed session io psk
      (sessionOpen env engine session io devPath psk errbufLen) := by
  unfold sessionOpen
  by_cases noPsk : psk.length = 0
  · rw [if_pos noPsk]
    exact .refused noPsk
  rw [if_neg noPsk]
  rcases sessionEnsureImpl_cases env session io with ⟨absent, ensured⟩ |
    ⟨impl, next, ensured, -, cleared⟩
  · rw [ensured]
    exact .noMemory noPsk absent
  rw [ensured]
  dsimp only
  have released := sessionResetRuntime_released impl next
  generalize sessionResetRuntime impl next = reset at released cleared ⊢
  unfold devOpen
  cases env.openDev reset.2.count with
  | error errno =>
      have negative : -(errno : Int) < 0 := Int.neg_neg_of_pos (Int.natCast_pos.mpr errno.pos)
      dsimp only
      rw [if_pos negative]
      exact .noDevice noPsk negative rfl
        ⟨released.mode, released.svc, released.psk, released.dark, released.pendingImg,
          released.fdt⟩
        cleared
  | ok fd =>
      dsimp only
      rw [if_neg (Int.lt_irrefl 0)]
      have holds : ((session.released io).emit (.opened fd)).Extends allowed
          (reset.2.emit (.opened fd)) :=
        ⟨[], congrArg (List.cons _) cleared, by simp⟩
      have started : ({ reset.1 with fd := (fd : Int), mode := .ready }).Opening fd :=
        ⟨rfl, rfl, released.svc, released.dark, released.pendingImg⟩
      obtain ⟨buffering, bufferUsed⟩ :=
        sessionEnsureTapIoBuffer_opening env started (reset.2.emit (.opened fd))
      have used := holds.trans bufferUsed
      generalize sessionEnsureTapIoBuffer env _ (reset.2.emit (.opened fd)) = buffered
        at buffering used ⊢
      by_cases bufferFailed : buffered.1 < 0
      · rw [if_pos bufferFailed]
        exact sessionOpenFail_opens noPsk buffering.mode buffering.fd used bufferFailed _
      rw [if_neg bufferFailed]
      have booting := sessionBootstrap_opening env buffering buffered.2.2
      have bootUsed := used.trans (sessionBootstrap_routine env buffered.2.1 buffered.2.2)
      generalize sessionBootstrap env buffered.2.1 buffered.2.2 = booted at booting bootUsed ⊢
      by_cases bootFailed : booted.1 < 0
      · rw [if_pos bootFailed]
        exact sessionOpenFail_opens noPsk booting.mode booting.fd bootUsed bootFailed _
      rw [if_neg bootFailed]
      by_cases noCopy : (!env.malloc booted.2.2.count) = true
      · rw [if_pos noCopy]
        exact sessionOpenFail_opens noPsk booting.mode booting.fd bootUsed.tick (rc_neg ENOMEM) _
      rw [if_neg noCopy]
      have initUsed := bootUsed.tick.trans (tlsServiceInit_extends env booted.2.1.fd engine
        admitsStart booted.2.2.tick booted.2.1.svc ⟨20000, true⟩ (some psk))
      have result := tlsServiceInit_result env booted.2.1.fd engine booted.2.2.tick booted.2.1.svc
        ⟨20000, true⟩ (some psk)
      have configured {service : TlsServiceImpl E} :=
        @tlsServiceInit_cfg _ env booted.2.1.fd engine booted.2.2.tick ⟨20000, true⟩ (some psk)
          service
      unfold sessionTlsInit
      rw [booting.svc] at initUsed result ⊢
      dsimp only at initUsed result ⊢
      generalize tlsServiceInit env booted.2.1.fd engine booted.2.2.tick none ⟨20000, true⟩
        (some psk) = init at initUsed result configured ⊢
      by_cases initFailed : init.1 < 0
      · rw [if_pos initFailed]
        exact sessionOpenFail_opens noPsk booting.mode booting.fd initUsed initFailed _
      rw [if_neg initFailed]
      cases result with
      | failed negative quiet => exact absurd negative initFailed
      | started absent fresh quiet sent trace =>
          have manual := congrArg TlsHsCfg.manualPendingRequest (configured rfl)
          exact .opened noPsk rfl rfl rfl booting.fd rfl fresh manual ⟨rfl, rfl⟩ booting.dark
            booting.pendingImg initUsed

/-! ## Closing -/

/-- `session_begin_cleanup`, with the entries a reset of the device may leave. -/
inductive SessionCleansUp (allowed : Out → Prop) (call next : InCall E) : CleanupGoal → Prop
  | closed (goal : CleanupGoal) (closed : call.impl.mode = .closed) (same : call.SameCore next) :
      SessionCleansUp allowed call next goal
  | stopped (isOpen : call.impl.mode ≠ .closed) (same : (call.setMode .ready).SameCore next) :
      SessionCleansUp allowed call next .deactivate
  | released {middle : Io} (isOpen : call.impl.mode ≠ .closed)
      (used : call.io.Extends allowed middle)
      (same : InCall.SameCore
        ⟨(sessionResetRuntime (call.setMode .ready).impl middle).1, call.ev,
          (sessionResetRuntime (call.setMode .ready).impl middle).2⟩ next) :
      SessionCleansUp allowed call next .close

theorem sessionBeginCleanup_spec [Out.AdmitsRoutine allowed] (call : InCall E) (goal : CleanupGoal)
    (resetMcu : Bool) :
    SessionCleansUp allowed call (sessionBeginCleanup env call goal resetMcu) goal := by
  by_cases closed : call.impl.mode = .closed
  · have kept : sessionStopRun call.impl = call.impl := by
      simp [sessionStopRun, closed]
    have noIo : (!sessionModeHasIo call.impl) = true := by
      simp [sessionModeHasIo, closed]
    apply SessionCleansUp.closed goal closed
    unfold sessionBeginCleanup
    dsimp only
    rw [kept, if_pos noIo]
    cases goal with
    | deactivate => exact ⟨rfl, rfl, rfl, rfl, rfl⟩
    | close => exact ⟨rfl, rfl, rfl, rfl, rfl⟩
  · have stopped : sessionStopRun call.impl = (call.setMode .ready).impl := by
      unfold sessionStopRun
      rw [if_pos closed]
      rfl
    have hasIo : ¬ (!sessionModeHasIo (call.setMode .ready).impl) = true := Bool.false_ne_true
    unfold sessionBeginCleanup
    dsimp only
    rw [stopped, if_neg hasIo]
    cases goal with
    | deactivate => exact .stopped closed ⟨rfl, rfl, rfl, rfl, rfl⟩
    | close =>
        dsimp only
        split
        · exact .released closed (deviceRecovery_routine env call.impl.fd call.io true true false)
            ⟨rfl, rfl, rfl, rfl, rfl⟩
        · exact .released closed (.refl call.io) ⟨rfl, rfl, rfl, rfl, rfl⟩

end Calls

end Gxfp.User
