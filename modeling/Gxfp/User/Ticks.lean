import Gxfp.User.Recovery
import Gxfp.User.SessionModes

/-!
# No session waits without a tick

The driver wakes a session only by the ticks it asks for.  A call that leaves
the session in one of its running modes asks for one, unless the TLS service
has failed with an error that `session_poll_tls` takes for "would block".  The
service keeps such an error only if the write of a `GET_IMAGE` command returned
it.
-/

namespace Gxfp.User

open Lib
open Lib.Bytes
open Lib.Execution
open Gxfp.Errno

/-! ## Errors of the service -/

/-- No write of `GET_IMAGE` returned `-EAGAIN`. -/
def ImageWritesDefinite (trace : List Out) : Prop :=
  ∀ buf, Out.write buf EAGAIN.rc ∈ trace → ¬ (Out.write buf EAGAIN.rc).isCommand CMD_GET_IMAGE

/-- The entry is not such a write. -/
def Out.isDefinite : Out → Bool
  | .write buf rc => ¬ (rc = EAGAIN.rc ∧ (Out.write buf rc).isCommand CMD_GET_IMAGE)
  | _ => true

theorem imageWritesDefinite_iff {trace : List Out} :
    ImageWritesDefinite trace ↔ ∀ out ∈ trace, out.isDefinite = true := by
  constructor
  · intro definite out member
    cases out with
    | write buf rc =>
        apply decide_eq_true
        rintro ⟨rfl, isCommand⟩
        exact definite buf member isCommand
    | _ => rfl
  · intro definite buf member isCommand
    exact of_decide_eq_true (definite _ member) ⟨rfl, isCommand⟩

instance (trace : List Out) : Decidable (ImageWritesDefinite trace) :=
  decidable_of_iff _ imageWritesDefinite_iff.symm

theorem ImageWritesDefinite.suffix {older trace : List Out}
    (definite : ImageWritesDefinite trace) (grown : older <:+ trace) :
    ImageWritesDefinite older := by
  intro buf member
  exact definite buf (grown.subset member)

section Ticks

variable {E : Type}

/-- A failed service keeps a negative error that is not `-EAGAIN`. -/
def ErrorsDefinite (world : ServiceWorld E) : Prop :=
  ∀ impl, world.1 = some impl → impl.state = .error → impl.err < 0 ∧ impl.err ≠ EAGAIN.rc

theorem ServiceMove.errorsDefinite {before after : ServiceWorld E}
    (move : ServiceMove before after) (images : ImageWritesDefinite after.2.trace)
    (errors : ErrorsDefinite before) : ErrorsDefinite after := by
  intro impl implEq state
  cases move with
  | quiet quiet => exact errors impl implEq state
  | recovery svc io => exact errors impl implEq state
  | free svc io => cases implEq
  | start connecting sent =>
      cases implEq
      rw [connecting] at state
      cases state
  | same io stateEq err =>
      cases implEq
      rw [err]
      exact errors _ rfl (stateEq.symm.trans state)
  | connect io connecting connected =>
      cases implEq
      rw [connected] at state
      cases state
  | request io ready connected =>
      cases implEq
      rw [connected] at state
      cases state
  | finish io capturing done =>
      cases implEq
      rw [done] at state
      cases state
  | fail io error negative definite =>
      cases implEq
      exact ⟨negative, definite⟩
  | capture connected isCommand capturing =>
      cases implEq
      rw [capturing] at state
      cases state
  | captureFail connected isCommand error negative again =>
      cases implEq
      refine ⟨negative, ?_⟩
      intro isAgain
      obtain ⟨buf, rfl⟩ := again isAgain
      exact images buf List.mem_cons_self isCommand

theorem ServiceMoves.errorsDefinite {before after : ServiceWorld E}
    (moves : ServiceMoves before after) (images : ImageWritesDefinite after.2.trace)
    (errors : ErrorsDefinite before) : ErrorsDefinite after := by
  induction moves with
  | refl => exact errors
  | tail _ move ih => exact move.errorsDefinite images (ih (images.suffix move.trace_suffix))

variable (env : Env) (engine : TlsEngine E)

theorem svcCaptureStep_error_ret (fd : Int) (io : Io) {impl : TlsServiceImpl E}
    (capturing : impl.state = .capturing)
    (error : (svcCaptureStep env fd engine io impl).2.1.state = .error) :
    (svcCaptureStep env fd engine io impl).1 = (svcCaptureStep env fd engine io impl).2.1.err := by
  have ended := svcPullLoop_end env fd engine (engine.pending impl.engine + 1) io impl false
  unfold svcCaptureStep at error ⊢
  dsimp only at error ⊢
  generalize svcPullLoop env fd engine (engine.pending impl.engine + 1) io impl false = loop
    at ended error ⊢
  rcases ended with ⟨ret, state, err⟩ | ⟨ret, state, held⟩ | ⟨rc, ret, -, -, state, err⟩
  · rw [ret] at error ⊢
    have stillCapturing : loop.impl.state = .capturing := state.trans capturing
    dsimp only at error ⊢
    split at error
    · rw [stillCapturing] at error
      cases error
    · rename_i idle
      rw [if_neg idle]
      split at error
      · rename_i timedOut
        rw [if_pos timedOut]
        rfl
      · rw [stillCapturing] at error
        cases error
  · rw [ret] at error
    rw [state] at error
    cases error
  · rw [ret]
    exact err.symm

theorem svcHandshakeStep_error_ret (fd : Int) (io : Io) {impl : TlsServiceImpl E}
    (connecting : impl.state = .connecting)
    (error : (svcHandshakeStep env fd engine io impl).2.1.state = .error) :
    (svcHandshakeStep env fd engine io impl).1 =
      (svcHandshakeStep env fd engine io impl).2.1.err := by
  unfold svcHandshakeStep at error ⊢
  generalize (engine.handshakeStep impl.engine).run (sendTlsRecordCb env fd) io = out at error ⊢
  dsimp only at error ⊢
  split at error
  · cases error
  · rename_i notOne
    rw [if_neg notOne]
    split at error
    · rename_i again
      rw [if_pos again]
      split at error
      · rename_i late
        rw [if_pos late]
        rfl
      · rw [connecting] at error
        cases error
    · rename_i definite
      rw [if_neg definite]
      rfl

/-- A step that leaves the service failed returns its error. -/
theorem svcStep_error_ret (fd : Int) (io : Io) (impl : TlsServiceImpl E)
    (error : (svcStep env fd engine io impl).2.1.state = .error)
    (negative : (svcStep env fd engine io impl).2.1.err < 0) :
    (svcStep env fd engine io impl).1 = (svcStep env fd engine io impl).2.1.err := by
  unfold svcStep at error negative ⊢
  cases state : impl.state with
  | error =>
      rw [state] at negative
      exact if_pos (Int.ne_of_lt negative)
  | connecting =>
      rw [state] at error
      exact svcHandshakeStep_error_ret env engine fd io state error
  | capturing =>
      rw [state] at error
      exact svcCaptureStep_error_ret env engine fd io state error
  | connected =>
      rw [state] at error
      dsimp only at error ⊢
      split at error
      · rename_i ready
        rw [if_pos ready]
        split at error
        · rename_i unsent
          rw [if_pos unsent]
          rfl
        · rename_i sent
          rw [if_neg sent]
          exact svcCaptureStep_error_ret env engine fd _ rfl error
      · rw [state] at error
        cases error
  | done =>
      rw [state] at error
      dsimp only at error
      rw [state] at error
      cases error
  | init =>
      rw [state] at error
      dsimp only at error
      rw [state] at error
      cases error

/-! ## Polling -/

/-- What polling leaves behind: the error path, or the mode and the error flag
as they were and either a tick or a service that has not failed. -/
structure InCall.Polled (before after : InCall E) : Prop where
  mode : after.impl.mode = before.impl.mode
  sessionError : after.ev.sessionError = before.ev.sessionError
  tick : after.ev.requestTick = true ∨ tlsServiceState after.impl.svc ≠ .error

/-- A step whose result ends the polling has not left the service failed. -/
theorem tlsServiceStep_not_error (fd : Int) (io : Io) (svc : TlsService E)
    (errors : ErrorsDefinite (tlsServiceStep env fd engine io svc).2)
    (ends : (tlsServiceStep env fd engine io svc).1 = EAGAIN.rc ∨
      (tlsServiceStep env fd engine io svc).1 = 1) :
    tlsServiceState (tlsServiceStep env fd engine io svc).2.1 ≠ .error := by
  intro error
  cases svc with
  | none => cases error
  | some impl =>
      obtain ⟨negative, definite⟩ := errors _ rfl error
      have ret : (tlsServiceStep env fd engine io (some impl)).1 = _ :=
        svcStep_error_ret env engine fd io impl error negative
      rcases ends with again | one
      · exact definite (ret.symm.trans again)
      · have isOne := ret.symm.trans one
        rw [isOne] at negative
        cases negative

theorem sessionPollLoop_polled (rounds : Nat) (call : InCall E)
    (last : rounds = 0 → call.ev.requestTick = true) (errors : ErrorsDefinite call.world)
    (images : ImageWritesDefinite (sessionPollLoop env engine rounds call).io.trace) :
    (sessionPollLoop env engine rounds call).Failed ∨
      call.Polled (sessionPollLoop env engine rounds call) := by
  induction rounds generalizing call with
  | zero => exact Or.inr ⟨rfl, rfl, Or.inl (last rfl)⟩
  | succ rounds ih =>
      have moved := tlsServiceStep_moves env call.impl.fd engine call.io call.impl.svc
      have notError := tlsServiceStep_not_error env engine call.impl.fd call.io call.impl.svc
      unfold sessionPollLoop at images ⊢
      dsimp only at images ⊢
      generalize tlsServiceStep env call.impl.fd engine call.io call.impl.svc = stepped
        at moved notError images ⊢
      split at images
      · rename_i ends
        rw [if_pos ends]
        exact Or.inr ⟨rfl, rfl, Or.inr (notError (moved.errorsDefinite images errors) ends)⟩
      · rename_i goesOn
        rw [if_neg goesOn]
        split at images
        · rename_i negative
          rw [if_pos negative]
          exact Or.inl (sessionSetError_failed env _ _ _ _)
        · rename_i notNegative
          rw [if_neg notNegative]
          generalize nextEq : (if rounds = 0 then
              (call.setSvc stepped.2.1 stepped.2.2).requestTick 0
            else call.setSvc stepped.2.1 stepped.2.2) = next at images ⊢
          have nextWorld : next.world = stepped.2 := by
            rw [← nextEq]
            split
            · rfl
            · rfl
          have nextMode : next.impl.mode = call.impl.mode := by
            rw [← nextEq]
            split
            · rfl
            · rfl
          have nextError : next.ev.sessionError = call.ev.sessionError := by
            rw [← nextEq]
            split
            · rfl
            · rfl
          have nextLast : rounds = 0 → next.ev.requestTick = true := by
            intro none
            rw [← nextEq, if_pos none]
            rfl
          have grown : stepped.2.2.trace <:+ (sessionPollLoop env engine rounds next).io.trace := by
            rw [← nextWorld]
            exact (sessionPollLoop_moves env engine rounds next).trace_suffix
          have nextErrors : ErrorsDefinite next.world := by
            rw [nextWorld]
            exact moved.errorsDefinite (images.suffix grown) errors
          rcases ih next nextLast nextErrors images with failed | polled
          · exact Or.inl failed
          · exact Or.inr ⟨polled.mode.trans nextMode, polled.sessionError.trans nextError,
              polled.tick⟩

/-! ## The end of a pump -/

/-- The modes in which a session needs a tick to go on. -/
def SessionMode.needsTick (mode : SessionMode) : Bool :=
  mode = .activatingTls ∨ mode = .activatingWaitUp ∨ mode = .activatingDarkCapture ∨
    mode = .waitFingerOn ∨ mode = .capturing ∨ mode = .waitFingerOff

/-- A call that leaves the session running has asked for a tick. -/
def InCall.Ticks (call : InCall E) : Prop :=
  call.impl.mode.needsTick = true → call.ev.requestTick = true

theorem InCall.Ticks.of_mode {call : InCall E} (stopped : call.impl.mode.needsTick = false) :
    call.Ticks := by
  intro running
  rw [stopped] at running
  cases running

theorem InCall.Failed.ticks {call : InCall E} (failed : call.Failed) : call.Ticks := by
  apply InCall.Ticks.of_mode
  rw [failed.mode]
  rfl

/-- When the last part of a pump leaves a tick. -/
theorem sessionPumpTick_requestTick (call : InCall E) :
    (sessionPumpTick call).ev.requestTick = true ↔
      call.ev.requestTick = true ∨
        (call.impl.mode = .activatingTls ∧ tlsServiceState call.impl.svc ≠ .connected ∧
          tlsServiceState call.impl.svc ≠ .error) ∨
        (call.impl.mode.isCapture = true ∧ tlsServiceState call.impl.svc ≠ .done ∧
          tlsServiceState call.impl.svc ≠ .error) ∨
        (call.impl.mode = .waitFingerOn ∨ call.impl.mode = .waitFingerOff ∨
          call.impl.mode = .activatingWaitUp) := by
  simp only [sessionPumpTick, InCall.tickIf_requestTick, InCall.tickIf_impl, Bool.or_eq_true,
    decide_eq_true_eq, or_assoc]

/-- What decides whether the last part of a pump asks for a tick. -/
structure InCall.Watched (call : InCall E) : Prop where
  notError : tlsServiceState call.impl.svc ≠ .error
  activating : call.impl.mode = .activatingTls → tlsServiceState call.impl.svc ≠ .connected
  capture : call.impl.mode.isCapture = true → tlsServiceState call.impl.svc ≠ .done

theorem sessionPumpTick_ticks {call : InCall E} (watched : call.Watched) :
    (sessionPumpTick call).Ticks := by
  intro running
  rw [sessionPumpTick_impl] at running
  rw [sessionPumpTick_requestTick]
  right
  rcases of_decide_eq_true running with mode | mode | mode | mode | mode | mode
  · exact Or.inl ⟨mode, watched.activating mode, watched.notError⟩
  · exact Or.inr (Or.inr (Or.inr (Or.inr mode)))
  · have isCapture : call.impl.mode.isCapture = true := by rw [mode]; rfl
    exact Or.inr (Or.inl ⟨isCapture, watched.capture isCapture, watched.notError⟩)
  · exact Or.inr (Or.inr (Or.inl mode))
  · have isCapture : call.impl.mode.isCapture = true := by rw [mode]; rfl
    exact Or.inr (Or.inl ⟨isCapture, watched.capture isCapture, watched.notError⟩)
  · exact Or.inr (Or.inr (Or.inr (Or.inl mode)))

/-- The end of a pump asks for a tick if one has been asked for already, or if
the service has not failed and an activation is not ready to go on. -/
theorem sessionPumpEnd_ticks {call : InCall E} (clear : call.ev.sessionError = false)
    (tick : call.ev.requestTick = true ∨
      tlsServiceState call.impl.svc ≠ .error ∧
        (call.impl.mode = .activatingTls → tlsServiceState call.impl.svc ≠ .connected)) :
    (sessionPumpEnd env call).Ticks := by
  unfold sessionPumpEnd
  by_cases isCapture : call.impl.mode.isCapture = true
  · rw [if_pos isCapture]
    rcases sessionFinalizeCapture_cases env
        (if call.impl.mode = .capturing then .capture else .activate) clear with
      ⟨notDone, same⟩ | failed | idle
    · rw [same]
      rcases tick with requested | ⟨notError, activating⟩
      · intro _
        rw [sessionPumpTick_requestTick]
        exact Or.inl requested
      · exact sessionPumpTick_ticks ⟨notError, activating, fun _ => notDone⟩
    · apply InCall.Ticks.of_mode
      rw [sessionPumpTick_impl, failed]
      rfl
    · apply InCall.Ticks.of_mode
      rw [sessionPumpTick_impl, idle]
      rfl
  · rw [if_neg isCapture]
    rcases tick with requested | ⟨notError, activating⟩
    · intro _
      rw [sessionPumpTick_requestTick]
      exact Or.inl requested
    · exact sessionPumpTick_ticks ⟨notError, activating, fun yes => absurd yes isCapture⟩

/-! ## Calls -/

theorem sessionPump_ticks {call : InCall E} (actionCancelled : Bool) (errorsFail : call.ErrorsFail)
    (errors : ErrorsDefinite call.world)
    (images : ImageWritesDefinite (sessionPump env engine call actionCancelled).io.trace) :
    (sessionPump env engine call actionCancelled).Ticks := by
  unfold sessionPump at images ⊢
  split at images
  · rename_i stopped
    rw [if_pos stopped]
    apply InCall.Ticks.of_mode
    rcases of_decide_eq_true stopped with mode | mode | mode
    all_goals rw [mode]; rfl
  · rename_i running
    rw [if_neg running]
    have working : call.impl.mode ≠ .failed := by
      intro failed
      rw [failed] at running
      exact running rfl
    have clear := errorsFail.clear working
    split at images
    · rename_i cancelled
      rw [if_pos cancelled]
      exact InCall.Ticks.of_mode rfl
    · rename_i notCancelled
      rw [if_neg notCancelled]
      have polledCases : ImageWritesDefinite (sessionPollTls env engine call).io.trace →
          (sessionPollTls env engine call).Failed ∨ call.Polled (sessionPollTls env engine call) :=
        sessionPollLoop_polled env engine 64 call (fun impossible => by cases impossible) errors
      dsimp only at images ⊢
      generalize sessionPollTls env engine call = polled at polledCases images ⊢
      by_cases reported : polled.ev.sessionError = true
      · rw [if_pos reported] at images ⊢
        rcases polledCases images with failed | kept
        · exact failed.ticks
        · rw [kept.sessionError, clear] at reported
          cases reported
      · rw [if_neg reported] at images ⊢
        have polledClear : polled.ev.sessionError = false := Bool.eq_false_of_not_eq_true reported
        rcases sessionMaybeFinishActivation_cases env polledClear with ⟨same, activating⟩ |
          ⟨-, tick, finishedClear⟩ | failed
        · rw [same, if_neg reported] at images ⊢
          rcases sessionPollFdt_cases env polled with ⟨done, flowed⟩ | ⟨negative, failed⟩
          · rw [if_neg (Int.not_lt.mpr done)] at images ⊢
            have grown : polled.Moves (sessionPumpEnd env (sessionPollFdt env polled).2) :=
              (sessionPollFdt_moves env polled).trans (sessionPumpEnd_moves env _)
            rcases polledCases (images.suffix grown.trace_suffix) with failed | kept
            · exact absurd failed.sessionError reported
            · apply sessionPumpEnd_ticks
              · rw [flowed.ev]
                exact polledClear
              · rw [flowed.ev, flowed.svc, flowed.mode]
                rcases kept.tick with tick | notError
                · exact Or.inl tick
                · exact Or.inr ⟨notError, fun mode => (activating mode).1⟩
          · rw [if_pos negative]
            exact failed.ticks
        · generalize sessionMaybeFinishActivation env polled = finished at tick finishedClear ⊢
          rw [if_neg (Bool.not_eq_true _ ▸ finishedClear)]
          rcases sessionPollFdt_cases env finished with ⟨done, flowed⟩ | ⟨negative, failed⟩
          · rw [if_neg (Int.not_lt.mpr done)]
            apply sessionPumpEnd_ticks
            · rw [flowed.ev]
              exact finishedClear
            · rw [flowed.ev]
              exact Or.inl tick
          · rw [if_pos negative]
            exact failed.ticks
        · rw [if_pos failed.sessionError]
          exact failed.ticks

theorem sessionOnFd_ticks {call : InCall E} (condition : UInt32) (actionCancelled : Bool)
    (clear : call.ev.sessionError = false) (errors : ErrorsDefinite call.world)
    (images : ImageWritesDefinite
      (sessionOnFd env engine call condition actionCancelled).io.trace) :
    (sessionOnFd env engine call condition actionCancelled).Ticks := by
  unfold sessionOnFd at images ⊢
  split at images
  · rename_i stopped
    rw [if_pos stopped]
    apply InCall.Ticks.of_mode
    rcases of_decide_eq_true stopped with mode | mode | mode
    all_goals rw [mode]; rfl
  · rename_i running
    rw [if_neg running]
    split at images
    · rename_i bad
      rw [if_pos bad]
      exact (sessionSetError_failed env _ _ _ _).ticks
    · rename_i good
      rw [if_neg good]
      dsimp only at images ⊢
      have reading : call.Moves { call with io := call.io.emit .read } :=
        .quiet ((Io.Extends.refl call.io).emit Out.AdmitsRoutine.read)
      have readErrors : InCall.ErrorsFail { call with io := call.io.emit .read } := by
        intro reported
        rw [clear] at reported
        cases reported
      have loopMoves := reading.trans (sessionOnFdLoop_moves env engine (env.reads call.io.count) _)
      have loopErrors := sessionOnFdLoop_errorsFail env engine (env.reads call.io.count) readErrors
      generalize sessionOnFdLoop env engine (env.reads call.io.count) _ = fed
        at images loopMoves loopErrors ⊢
      have grown := (sessionPump_moves env engine fed actionCancelled).trace_suffix
      exact sessionPump_ticks env engine actionCancelled loopErrors
        (ServiceMoves.errorsDefinite loopMoves (images.suffix grown) errors) images

theorem sessionAwait_ticks {call : InCall E} (mode : SessionMode) (fdtMode : FdtMode)
    (clear : call.ev.sessionError = false) : (sessionAwait env call mode fdtMode).Ticks := by
  unfold sessionAwait
  dsimp only
  rcases sessionSetFdtMode_cases env (call.setMode mode) fdtMode with kept | failed
  · have stillClear :
        (!(sessionSetFdtMode env (call.setMode mode) fdtMode).ev.sessionError) = true := by
      rw [kept.ev]
      exact congrArg Bool.not clear
    rw [if_pos stillClear]
    intro _
    rfl
  · have reported :
        ¬ (!(sessionSetFdtMode env (call.setMode mode) fdtMode).ev.sessionError) = true := by
      rw [failed.sessionError]
      exact Bool.false_ne_true
    rw [if_neg reported]
    exact failed.ticks

theorem sessionStartCapture_ticks (call : InCall E) : (sessionStartCapture env call).Ticks := by
  unfold sessionStartCapture
  split
  · exact (sessionSetError_failed env _ _ _ _).ticks
  · dsimp only
    split
    · exact (sessionSetError_failed env _ _ _ _).ticks
    · intro _
      rfl

/-- A session that is made idle or is stopped does not run. -/
theorem sessionSetFdtMode_ticks {call : InCall E} (fdtMode : FdtMode)
    (stopped : call.impl.mode.needsTick = false) : (sessionSetFdtMode env call fdtMode).Ticks := by
  rcases sessionSetFdtMode_cases env call fdtMode with kept | failed
  · apply InCall.Ticks.of_mode
    rw [kept.mode]
    exact stopped
  · exact failed.ticks

theorem sessionChangeState_ticks {call : InCall E} (state : SessionState)
    (clear : call.ev.sessionError = false) : (sessionChangeState env call state).Ticks := by
  unfold sessionChangeState
  split
  · rename_i stopped
    apply InCall.Ticks.of_mode
    rcases stopped with closed | failed
    · have mode : call.impl.mode = .closed := by simpa [sessionModeHasIo] using closed
      rw [mode]
      rfl
    · rw [failed]
      rfl
  · cases state with
    | awaitFingerOn => exact sessionAwait_ticks env _ _ clear
    | capture => exact sessionStartCapture_ticks env call
    | awaitFingerOff => exact sessionAwait_ticks env _ _ clear
    | idle => exact sessionSetFdtMode_ticks env .idle rfl
    | inactive =>
        apply sessionSetFdtMode_ticks env .idle
        by_cases closed : call.impl.mode = .closed
        · simp [sessionStopRun, closed, SessionMode.needsTick]
        · simp [sessionStopRun, closed, SessionMode.needsTick]

theorem sessionActivate_ticks {call : InCall E}
    (returned : (sessionActivate env engine call).1 = 0) :
    (sessionActivate env engine call).2.Ticks := by
  unfold sessionActivate at returned ⊢
  split at returned
  · cases returned
  · rename_i isOpen
    rw [if_neg isOpen]
    dsimp only at returned ⊢
    generalize sessionRearmTlsIfNeeded env engine _ = rearmed at returned ⊢
    split at returned
    · dsimp only at returned
      split at returned
      · rename_i nonzero
        exact absurd returned nonzero
      · cases returned
    · rename_i clear
      rw [if_neg clear]
      intro _
      rfl

/-! ## Runs -/

/-- The calls by which the driver drives a session. -/
def SessionCall.drives : SessionCall → Bool
  | .activate => true
  | .changeState _ => true
  | .onFd _ _ => true
  | .pump _ => true
  | _ => false

/-- A call of the driver that returns in a running mode has asked for a tick. -/
def AsksForTick (transition : Transition (SessionRun E) SessionCall SessionOut) : Prop :=
  transition.input.drives = true → (transition.input = .activate → transition.output.ret = 0) →
    ∀ impl, transition.after.session = some impl → impl.mode.needsTick = true →
      transition.output.ev.requestTick = true

/-- A call on a session keeps the promise of its body. -/
theorem SessionRun.within_ticks (run : SessionRun E) (absent : Int)
    (body : InCall E → Int × InCall E)
    (ticks : ∀ impl, run.session = some impl →
      (body ⟨impl, sessionEventsClear, run.io⟩).2.Ticks) :
    ∀ impl, (run.within absent body).1.session = some impl → impl.mode.needsTick = true →
      (run.within absent body).2.ev.requestTick = true := by
  rcases run with ⟨session, io⟩
  cases session with
  | none =>
      intro impl impossible
      cases impossible
  | some before =>
      intro impl implEq
      cases implEq
      exact ticks before rfl

theorem sessionStep_asksForTick (run : SessionRun E) (call : SessionCall)
    (errors : ErrorsDefinite run.world)
    (images : ImageWritesDefinite (sessionStep env engine run call).1.io.trace) :
    AsksForTick (stepTransition (sessionStep env engine) run call) := by
  intro drives returned
  cases call with
  | activate =>
      apply run.within_ticks
      intro impl present
      apply sessionActivate_ticks
      have ret := returned rfl
      simp only [stepTransition, sessionStep, SessionRun.within, present] at ret
      exact ret
  | changeState state =>
      apply run.within_ticks
      intro impl present
      exact sessionChangeState_ticks env state rfl
  | onFd condition actionCancelled =>
      apply run.within_ticks
      intro impl present
      simp only [sessionStep, SessionRun.within, present] at images
      simp only [SessionRun.world, present] at errors
      exact sessionOnFd_ticks env engine condition actionCancelled rfl errors images
  | pump actionCancelled =>
      apply run.within_ticks
      intro impl present
      simp only [sessionStep, SessionRun.within, present] at images
      simp only [SessionRun.world, present] at errors
      exact sessionPump_ticks env engine actionCancelled (fun impossible => by cases impossible)
        errors images
  | _ => cases drives

end Ticks

/-! ## Two runs -/

end Gxfp.User
