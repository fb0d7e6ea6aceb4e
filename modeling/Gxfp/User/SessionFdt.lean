import Gxfp.User.Recovery
import Gxfp.User.SessionModes

/-!
# Waits arm the sensor

A wait of a session arms finger detection with two commands, unless the FDT
flow is already in the mode it asks for.  The flow leaves finger-down detection
with every other state the session is put into, and no other call brings it
back; so a new wait for a finger arms the sensor again once the session has
waited for the last one to leave.
-/

namespace Gxfp.User

open Lib
open Lib.Bytes
open Lib.Execution
open Gxfp.Errno

/-! ## Commands of the flow -/

/-- Between two worlds an `FDT_MODE` command was sent, then the given one, and
nothing else. -/
def Armed (cmd : Byte) (before after : Io) : Prop :=
  ∃ mode arm, after.trace = arm :: mode :: before.trace ∧ mode.sentCommand CMD_FDT_MODE ∧
    arm.sentCommand cmd

section Flow

variable (env : Env) (fd : Int)

/-- A successful change of the flow into a wait has sent its two commands. -/
theorem fdtFlowSetMode_commands (io : Io) (flow : FdtFlow) {mode : FdtMode}
    (different : mode ≠ flow.mode) (isWait : mode ≠ .idle)
    (returned : ¬ (fdtFlowSetMode env fd io flow mode).1 < 0) :
    Armed mode.armCmd io (fdtFlowSetMode env fd io flow mode).2.2 := by
  have result := fdtFlowSetMode_modeSet env fd io flow mode
  generalize fdtFlowSetMode env fd io flow mode = out at result returned ⊢
  cases result with
  | kept same => exact absurd same different
  | idle isIdle => exact absurd isIdle isWait
  | notModed cmd modedResult negative => exact absurd negative returned
  | notArmed cmd modedResult armedResult negative => exact absurd negative returned
  | armed modedResult modedSent armedResult armedSent reached traceEq clocked =>
      obtain ⟨first, firstTrace, firstSent⟩ := modedResult.sent_of_not_neg modedSent
      obtain ⟨second, secondTrace, secondSent⟩ := armedResult.sent_of_not_neg armedSent
      refine ⟨first, second, ?_, firstSent, secondSent⟩
      rw [traceEq, secondTrace, firstTrace]

end Flow

/-! ## The flow of a session -/

section Session

variable {E : Type} (env : Env) (engine : TlsEngine E)

theorem sessionSetFdtMode_fdtMode (call : InCall E) (mode : FdtMode) :
    (sessionSetFdtMode env call mode).impl.fdt.mode = call.impl.fdt.mode ∨
      (sessionSetFdtMode env call mode).impl.fdt.mode = mode := by
  have flowed := fdtFlowSetMode_mode env call.impl.fd call.io call.impl.fdt mode
  unfold sessionSetFdtMode
  split
  · exact Or.inl rfl
  · generalize fdtFlowSetMode env call.impl.fd call.io call.impl.fdt mode = out at flowed ⊢
    have moved : out.2.1.mode = call.impl.fdt.mode ∨ out.2.1.mode = mode := by
      rcases flowed with reached | ⟨-, kept⟩
      · exact Or.inr reached
      · exact Or.inl kept
    dsimp only
    split
    · exact moved
    · exact moved

/-- A change of the flow without an error has sent what it takes. -/
theorem sessionSetFdtMode_armed {call : InCall E} {mode : FdtMode}
    (isOpen : call.impl.mode ≠ .closed) (different : mode ≠ call.impl.fdt.mode)
    (isWait : mode ≠ .idle)
    (clear : (sessionSetFdtMode env call mode).ev.sessionError = false) :
    Armed mode.armCmd call.io (sessionSetFdtMode env call mode).io := by
  have hasIo : ¬ (!sessionModeHasIo call.impl) = true := by simpa [sessionModeHasIo] using isOpen
  have commands := fdtFlowSetMode_commands env call.impl.fd call.io call.impl.fdt different isWait
  unfold sessionSetFdtMode at clear ⊢
  rw [if_neg hasIo] at clear ⊢
  generalize fdtFlowSetMode env call.impl.fd call.io call.impl.fdt mode = out at commands clear ⊢
  dsimp only at clear ⊢
  split at clear
  · cases clear
  · rename_i notNegative
    rw [if_neg notNegative]
    exact commands notNegative

theorem sessionRearmTlsIfNeeded_fdt (call : InCall E) :
    (sessionRearmTlsIfNeeded env engine call).impl.fdt = call.impl.fdt := by
  unfold sessionRearmTlsIfNeeded
  cases tlsServiceState call.impl.svc with
  | error =>
      dsimp only
      split
      · rfl
      · rfl
  | _ => rfl

theorem sessionActivate_fdtMode (call : InCall E) :
    (sessionActivate env engine call).2.impl.fdt.mode = call.impl.fdt.mode ∨
      (sessionActivate env engine call).2.impl.fdt.mode = .idle := by
  have rearmed : (sessionRearmTlsIfNeeded env engine
      (if call.impl.mode = .failed then call.setMode .ready else call)).impl.fdt =
      call.impl.fdt := by
    rw [sessionRearmTlsIfNeeded_fdt]
    split
    · rfl
    · rfl
  unfold sessionActivate
  split
  · exact Or.inl rfl
  · dsimp only
    generalize sessionRearmTlsIfNeeded env engine _ = after at rearmed ⊢
    split
    · exact Or.inl (congrArg FdtFlow.mode rearmed)
    · exact Or.inr rfl

theorem sessionMaybeFinishActivation_fdtMode (call : InCall E) :
    (sessionMaybeFinishActivation env call).impl.fdt.mode = call.impl.fdt.mode ∨
      (sessionMaybeFinishActivation env call).impl.fdt.mode = .waitUp := by
  unfold sessionMaybeFinishActivation
  split
  · exact Or.inl rfl
  · split
    · exact Or.inl rfl
    · have flowed := sessionSetFdtMode_fdtMode env call .waitUp
      dsimp only
      split
      · exact flowed
      · exact flowed

theorem sessionFinishDark_fdtMode (call : InCall E) (img : DecodedImage) :
    (sessionFinishDark env call img).impl.fdt.mode = call.impl.fdt.mode ∨
      (sessionFinishDark env call img).impl.fdt.mode = .idle := by
  have loaded : (sessionSetDarkFromImage env call img).2.impl.fdt = call.impl.fdt := by
    unfold sessionSetDarkFromImage
    split
    · rfl
    · split
      · rfl
      · rfl
  have flowed := sessionSetFdtMode_fdtMode env (sessionSetDarkFromImage env call img).2 .idle
  rw [loaded] at flowed
  unfold sessionFinishDark
  dsimp only
  split
  · exact Or.inl (congrArg FdtFlow.mode loaded)
  · split
    · exact flowed
    · exact flowed

theorem sessionFinalizeCapture_fdtMode (call : InCall E) (target : ErrorTarget) :
    (sessionFinalizeCapture env call target).impl.fdt.mode = call.impl.fdt.mode ∨
      (sessionFinalizeCapture env call target).impl.fdt.mode = .idle := by
  unfold sessionFinalizeCapture
  split
  · exact Or.inl rfl
  · dsimp only
    split
    · exact Or.inl rfl
    · split
      · exact Or.inl rfl
      · split
        · exact sessionFinishDark_fdtMode env _ _
        · unfold sessionFinishImage
          dsimp only
          split
          · exact Or.inl rfl
          · exact Or.inl rfl

theorem sessionPollLoop_fdt (rounds : Nat) (call : InCall E) :
    (sessionPollLoop env engine rounds call).impl.fdt = call.impl.fdt := by
  induction rounds generalizing call with
  | zero => rfl
  | succ rounds ih =>
      unfold sessionPollLoop
      dsimp only
      split
      · rfl
      · split
        · rfl
        · split
          · exact ih _
          · exact ih _

theorem sessionPollFdt_fdtMode (call : InCall E) :
    (sessionPollFdt env call).2.impl.fdt.mode = call.impl.fdt.mode := by
  unfold sessionPollFdt
  split
  · have polled := fdtFlowPoll_mode env call.impl.fd (monotonicMs env call.io).2 call.impl.fdt
      (monotonicMs env call.io).1
    dsimp only
    split
    · exact polled
    · exact polled
  · rfl

/-! ## Leaving finger-down detection -/

/-- A part of a call that does not bring the flow into finger-down
detection. -/
def InCall.NoDown (before after : InCall E) : Prop :=
  after.impl.fdt.mode = .waitDown → before.impl.fdt.mode = .waitDown

namespace InCall.NoDown

variable {before middle after : InCall E}

theorem refl (call : InCall E) : call.NoDown call :=
  id

theorem trans (first : before.NoDown middle) (second : middle.NoDown after) :
    before.NoDown after :=
  fun down => first (second down)

theorem of_eq (same : after.impl.fdt.mode = before.impl.fdt.mode) : before.NoDown after := by
  intro down
  rw [← same]
  exact down

theorem of_or {mode : FdtMode} (other : mode ≠ .waitDown)
    (moved : after.impl.fdt.mode = before.impl.fdt.mode ∨ after.impl.fdt.mode = mode) :
    before.NoDown after := by
  intro down
  rcases moved with same | reached
  · rw [← same]
    exact down
  · exact absurd (reached.symm.trans down) other

end InCall.NoDown

theorem sessionPumpEnd_noDown (call : InCall E) : call.NoDown (sessionPumpEnd env call) := by
  unfold sessionPumpEnd
  split
  · apply InCall.NoDown.of_or (show FdtMode.idle ≠ .waitDown by decide)
    rw [sessionPumpTick_impl]
    exact sessionFinalizeCapture_fdtMode env call _
  · apply InCall.NoDown.of_eq
    rw [sessionPumpTick_impl]

theorem sessionPump_noDown (call : InCall E) (actionCancelled : Bool) :
    call.NoDown (sessionPump env engine call actionCancelled) := by
  unfold sessionPump
  split
  · exact .refl call
  · split
    · exact .of_eq rfl
    · have polled : call.NoDown (sessionPollTls env engine call) :=
        .of_eq (congrArg FdtFlow.mode (sessionPollLoop_fdt env engine 64 call))
      dsimp only
      generalize sessionPollTls env engine call = next at polled ⊢
      split
      · exact polled
      · have finished : call.NoDown (sessionMaybeFinishActivation env next) :=
          polled.trans (.of_or (show FdtMode.waitUp ≠ .waitDown by decide)
            (sessionMaybeFinishActivation_fdtMode env next))
        generalize sessionMaybeFinishActivation env next = done at finished ⊢
        split
        · exact finished
        · have retried : call.NoDown (sessionPollFdt env done).2 :=
            finished.trans (.of_eq (sessionPollFdt_fdtMode env done))
          split
          · exact retried
          · exact retried.trans (sessionPumpEnd_noDown env _)

theorem sessionFingerEvents_impl (call : InCall E) (events : FdtEvents) :
    (sessionFingerEvents call events).impl = call.impl := by
  unfold sessionFingerEvents
  dsimp only
  split
  all_goals split
  all_goals rfl

theorem sessionRequestDark_fdt (call : InCall E) (events : FdtEvents) :
    (sessionRequestDark env call events).2.impl.fdt = call.impl.fdt := by
  unfold sessionRequestDark
  split
  · dsimp only
    split
    · rfl
    · rfl
  · rfl

theorem sessionOnRecord_noDown (call : InCall E) (hdr : TapHdr) (payload : List Byte) :
    call.NoDown (sessionOnRecord env engine call hdr payload).2 := by
  apply InCall.NoDown.of_eq
  have fedMode := (fdtFlowFeedRecord_flow env call.impl.fd call.io call.impl.fdt hdr payload).1
  unfold sessionOnRecord
  generalize fdtFlowFeedRecord env call.impl.fd call.io call.impl.fdt hdr payload = fed
    at fedMode ⊢
  have requested : (sessionRequestDark env
      (sessionFingerEvents (call.setFdt fed.flow fed.io) fed.events) fed.events).2.impl.fdt.mode =
      call.impl.fdt.mode := by
    rw [sessionRequestDark_fdt, sessionFingerEvents_impl]
    exact fedMode
  dsimp only
  split
  · exact fedMode
  · split
    · exact requested
    · split
      · exact requested
      · exact requested

theorem sessionOnFdLoop_noDown (results : List (Except ℕ+ (List Byte))) (call : InCall E) :
    call.NoDown (sessionOnFdLoop env engine results call) := by
  induction results generalizing call with
  | nil =>
      unfold sessionOnFdLoop
      split
      · exact .of_eq rfl
      · split
        · exact .of_eq rfl
        · exact .refl call
  | cons result results ih =>
      unfold sessionOnFdLoop
      split
      · exact .of_eq rfl
      · split
        · exact .of_eq rfl
        · dsimp only
          split
          · split
            · exact .refl call
            · exact .of_eq rfl
          · rename_i hdr payload _
            have handled := sessionOnRecord_noDown env engine call hdr payload
            split
            · exact handled.trans (ih _)
            · exact handled

theorem sessionOnFd_noDown (call : InCall E) (condition : UInt32) (actionCancelled : Bool) :
    call.NoDown (sessionOnFd env engine call condition actionCancelled) := by
  unfold sessionOnFd
  split
  · exact .refl call
  · split
    · exact .of_eq rfl
    · have reading : call.NoDown { call with io := call.io.emit .read } := .of_eq rfl
      exact (reading.trans (sessionOnFdLoop_noDown env engine _ _)).trans
        (sessionPump_noDown env engine _ actionCancelled)

theorem sessionChangeState_noDown (call : InCall E) {state : SessionState}
    (other : state ≠ .awaitFingerOn) : call.NoDown (sessionChangeState env call state) := by
  unfold sessionChangeState
  split
  · exact .refl call
  · cases state with
    | awaitFingerOn => exact absurd rfl other
    | capture =>
        apply InCall.NoDown.of_eq
        dsimp only [sessionStartCapture]
        split
        · rfl
        · split
          · rfl
          · rfl
    | awaitFingerOff =>
        apply InCall.NoDown.of_or (show FdtMode.waitUp ≠ .waitDown by decide)
        have flowed := sessionSetFdtMode_fdtMode env (call.setMode .waitFingerOff) .waitUp
        dsimp only [sessionAwait]
        split
        · exact flowed
        · exact flowed
    | idle =>
        exact .of_or (show FdtMode.idle ≠ .waitDown by decide)
          (sessionSetFdtMode_fdtMode env (call.setMode .idle) .idle)
    | inactive =>
        have flowed := sessionSetFdtMode_fdtMode env
          { call with impl := sessionStopRun call.impl } .idle
        rw [sessionStopRun_fdt] at flowed
        exact .of_or (show FdtMode.idle ≠ .waitDown by decide) flowed

theorem sessionBeginCleanup_noDown (call : InCall E) (goal : CleanupGoal) (resetMcu : Bool) :
    call.NoDown (sessionBeginCleanup env call goal resetMcu) := by
  have stopped := congrArg FdtFlow.mode (sessionStopRun_fdt call.impl)
  apply InCall.NoDown.of_or (show FdtMode.idle ≠ .waitDown by decide)
  unfold sessionBeginCleanup
  dsimp only
  split
  · cases goal with
    | close => exact Or.inl stopped
    | deactivate => exact Or.inl stopped
  · cases goal with
    | deactivate => exact Or.inl stopped
    | close => exact Or.inr rfl

/-- Opening a session leaves it as it was or with an idle flow. -/
theorem sessionOpen_fdtMode (session : Session E) (io : Io) (devPath : String) (psk : List Byte)
    (errbufLen : Nat) :
    (sessionOpen env engine session io devPath psk errbufLen).session = session ∨
      ∃ impl, (sessionOpen env engine session io devPath psk errbufLen).session = some impl ∧
        impl.fdt.mode = .idle := by
  unfold sessionOpen
  split
  · exact Or.inl rfl
  · generalize sessionEnsureImpl env session io = out
    rcases out with ⟨result, next⟩
    cases result with
    | error errno => exact Or.inl rfl
    | ok impl =>
        right
        dsimp only
        generalize devOpen env _ = device
        by_cases openFailed : device.1 < 0
        · rw [if_pos openFailed]
          exact ⟨_, rfl, rfl⟩
        · rw [if_neg openFailed]
          generalize sessionEnsureTapIoBuffer env _ device.2.2 = buffered
          by_cases bufferFailed : buffered.1 < 0
          · rw [if_pos bufferFailed]
            exact ⟨_, rfl, rfl⟩
          · rw [if_neg bufferFailed]
            generalize sessionBootstrap env buffered.2.1 buffered.2.2 = booted
            by_cases bootFailed : booted.1 < 0
            · rw [if_pos bootFailed]
              exact ⟨_, rfl, rfl⟩
            · rw [if_neg bootFailed]
              split
              · exact ⟨_, rfl, rfl⟩
              · split
                · exact ⟨_, rfl, rfl⟩
                · exact ⟨_, rfl, rfl⟩

/-! ## Runs -/

/-- The flow of a session is in finger-down detection. -/
def SessionRun.AwaitsDown (run : SessionRun E) : Prop :=
  ∃ impl, run.session = some impl ∧ impl.fdt.mode = .waitDown

theorem SessionRun.within_noDown {run : SessionRun E} (absent : Int)
    (body : InCall E → Int × InCall E) (noDown : ∀ call : InCall E, call.NoDown (body call).2)
    (awaits : (run.within absent body).1.AwaitsDown) : run.AwaitsDown := by
  rcases run with ⟨session, io⟩
  cases session with
  | none => exact awaits
  | some impl =>
      obtain ⟨after, afterEq, down⟩ := awaits
      cases afterEq
      exact ⟨impl, rfl, noDown ⟨impl, sessionEventsClear, io⟩ down⟩

/-- Only a wait for a finger brings the flow into finger-down detection. -/
theorem sessionStep_noDown {run : SessionRun E} {call : SessionCall}
    (other : call ≠ .changeState .awaitFingerOn)
    (awaits : (sessionStep env engine run call).1.AwaitsDown) : run.AwaitsDown := by
  cases call with
  | init =>
      obtain ⟨impl, implEq, down⟩ := awaits
      unfold sessionStep sessionEnsureImpl at implEq
      dsimp only at implEq
      split at implEq
      · cases implEq
      · rename_i created _ createdEq
        split at createdEq
        · cases createdEq
        · cases createdEq
          cases implEq
          cases down
  | dispose =>
      obtain ⟨impl, implEq, down⟩ := awaits
      rcases run with ⟨session, io⟩
      cases session with
      | none => cases implEq
      | some before => cases implEq
  | openPath devPath psk errbufLen =>
      obtain ⟨impl, implEq, down⟩ := awaits
      rcases sessionOpen_fdtMode env engine run.session run.io devPath psk errbufLen with
        same | ⟨opened, openedEq, idle⟩
      · exact ⟨impl, same.symm.trans implEq, down⟩
      · have sameImpl : opened = impl := Option.some.inj (openedEq.symm.trans implEq)
        rw [← sameImpl, idle] at down
        cases down
  | requestClose resetMcu =>
      exact SessionRun.within_noDown 0 _
        (fun call => sessionBeginCleanup_noDown env call .close resetMcu) awaits
  | requestDeactivate =>
      exact SessionRun.within_noDown 0 _
        (fun call => sessionBeginCleanup_noDown env call .deactivate false) awaits
  | activate =>
      exact SessionRun.within_noDown EINVAL.rc _
        (fun call => .of_or (show FdtMode.idle ≠ .waitDown by decide)
          (sessionActivate_fdtMode env engine call)) awaits
  | changeState state =>
      have notOn : state ≠ .awaitFingerOn := by
        rintro rfl
        exact other rfl
      exact SessionRun.within_noDown 0 _
        (fun call => sessionChangeState_noDown env call notOn) awaits
  | onFd condition actionCancelled =>
      exact SessionRun.within_noDown 0 _
        (fun call => sessionOnFd_noDown env engine call condition actionCancelled) awaits
  | pump actionCancelled =>
      exact SessionRun.within_noDown 0 _
        (fun call => sessionPump_noDown env engine call actionCancelled) awaits
  | takeImage =>
      obtain ⟨impl, implEq, down⟩ := awaits
      rcases run with ⟨session, io⟩
      cases session with
      | none => cases implEq
      | some before =>
          dsimp only [sessionStep, sessionTakeImage] at implEq
          split at implEq
          · exact ⟨impl, implEq, down⟩
          · cases implEq
            exact ⟨before, rfl, down⟩

theorem final_noDown {calls : List SessionCall}
    (others : ∀ call ∈ calls, call ≠ .changeState .awaitFingerOn) {run : SessionRun E}
    (awaits : (final (sessionStep env engine) run calls).AwaitsDown) : run.AwaitsDown := by
  induction calls generalizing run with
  | nil => exact awaits
  | cons call calls ih =>
      apply sessionStep_noDown env engine (others call List.mem_cons_self)
      exact ih (fun other member => others other (List.mem_cons_of_mem _ member)) awaits

/-- A session that can be put into another state. -/
structure SessionRun.Awake (run : SessionRun E) (impl : SessionImpl E) : Prop where
  session : run.session = some impl
  isOpen : impl.mode ≠ .closed
  working : impl.mode ≠ .failed

/-- A call that waits for a finger, or for one to leave, and reports no error
has armed the sensor, unless the session was closed or failed or its flow was
already in the mode of the wait. -/
def ArmsSensor (transition : Transition (SessionRun E) SessionCall SessionOut) : Prop :=
  ∀ impl, transition.before.Awake impl → transition.output.ev.sessionError = false →
    (transition.input = .changeState .awaitFingerOn → impl.fdt.mode ≠ .waitDown →
        Armed CMD_FDT_DOWN transition.before.io transition.after.io) ∧
      (transition.input = .changeState .awaitFingerOff → impl.fdt.mode ≠ .waitUp →
        Armed CMD_FDT_UP transition.before.io transition.after.io)

/-- The waits: a state of the driver, the mode of the session and the mode of
the flow that belong together. -/
inductive IsWait : SessionState → SessionMode → FdtMode → Prop
  | fingerOn : IsWait .awaitFingerOn .waitFingerOn .waitDown
  | fingerOff : IsWait .awaitFingerOff .waitFingerOff .waitUp

theorem IsWait.notIdle {state : SessionState} {mode : SessionMode} {fdtMode : FdtMode}
    (isWait : IsWait state mode fdtMode) : fdtMode ≠ .idle ∧ mode ≠ .closed := by
  cases isWait with
  | fingerOn => exact ⟨by decide, by decide⟩
  | fingerOff => exact ⟨by decide, by decide⟩

/-- What a wait leaves is what the change of the flow leaves, but for a tick. -/
theorem sessionChangeState_await (call : InCall E) (isOpen : call.impl.mode ≠ .closed)
    (working : call.impl.mode ≠ .failed) {state : SessionState} {mode : SessionMode}
    {fdtMode : FdtMode} (isWait : IsWait state mode fdtMode) :
    (sessionChangeState env call state).impl =
        (sessionSetFdtMode env (call.setMode mode) fdtMode).impl ∧
      (sessionChangeState env call state).io =
        (sessionSetFdtMode env (call.setMode mode) fdtMode).io ∧
      (sessionChangeState env call state).ev.sessionError =
        (sessionSetFdtMode env (call.setMode mode) fdtMode).ev.sessionError := by
  have awaited : sessionChangeState env call state = sessionAwait env call mode fdtMode := by
    have notStopped : ¬ ((!sessionModeHasIo call.impl) = true ∨ call.impl.mode = .failed) := by
      simp [sessionModeHasIo, isOpen, working]
    unfold sessionChangeState
    rw [if_neg notStopped]
    cases isWait with
    | fingerOn => rfl
    | fingerOff => rfl
  rw [awaited]
  unfold sessionAwait
  dsimp only
  split
  · exact ⟨rfl, rfl, rfl⟩
  · exact ⟨rfl, rfl, rfl⟩

/-- A change of the flow without an error ends in the mode asked for. -/
theorem sessionSetFdtMode_reached {call : InCall E} {mode : FdtMode}
    (isOpen : call.impl.mode ≠ .closed)
    (clear : (sessionSetFdtMode env call mode).ev.sessionError = false) :
    (sessionSetFdtMode env call mode).impl.fdt.mode = mode := by
  have hasIo : ¬ (!sessionModeHasIo call.impl) = true := by simpa [sessionModeHasIo] using isOpen
  have flowed := fdtFlowSetMode_mode env call.impl.fd call.io call.impl.fdt mode
  unfold sessionSetFdtMode at clear ⊢
  rw [if_neg hasIo] at clear ⊢
  generalize fdtFlowSetMode env call.impl.fd call.io call.impl.fdt mode = out at flowed clear ⊢
  dsimp only at clear ⊢
  split at clear
  · cases clear
  · rename_i notNegative
    rw [if_neg notNegative]
    rcases flowed with reached | ⟨negative, -⟩
    · exact reached
    · exact absurd negative notNegative

/-- A wait without an error arms the sensor, unless the flow is there already,
and leaves the flow in its mode. -/
theorem sessionStep_await {run : SessionRun E} {impl : SessionImpl E} (awake : run.Awake impl)
    {state : SessionState} {mode : SessionMode} {fdtMode : FdtMode}
    (isWait : IsWait state mode fdtMode)
    (clear : (sessionStep env engine run (.changeState state)).2.ev.sessionError = false) :
    (impl.fdt.mode ≠ fdtMode →
        Armed fdtMode.armCmd run.io (sessionStep env engine run (.changeState state)).1.io) ∧
      ∃ after, (sessionStep env engine run (.changeState state)).1.session = some after ∧
        after.fdt.mode = fdtMode := by
  obtain ⟨implEq, ioEq, errorEq⟩ := sessionChangeState_await env ⟨impl, sessionEventsClear, run.io⟩
    awake.isOpen awake.working isWait
  simp only [sessionStep, SessionRun.within, awake.session] at clear ⊢
  rw [errorEq] at clear
  rw [implEq, ioEq]
  constructor
  · intro different
    exact sessionSetFdtMode_armed env isWait.notIdle.2 (Ne.symm different) isWait.notIdle.1 clear
  · exact ⟨_, rfl, sessionSetFdtMode_reached env isWait.notIdle.2 clear⟩

theorem sessionStep_armsSensor (run : SessionRun E) (call : SessionCall) :
    ArmsSensor (stepTransition (sessionStep env engine) run call) := by
  intro impl awake clear
  constructor
  · rintro rfl different
    exact (sessionStep_await env engine awake .fingerOn clear).1 different
  · rintro rfl different
    exact (sessionStep_await env engine awake .fingerOff clear).1 different

/-- Some calls, a wait for the finger to leave, more calls that do not wait for
a finger, and a wait for one: if the two waits find the session awake and report
no error, the second arms finger-down detection. -/
def RearmsAfterFingerOff (io : Io) (first between : List SessionCall) : Prop :=
  let off := final (sessionStep env engine) ⟨none, io⟩ first
  let on := final (sessionStep env engine) ⟨none, io⟩
    (first ++ .changeState .awaitFingerOff :: between)
  ∀ leaving waiting, off.Awake leaving →
    (sessionStep env engine off (.changeState .awaitFingerOff)).2.ev.sessionError = false →
    (∀ call ∈ between, call ≠ .changeState .awaitFingerOn) → on.Awake waiting →
    (sessionStep env engine on (.changeState .awaitFingerOn)).2.ev.sessionError = false →
    Armed CMD_FDT_DOWN on.io (sessionStep env engine on (.changeState .awaitFingerOn)).1.io

theorem rearmsAfterFingerOff (io : Io) (first between : List SessionCall) :
    RearmsAfterFingerOff env engine io first between := by
  intro leaving waiting leavingAwake leavingClear others waitingAwake waitingClear
  apply (sessionStep_await env engine waitingAwake .fingerOn waitingClear).1
  intro down
  rw [final_append, final_cons] at waitingAwake
  -- Backwards from the second wait: no call since the first brought the flow there.
  obtain ⟨after, afterEq, afterDown⟩ :=
    final_noDown env engine others ⟨waiting, waitingAwake.session, down⟩
  obtain ⟨reached, reachedEq, up⟩ :=
    (sessionStep_await env engine leavingAwake .fingerOff leavingClear).2
  rw [afterEq] at reachedEq
  cases reachedEq
  rw [up] at afterDown
  cases afterDown

/-- Every wait of every run arms the sensor unless the session is closed or
failed or its flow is in the mode of the wait already; and once a session has
waited for the finger to leave, the next wait for a finger arms finger-down
detection again. -/
theorem waits_arm_sensor (io : Io) :
    (∀ calls, ∀ transition ∈ transitions (sessionStep env engine) ⟨none, io⟩ calls,
        ArmsSensor transition) ∧
      ∀ first between, RearmsAfterFingerOff env engine io first between := by
  constructor
  · intro calls transition member
    rw [eq_stepTransition_of_mem member]
    exact sessionStep_armsSensor env engine _ _
  · exact rearmsAfterFingerOff env engine io

end Session

/-! ## Two runs -/

/-- An `FDT_STATUS` frame that reports DOWN. -/
def downReport : List Byte :=
  [CMD_FDT_STATUS, 0x03, 0x00, 0x02, 0x00, 0xcb]

/-- A sensor that reports a finger whenever it is read. -/
def downEnv : Env :=
  { steadyEnv with reads := fun _ => [.ok (recordBytes reportHdr downReport)] }

/-- A session that waits for a finger, captures it and waits for it to leave. -/
def fingerCalls : List SessionCall :=
  activateCalls ++ [.changeState .awaitFingerOn, .onFd 1 false, .changeState .capture]

/-- The wait for the next finger arms the sensor again. -/
theorem waits_arm_sensor_next_finger :
    ∃ run, run = final (sessionStep downEnv (channelEngine clearCipher)) ⟨none, ⟨0, []⟩⟩
        (fingerCalls ++ [.changeState .awaitFingerOff, .pump false]) ∧
      Armed CMD_FDT_DOWN run.io (sessionStep downEnv (channelEngine clearCipher) run
        (.changeState .awaitFingerOn)).1.io := by
  refine ⟨_, rfl, ?_⟩
  have leaving : (final (sessionStep downEnv (channelEngine clearCipher)) ⟨none, ⟨0, []⟩⟩
      fingerCalls).session.map SessionImpl.mode = some .capturing := by
    decide +kernel
  have waiting : (final (sessionStep downEnv (channelEngine clearCipher)) ⟨none, ⟨0, []⟩⟩
      (fingerCalls ++ [.changeState .awaitFingerOff, .pump false])).session.map
        SessionImpl.mode = some .waitFingerOff := by
    decide +kernel
  obtain ⟨leavingImpl, leavingEq, leavingMode⟩ := Option.map_eq_some_iff.mp leaving
  obtain ⟨waitingImpl, waitingEq, waitingMode⟩ := Option.map_eq_some_iff.mp waiting
  apply (waits_arm_sensor downEnv (channelEngine clearCipher) ⟨0, []⟩).2 fingerCalls [.pump false]
    leavingImpl waitingImpl
  · exact ⟨leavingEq, by rw [leavingMode]; decide, by rw [leavingMode]; decide⟩
  · decide +kernel
  · decide
  · exact ⟨waitingEq, by rw [waitingMode]; decide, by rw [waitingMode]; decide⟩
  · decide +kernel

/-- A wait for a finger right after the capture of the last one sends nothing,
as the flow never left its mode; nor does a wait on a closed session. -/
theorem not_every_wait_arms :
    (∃ transition ∈ transitions (sessionStep downEnv (channelEngine clearCipher))
        ⟨none, ⟨0, []⟩⟩ (fingerCalls ++ [.changeState .awaitFingerOn]),
      transition.input = .changeState .awaitFingerOn ∧
        transition.before.session.map SessionImpl.mode = some .capturing ∧
        transition.output.ev.sessionError = false ∧
        transition.after.io.trace = transition.before.io.trace) ∧
      ∃ transition ∈ transitions (sessionStep downEnv (channelEngine clearCipher))
          ⟨none, ⟨0, []⟩⟩ ([.init] ++ [.changeState .awaitFingerOn]),
        transition.input = .changeState .awaitFingerOn ∧
          transition.before.session.map SessionImpl.mode = some .closed ∧
          transition.output.ev.sessionError = false ∧
          transition.after.io.trace = transition.before.io.trace := by
  constructor
  · refine ⟨_, stepTransition_mem_last _ _ fingerCalls (.changeState .awaitFingerOn), rfl, ?_⟩
    decide +kernel
  · refine ⟨_, stepTransition_mem_last _ _ [SessionCall.init] (.changeState .awaitFingerOn), rfl,
      ?_⟩
    decide +kernel

end Gxfp.User
