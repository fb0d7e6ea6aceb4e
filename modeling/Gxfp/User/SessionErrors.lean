import Gxfp.User.SessionCalls

/-!
# Errors of a session

A call that reports an error leaves the session failed and reports nothing
else, and a failed session is inert: ticks, records and changes of state find
it as they leave it, until a call starts it again or drops it.

The first part is an invariant of the moves of a call and of the end of a
capture; the second is an invariant of the runs in which nothing restarts the
session.
-/

namespace Gxfp.User

open Lib
open Lib.Bytes
open Lib.Execution
open Lib.EventLog
open Gxfp.Errno

section Errors

variable {E : Type} (env : Env) (engine : TlsEngine E)

/-! ## Inside a call -/

/-- Nothing has been reported yet but perhaps an error, and an error has made
the session fail. -/
structure InCall.Unreported (call : InCall E) : Prop where
  errorsFail : call.ErrorsFail
  activateComplete : call.ev.activateComplete = false
  imageReady : call.ev.imageReady = false

/-- A reported error has made the session fail and stands alone. -/
def InCall.ErrorAlone (call : InCall E) : Prop :=
  call.ev.sessionError = true → call.impl.mode = .failed ∧
    call.ev.activateComplete = false ∧ call.ev.imageReady = false

theorem InCall.Unreported.errorAlone {call : InCall E} (unreported : call.Unreported) :
    call.ErrorAlone := by
  intro sessionError
  exact ⟨unreported.errorsFail sessionError, unreported.activateComplete, unreported.imageReady⟩

/-- A call in which nothing has failed reports no error. -/
theorem InCall.errorAlone_of_clear {call : InCall E} (clear : call.ev.sessionError = false) :
    call.ErrorAlone := by
  intro sessionError
  rw [clear] at sessionError
  cases sessionError

/-- Every call starts like this. -/
theorem InCall.Unreported.clear (impl : SessionImpl E) (io : Io) :
    InCall.Unreported ⟨impl, sessionEventsClear, io⟩ := by
  constructor
  · intro sessionError
    cases sessionError
  · rfl
  · rfl

theorem InCall.Unreported.sameCore {before after : InCall E} (unreported : before.Unreported)
    (same : before.SameCore after) : after.Unreported := by
  constructor
  · intro sessionError
    rw [same.sessionError] at sessionError
    rw [same.impl]
    exact unreported.errorsFail sessionError
  · rw [same.activateComplete]
    exact unreported.activateComplete
  · rw [same.imageReady]
    exact unreported.imageReady

theorem InCall.ErrorAlone.sameCore {before after : InCall E} (alone : before.ErrorAlone)
    (same : before.SameCore after) : after.ErrorAlone := by
  intro sessionError
  rw [same.sessionError] at sessionError
  rw [same.impl, same.activateComplete, same.imageReady]
  exact alone sessionError

/-- A session that still works may change its mode. -/
theorem InCall.Unreported.setMode {call : InCall E} (unreported : call.Unreported)
    (working : call.impl.mode ≠ .failed) (mode : SessionMode) : (call.setMode mode).Unreported := by
  have clear := unreported.errorsFail.clear working
  constructor
  · intro sessionError
    have reported : call.ev.sessionError = true := sessionError
    rw [clear] at reported
    cases reported
  · exact unreported.activateComplete
  · exact unreported.imageReady

theorem sessionSetError_unreported {call : InCall E} (unreported : call.Unreported) (err : Int)
    (target : ErrorTarget) (msg : String) :
    (sessionSetError env call err target msg).Unreported :=
  ⟨fun _ => rfl, unreported.activateComplete, unreported.imageReady⟩

theorem sessionSetFdtMode_unreported {call : InCall E} (unreported : call.Unreported)
    (mode : FdtMode) : (sessionSetFdtMode env call mode).Unreported := by
  unfold sessionSetFdtMode
  split
  · exact unreported
  · dsimp only
    split
    · apply sessionSetError_unreported
      exact ⟨unreported.errorsFail, unreported.activateComplete, unreported.imageReady⟩
    · exact ⟨unreported.errorsFail, unreported.activateComplete, unreported.imageReady⟩

variable {env engine}

/-- No move of a session reports more than an error. -/
theorem SessionMove.unreported {before after : InCall E} {logged : List SessionEvent}
    (move : SessionMove env engine before logged after) (unreported : before.Unreported) :
    after.Unreported := by
  have kept := unreported
  obtain ⟨errors, notComplete, notReady⟩ := kept
  cases move with
  | service running => exact ⟨errors, notComplete, notReady⟩
  | fail isOpen err target msg =>
      exact sessionSetError_unreported env unreported err target msg
  | note same => exact unreported.sameCore same
  | await awaits isOpen working =>
      exact sessionSetFdtMode_unreported env (unreported.setMode working _) _
  | observe activating seen =>
      have working : before.impl.mode ≠ .failed := by
        rw [activating]
        exact SessionMode.noConfusion
      exact sessionSetFdtMode_unreported env (unreported.setMode working _) _
  | retry waiting nowMs => exact ⟨errors, notComplete, notReady⟩
  | read running => exact ⟨errors, notComplete, notReady⟩
  | feed running hdr payload => exact ⟨errors, notComplete, notReady⟩
  | upReport waiting => exact unreported
  | requestDark waiting granted =>
      have working : before.impl.mode ≠ .failed := by
        rw [waiting]
        exact SessionMode.noConfusion
      obtain ⟨errors, notComplete, notReady⟩ := unreported.setMode working .activatingDarkCapture
      exact ⟨errors, notComplete, notReady⟩
  | record running hdr payload => exact ⟨errors, notComplete, notReady⟩
  | requestImage ready granted =>
      have working : before.impl.mode ≠ .failed := by
        rcases ready with idle | waiting
        · rw [idle]
          exact SessionMode.noConfusion
        · rw [waiting]
          exact SessionMode.noConfusion
      obtain ⟨errors, notComplete, notReady⟩ := unreported.setMode working .capturing
      exact ⟨errors, notComplete, notReady⟩

/-- The end of a capture reports an error or a success, never both. -/
theorem SessionFinish.errorAlone {before after : InCall E} {logged : List SessionEvent}
    (finish : SessionFinish env before logged after) (unreported : before.Unreported) :
    after.ErrorAlone := by
  cases finish with
  | none => exact unreported.errorAlone
  | noImage capture done empty err target msg =>
      apply InCall.Unreported.errorAlone
      apply sessionSetError_unreported
      exact ⟨unreported.errorsFail, unreported.activateComplete, unreported.imageReady⟩
  | failed capture done traceEq err target msg =>
      apply InCall.Unreported.errorAlone
      apply sessionSetError_unreported
      exact ⟨unreported.errorsFail, unreported.activateComplete, unreported.imageReady⟩
  | dark capture done img traceEq idle sameArm =>
      apply InCall.errorAlone_of_clear
      apply unreported.errorsFail.clear
      rw [capture]
      exact SessionMode.noConfusion
  | image capture done img traceEq =>
      apply InCall.errorAlone_of_clear
      apply unreported.errorsFail.clear
      rw [capture]
      exact SessionMode.noConfusion

theorem SessionMoves.unreported {before after : InCall E} {logged : List SessionEvent}
    (moves : SessionMoves env engine before logged after) (unreported : before.Unreported) :
    after.Unreported := by
  induction moves with
  | refl => exact unreported
  | tail _ last ih => exact last.unreported ih

theorem SessionRuns.errorAlone {before after : InCall E} {logged : List SessionEvent}
    (runs : SessionRuns env engine before logged after) (unreported : before.Unreported) :
    after.ErrorAlone := by
  obtain ⟨middle, moved, finished, ended, moves, finish, same, -⟩ := runs
  have atMiddle := moves.unreported unreported
  exact (finish.errorAlone atMiddle).sameCore same

/-! ## Calls -/

/-- The session has failed. -/
def SessionRun.HasFailed (run : SessionRun E) : Prop :=
  ∃ impl, run.session = some impl ∧ impl.mode = .failed

/-- A call that reports an error leaves the session failed and reports neither a
complete activation nor an image. -/
def ErrorIsAlone (step : Transition (SessionRun E) SessionCall SessionOut) : Prop :=
  step.output.ev.sessionError = true → step.after.HasFailed ∧
    step.output.ev.activateComplete = false ∧ step.output.ev.imageReady = false

variable (env engine)

/-- An activation reports at most an error. -/
theorem sessionActivate_unreported {call : InCall E} (unreported : call.Unreported)
    (clear : call.ev.sessionError = false) : (sessionActivate env engine call).2.Unreported := by
  have spec := sessionActivate_spec env engine clear
  generalize sessionActivate env engine call = out at spec ⊢
  rcases out with ⟨ret, after⟩
  dsimp only at spec ⊢
  cases spec with
  | closed closed => exact unreported
  | failed isOpen rearmed negative msg =>
      apply sessionSetError_unreported
      exact ⟨unreported.errorsFail, unreported.activateComplete, unreported.imageReady⟩
  | @activated _ svc io _ isOpen rearmed notNegative same =>
      have activated : InCall.Unreported ⟨call.impl.activated svc, call.ev, io⟩ := by
        constructor
        · intro sessionError
          have reported : call.ev.sessionError = true := sessionError
          rw [clear] at reported
          cases reported
        · exact unreported.activateComplete
        · exact unreported.imageReady
      exact activated.sameCore same

theorem sessionBeginCleanup_clear {call : InCall E} (clear : call.ev.sessionError = false)
    (goal : CleanupGoal) (resetMcu : Bool) :
    (sessionBeginCleanup env call goal resetMcu).ev.sessionError = false := by
  have spec : SessionCleansUp Out.Quiet call _ goal :=
    sessionBeginCleanup_spec env call goal resetMcu
  cases spec with
  | closed goal closed same => rw [same.sessionError, clear]
  | stopped isOpen same => exact same.sessionError.trans clear
  | released isOpen used same => exact same.sessionError.trans clear

/-- A call on an implementation that keeps its errors alone does so in a run. -/
theorem SessionRun.within_errorIsAlone (run : SessionRun E) (call : SessionCall) (absent : Int)
    (body : InCall E → Int × InCall E)
    (alone : ∀ impl io, (body ⟨impl, sessionEventsClear, io⟩).2.ErrorAlone) :
    ErrorIsAlone
      ⟨run, call, (run.within absent body).2, (run.within absent body).1⟩ := by
  rcases run with ⟨session, io⟩
  cases session with
  | none =>
      intro sessionError
      cases sessionError
  | some impl =>
      intro sessionError
      obtain ⟨failed, notComplete, notReady⟩ := alone impl io sessionError
      exact ⟨⟨_, rfl, failed⟩, notComplete, notReady⟩

theorem sessionStep_errorIsAlone (run : SessionRun E) (call : SessionCall) :
    ErrorIsAlone (stepTransition (sessionStep env engine) run call) := by
  cases call with
  | init =>
      intro sessionError
      dsimp only [stepTransition, sessionStep] at sessionError
      split at sessionError
      · cases sessionError
      · cases sessionError
  | dispose =>
      intro sessionError
      dsimp only [stepTransition, sessionStep] at sessionError
      split at sessionError
      · cases sessionError
      · cases sessionError
  | openPath devPath psk errbufLen =>
      intro sessionError
      cases sessionError
  | requestClose resetMcu =>
      apply SessionRun.within_errorIsAlone
      intro impl io
      apply InCall.errorAlone_of_clear
      exact sessionBeginCleanup_clear env rfl .close resetMcu
  | requestDeactivate =>
      apply SessionRun.within_errorIsAlone
      intro impl io
      apply InCall.errorAlone_of_clear
      exact sessionBeginCleanup_clear env rfl .deactivate false
  | activate =>
      apply SessionRun.within_errorIsAlone
      intro impl io
      apply InCall.Unreported.errorAlone
      exact sessionActivate_unreported env engine (.clear impl io) rfl
  | changeState state =>
      apply SessionRun.within_errorIsAlone
      intro impl io
      apply InCall.Unreported.errorAlone
      exact (sessionChangeState_steps env engine _ state).unreported (.clear impl io)
  | onFd condition actionCancelled =>
      apply SessionRun.within_errorIsAlone
      intro impl io
      exact (sessionOnFd_runs env engine _ condition actionCancelled).errorAlone (.clear impl io)
  | pump actionCancelled =>
      apply SessionRun.within_errorIsAlone
      intro impl io
      exact (sessionPump_runs env engine _ actionCancelled).errorAlone (.clear impl io)
  | takeImage =>
      intro sessionError
      rcases run with ⟨session, io⟩
      cases session with
      | none => cases sessionError
      | some impl => cases sessionError

/-! ## Failed sessions -/

/-- The calls that start a session again or drop it. -/
def SessionCall.restarts : SessionCall → Bool
  | .dispose | .openPath .. | .requestClose _ | .requestDeactivate | .activate => true
  | .init | .changeState _ | .onFd .. | .pump _ | .takeImage => false

/-- The calls that keep a session going: ticks, records and changes of state. -/
def SessionCall.advances : SessionCall → Bool
  | .changeState _ | .onFd .. | .pump _ => true
  | .init | .dispose | .openPath .. | .requestClose _ | .requestDeactivate | .activate
  | .takeImage => false

/-- A call that has no effect. -/
def Inert (step : Transition (SessionRun E) SessionCall SessionOut) : Prop :=
  step.after = step.before ∧ step.output = ⟨0, sessionEventsClear, none, none⟩

/-- There is no session, or it is closed or has failed. -/
def SessionRun.Halted (run : SessionRun E) : Prop :=
  ∀ impl, run.session = some impl → impl.mode = .closed ∨ impl.mode = .failed

theorem SessionRun.HasFailed.halted {run : SessionRun E} (failed : run.HasFailed) :
    run.Halted := by
  intro impl implEq
  obtain ⟨other, otherEq, mode⟩ := failed
  rw [otherEq] at implEq
  cases implEq
  exact Or.inr mode

theorem SessionMode.isStopped_of_halted {mode : SessionMode}
    (halted : mode = .closed ∨ mode = .failed) : mode.isStopped = true := by
  rcases halted with rfl | rfl
  · rfl
  · rfl

theorem sessionStep_inert {run : SessionRun E} (halted : run.Halted) {call : SessionCall}
    (advances : call.advances = true) :
    Inert (stepTransition (sessionStep env engine) run call) := by
  rcases run with ⟨session, io⟩
  cases session with
  | none =>
      cases call with
      | changeState state => exact ⟨rfl, rfl⟩
      | onFd condition actionCancelled => exact ⟨rfl, rfl⟩
      | pump actionCancelled => exact ⟨rfl, rfl⟩
      | _ => cases advances
  | some impl =>
      have mode := halted impl rfl
      have stopped := SessionMode.isStopped_of_halted mode
      have same (call : SessionCall) (body : InCall E → InCall E)
          (unchanged : body ⟨impl, sessionEventsClear, io⟩ = ⟨impl, sessionEventsClear, io⟩)
          (stepEq : sessionStep env engine ⟨some impl, io⟩ call =
            SessionRun.within ⟨some impl, io⟩ 0 fun call => (0, body call)) :
          Inert (stepTransition (sessionStep env engine) ⟨some impl, io⟩ call) := by
        unfold Inert stepTransition
        rw [stepEq]
        dsimp only [SessionRun.within]
        rw [unchanged]
        exact ⟨rfl, rfl⟩
      cases call with
      | changeState state =>
          apply same _ (fun call => sessionChangeState env call state) ?_ rfl
          have ignored : (!sessionModeHasIo impl) = true ∨ impl.mode = .failed := by
            rcases mode with closed | failed
            · left
              simp [sessionModeHasIo, closed]
            · exact Or.inr failed
          unfold sessionChangeState
          exact if_pos ignored
      | onFd condition actionCancelled =>
          apply same _ (fun call => sessionOnFd env engine call condition actionCancelled) ?_ rfl
          unfold sessionOnFd
          exact if_pos stopped
      | pump actionCancelled =>
          apply same _ (fun call => sessionPump env engine call actionCancelled) ?_ rfl
          unfold sessionPump
          exact if_pos stopped
      | _ => cases advances

theorem sessionStep_halted {run : SessionRun E} (halted : run.Halted) {call : SessionCall}
    (keeps : call.restarts = false) : (sessionStep env engine run call).1.Halted := by
  cases advances : call.advances with
  | true =>
      have inert := (sessionStep_inert env engine halted advances).1
      change (stepTransition (sessionStep env engine) run call).after.Halted
      rw [inert]
      exact halted
  | false =>
      cases call with
      | init =>
          intro impl implEq
          unfold sessionStep at implEq
          rcases sessionEnsureImpl_cases (E := E) env none run.io with ⟨-, ensured⟩ |
            ⟨made, next, ensured, made_eq | ⟨-, released⟩, -⟩
          · rw [ensured] at implEq
            cases implEq
          · cases made_eq
          · rw [ensured] at implEq
            cases implEq
            exact Or.inl released.mode
      | takeImage =>
          rcases run with ⟨session, io⟩
          cases session with
          | none => exact halted
          | some impl =>
              intro after afterEq
              have mode := halted impl rfl
              dsimp only [sessionStep, sessionTakeImage] at afterEq
              split at afterEq
              · cases afterEq
                exact mode
              · cases afterEq
                exact mode
      | changeState state => cases advances
      | onFd condition actionCancelled => cases advances
      | pump actionCancelled => cases advances
      | _ => cases keeps

/-- Errors are final and stand alone: a call that reports an error reports
nothing else and leaves the session failed, and until a call restarts a failed
session no tick, record or change of state has any effect. -/
theorem session_errors_final (run : SessionRun E) (calls : List SessionCall) :
    (∀ step ∈ transitions (sessionStep env engine) run calls, ErrorIsAlone step) ∧
      (run.HasFailed → (∀ call ∈ calls, call.restarts = false) →
        ∀ step ∈ transitions (sessionStep env engine) run calls, step.input.advances = true →
          Inert step) := by
  constructor
  · intro step member
    rw [eq_stepTransition_of_mem member]
    exact sessionStep_errorIsAlone env engine step.before step.input
  · intro failed keeps step member advances
    have kept : ∀ step ∈ transitions (sessionStep env engine) run calls,
        step.input.restarts = false :=
      fun other otherMem => keeps other.input (input_mem_of_mem otherMem)
    have halted := @transitions_invariant _ _ _ (sessionStep env engine) SessionRun.Halted
      (fun step => step.input.restarts = false)
      (fun state input held good => sessionStep_halted env engine held good) run calls
      failed.halted kept step member
    rw [eq_stepTransition_of_mem member]
    exact sessionStep_inert env engine halted.1 advances

end Errors

end Gxfp.User
