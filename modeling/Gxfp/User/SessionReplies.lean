import Gxfp.User.SessionErrors

/-!
# What a session replies

A driver sees a session through its mode and the events of each call.
`SessionReply` lists every pair a call can lead to from a mode, and
`sessionStep_reply` shows that the session of `session.c` has no others, so that
a driver can be studied without the TLS service and the FDT flow.
-/

namespace Gxfp.User

open Lib
open Lib.Bytes
open Lib.Execution
open Gxfp.Errno

/-! ## Replies -/

/-- The reports that only records and the end of a session set. -/
structure SessionEvents.SameReports (before after : SessionEvents) : Prop where
  deactivateComplete : after.deactivateComplete = before.deactivateComplete
  closeComplete : after.closeComplete = before.closeComplete
  fingerStatusChanged : after.fingerStatusChanged = before.fingerStatusChanged
  fingerPresent : after.fingerPresent = before.fingerPresent

theorem SessionEvents.SameReports.refl (ev : SessionEvents) : ev.SameReports ev :=
  ⟨rfl, rfl, rfl, rfl⟩

theorem SessionEvents.SameReports.trans {first second third : SessionEvents}
    (one : first.SameReports second) (two : second.SameReports third) :
    first.SameReports third :=
  ⟨two.deactivateComplete.trans one.deactivateComplete, two.closeComplete.trans one.closeComplete,
    two.fingerStatusChanged.trans one.fingerStatusChanged,
    two.fingerPresent.trans one.fingerPresent⟩

/-- A reported finger is the one that the mode waits for. -/
def SessionEvents.FingerOf (mode : SessionMode) (ev : SessionEvents) : Prop :=
  ev.fingerStatusChanged = true →
    (mode = .waitFingerOn ∧ ev.fingerPresent = true) ∨
      (mode = .waitFingerOff ∧ ev.fingerPresent = false)

/-- The mode an activation or a wait may be in some ticks later. -/
inductive Proceeds : SessionMode → SessionMode → Prop
  | same (mode : SessionMode) : Proceeds mode mode
  | connected : Proceeds .activatingTls .activatingWaitUp
  | fingerUp : Proceeds .activatingWaitUp .activatingDarkCapture

/-- The states in which a session rests and the modes they lead to. -/
inductive Rests : SessionState → SessionMode → Prop
  | idle : Rests .idle .idle
  | inactive : Rests .inactive .ready

/-- The states in which a session waits and the modes they lead to. -/
inductive WaitsIn : SessionState → SessionMode → Prop
  | fingerOn : WaitsIn .awaitFingerOn .waitFingerOn
  | capture : WaitsIn .capture .capturing
  | fingerOff : WaitsIn .awaitFingerOff .waitFingerOff

/-- The calls by which a main loop wakes a session. -/
def SessionCall.wakes : SessionCall → Bool
  | .onFd _ _ => true
  | .pump _ => true
  | _ => false

/-- The events of a call that asks for an immediate tick and reports nothing. -/
def tickNow : SessionEvents :=
  { sessionEventsClear with requestTick := true }

/-- The events of a failed call other than one that wakes the session. -/
def errorEvents (code : Int) (target : ErrorTarget) (msg : String) : SessionEvents :=
  { sessionEventsClear with
    sessionError := true
    errorCode := code
    errorTarget := target
    errorMsg := msg }

/-- The modes of an activation. -/
def SessionMode.isActivating : SessionMode → Bool
  | .activatingTls => true
  | .activatingWaitUp => true
  | .activatingDarkCapture => true
  | _ => false

/-- An error that belongs to the activation is one of its modes. -/
def SessionEvents.TargetOf (mode : SessionMode) (ev : SessionEvents) : Prop :=
  ev.errorTarget = .activate → mode.isActivating = true

/-- The mode before a call that wakes the session, the mode afterwards and the
events. -/
inductive WakeReply : SessionMode → SessionMode → SessionEvents → Prop
  | asleep {mode : SessionMode} (stopped : mode.isStopped = true) :
      WakeReply mode mode sessionEventsClear
  | failed {mode : SessionMode} {ev : SessionEvents} (running : mode.isStopped = false)
      (sessionError : ev.sessionError = true) (activateComplete : ev.activateComplete = false)
      (imageReady : ev.imageReady = false) (deactivateComplete : ev.deactivateComplete = false)
      (closeComplete : ev.closeComplete = false) (finger : ev.FingerOf mode)
      (target : ev.TargetOf mode) : WakeReply mode .failed ev
  | proceeds {mode target : SessionMode} {ev : SessionEvents} (running : mode.isStopped = false)
      (proceeds : Proceeds mode target) (sessionError : ev.sessionError = false)
      (activateComplete : ev.activateComplete = false) (imageReady : ev.imageReady = false)
      (deactivateComplete : ev.deactivateComplete = false)
      (closeComplete : ev.closeComplete = false) (cancelTick : ev.cancelTick = false)
      (finger : ev.FingerOf mode) : WakeReply mode target ev
  | darkStored {mode : SessionMode} {ev : SessionEvents}
      (activating : mode = .activatingWaitUp ∨ mode = .activatingDarkCapture)
      (sessionError : ev.sessionError = false) (activateComplete : ev.activateComplete = true)
      (imageReady : ev.imageReady = false) (deactivateComplete : ev.deactivateComplete = false)
      (closeComplete : ev.closeComplete = false) (cancelTick : ev.cancelTick = false)
      (noFinger : ev.fingerStatusChanged = false) : WakeReply mode .idle ev
  | imageReady {mode : SessionMode} {ev : SessionEvents} (capturing : mode = .capturing)
      (sessionError : ev.sessionError = false) (activateComplete : ev.activateComplete = false)
      (imageReady : ev.imageReady = true) (deactivateComplete : ev.deactivateComplete = false)
      (closeComplete : ev.closeComplete = false) (cancelTick : ev.cancelTick = false)
      (noFinger : ev.fingerStatusChanged = false) : WakeReply mode .idle ev

/-- The mode before a call, the call, the mode afterwards and the events. -/
inductive SessionReply : SessionMode → SessionCall → SessionMode → SessionEvents → Prop
  | deactivated (mode : SessionMode) :
      SessionReply mode .requestDeactivate (if mode = .closed then .closed else .ready)
        { sessionEventsClear with cancelTick := true, deactivateComplete := true }
  | closed (mode : SessionMode) (resetMcu : Bool) :
      SessionReply mode (.requestClose resetMcu) .closed
        { sessionEventsClear with cancelTick := true, closeComplete := true }
  | ignored {mode : SessionMode} (state : SessionState)
      (stopped : mode = .closed ∨ mode = .failed) :
      SessionReply mode (.changeState state) mode sessionEventsClear
  | rests {mode target : SessionMode} {state : SessionState} (isOpen : mode ≠ .closed)
      (working : mode ≠ .failed) (rests : Rests state target) :
      SessionReply mode (.changeState state) target sessionEventsClear
  | waits {mode target : SessionMode} {state : SessionState} (isOpen : mode ≠ .closed)
      (working : mode ≠ .failed) (waits : WaitsIn state target) :
      SessionReply mode (.changeState state) target tickNow
  | refused {mode target : SessionMode} {state : SessionState} (isOpen : mode ≠ .closed)
      (working : mode ≠ .failed) (waits : WaitsIn state target) (code : Int)
      {errorTarget : ErrorTarget} (generic : errorTarget ≠ .activate) (msg : String) :
      SessionReply mode (.changeState state) .failed (errorEvents code errorTarget msg)
  | activateClosed {mode : SessionMode} (closed : mode = .closed) :
      SessionReply mode .activate mode sessionEventsClear
  | activated {mode : SessionMode} (isOpen : mode ≠ .closed) :
      SessionReply mode .activate .activatingTls tickNow
  | activateFailed {mode : SessionMode} (isOpen : mode ≠ .closed) (code : Int) (msg : String) :
      SessionReply mode .activate .failed (errorEvents code .activate msg)
  | woken {mode after : SessionMode} {call : SessionCall} {ev : SessionEvents}
      (wakes : call.wakes = true) (reply : WakeReply mode after ev) :
      SessionReply mode call after ev

section Replies

variable {E : Type} (env : Env) (engine : TlsEngine E)

/-! ## Changes of state -/

/-- The end of a call that has failed. -/
def InCall.FailedWith (call after : InCall E) (target : ErrorTarget) : Prop :=
  ∃ code msg, after.impl.mode = .failed ∧
    after.ev = { call.ev with
      sessionError := true
      errorCode := code
      errorTarget := target
      errorMsg := msg }

theorem sessionSetError_failedWith (call : InCall E) (err : Int) (target : ErrorTarget)
    (msg : String) : call.FailedWith (sessionSetError env call err target msg) target :=
  ⟨err, snprintf 192 msg, rfl, rfl⟩

/-- From cleared events the error is all that is reported. -/
theorem InCall.FailedWith.events {call after : InCall E} {target : ErrorTarget}
    (failed : call.FailedWith after target) (clear : call.ev = sessionEventsClear) :
    after.impl.mode = .failed ∧ ∃ code msg, after.ev = errorEvents code target msg := by
  obtain ⟨code, msg, mode, events⟩ := failed
  refine ⟨mode, code, msg, ?_⟩
  rw [events, clear]
  rfl

theorem sessionSetFdtMode_reply (call : InCall E) (fdtMode : FdtMode) :
    call.Kept (sessionSetFdtMode env call fdtMode) ∨
      call.FailedWith (sessionSetFdtMode env call fdtMode) .generic := by
  unfold sessionSetFdtMode
  split
  · exact Or.inl ⟨rfl, rfl, rfl⟩
  · dsimp only
    split
    · exact Or.inr ⟨_, _, rfl, rfl⟩
    · exact Or.inl ⟨rfl, rfl, rfl⟩

theorem sessionAwait_reply {call : InCall E} (mode : SessionMode) (fdtMode : FdtMode)
    (clear : call.ev = sessionEventsClear) :
    ((sessionAwait env call mode fdtMode).impl.mode = mode ∧
        (sessionAwait env call mode fdtMode).ev = tickNow) ∨
      ((sessionAwait env call mode fdtMode).impl.mode = .failed ∧
        ∃ code msg, (sessionAwait env call mode fdtMode).ev = errorEvents code .generic msg) := by
  unfold sessionAwait
  dsimp only
  rcases sessionSetFdtMode_reply env (call.setMode mode) fdtMode with kept | failed
  · left
    have events : (sessionSetFdtMode env (call.setMode mode) fdtMode).ev = sessionEventsClear :=
      kept.ev.trans clear
    have clearError : (!(sessionSetFdtMode env (call.setMode mode) fdtMode).ev.sessionError) =
        true := by
      rw [events]
      rfl
    rw [if_pos clearError]
    constructor
    · exact kept.mode
    · dsimp only [InCall.requestTick]
      rw [events]
      rfl
  · right
    obtain ⟨failedMode, code, msg, events⟩ := failed.events clear
    have reported : ¬ (!(sessionSetFdtMode env (call.setMode mode) fdtMode).ev.sessionError) =
        true := by
      rw [events]
      exact Bool.false_ne_true
    rw [if_neg reported]
    exact ⟨failedMode, code, msg, events⟩

theorem sessionStartCapture_reply {call : InCall E} (clear : call.ev = sessionEventsClear) :
    ((sessionStartCapture env call).impl.mode = .capturing ∧
        (sessionStartCapture env call).ev = tickNow) ∨
      ((sessionStartCapture env call).impl.mode = .failed ∧
        ∃ code msg, (sessionStartCapture env call).ev = errorEvents code .capture msg) := by
  unfold sessionStartCapture
  split
  · exact Or.inr ((sessionSetError_failedWith env _ _ _ _).events clear)
  · dsimp only
    split
    · exact Or.inr ((sessionSetError_failedWith env _ _ _ _).events clear)
    · left
      refine ⟨rfl, ?_⟩
      dsimp only [InCall.requestTick, InCall.setMode, InCall.setSvc]
      rw [clear]
      rfl

theorem sessionChangeState_reply {call : InCall E} (state : SessionState)
    (clear : call.ev = sessionEventsClear) :
    SessionReply call.impl.mode (.changeState state) (sessionChangeState env call state).impl.mode
      (sessionChangeState env call state).ev := by
  by_cases ignored : (!sessionModeHasIo call.impl) = true ∨ call.impl.mode = .failed
  · unfold sessionChangeState
    rw [if_pos ignored, clear]
    apply SessionReply.ignored
    rcases ignored with closed | failed
    · left
      simpa [sessionModeHasIo] using closed
    · exact Or.inr failed
  obtain ⟨hasIo, working⟩ := not_or.mp ignored
  have isOpen : call.impl.mode ≠ .closed := by
    intro closed
    apply hasIo
    simp [sessionModeHasIo, closed]
  have awaited {mode : SessionMode} (fdtMode : FdtMode) (waits : WaitsIn state mode) :
      SessionReply call.impl.mode (.changeState state)
        (sessionAwait env call mode fdtMode).impl.mode (sessionAwait env call mode fdtMode).ev := by
    rcases sessionAwait_reply env mode fdtMode clear with ⟨reached, events⟩ |
      ⟨failed, code, msg, events⟩
    · rw [reached, events]
      exact .waits isOpen working waits
    · rw [failed, events]
      exact .refused isOpen working waits code (fun impossible => by cases impossible) msg
  unfold sessionChangeState
  rw [if_neg ignored]
  cases state with
  | awaitFingerOn => exact awaited .waitDown .fingerOn
  | awaitFingerOff => exact awaited .waitUp .fingerOff
  | capture =>
      rcases sessionStartCapture_reply env clear with ⟨reached, events⟩ |
        ⟨failed, code, msg, events⟩
      · dsimp only
        rw [reached, events]
        exact .waits isOpen working .capture
      · dsimp only
        rw [failed, events]
        exact .refused isOpen working .capture code (fun impossible => by cases impossible) msg
  | idle =>
      obtain ⟨fdt, same, -, -⟩ := sessionSetFdtMode_idle env (call.setMode .idle)
      dsimp only
      rw [same]
      change SessionReply _ _ .idle call.ev
      rw [clear]
      exact .rests isOpen working .idle
  | inactive =>
      have stopped : (sessionStopRun call.impl).mode = .ready := by
        unfold sessionStopRun
        rw [if_pos isOpen]
      obtain ⟨fdt, same, -, -⟩ :=
        sessionSetFdtMode_idle env { call with impl := sessionStopRun call.impl }
      dsimp only
      rw [same]
      change SessionReply _ _ (sessionStopRun call.impl).mode call.ev
      rw [clear, stopped]
      exact .rests isOpen working .inactive

/-! ## Activation and cleanup -/

theorem sessionActivate_reply {call : InCall E} (clear : call.ev = sessionEventsClear) :
    SessionReply call.impl.mode .activate (sessionActivate env engine call).2.impl.mode
      (sessionActivate env engine call).2.ev ∧
    ((sessionActivate env engine call).1 < 0 ↔
      (sessionActivate env engine call).2.impl.mode ≠ .activatingTls) := by
  have noError : call.ev.sessionError = false := by
    rw [clear]
    rfl
  have spec := sessionActivate_spec env engine noError
  by_cases closed : call.impl.mode = .closed
  · have same : sessionActivate env engine call = (EINVAL.rc, call) := by
      simp [sessionActivate, sessionModeHasIo, closed]
    rw [same]
    dsimp only
    rw [clear]
    refine ⟨.activateClosed closed, ?_⟩
    rw [closed]
    exact ⟨fun _ => SessionMode.noConfusion, fun _ => rc_neg EINVAL⟩
  have hasIo : ¬ (!sessionModeHasIo call.impl) = true := by
    rw [sessionModeHasIo_of_open closed]
    exact Bool.false_ne_true
  unfold sessionActivate at spec ⊢
  rw [if_neg hasIo] at spec ⊢
  dsimp only at spec ⊢
  generalize startEq : (if call.impl.mode = .failed then call.setMode .ready else call) = start
    at spec ⊢
  have startClear : start.ev = sessionEventsClear := by
    rw [← startEq]
    split
    · exact clear
    · exact clear
  obtain ⟨ret, svc, io, -, outcome⟩ := sessionRearmTlsIfNeeded_spec env engine start
  rcases outcome with ⟨negative, msg, outcome⟩ | ⟨-, outcome⟩
  · rw [outcome]
    have code : (sessionSetError env (start.setSvc svc io) ret .activate msg).ev.errorCode = ret :=
      rfl
    have reported : (sessionSetError env (start.setSvc svc io) ret .activate msg).ev.sessionError =
        true := rfl
    rw [if_pos reported, code, if_pos (Int.ne_of_lt negative)]
    obtain ⟨failed, errorCode, text, events⟩ :=
      (sessionSetError_failedWith env (start.setSvc svc io) ret .activate msg).events startClear
    dsimp only
    rw [failed, events]
    exact ⟨.activateFailed closed errorCode text,
      fun _ => SessionMode.noConfusion, fun _ => negative⟩
  · rw [outcome]
    have notReported : ¬ (start.setSvc svc io).ev.sessionError = true := by
      change ¬ start.ev.sessionError = true
      rw [startClear]
      exact Bool.false_ne_true
    rw [if_neg notReported]
    dsimp only [InCall.requestTick, InCall.setSvc]
    rw [startClear]
    refine ⟨.activated closed, ?_⟩
    exact ⟨fun negative => absurd negative (Int.lt_irrefl 0),
      fun different => absurd rfl different⟩

theorem sessionBeginCleanup_reply {call : InCall E} (clear : call.ev = sessionEventsClear)
    (resetMcu : Bool) :
    SessionReply call.impl.mode .requestDeactivate
        (sessionBeginCleanup env call .deactivate false).impl.mode
        (sessionBeginCleanup env call .deactivate false).ev ∧
      SessionReply call.impl.mode (.requestClose resetMcu)
        (sessionBeginCleanup env call .close resetMcu).impl.mode
        (sessionBeginCleanup env call .close resetMcu).ev := by
  unfold sessionBeginCleanup
  by_cases closed : call.impl.mode = .closed
  · have kept : sessionStopRun call.impl = call.impl := by
      simp [sessionStopRun, closed]
    have noIo : (!sessionModeHasIo call.impl) = true := by
      simp [sessionModeHasIo, closed]
    dsimp only
    rw [kept, if_pos noIo, if_pos noIo]
    dsimp only
    rw [clear, closed]
    exact ⟨.deactivated .closed, .closed .closed resetMcu⟩
  · have stopped : (sessionStopRun call.impl).mode = .ready := by
      unfold sessionStopRun
      rw [if_pos closed]
    have hasIo : ¬ (!sessionModeHasIo (sessionStopRun call.impl)) = true := by
      simp [sessionModeHasIo, stopped]
    dsimp only
    rw [if_neg hasIo, if_neg hasIo]
    have stopsIt := SessionReply.deactivated call.impl.mode
    rw [if_neg closed] at stopsIt
    dsimp only
    rw [clear]
    exact ⟨stopsIt, .closed call.impl.mode resetMcu⟩

/-! ## Ticks -/

/-- A call that has reported nothing so far but perhaps a finger. -/
structure SessionEvents.Clean (ev : SessionEvents) : Prop where
  sessionError : ev.sessionError = false
  activateComplete : ev.activateComplete = false
  imageReady : ev.imageReady = false
  cancelTick : ev.cancelTick = false

/-- A part of a call that has failed, with the reports it leaves alone. -/
structure InCall.Breaks (before after : InCall E) : Prop where
  mode : after.impl.mode = .failed
  sessionError : after.ev.sessionError = true
  activateComplete : after.ev.activateComplete = before.ev.activateComplete
  imageReady : after.ev.imageReady = before.ev.imageReady
  same : before.ev.SameReports after.ev
  target : after.ev.TargetOf before.impl.mode

/-- A part of a call that goes on without a report. -/
structure InCall.GoesOn (before after : InCall E) : Prop where
  proceeds : Proceeds before.impl.mode after.impl.mode
  sessionError : after.ev.sessionError = before.ev.sessionError
  activateComplete : after.ev.activateComplete = before.ev.activateComplete
  imageReady : after.ev.imageReady = before.ev.imageReady
  cancelTick : after.ev.cancelTick = before.ev.cancelTick
  same : before.ev.SameReports after.ev

theorem InCall.FailedWith.breaks {call after : InCall E}
    (failed : call.FailedWith after .generic) : call.Breaks after := by
  obtain ⟨code, msg, mode, events⟩ := failed
  constructor
  · exact mode
  all_goals rw [events]
  · exact ⟨rfl, rfl, rfl, rfl⟩
  · intro target
    cases target

/-- An error after parts that report nothing. -/
theorem sessionSetError_breaks {before call : InCall E} (events : call.ev = before.ev) (err : Int)
    {target : ErrorTarget} (msg : String)
    (activating : target = .activate → before.impl.mode.isActivating = true) :
    before.Breaks (sessionSetError env call err target msg) := by
  constructor
  · rfl
  · rfl
  · rw [← events]
    rfl
  · rw [← events]
    rfl
  · rw [← events]
    exact ⟨rfl, rfl, rfl, rfl⟩
  · exact activating

/-- The same for an error that does not belong to the activation. -/
theorem sessionSetError_breaks_generic {before call : InCall E} (events : call.ev = before.ev)
    (err : Int) (msg : String) : before.Breaks (sessionSetError env call err .generic msg) :=
  sessionSetError_breaks env events err msg fun impossible => by cases impossible

theorem InCall.Kept.goesOn {call after : InCall E} (kept : call.Kept after) :
    call.GoesOn after := by
  constructor
  · rw [kept.mode]
    exact .same _
  all_goals rw [kept.ev]
  exact .refl _

theorem InCall.GoesOn.clean {before after : InCall E} (goesOn : before.GoesOn after)
    (clean : before.ev.Clean) : after.ev.Clean :=
  ⟨goesOn.sessionError.trans clean.sessionError,
    goesOn.activateComplete.trans clean.activateComplete,
    goesOn.imageReady.trans clean.imageReady, goesOn.cancelTick.trans clean.cancelTick⟩

/-- A part that leaves the mode alone, and then another one. -/
theorem InCall.GoesOn.trans {first second third : InCall E} (one : first.GoesOn second)
    (sameMode : second.impl.mode = first.impl.mode) (two : second.GoesOn third) :
    first.GoesOn third := by
  constructor
  · rw [← sameMode]
    exact two.proceeds
  · exact two.sessionError.trans one.sessionError
  · exact two.activateComplete.trans one.activateComplete
  · exact two.imageReady.trans one.imageReady
  · exact two.cancelTick.trans one.cancelTick
  · exact one.same.trans two.same

/-- The same where the second part leaves the mode alone. -/
theorem InCall.GoesOn.append {first second third : InCall E} (one : first.GoesOn second)
    (two : second.GoesOn third) (sameMode : third.impl.mode = second.impl.mode) :
    first.GoesOn third := by
  constructor
  · rw [sameMode]
    exact one.proceeds
  · exact two.sessionError.trans one.sessionError
  · exact two.activateComplete.trans one.activateComplete
  · exact two.imageReady.trans one.imageReady
  · exact two.cancelTick.trans one.cancelTick
  · exact one.same.trans two.same

theorem InCall.GoesOn.refl (call : InCall E) : call.GoesOn call :=
  ⟨.same _, rfl, rfl, rfl, rfl, .refl _⟩

theorem InCall.GoesOn.tickIf {before after : InCall E} (goesOn : before.GoesOn after)
    (condition : Bool) : before.GoesOn (after.tickIf condition) := by
  unfold InCall.tickIf
  split
  · exact ⟨goesOn.proceeds, goesOn.sessionError, goesOn.activateComplete, goesOn.imageReady,
      goesOn.cancelTick, goesOn.same.trans ⟨rfl, rfl, rfl, rfl⟩⟩
  · exact goesOn

/-- What an activation comes from is one. -/
theorem Proceeds.isActivating {mode target : SessionMode} (proceeds : Proceeds mode target)
    (activating : target.isActivating = true) : mode.isActivating = true := by
  cases proceeds with
  | same _ => exact activating
  | connected => rfl
  | fingerUp => rfl

theorem InCall.GoesOn.breaks {first second third : InCall E} (one : first.GoesOn second)
    (two : second.Breaks third) : first.Breaks third :=
  ⟨two.mode, two.sessionError, two.activateComplete.trans one.activateComplete,
    two.imageReady.trans one.imageReady, one.same.trans two.same,
    fun target => one.proceeds.isActivating (two.target target)⟩

theorem sessionPollLoop_reply (rounds : Nat) (call : InCall E) :
    call.Breaks (sessionPollLoop env engine rounds call) ∨
      (call.GoesOn (sessionPollLoop env engine rounds call) ∧
        (sessionPollLoop env engine rounds call).impl.mode = call.impl.mode) := by
  induction rounds generalizing call with
  | zero => exact Or.inr ⟨.refl call, rfl⟩
  | succ rounds ih =>
      unfold sessionPollLoop
      dsimp only
      generalize tlsServiceStep env call.impl.fd engine call.io call.impl.svc = stepped
      split
      · exact Or.inr ⟨⟨.same _, rfl, rfl, rfl, rfl, .refl _⟩, rfl⟩
      · split
        · exact Or.inl (sessionSetError_breaks_generic env (by rfl) _ _)
        · generalize nextEq : (if rounds = 0 then
              (call.setSvc stepped.2.1 stepped.2.2).requestTick 0
            else call.setSvc stepped.2.1 stepped.2.2) = next
          have one : call.GoesOn next ∧ next.impl.mode = call.impl.mode := by
            rw [← nextEq]
            split
            · exact ⟨⟨.same _, rfl, rfl, rfl, rfl, ⟨rfl, rfl, rfl, rfl⟩⟩, rfl⟩
            · exact ⟨⟨.same _, rfl, rfl, rfl, rfl, .refl _⟩, rfl⟩
          rcases ih next with failed | ⟨goesOn, mode⟩
          · exact Or.inl (one.1.breaks failed)
          · exact Or.inr ⟨one.1.trans one.2 goesOn, mode.trans one.2⟩

theorem sessionMaybeFinishActivation_reply {call : InCall E}
    (clear : call.ev.sessionError = false) :
    call.Breaks (sessionMaybeFinishActivation env call) ∨
      (call.GoesOn (sessionMaybeFinishActivation env call) ∧
        ((sessionMaybeFinishActivation env call).impl.mode = call.impl.mode ∨
          (sessionMaybeFinishActivation env call).impl.mode = .activatingWaitUp)) := by
  unfold sessionMaybeFinishActivation
  split
  · exact Or.inr ⟨.refl call, Or.inl rfl⟩
  · rename_i activating
    split
    · exact Or.inr ⟨.refl call, Or.inl rfl⟩
    · dsimp only
      rcases sessionSetFdtMode_reply env call .waitUp with kept | failed
      · have stillClear : ¬ (sessionSetFdtMode env call .waitUp).ev.sessionError = true := by
          rw [kept.ev, clear]
          exact Bool.false_ne_true
        rw [if_neg stillClear]
        right
        have events := kept.goesOn
        refine ⟨?_, Or.inr rfl⟩
        constructor
        · rw [not_not.mp activating]
          exact .connected
        · exact events.sessionError
        · exact events.activateComplete
        · exact events.imageReady
        · exact events.cancelTick
        · exact ⟨events.same.deactivateComplete, events.same.closeComplete,
            events.same.fingerStatusChanged, events.same.fingerPresent⟩
      · have broken := failed.breaks
        rw [if_pos broken.sessionError]
        exact Or.inl broken

theorem sessionPollFdt_reply (call : InCall E) :
    ((sessionPollFdt env call).1 < 0 ∧ call.Breaks (sessionPollFdt env call).2) ∨
      (¬ (sessionPollFdt env call).1 < 0 ∧ call.Kept (sessionPollFdt env call).2) := by
  unfold sessionPollFdt
  split
  · dsimp only
    split
    · rename_i negative
      exact Or.inl ⟨negative, sessionSetError_breaks_generic env (by rfl) _ _⟩
    · rename_i notNegative
      exact Or.inr ⟨notNegative, rfl, rfl, rfl⟩
  · exact Or.inr ⟨Int.lt_irrefl 0, rfl, rfl, rfl⟩

/-- How a tick can end. -/
inductive InCall.TickEnds (before after : InCall E) : Prop
  | breaks (broken : before.Breaks after)
  | goesOn (goesOn : before.GoesOn after)
  | darkStored (mode : before.impl.mode = .activatingDarkCapture) (idle : after.impl.mode = .idle)
      (sessionError : after.ev.sessionError = before.ev.sessionError)
      (activateComplete : after.ev.activateComplete = true)
      (imageReady : after.ev.imageReady = before.ev.imageReady)
      (cancelTick : after.ev.cancelTick = before.ev.cancelTick)
      (same : before.ev.SameReports after.ev)
  | imageReady (mode : before.impl.mode = .capturing) (idle : after.impl.mode = .idle)
      (pending : after.impl.pendingImg.isSome = true)
      (sessionError : after.ev.sessionError = before.ev.sessionError)
      (activateComplete : after.ev.activateComplete = before.ev.activateComplete)
      (imageReady : after.ev.imageReady = true)
      (cancelTick : after.ev.cancelTick = before.ev.cancelTick)
      (same : before.ev.SameReports after.ev)

theorem InCall.GoesOn.tickEnds {first second third : InCall E} (one : first.GoesOn second)
    (sameMode : second.impl.mode = first.impl.mode) (two : second.TickEnds third) :
    first.TickEnds third := by
  cases two with
  | breaks broken => exact .breaks (one.breaks broken)
  | goesOn goesOn => exact .goesOn (one.trans sameMode goesOn)
  | darkStored mode idle sessionError activateComplete imageReady cancelTick same =>
      exact .darkStored (sameMode ▸ mode) idle (sessionError.trans one.sessionError)
        activateComplete (imageReady.trans one.imageReady) (cancelTick.trans one.cancelTick)
        (one.same.trans same)
  | imageReady mode idle pending sessionError activateComplete imageReady cancelTick same =>
      exact .imageReady (sameMode ▸ mode) idle pending (sessionError.trans one.sessionError)
        (activateComplete.trans one.activateComplete) imageReady
        (cancelTick.trans one.cancelTick) (one.same.trans same)

/-- What a part that only asks for ticks leaves of the outcome. -/
theorem InCall.TickEnds.tickIf {before after : InCall E} (ends : before.TickEnds after)
    (condition : Bool) : before.TickEnds (after.tickIf condition) := by
  unfold InCall.tickIf
  split
  · cases ends with
    | breaks broken =>
        exact .breaks ⟨broken.mode, broken.sessionError, broken.activateComplete,
          broken.imageReady, broken.same.trans ⟨rfl, rfl, rfl, rfl⟩, broken.target⟩
    | goesOn goesOn => exact .goesOn (goesOn.tickIf true)
    | darkStored mode idle sessionError activateComplete imageReady cancelTick same =>
        exact .darkStored mode idle sessionError activateComplete imageReady cancelTick
          (same.trans ⟨rfl, rfl, rfl, rfl⟩)
    | imageReady mode idle pending sessionError activateComplete imageReady cancelTick same =>
        exact .imageReady mode idle pending sessionError activateComplete imageReady cancelTick
          (same.trans ⟨rfl, rfl, rfl, rfl⟩)
  · exact ends

theorem sessionFinishDark_reply {call : InCall E} (img : DecodedImage)
    (capture : call.impl.mode = .activatingDarkCapture) (clear : call.ev.sessionError = false) :
    call.TickEnds (sessionFinishDark env call img) := by
  have loaded := sessionSetDarkFromImage_kept env call img
  unfold sessionFinishDark
  dsimp only
  generalize sessionSetDarkFromImage env call img = out at loaded ⊢
  split
  · refine .breaks (sessionSetError_breaks env loaded.ev _ _ fun _ => ?_)
    rw [capture]
    rfl
  · obtain ⟨fdt, same, -, -⟩ := sessionSetFdtMode_idle env out.2
    rw [same]
    have stillClear : ¬ (out.2.setFdt fdt out.2.io).ev.sessionError = true := by
      change ¬ out.2.ev.sessionError = true
      rw [loaded.ev, clear]
      exact Bool.false_ne_true
    rw [if_neg stillClear]
    have sameEvents : (out.2.setFdt fdt out.2.io).ev = call.ev := loaded.ev
    apply InCall.TickEnds.darkStored capture
    · rfl
    · rw [← sameEvents]
      rfl
    · rfl
    · rw [← sameEvents]
      rfl
    · rw [← sameEvents]
      rfl
    · rw [← sameEvents]
      exact ⟨rfl, rfl, rfl, rfl⟩

theorem sessionFinishImage_reply {call : InCall E} (img : DecodedImage)
    (capture : call.impl.mode = .capturing) : call.TickEnds (sessionFinishImage env call img) := by
  unfold sessionFinishImage
  dsimp only
  split
  · exact .breaks (sessionSetError_breaks env (by rfl) _ _ fun impossible => by cases impossible)
  · exact .imageReady capture rfl rfl rfl rfl rfl rfl ⟨rfl, rfl, rfl, rfl⟩

theorem sessionFinalizeCapture_reply {call : InCall E} (target : ErrorTarget)
    (capture : call.impl.mode.isCapture = true) (clear : call.ev.sessionError = false)
    (activating : target = .activate → call.impl.mode.isActivating = true) :
    call.TickEnds (sessionFinalizeCapture env call target) := by
  unfold sessionFinalizeCapture
  split
  · exact .goesOn (.refl call)
  · dsimp only
    generalize tlsServiceGetRawImage env call.io call.impl.svc = raw
    split
    · exact .breaks (sessionSetError_breaks env (by rfl) _ _ activating)
    · generalize decodeImage env (call.setSvc raw.svc raw.io).io (raw.body.getD []) = decoded
      have stored : call.GoesOn { call.setSvc raw.svc raw.io with io := decoded.2 } :=
        ⟨.same _, rfl, rfl, rfl, rfl, .refl _⟩
      split
      · exact .breaks (sessionSetError_breaks env (by rfl) _ _ activating)
      · rename_i img _
        split
        · rename_i dark
          exact stored.tickEnds rfl (sessionFinishDark_reply env img dark clear)
        · rename_i notDark
          have mode : call.impl.mode = .capturing := by
            rcases of_decide_eq_true capture with dark | capturing
            · exact absurd dark notDark
            · exact capturing
          exact stored.tickEnds rfl (sessionFinishImage_reply env img mode)

theorem sessionPumpEnd_reply {call : InCall E} (clear : call.ev.sessionError = false) :
    call.TickEnds (sessionPumpEnd env call) := by
  unfold sessionPumpEnd
  have ended : call.TickEnds
      (if call.impl.mode.isCapture then
        sessionFinalizeCapture env call
          (if call.impl.mode = .capturing then .capture else .activate)
      else call) := by
    by_cases capture : call.impl.mode.isCapture = true
    · rw [if_pos capture]
      apply sessionFinalizeCapture_reply env _ capture clear
      intro target
      rcases of_decide_eq_true capture with dark | capturing
      · rw [dark]
        rfl
      · rw [if_pos capturing] at target
        cases target
    · rw [if_neg capture]
      exact .goesOn (.refl call)
  unfold sessionPumpTick
  exact ((ended.tickIf _).tickIf _).tickIf _

theorem sessionPump_reply {call : InCall E} (actionCancelled : Bool) (clean : call.ev.Clean) :
    call.TickEnds (sessionPump env engine call actionCancelled) := by
  unfold sessionPump
  split
  · exact .goesOn (.refl call)
  split
  · rename_i cancelled
    have activating : (if call.impl.mode ≠ .capturing then ErrorTarget.activate else .capture) =
        .activate → call.impl.mode.isActivating = true := by
      intro target
      rcases of_decide_eq_true (Bool.and_eq_true _ _ ▸ cancelled).2 with mode | mode | mode | mode
      · rw [mode]
        rfl
      · rw [mode]
        rfl
      · rw [mode]
        rfl
      · rw [if_neg (not_not.mpr mode)] at target
        cases target
    have broken := sessionSetError_breaks env (rfl : call.ev = call.ev) ECANCELED.rc "Cancelled"
      activating
    exact .breaks ⟨broken.mode, broken.sessionError, broken.activateComplete, broken.imageReady,
      broken.same.trans ⟨rfl, rfl, rfl, rfl⟩, broken.target⟩
  have polled : call.Breaks (sessionPollTls env engine call) ∨
      (call.GoesOn (sessionPollTls env engine call) ∧
        (sessionPollTls env engine call).impl.mode = call.impl.mode) :=
    sessionPollLoop_reply env engine 64 call
  dsimp only
  generalize sessionPollTls env engine call = afterTls at polled ⊢
  rcases polled with broken | ⟨polled, mode⟩
  · rw [if_pos broken.sessionError]
    exact .breaks broken
  have clearTls := (polled.clean clean).sessionError
  have notReported : ¬ afterTls.ev.sessionError = true := by
    rw [clearTls]
    exact Bool.false_ne_true
  rw [if_neg notReported]
  apply polled.tickEnds mode
  rcases sessionMaybeFinishActivation_reply env clearTls with broken | ⟨finished, startedMode⟩
  · rw [if_pos broken.sessionError]
    exact .breaks broken
  generalize sessionMaybeFinishActivation env afterTls = started at finished startedMode ⊢
  have clearStarted : started.ev.sessionError = false := finished.sessionError.trans clearTls
  have notFailed : ¬ started.ev.sessionError = true := by
    rw [clearStarted]
    exact Bool.false_ne_true
  rw [if_neg notFailed]
  rcases sessionPollFdt_reply env started with ⟨negative, broken⟩ | ⟨notNegative, kept⟩
  · rw [if_pos negative]
    exact .breaks (finished.breaks broken)
  rw [if_neg notNegative]
  generalize (sessionPollFdt env started).2 = flowed at kept ⊢
  rcases startedMode with sameMode | waiting
  · have clearFlowed : flowed.ev.sessionError = false := by
      rw [kept.ev]
      exact clearStarted
    have ended := sessionPumpEnd_reply env clearFlowed
    exact finished.tickEnds sameMode (kept.goesOn.tickEnds kept.mode ended)
  · -- The handshake has just ended, and no capture can end in the same tick.
    have notCapture : ¬ flowed.impl.mode.isCapture = true := by
      rw [kept.mode, waiting]
      exact Bool.false_ne_true
    have same : sessionPumpEnd env flowed = sessionPumpTick flowed := by
      unfold sessionPumpEnd
      rw [if_neg notCapture]
    have ticked : flowed.GoesOn (sessionPumpTick flowed) := by
      unfold sessionPumpTick
      exact (((InCall.GoesOn.refl flowed).tickIf _).tickIf _).tickIf _
    have tickedMode : (sessionPumpTick flowed).impl.mode = started.impl.mode := by
      rw [sessionPumpTick_impl]
      exact kept.mode
    rw [same]
    exact .goesOn (finished.append (kept.goesOn.append ticked (tickedMode.trans kept.mode.symm))
      tickedMode)

/-! ## Records -/

/-- What the records of a call have led to since it began in `mode`. -/
inductive InCall.RecordsEnd (mode : SessionMode) (after : InCall E) : Prop
  | failed (failed : after.impl.mode = .failed) (sessionError : after.ev.sessionError = true)
      (activateComplete : after.ev.activateComplete = false)
      (imageReady : after.ev.imageReady = false)
      (deactivateComplete : after.ev.deactivateComplete = false)
      (closeComplete : after.ev.closeComplete = false) (finger : after.ev.FingerOf mode)
      (target : after.ev.TargetOf mode)
  | goesOn (reached : after.impl.mode = mode ∨
        (mode = .activatingWaitUp ∧ after.impl.mode = .activatingDarkCapture))
      (clean : after.ev.Clean) (deactivateComplete : after.ev.deactivateComplete = false)
      (closeComplete : after.ev.closeComplete = false) (finger : after.ev.FingerOf mode)

/-- An error behind records that were handled. -/
theorem InCall.RecordsEnd.fail {mode : SessionMode} {call after : InCall E}
    (ends : call.RecordsEnd mode) (clean : call.ev.Clean) (broken : call.Breaks after) :
    after.RecordsEnd mode := by
  cases ends with
  | failed _ sessionError =>
      rw [clean.sessionError] at sessionError
      cases sessionError
  | goesOn reached _ deactivateComplete closeComplete finger =>
      apply InCall.RecordsEnd.failed broken.mode broken.sessionError
      · exact broken.activateComplete.trans clean.activateComplete
      · exact broken.imageReady.trans clean.imageReady
      · exact broken.same.deactivateComplete.trans deactivateComplete
      · exact broken.same.closeComplete.trans closeComplete
      · intro changed
        rw [broken.same.fingerPresent]
        exact finger (broken.same.fingerStatusChanged ▸ changed)
      · intro target
        have activating := broken.target target
        rcases reached with same | ⟨waiting, -⟩
        · rw [← same]
          exact activating
        · rw [waiting]
          rfl

/-- The finger that a record reports is the one the mode waits for. -/
theorem sessionFingerEvents_reply {mode : SessionMode} {call : InCall E} (events : FdtEvents)
    (reached : call.impl.mode = mode ∨
      (mode = .activatingWaitUp ∧ call.impl.mode = .activatingDarkCapture))
    (finger : call.ev.FingerOf mode) : (sessionFingerEvents call events).ev.FingerOf mode := by
  unfold sessionFingerEvents
  dsimp only
  by_cases down : call.impl.mode = .waitFingerOn ∧ events.down = true
  · have waits : mode = .waitFingerOn := by
      rcases reached with same | ⟨-, dark⟩
      · exact same.symm.trans down.1
      · rw [dark] at down
        cases down.1
    rw [if_pos down]
    split
    · rename_i up
      have both : call.impl.mode = .waitFingerOff := up.1
      rw [down.1] at both
      cases both
    · intro _
      exact Or.inl ⟨waits, rfl⟩
  · rw [if_neg down]
    split
    · rename_i up
      intro _
      rcases reached with same | ⟨-, dark⟩
      · exact Or.inr ⟨same.symm.trans up.1, rfl⟩
      · rw [dark] at up
        cases up.1
    · exact finger

theorem sessionFingerEvents_same (call : InCall E) (events : FdtEvents) :
    (sessionFingerEvents call events).impl = call.impl ∧
      (call.ev.Clean → (sessionFingerEvents call events).ev.Clean) ∧
      (sessionFingerEvents call events).ev.deactivateComplete = call.ev.deactivateComplete ∧
      (sessionFingerEvents call events).ev.closeComplete = call.ev.closeComplete := by
  unfold sessionFingerEvents
  dsimp only
  split
  all_goals split
  all_goals
    refine ⟨rfl, ?_, rfl, rfl⟩
    intro clean
    exact ⟨clean.sessionError, clean.activateComplete, clean.imageReady, clean.cancelTick⟩

theorem sessionRequestDark_reply {mode : SessionMode} {call : InCall E} (events : FdtEvents)
    (ends : call.RecordsEnd mode) (clean : call.ev.Clean) :
    (sessionRequestDark env call events).2.RecordsEnd mode ∧
      (¬ (sessionRequestDark env call events).1 < 0 →
        (sessionRequestDark env call events).2.ev.Clean) := by
  unfold sessionRequestDark
  split
  · rename_i waiting
    dsimp only
    split
    · rename_i negative
      refine ⟨ends.fail clean (sessionSetError_breaks env (by rfl) _ _ fun _ => ?_), ?_⟩
      · rw [waiting.1]
        rfl
      intro notNegative
      exact absurd negative notNegative
    · have stillClean : ((call.setSvc (tlsServiceRequestCapture call.impl.svc).2 call.io).setMode
          .activatingDarkCapture |>.requestTick 0).ev.Clean :=
        ⟨clean.sessionError, clean.activateComplete, clean.imageReady, clean.cancelTick⟩
      refine ⟨?_, fun _ => stillClean⟩
      cases ends with
      | failed failed =>
          rw [waiting.1] at failed
          cases failed
      | goesOn reached _ deactivateComplete closeComplete finger =>
          have started : mode = .activatingWaitUp := by
            rcases reached with same | ⟨started, -⟩
            · exact same.symm.trans waiting.1
            · exact started
          exact .goesOn (Or.inr ⟨started, rfl⟩) stillClean deactivateComplete closeComplete finger
  · exact ⟨ends, fun _ => clean⟩

theorem sessionOnRecord_reply {mode : SessionMode} {call : InCall E} (hdr : TapHdr)
    (payload : List Byte) (ends : call.RecordsEnd mode) (clean : call.ev.Clean) :
    (sessionOnRecord env engine call hdr payload).2.RecordsEnd mode ∧
      ((sessionOnRecord env engine call hdr payload).1 = true →
        (sessionOnRecord env engine call hdr payload).2.ev.Clean) := by
  unfold sessionOnRecord
  generalize fdtFlowFeedRecord env call.impl.fd call.io call.impl.fdt hdr payload = fed
  dsimp only
  split
  · refine ⟨ends.fail clean (sessionSetError_breaks_generic env (by rfl) _ _), ?_⟩
    intro goesOn
    cases goesOn
  · obtain ⟨sameImpl, keepsClean, sameDeactivate, sameClose⟩ :=
      sessionFingerEvents_same (call.setFdt fed.flow fed.io) fed.events
    have reported (reached : (call.setFdt fed.flow fed.io).impl.mode = mode ∨
          (mode = .activatingWaitUp ∧
            (call.setFdt fed.flow fed.io).impl.mode = .activatingDarkCapture))
        (finger : (call.setFdt fed.flow fed.io).ev.FingerOf mode) :=
      sessionFingerEvents_reply fed.events reached finger
    generalize sessionFingerEvents (call.setFdt fed.flow fed.io) fed.events = heard
      at sameImpl keepsClean sameDeactivate sameClose reported ⊢
    have heardClean : heard.ev.Clean := keepsClean clean
    have heardEnds : heard.RecordsEnd mode := by
      cases ends with
      | failed _ sessionError =>
          rw [clean.sessionError] at sessionError
          cases sessionError
      | goesOn reached _ deactivateComplete closeComplete finger =>
          apply InCall.RecordsEnd.goesOn
          · rw [sameImpl]
            exact reached
          · exact heardClean
          · exact sameDeactivate.trans deactivateComplete
          · exact sameClose.trans closeComplete
          · exact reported reached finger
    obtain ⟨requestedEnds, requestedClean⟩ :=
      sessionRequestDark_reply env fed.events heardEnds heardClean
    generalize sessionRequestDark env heard fed.events = requested
      at requestedEnds requestedClean ⊢
    split
    · refine ⟨requestedEnds, ?_⟩
      intro goesOn
      cases goesOn
    · rename_i notNegative
      have nowClean := requestedClean notNegative
      split
      · refine ⟨requestedEnds.fail nowClean (sessionSetError_breaks_generic env (by rfl) _ _), ?_⟩
        intro goesOn
        cases goesOn
      · refine ⟨?_, fun _ => nowClean⟩
        cases requestedEnds with
        | failed failed sessionError activateComplete imageReady deactivateComplete closeComplete
            finger target =>
            exact .failed failed sessionError activateComplete imageReady deactivateComplete
              closeComplete finger target
        | goesOn reached clean deactivateComplete closeComplete finger =>
            exact .goesOn reached clean deactivateComplete closeComplete finger

theorem sessionOnFdLoop_reply (results : List (Except ℕ+ (List Byte))) {mode : SessionMode}
    {call : InCall E} (ends : call.RecordsEnd mode) (clean : call.ev.Clean) :
    (sessionOnFdLoop env engine results call).RecordsEnd mode := by
  induction results generalizing call with
  | nil =>
      unfold sessionOnFdLoop
      split
      · exact ends.fail clean (sessionSetError_breaks_generic env (by rfl) _ _)
      · split
        · exact ends.fail clean (sessionSetError_breaks_generic env (by rfl) _ _)
        · exact ends
  | cons result results ih =>
      unfold sessionOnFdLoop
      split
      · exact ends.fail clean (sessionSetError_breaks_generic env (by rfl) _ _)
      · split
        · exact ends.fail clean (sessionSetError_breaks_generic env (by rfl) _ _)
        · dsimp only
          split
          · split
            · exact ends
            · exact ends.fail clean (sessionSetError_breaks_generic env (by rfl) _ _)
          · rename_i hdr payload _
            obtain ⟨handled, handledClean⟩ :=
              sessionOnRecord_reply env engine hdr payload ends clean
            split
            · rename_i goesOn
              exact ih handled (handledClean goesOn)
            · exact handled

/-! ## Calls -/

/-- A tick behind records that were handled, as the driver sees both. -/
theorem InCall.RecordsEnd.reply {mode : SessionMode} {fed after : InCall E}
    (running : mode.isStopped = false) (ends : fed.RecordsEnd mode)
    (asleep : fed.impl.mode.isStopped = true → after = fed)
    (ticked : fed.ev.Clean → fed.TickEnds after) :
    WakeReply mode after.impl.mode after.ev ∧
      (after.ev.imageReady = true → after.impl.pendingImg.isSome = true) := by
  cases ends with
  | failed failed sessionError activateComplete imageReady deactivateComplete closeComplete
      finger target =>
      have stopped : fed.impl.mode.isStopped = true := by
        rw [failed]
        rfl
      rw [asleep stopped, failed]
      constructor
      · exact .failed running sessionError activateComplete imageReady deactivateComplete
          closeComplete finger target
      · intro ready
        rw [imageReady] at ready
        cases ready
  | goesOn reached clean deactivateComplete closeComplete finger =>
      have fingerAfter (same : fed.ev.SameReports after.ev) : after.ev.FingerOf mode := by
        intro changed
        rw [same.fingerPresent]
        exact finger (same.fingerStatusChanged ▸ changed)
      have noFinger (same : fed.ev.SameReports after.ev) (notOn : mode ≠ .waitFingerOn)
          (notOff : mode ≠ .waitFingerOff) : after.ev.fingerStatusChanged = false := by
        cases changed : after.ev.fingerStatusChanged with
        | false => rfl
        | true =>
            rcases fingerAfter same changed with ⟨on, -⟩ | ⟨off, -⟩
            · exact absurd on notOn
            · exact absurd off notOff
      have notReady (imageReady : after.ev.imageReady = fed.ev.imageReady) :
          after.ev.imageReady = true → after.impl.pendingImg.isSome = true := by
        intro ready
        rw [imageReady, clean.imageReady] at ready
        cases ready
      cases ticked clean with
      | breaks broken =>
          refine ⟨?_, notReady broken.imageReady⟩
          rw [broken.mode]
          refine .failed running broken.sessionError
            (broken.activateComplete.trans clean.activateComplete)
            (broken.imageReady.trans clean.imageReady)
            (broken.same.deactivateComplete.trans deactivateComplete)
            (broken.same.closeComplete.trans closeComplete) (fingerAfter broken.same) ?_
          intro target
          have activating := broken.target target
          rcases reached with same | ⟨waiting, -⟩
          · rw [← same]
            exact activating
          · rw [waiting]
            rfl
      | goesOn goesOn =>
          refine ⟨?_, notReady goesOn.imageReady⟩
          have proceeds : Proceeds mode after.impl.mode := by
            have later := goesOn.proceeds
            rcases reached with same | ⟨rfl, dark⟩
            · rw [← same]
              exact later
            · rw [dark] at later
              generalize after.impl.mode = last at later ⊢
              cases later
              exact .fingerUp
          exact .proceeds running proceeds (goesOn.sessionError.trans clean.sessionError)
            (goesOn.activateComplete.trans clean.activateComplete)
            (goesOn.imageReady.trans clean.imageReady)
            (goesOn.same.deactivateComplete.trans deactivateComplete)
            (goesOn.same.closeComplete.trans closeComplete)
            (goesOn.cancelTick.trans clean.cancelTick) (fingerAfter goesOn.same)
      | darkStored dark idle sessionError activateComplete imageReady cancelTick same =>
          refine ⟨?_, notReady imageReady⟩
          have activating : mode = .activatingWaitUp ∨ mode = .activatingDarkCapture := by
            rcases reached with same | ⟨waiting, -⟩
            · exact Or.inr (same.symm.trans dark)
            · exact Or.inl waiting
          have quiet : after.ev.fingerStatusChanged = false := by
            apply noFinger same
            all_goals
              rcases activating with waiting | waiting
              all_goals
                rw [waiting]
                exact SessionMode.noConfusion
          rw [idle]
          exact .darkStored activating (sessionError.trans clean.sessionError)
            activateComplete (imageReady.trans clean.imageReady)
            (same.deactivateComplete.trans deactivateComplete)
            (same.closeComplete.trans closeComplete) (cancelTick.trans clean.cancelTick) quiet
      | imageReady capturing idle pending sessionError activateComplete imageReady cancelTick
          same =>
          refine ⟨?_, fun _ => pending⟩
          have started : mode = .capturing := by
            rcases reached with same | ⟨-, dark⟩
            · exact same.symm.trans capturing
            · rw [capturing] at dark
              cases dark
          have quiet : after.ev.fingerStatusChanged = false := by
            apply noFinger same
            all_goals
              rw [started]
              exact SessionMode.noConfusion
          rw [idle]
          exact .imageReady started (sessionError.trans clean.sessionError)
            (activateComplete.trans clean.activateComplete) imageReady
            (same.deactivateComplete.trans deactivateComplete)
            (same.closeComplete.trans closeComplete) (cancelTick.trans clean.cancelTick) quiet

theorem InCall.ev_start (impl : SessionImpl E) (io : Io) :
    InCall.ev ⟨impl, sessionEventsClear, io⟩ = sessionEventsClear :=
  rfl

/-- A call on cleared events has reported nothing yet. -/
theorem InCall.RecordsEnd.clear (impl : SessionImpl E) (io : Io) :
    InCall.RecordsEnd impl.mode ⟨impl, sessionEventsClear, io⟩ :=
  .goesOn (Or.inl rfl) ⟨rfl, rfl, rfl, rfl⟩ rfl rfl fun changed => by cases changed

theorem sessionPump_asleep {call : InCall E} (actionCancelled : Bool)
    (stopped : call.impl.mode.isStopped = true) :
    sessionPump env engine call actionCancelled = call := by
  unfold sessionPump
  rw [if_pos stopped]

theorem sessionPump_wakes (impl : SessionImpl E) (io : Io) (actionCancelled : Bool) :
    WakeReply impl.mode
        (sessionPump env engine ⟨impl, sessionEventsClear, io⟩ actionCancelled).impl.mode
        (sessionPump env engine ⟨impl, sessionEventsClear, io⟩ actionCancelled).ev ∧
      ((sessionPump env engine ⟨impl, sessionEventsClear, io⟩ actionCancelled).ev.imageReady =
          true →
        (sessionPump env engine ⟨impl, sessionEventsClear, io⟩
          actionCancelled).impl.pendingImg.isSome = true) := by
  cases running : impl.mode.isStopped with
  | true =>
      have asleep : sessionPump env engine ⟨impl, sessionEventsClear, io⟩ actionCancelled =
          ⟨impl, sessionEventsClear, io⟩ := sessionPump_asleep env engine actionCancelled running
      rw [asleep]
      exact ⟨.asleep running, fun ready => by cases ready⟩
  | false =>
      exact (InCall.RecordsEnd.clear impl io).reply running
        (fun stopped => by rw [running] at stopped; cases stopped)
        fun clean => sessionPump_reply env engine actionCancelled clean

theorem sessionOnFd_wakes (impl : SessionImpl E) (io : Io) (condition : UInt32)
    (actionCancelled : Bool) :
    WakeReply impl.mode
        (sessionOnFd env engine ⟨impl, sessionEventsClear, io⟩ condition
          actionCancelled).impl.mode
        (sessionOnFd env engine ⟨impl, sessionEventsClear, io⟩ condition actionCancelled).ev ∧
      ((sessionOnFd env engine ⟨impl, sessionEventsClear, io⟩ condition
          actionCancelled).ev.imageReady = true →
        (sessionOnFd env engine ⟨impl, sessionEventsClear, io⟩ condition
          actionCancelled).impl.pendingImg.isSome = true) := by
  unfold sessionOnFd
  cases running : impl.mode.isStopped with
  | true =>
      rw [if_pos rfl]
      exact ⟨.asleep running, fun ready => by cases ready⟩
  | false =>
      rw [if_neg Bool.false_ne_true]
      split
      · constructor
        · exact .failed running rfl rfl rfl rfl rfl (fun changed => by cases changed)
            fun target => by cases target
        · intro ready
          cases ready
      · have looped := sessionOnFdLoop_reply env engine (env.reads io.count)
          (InCall.RecordsEnd.clear impl (io.emit .read)) ⟨rfl, rfl, rfl, rfl⟩
        dsimp only
        exact looped.reply running (sessionPump_asleep env engine actionCancelled)
          fun clean => sessionPump_reply env engine actionCancelled clean

/-- The mode of a session with an implementation. -/
def SessionRun.HasMode (run : SessionRun E) (mode : SessionMode) : Prop :=
  ∃ impl, run.session = some impl ∧ impl.mode = mode

/-- The calls of a driver on a session that is there. -/
def SessionCall.isDriven : SessionCall → Bool
  | .requestClose _ => true
  | .requestDeactivate => true
  | .activate => true
  | .changeState _ => true
  | .onFd _ _ => true
  | .pump _ => true
  | _ => false

/-- Every call of a driver leads from a mode to a mode, with events, as
`SessionReply` lists them. -/
theorem sessionStep_reply {run : SessionRun E} {mode : SessionMode} (hasMode : run.HasMode mode)
    {call : SessionCall} (driven : call.isDriven = true) :
    ∃ after, (sessionStep env engine run call).1.HasMode after ∧
      SessionReply mode call after (sessionStep env engine run call).2.ev := by
  rcases run with ⟨session, io⟩
  obtain ⟨impl, rfl, rfl⟩ := hasMode
  cases call with
  | requestClose resetMcu =>
      exact ⟨_, ⟨_, rfl, rfl⟩, (sessionBeginCleanup_reply env (InCall.ev_start impl io) resetMcu).2⟩
  | requestDeactivate =>
      exact ⟨_, ⟨_, rfl, rfl⟩, (sessionBeginCleanup_reply env (InCall.ev_start impl io) false).1⟩
  | activate =>
      exact ⟨_, ⟨_, rfl, rfl⟩, (sessionActivate_reply env engine (InCall.ev_start impl io)).1⟩
  | changeState state =>
      exact ⟨_, ⟨_, rfl, rfl⟩, sessionChangeState_reply env state (InCall.ev_start impl io)⟩
  | onFd condition actionCancelled =>
      exact ⟨_, ⟨_, rfl, rfl⟩, .woken rfl
        (sessionOnFd_wakes env engine impl io condition actionCancelled).1⟩
  | pump actionCancelled =>
      exact ⟨_, ⟨_, rfl, rfl⟩, .woken rfl (sessionPump_wakes env engine impl io actionCancelled).1⟩
  | init => cases driven
  | dispose => cases driven
  | openPath devPath psk errbufLen => cases driven
  | takeImage => cases driven

end Replies

end Gxfp.User
