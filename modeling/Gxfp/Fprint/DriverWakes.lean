import Gxfp.Fprint.DriverShape

/-!
# Waking the session

A call that wakes the session may report a finger, an image, the end of the
activation or an error, each of which changes the state of the image device, and
with it that of the session again.  `wake_holds` shows that a device of any shape
has a shape afterwards, and a timer where its session needs one.
-/

namespace Gxfp.Fprint

open Lib.Outcome
open Gxfp.User

section Wakes

variable {cv : OpenCv} {E α : Type} (env : Env) (engine : TlsEngine E)
  (sigfm : SigfmLibrary cv α)

/-- A device with a shape, and with the timer its session needs. -/
structure Holds (pending : Option (Task cv)) (dev : FpiDeviceGxfp cv E) : Prop where
  shape : Shape (gxfpClass env engine) sigfm pending (core dev)
  armed : ImageWritesDefinite dev.driver.sess.io.trace → Armed dev

variable {env engine sigfm}

theorem armed_of_inMode {self : FpiDeviceGxfp cv E} {mode : SessionMode}
    (inMode : self.driver.sess.InMode mode) (still : mode.needsTick = false) : Armed self := by
  intro other hasMode running
  rw [← inMode.hasMode.unique hasMode, still] at running
  cases running

theorem armed_of_timer {self : FpiDeviceGxfp cv E}
    (timer : self.driver.timerSource.isSome = true) : Armed self :=
  fun _ _ _ => timer

theorem Resting.armed {self : FpiDeviceGxfp cv E} (resting : Resting self.driver.sess) :
    Armed self := by
  rcases resting with ready | failed
  · exact armed_of_inMode ready rfl
  · exact armed_of_inMode failed rfl

theorem Dormant.armed {self : FpiDeviceGxfp cv E} (dormant : Dormant self.driver.sess) :
    Armed self := by
  rintro mode ⟨impl, present, rfl⟩ running
  rcases dormant.2 with absent | hasMode
  · rw [present] at absent
    cases absent
  · rw [SessionRun.HasMode.unique ⟨impl, present, rfl⟩ hasMode] at running
    cases running

theorem Settled.holds {request : Task cv} {self : FpiDeviceGxfp cv E}
    (settled : Settled (gxfpClass env engine) sigfm request (core self)) :
    Holds env engine sigfm (some request) self :=
  ⟨settled.shape, fun _ => armed_of_inMode settled.inMode rfl⟩

theorem Entered.holds {request : Task cv} {mode : SessionMode} {state : FpiImageDeviceState}
    {self after : FpiDeviceGxfp cv E}
    (entered : Entered env engine sigfm request mode state self after)
    (link : Link request.action state mode self.image.fingerPresent
      self.image.minutiaeScanActive) : Holds env engine sigfm (some request) after := by
  refine ⟨.working entered.active ?_, fun _ => armed_of_timer entered.timer⟩
  change Link _ after.image.state mode after.image.fingerPresent after.image.minutiaeScanActive
  rw [entered.image]
  exact link

/-- A tick that is asked for does no harm. -/
theorem Holds.schedule {pending : Option (Task cv)} {self : FpiDeviceGxfp cv E}
    (holds : Holds env engine sigfm pending self) (requestTick : Bool) (delayMs : Int) :
    Holds env engine sigfm pending
      (if requestTick then schedulePumpSoon self delayMs else self) := by
  cases requestTick with
  | false => exact holds
  | true =>
      obtain ⟨delay, armed⟩ := schedulePumpSoon_eq self delayMs
      rw [if_pos rfl, armed]
      exact ⟨holds.shape, fun _ => armed_of_timer rfl⟩

/-- A device that waits in a state. -/
theorem changeState_holds (self : FpiDeviceGxfp cv E) {request : Task cv} {mode : SessionMode}
    (active : Active (gxfpClass env engine) sigfm request mode (core self))
    (working : mode ≠ .failed) (state : FpiImageDeviceState) {target : SessionMode}
    (waits : WaitsIn (sessionStateOf state) target)
    (link : Link request.action state target self.image.fingerPresent
      self.image.minutiaeScanActive) :
    Ends (fpImageDeviceChangeState (gxfpClass env engine) self state)
      (Holds env engine sigfm (some request)) := by
  apply (changeState_waits env engine active working waits).mono
  rintro after (entered | settled)
  · exact entered.holds link
  · exact settled.holds

/-! ## Activation -/

theorem currentAction_of_pending {self : FpiDeviceGxfp cv E} {request : Task cv} {stage : Nat}
    (pending : Pending (gxfpClass env engine) sigfm request stage self.priv) :
    fpiDeviceGetCurrentAction self = request.action := by
  obtain ⟨task, current, develops⟩ := pending.develops
  unfold fpiDeviceGetCurrentAction
  rw [current]
  exact develops.action.1

theorem not_not_capturing {action : FpiDeviceAction} (capturing : action.isCapturing = true) :
    ¬ (!action.isCapturing) = true := by
  rw [capturing]
  exact Bool.false_ne_true

/-- The end of an activation. -/
theorem activateComplete_holds (self : FpiDeviceGxfp cv E) {request : Task cv}
    (state : self.image.state = .activating)
    (pending : Pending (gxfpClass env engine) sigfm request self.image.enrollStage self.priv)
    (calm : Calm self.image self.scans) (inMode : self.driver.sess.InMode .idle) :
    Ends (fpiImageDeviceActivateComplete (gxfpClass env engine) self none)
      (Holds env engine sigfm (some request)) := by
  have inactive : ¬ self.image.active = true := by
    rw [show self.image.active = false from calm.inactive]
    exact Bool.false_ne_true
  have capturing : ¬ (!(fpiDeviceGetCurrentAction self).isCapturing) = true := by
    rw [currentAction_of_pending pending]
    exact not_not_capturing pending.capturing
  unfold fpiImageDeviceActivateComplete
  rw [if_neg inactive, if_neg (not_not.mpr state), if_neg capturing]
  dsimp only
  obtain ⟨sess, ui, changed, idle⟩ := changeState_quiet env engine
    { self with image := { self.image with active := true } } inMode SessionMode.noConfusion
    (rfl : FpiImageDeviceState.isQuiet .idle = true)
  rw [changed]
  apply changeState_holds
    { self with
      image := { self.image with active := true, state := .idle }
      driver := { self.driver with sess := sess }
      ui := ui }
    ⟨pending, rfl, Or.inr calm.unscanned, calm.taken, idle, SessionMode.noConfusion⟩
    SessionMode.noConfusion .awaitFingerOn WaitsIn.fingerOn
  have noFinger : self.image.fingerPresent = false := calm.noFinger
  have noScan : self.image.minutiaeScanActive = false := calm.unscanned.1
  dsimp only
  rw [noFinger, noScan]
  exact .awaitFingerOn

/-- A failed activation ends the action. -/
theorem activateComplete_error (self : FpiDeviceGxfp cv E) {request : Task cv}
    (state : self.image.state = .activating)
    (pending : Pending (gxfpClass env engine) sigfm request self.image.enrollStage self.priv)
    (calm : Calm self.image self.scans) (inMode : self.driver.sess.InMode .failed)
    (error : GError) :
    Ends (fpiImageDeviceActivateComplete (gxfpClass env engine) self (some error))
      (Holds env engine sigfm (some request)) := by
  have inactive : ¬ self.image.active = true := by
    rw [show self.image.active = false from calm.inactive]
    exact Bool.false_ne_true
  have capturing : ¬ (!(fpiDeviceGetCurrentAction self).isCapturing) = true := by
    rw [currentAction_of_pending pending]
    exact not_not_capturing pending.capturing
  obtain ⟨task, current, develops⟩ := pending.develops
  unfold fpiImageDeviceActivateComplete
  rw [if_neg inactive, if_neg (not_not.mpr state), if_neg capturing]
  dsimp only
  obtain ⟨final, ui, completed⟩ := fpiDeviceActionError_completes self current error
  rw [completed]
  refine Ends.pure ⟨.returning pending.capturing pending.isOpen ⟨?_, rfl, rfl⟩ calm (Or.inr inMode),
    fun _ => armed_of_inMode inMode rfl⟩
  refine ⟨task, _, current, ?_, .failed develops.action.1 final⟩
  change self.priv.idleReturns ++ [TaskReturn.error final] = _
  rw [pending.notReturned]
  rfl

/-- Any error of the session during an activation. -/
theorem handleSessionError_activating (self : FpiDeviceGxfp cv E) {request : Task cv}
    (state : self.image.state = .activating)
    (pending : Pending (gxfpClass env engine) sigfm request self.image.enrollStage self.priv)
    (calm : Calm self.image self.scans) (inMode : self.driver.sess.InMode .failed)
    (ev : SessionEvents) :
    Ends (handleSessionError (gxfpClass env engine) self ev)
      (Holds env engine sigfm (some request)) := by
  unfold handleSessionError
  dsimp only
  split
  · exact activateComplete_error (cancelScheduledPump self) state pending calm inMode _
  · have runs : fpiDeviceGetCurrentAction self ≠ .none := by
      rw [currentAction_of_pending pending]
      intro impossible
      have capturing := pending.capturing
      rw [impossible] at capturing
      cases capturing
    have inactive : (cancelScheduledPump self).image.active = false := calm.inactive
    unfold fpiImageDeviceSessionError
    rw [if_pos inactive]
    dsimp only
    rw [if_pos (show
      fpiDeviceGetCurrentAction (FpImageDevice.warning (cancelScheduledPump self) _) ≠
      FpiDeviceAction.none from runs)]
    apply activateComplete_error
    · exact state
    · exact pending
    · exact calm
    · exact inMode

/-! ## Fingers -/

/-- A report on an active device goes to its state machine. -/
theorem reportFingerStatus_active {self : FpiDeviceGxfp cv E} {request : Task cv} {stage : Nat}
    (pending : Pending (gxfpClass env engine) sigfm request stage self.priv)
    (state : self.image.state ≠ .inactive) (present : Bool) :
    ∃ ui,
      fpiImageDeviceReportFingerStatus (gxfpClass env engine) self present =
        (if present = true ∧ self.image.state = .awaitFingerOn then
          fpImageDeviceChangeState (gxfpClass env engine)
            { self with image := { self.image with fingerPresent := present }, ui := ui } .capture
        else if present = false ∧ self.image.state = .awaitFingerOff then
          fpImageDeviceChangeState (gxfpClass env engine)
            { self with image := { self.image with fingerPresent := present }, ui := ui } .idle >>=
              fun dev =>
                if request.action ≠ .enroll then
                  fpiImageDeviceDeactivate (gxfpClass env engine) dev false
                else
                  fpImageDeviceEnrollMaybeAwaitFingerOn (gxfpClass env engine) dev
        else
          pure { self with image := { self.image with fingerPresent := present }, ui := ui }) := by
  have action := currentAction_of_pending pending
  have capturing := pending.capturing
  refine ⟨(fpiDeviceReportFingerStatusChanges self ⟨false, present⟩ ⟨false, !present⟩).ui, ?_⟩
  have sameAction : fpiDeviceGetCurrentAction
      (fpiDeviceReportFingerStatusChanges self ⟨false, present⟩ ⟨false, !present⟩) =
      request.action := action
  have notOpening : ¬ request.action = .opening := by
    intro impossible
    rw [impossible] at capturing
    cases capturing
  have notClosing : ¬ request.action = .closing := by
    intro impossible
    rw [impossible] at capturing
    cases capturing
  unfold fpiImageDeviceReportFingerStatus
  dsimp only
  rw [if_neg (show ¬ (fpiDeviceReportFingerStatusChanges self _ _).image.state = .inactive from
    state)]
  unfold fingerStatusReported
  rw [sameAction]
  dsimp only
  rw [if_neg notOpening, if_neg notClosing]
  rfl

/-- A finger that is put on the sensor is captured. -/
theorem fingerOn_holds (self : FpiDeviceGxfp cv E) {request : Task cv}
    (active : Active (gxfpClass env engine) sigfm request .waitFingerOn (core self))
    (state : self.image.state = .awaitFingerOn)
    (unscanned : self.image.minutiaeScanActive = false) :
    Ends (fpiImageDeviceReportFingerStatus (gxfpClass env engine) self true)
      (Holds env engine sigfm (some request)) := by
  have notInactive : self.image.state ≠ .inactive := by
    rw [state]
    exact FpiImageDeviceState.noConfusion
  obtain ⟨ui, reported⟩ := reportFingerStatus_active active.pending notInactive true
  rw [reported, if_pos ⟨rfl, state⟩]
  apply changeState_holds
    { self with image := { self.image with fingerPresent := true }, ui := ui }
    ⟨active.pending, active.active, active.scans, active.taken, active.inMode, active.isOpen⟩
    SessionMode.noConfusion .capture WaitsIn.capture
  dsimp only
  rw [unscanned]
  exact .capture

/-- An idle enrolment goes on to its next stage, or waits for a scan. -/
theorem maybeAwaitFingerOn_holds (self : FpiDeviceGxfp cv E) {request : Task cv}
    (active : Active (gxfpClass env engine) sigfm request .idle (core self))
    (state : self.image.state = .idle) (noFinger : self.image.fingerPresent = false)
    (enrolls : request.action = .enroll) :
    Ends (fpImageDeviceEnrollMaybeAwaitFingerOn (gxfpClass env engine) self)
      (Holds env engine sigfm (some request)) := by
  unfold fpImageDeviceEnrollMaybeAwaitFingerOn
  by_cases scanning : self.image.minutiaeScanActive = true
  · rw [if_pos (Or.inl scanning)]
    refine Ends.pure ⟨.working active ?_, fun _ => armed_of_inMode active.inMode rfl⟩
    change Link _ self.image.state .idle self.image.fingerPresent self.image.minutiaeScanActive
    rw [state, noFinger, scanning]
    exact .idle enrolls
  · have proceeds : ¬ (self.image.minutiaeScanActive = true ∨ self.image.fingerPresent = true) := by
      rw [noFinger]
      rintro (isScanning | impossible)
      · exact scanning isScanning
      · cases impossible
    rw [if_neg proceeds]
    apply changeState_holds self active SessionMode.noConfusion .awaitFingerOn WaitsIn.fingerOn
    rw [noFinger, Bool.eq_false_iff.mpr scanning]
    exact .awaitFingerOn

/-- A finger that leaves the sensor ends the action, or begins the next stage of
an enrolment. -/
theorem fingerOff_holds (self : FpiDeviceGxfp cv E) {request : Task cv}
    (active : Active (gxfpClass env engine) sigfm request .waitFingerOff (core self))
    (state : self.image.state = .awaitFingerOff) :
    Ends (fpiImageDeviceReportFingerStatus (gxfpClass env engine) self false)
      (Holds env engine sigfm (some request)) := by
  have notInactive : self.image.state ≠ .inactive := by
    rw [state]
    exact FpiImageDeviceState.noConfusion
  have noFinger : ¬ (false = true ∧ self.image.state = .awaitFingerOn) := fun both => by
    cases both.1
  obtain ⟨ui, reported⟩ := reportFingerStatus_active active.pending notInactive false
  rw [reported, if_neg noFinger, if_pos ⟨rfl, state⟩]
  obtain ⟨sess, lastUi, changed, inMode⟩ := changeState_quiet env engine
    { self with image := { self.image with fingerPresent := false }, ui := ui } active.inMode
    active.isOpen (rfl : FpiImageDeviceState.isQuiet .idle = true)
  rw [changed]
  have idle : Active (gxfpClass env engine) sigfm request .idle (core
      { self with
        image := { self.image with fingerPresent := false, state := .idle }
        driver := { self.driver with sess := sess }
        ui := lastUi }) :=
    ⟨active.pending, active.active, active.scans, active.taken, inMode, SessionMode.noConfusion⟩
  by_cases enrolls : request.action = .enroll
  · change Ends (if request.action ≠ .enroll then _ else _) _
    rw [if_neg (not_not.mpr enrolls)]
    exact maybeAwaitFingerOn_holds _ idle rfl rfl enrolls
  · change Ends (if request.action ≠ .enroll then _ else _) _
    rw [if_pos enrolls]
    apply (deactivate_settles env engine
      { self with
        image := { self.image with fingerPresent := false, state := .idle }
        driver := { self.driver with sess := sess }
        ui := lastUi } idle FpiImageDeviceState.noConfusion
      (fun isEnroll => absurd isEnroll enrolls) false).mono
    intro after settled
    exact settled.holds

/-! ## Errors -/

variable (env engine sigfm) in
/-- A device whose session has failed, before the error is handled: its finger
may have ended the action already. -/
def Failing (request : Task cv) (self : FpiDeviceGxfp cv E) : Prop :=
  Settled (gxfpClass env engine) sigfm request (core self) ∨
    (Active (gxfpClass env engine) sigfm request .failed (core self) ∧
      self.image.state ≠ .deactivating ∧ self.image.state ≠ .inactive)

theorem fingerOn_failing (self : FpiDeviceGxfp cv E) {request : Task cv}
    (active : Active (gxfpClass env engine) sigfm request .failed (core self))
    (state : self.image.state = .awaitFingerOn) :
    Ends (fpiImageDeviceReportFingerStatus (gxfpClass env engine) self true)
      (Failing env engine sigfm request) := by
  have notInactive : self.image.state ≠ .inactive := by
    rw [state]
    exact FpiImageDeviceState.noConfusion
  obtain ⟨ui, reported⟩ := reportFingerStatus_active active.pending notInactive true
  rw [reported, if_pos ⟨rfl, state⟩]
  apply (changeState_failed env engine
    { self with image := { self.image with fingerPresent := true }, ui := ui } active.inMode
    .capture).mono
  rintro after ⟨sess, lastUi, rfl, inMode⟩
  exact Or.inr ⟨⟨active.pending, active.active, active.scans, active.taken, inMode, active.isOpen⟩,
    FpiImageDeviceState.noConfusion, FpiImageDeviceState.noConfusion⟩

theorem fingerOff_failing (self : FpiDeviceGxfp cv E) {request : Task cv}
    (active : Active (gxfpClass env engine) sigfm request .failed (core self))
    (state : self.image.state = .awaitFingerOff) :
    Ends (fpiImageDeviceReportFingerStatus (gxfpClass env engine) self false)
      (Failing env engine sigfm request) := by
  have notInactive : self.image.state ≠ .inactive := by
    rw [state]
    exact FpiImageDeviceState.noConfusion
  have noFinger : ¬ (false = true ∧ self.image.state = .awaitFingerOn) := fun both => by
    cases both.1
  obtain ⟨ui, reported⟩ := reportFingerStatus_active active.pending notInactive false
  rw [reported, if_neg noFinger, if_pos ⟨rfl, state⟩]
  apply Ends.bind (changeState_failed env engine
    { self with image := { self.image with fingerPresent := false }, ui := ui } active.inMode .idle)
  rintro idle ⟨sess, lastUi, rfl, inMode⟩
  have stays : Active (gxfpClass env engine) sigfm request .failed (core
      { self with
        image := { self.image with fingerPresent := false, state := .idle }
        driver := { self.driver with sess := sess }
        ui := lastUi }) :=
    ⟨active.pending, active.active, active.scans, active.taken, inMode, SessionMode.noConfusion⟩
  by_cases enrolls : request.action = .enroll
  · rw [if_neg (not_not.mpr enrolls)]
    unfold fpImageDeviceEnrollMaybeAwaitFingerOn
    split
    · exact Ends.pure (Or.inr ⟨stays, FpiImageDeviceState.noConfusion,
        FpiImageDeviceState.noConfusion⟩)
    · apply (changeState_failed env engine _ inMode .awaitFingerOn).mono
      rintro after ⟨lastSess, finalUi, rfl, lastMode⟩
      exact Or.inr ⟨⟨active.pending, active.active, active.scans, active.taken, lastMode,
        active.isOpen⟩, FpiImageDeviceState.noConfusion, FpiImageDeviceState.noConfusion⟩
  · rw [if_pos enrolls]
    apply (deactivate_settles env engine _ stays FpiImageDeviceState.noConfusion
      (fun isEnroll => absurd isEnroll enrolls) false).mono
    intro after settled
    exact Or.inl settled

/-- An activation that is over does not end again. -/
theorem activateComplete_settled {self : FpiDeviceGxfp cv E} {request : Task cv}
    (settled : Settled (gxfpClass env engine) sigfm request (core self)) (error : GError) :
    Ends (fpiImageDeviceActivateComplete (gxfpClass env engine) self (some error))
      (Holds env engine sigfm (some request)) := by
  have inactive : ¬ self.image.active = true := by
    rw [show self.image.active = false from settled.inactive]
    exact Bool.false_ne_true
  have state : self.image.state ≠ .activating := by
    rw [show self.image.state = .inactive from settled.state]
    exact FpiImageDeviceState.noConfusion
  unfold fpiImageDeviceActivateComplete
  rw [if_neg inactive, if_pos state]
  exact Ends.pure ⟨settled.shape, fun _ => armed_of_inMode settled.inMode rfl⟩

theorem currentAction_of_awaits {self : FpiDeviceGxfp cv E} {request : Task cv}
    (awaits : Awaits (gxfpClass env engine) sigfm request (core self)) :
    fpiDeviceGetCurrentAction self ≠ .none := by
  have current : ∃ task, self.priv.currentTask = some task := by
    rcases awaits with ⟨-, pending⟩ | ⟨-, -, -, finished⟩
    · obtain ⟨task, current, -⟩ := pending.develops
      exact ⟨task, current⟩
    · obtain ⟨task, -, current, -⟩ := finished.earned
      exact ⟨task, current⟩
  obtain ⟨task, current⟩ := current
  unfold fpiDeviceGetCurrentAction
  rw [current]
  cases task <;> exact FpiDeviceAction.noConfusion

/-- The error of a session that has failed deactivates the device. -/
theorem handleSessionError_failing (self : FpiDeviceGxfp cv E) {request : Task cv}
    (failing : Failing env engine sigfm request self) {ev : SessionEvents}
    (generic : ev.errorTarget ≠ .activate) :
    Ends (handleSessionError (gxfpClass env engine) self ev)
      (Holds env engine sigfm (some request)) := by
  unfold handleSessionError
  dsimp only
  rw [if_neg generic]
  rcases failing with settled | ⟨active, state, working⟩
  · have inactive : (cancelScheduledPump self).image.active = false := settled.inactive
    have runs : fpiDeviceGetCurrentAction self ≠ .none := currentAction_of_awaits settled.awaits
    unfold fpiImageDeviceSessionError
    rw [if_pos inactive]
    dsimp only
    rw [if_pos (show fpiDeviceGetCurrentAction (FpImageDevice.warning (cancelScheduledPump self) _)
      ≠ FpiDeviceAction.none from runs)]
    apply activateComplete_settled
    exact settled
  · apply (sessionError_settles env engine (cancelScheduledPump self)
      ⟨active.pending, active.active, active.scans, active.taken, active.inMode, active.isOpen⟩
      state working (sessionEventError_isGenuine ev)).mono
    intro after settled
    exact settled.holds

/-! ## Images -/

/-- A captured image is scanned while the device waits for the finger to leave. -/
theorem emitImageCaptured_holds (self : FpiDeviceGxfp cv E) {request : Task cv}
    (active : Active (gxfpClass env engine) sigfm request .idle (core self))
    (state : self.image.state = .capture) (finger : self.image.fingerPresent = true)
    (unscanned : Unscanned self.image self.scans) {impl : SessionImpl E}
    (present : self.driver.sess.session = some impl) (ready : impl.pendingImg.isSome = true) :
    Ends (emitImageCaptured env engine (gxfpClass env engine) self)
      (Holds env engine sigfm (some request)) := by
  obtain ⟨img, isImg⟩ := Option.isSome_iff_exists.mp ready
  have sameMode : impl.mode = .idle :=
    SessionRun.HasMode.unique ⟨impl, present, rfl⟩ active.inMode.hasMode
  have stepped : sessionStep env engine self.driver.sess .takeImage =
      (⟨some { impl with pendingImg := none }, self.driver.sess.io⟩,
        ⟨0, sessionEventsClear, none, some img⟩) := by
    simp only [sessionStep, present, sessionTakeImage, isImg]
  have definite := sessionStep_definite env engine active.inMode.definite .takeImage
  change (sessionStep env engine self.driver.sess .takeImage).1.Definite at definite
  rw [stepped] at definite
  have inMode : SessionRun.InMode
      (⟨some { impl with pendingImg := none }, self.driver.sess.io⟩ : SessionRun E) .idle :=
    ⟨⟨_, rfl, sameMode⟩, definite⟩
  have action : fpiDeviceGetCurrentAction self = request.action :=
    currentAction_of_pending active.pending
  unfold emitImageCaptured sessionCall
  dsimp only
  rw [stepped]
  dsimp only
  unfold fpiImageDeviceImageCaptured
  dsimp only
  rw [if_neg (not_not.mpr state)]
  have capturing : ¬ (!(fpiDeviceGetCurrentAction
      ({ self with
        driver :=
          { self.driver with
            sess := ⟨some { impl with pendingImg := none }, self.driver.sess.io⟩ } } :
        FpiDeviceGxfp cv E)).isCapturing) = true := by
    change ¬ (!(fpiDeviceGetCurrentAction self).isCapturing) = true
    rw [action]
    exact not_not_capturing active.pending.capturing
  rw [if_neg capturing]
  apply changeState_holds
    { self with
      image := { self.image with minutiaeScanActive := true }
      scans := self.scans ++ [⟨capturedImage img, self.priv.currentCancellable⟩]
      driver :=
        { self.driver with
          sess := ⟨some { impl with pendingImg := none }, self.driver.sess.io⟩ } }
    ⟨active.pending, active.active,
      Or.inl ⟨rfl, ⟨capturedImage img, self.priv.currentCancellable⟩, ?_, img, rfl⟩, active.taken,
      inMode, SessionMode.noConfusion⟩ SessionMode.noConfusion .awaitFingerOff WaitsIn.fingerOff
  · dsimp only
    rw [finger]
    exact .awaitFingerOff true
  · change self.scans ++ _ = _
    rw [unscanned.2]
    rfl

/-! ## Calls that wake the session -/

theorem SessionReply.wakeReply {mode after : SessionMode} {call : SessionCall} {ev : SessionEvents}
    (reply : SessionReply mode call after ev) (wakes : call.wakes = true) :
    WakeReply mode after ev := by
  cases reply with
  | woken _ reply => exact reply
  | _ => cases wakes

variable (env engine) in
/-- A wake-up of a session with a mode. -/
theorem sessionStep_wakeReply {run : SessionRun E} {mode : SessionMode} (inMode : run.InMode mode)
    {call : SessionCall} (wakes : call.wakes = true) :
    ∃ after, (sessionStep env engine run call).1.InMode after ∧
      WakeReply mode after (sessionStep env engine run call).2.ev := by
  have driven : call.isDriven = true := by
    cases call with
    | onFd condition actionCancelled => rfl
    | pump actionCancelled => rfl
    | _ => cases wakes
  obtain ⟨after, afterMode, reply⟩ := sessionStep_inMode env engine inMode driven
  exact ⟨after, afterMode, SessionReply.wakeReply reply wakes⟩

variable (env engine) in
/-- An image that is ready can be taken. -/
theorem sessionStep_imageReady {run : SessionRun E} {mode : SessionMode}
    (hasMode : run.HasMode mode) {call : SessionCall} (wakes : call.wakes = true)
    (ready : (sessionStep env engine run call).2.ev.imageReady = true) :
    ∃ impl, (sessionStep env engine run call).1.session = some impl ∧
      impl.pendingImg.isSome = true := by
  rcases run with ⟨session, io⟩
  obtain ⟨impl, rfl, -⟩ := hasMode
  cases call with
  | onFd condition actionCancelled =>
      exact ⟨_, rfl, (sessionOnFd_wakes env engine impl io condition actionCancelled).2 ready⟩
  | pump actionCancelled =>
      exact ⟨_, rfl, (sessionPump_wakes env engine impl io actionCancelled).2 ready⟩
  | _ => cases wakes

section Handling

variable (cls : FpImageDeviceClass cv (GxfpDriver E)) (self : FpiDeviceGxfp cv E)
  {ev : SessionEvents}

theorem cancelTick_eq (cancelTick : Bool) :
    ∃ timer, (if cancelTick then cancelScheduledPump self else self) =
      { self with driver := { self.driver with timerSource := timer } } := by
  cases cancelTick with
  | false => exact ⟨self.driver.timerSource, rfl⟩
  | true => exact ⟨none, rfl⟩

theorem handleSessionEvents_failed (sessionError : ev.sessionError = true)
    (noImage : ev.imageReady = false) :
    ∃ timer, handleSessionEvents env engine cls self ev =
      (if ev.fingerStatusChanged then
        fpiImageDeviceReportFingerStatus cls
          { self with driver := { self.driver with timerSource := timer } } ev.fingerPresent
      else
        pure { self with driver := { self.driver with timerSource := timer } }) >>= fun self =>
          handleSessionError cls self ev := by
  obtain ⟨timer, ticked⟩ := cancelTick_eq self ev.cancelTick
  refine ⟨timer, ?_⟩
  unfold handleSessionEvents
  dsimp only
  rw [ticked, noImage, sessionError]
  cases ev.fingerStatusChanged with
  | false => rfl
  | true => rfl

theorem handleSessionEvents_proceeds (noError : ev.sessionError = false)
    (noImage : ev.imageReady = false) (cancelTick : ev.cancelTick = false) :
    handleSessionEvents env engine cls self ev =
      (if ev.fingerStatusChanged then
        fpiImageDeviceReportFingerStatus cls self ev.fingerPresent
      else
        pure self) >>= fun self => handleSessionProgress cls self ev := by
  unfold handleSessionEvents
  dsimp only
  rw [noImage, noError, cancelTick]
  cases ev.fingerStatusChanged with
  | false => rfl
  | true => rfl

theorem handleSessionEvents_image (noError : ev.sessionError = false)
    (imageReady : ev.imageReady = true) (cancelTick : ev.cancelTick = false)
    (noFinger : ev.fingerStatusChanged = false) :
    handleSessionEvents env engine cls self ev =
      emitImageCaptured env engine cls self >>= fun self => handleSessionProgress cls self ev := by
  unfold handleSessionEvents
  dsimp only
  rw [imageReady, noError, cancelTick, noFinger]
  rfl

theorem handleSessionProgress_tick (notActivated : ev.activateComplete = false)
    (notDeactivated : ev.deactivateComplete = false) (notClosed : ev.closeComplete = false) :
    handleSessionProgress cls self ev =
      .ok (if ev.requestTick then schedulePumpSoon self ev.tickDelayMs else self) := by
  unfold handleSessionProgress
  rw [notActivated, notDeactivated, notClosed]
  rfl

theorem handleSessionProgress_activated (activated : ev.activateComplete = true)
    (notDeactivated : ev.deactivateComplete = false) (notClosed : ev.closeComplete = false) :
    handleSessionProgress cls self ev =
      fpiImageDeviceActivateComplete cls self none >>= fun self =>
        .ok (if ev.requestTick then schedulePumpSoon self ev.tickDelayMs else self) := by
  unfold handleSessionProgress
  rw [activated, notDeactivated, notClosed]
  rfl

end Handling

/-- A session that stands still stays as it is. -/
theorem wake_resting {self : FpiDeviceGxfp cv E} (resting : Resting self.driver.sess)
    {call : SessionCall} (wakes : call.wakes = true) :
    ∃ sess, callAndHandle env engine (gxfpClass env engine) self call =
        .ok { self with driver := { self.driver with sess := sess } } ∧ Resting sess := by
  have asleep {mode : SessionMode} (inMode : self.driver.sess.InMode mode)
      (stopped : mode.isStopped = true) :
      (sessionStep env engine self.driver.sess call).2.ev = sessionEventsClear ∧
        (sessionStep env engine self.driver.sess call).1.InMode mode := by
    obtain ⟨after, afterMode, reply⟩ := sessionStep_wakeReply env engine inMode wakes
    generalize (sessionStep env engine self.driver.sess call).2.ev = ev at reply ⊢
    cases reply with
    | asleep _ => exact ⟨rfl, afterMode⟩
    | failed running => rw [stopped] at running; cases running
    | proceeds running => rw [stopped] at running; cases running
    | darkStored activating =>
        rcases activating with rfl | rfl
        · cases stopped
        · cases stopped
    | imageReady capturing =>
        cases capturing
        cases stopped
  refine ⟨(sessionStep env engine self.driver.sess call).1, ?_, ?_⟩
  · unfold callAndHandle sessionCall
    dsimp only
    rcases resting with ready | failed
    · rw [(asleep ready rfl).1, handleSessionEvents_clear]
    · rw [(asleep failed rfl).1, handleSessionEvents_clear]
  · rcases resting with ready | failed
    · exact Or.inl (asleep ready rfl).2
    · exact Or.inr (asleep failed rfl).2

/-- So does a closed one. -/
theorem wake_dormant {self : FpiDeviceGxfp cv E} (dormant : Dormant self.driver.sess)
    {call : SessionCall} (wakes : call.wakes = true) :
    ∃ sess, callAndHandle env engine (gxfpClass env engine) self call =
        .ok { self with driver := { self.driver with sess := sess } } ∧ Dormant sess := by
  obtain ⟨definite, closed⟩ := dormant
  have still : (sessionStep env engine self.driver.sess call).2.ev = sessionEventsClear ∧
      ((sessionStep env engine self.driver.sess call).1.session = none ∨
        (sessionStep env engine self.driver.sess call).1.HasMode .closed) := by
    rcases closed with absent | hasMode
    · generalize self.driver.sess = run at absent
      rcases run with ⟨session, io⟩
      cases absent
      cases call with
      | onFd condition actionCancelled => exact ⟨rfl, Or.inl rfl⟩
      | pump actionCancelled => exact ⟨rfl, Or.inl rfl⟩
      | _ => cases wakes
    · obtain ⟨after, afterMode, reply⟩ :=
        sessionStep_wakeReply env engine ⟨hasMode, definite⟩ wakes
      generalize (sessionStep env engine self.driver.sess call).2.ev = ev at reply ⊢
      cases reply with
      | asleep _ => exact ⟨rfl, Or.inr afterMode.hasMode⟩
      | failed running => cases running
      | proceeds running => cases running
      | darkStored activating => rcases activating with impossible | impossible <;> cases impossible
      | imageReady capturing => cases capturing
  refine ⟨(sessionStep env engine self.driver.sess call).1, ?_,
    sessionStep_definite env engine definite call, still.2⟩
  unfold callAndHandle sessionCall
  dsimp only
  rw [still.1, handleSessionEvents_clear]

/-- A device whose session asks for the ticks it needs. -/
theorem tick_holds {pending : Option (Task cv)} (self : FpiDeviceGxfp cv E)
    (shape : Shape (gxfpClass env engine) sigfm pending (core self)) {mode : SessionMode}
    (inMode : self.driver.sess.InMode mode) {ev : SessionEvents}
    (ticks : mode.needsTick = true → ImageWritesDefinite self.driver.sess.io.trace →
      ev.requestTick = true) :
    Holds env engine sigfm pending
      (if ev.requestTick then schedulePumpSoon self ev.tickDelayMs else self) := by
  cases tick : ev.requestTick with
  | true =>
      obtain ⟨delay, armed⟩ := schedulePumpSoon_eq self ev.tickDelayMs
      rw [if_pos rfl, armed]
      exact ⟨shape, fun _ => armed_of_timer rfl⟩
  | false =>
      refine ⟨shape, fun images other hasMode running => ?_⟩
      rw [← inMode.hasMode.unique hasMode] at running
      rw [ticks running images] at tick
      cases tick

/-- A mode that does not wait for a finger reports none. -/
theorem noFinger_of_fingerOf {mode : SessionMode} {ev : SessionEvents} (finger : ev.FingerOf mode)
    (notOn : mode ≠ .waitFingerOn) (notOff : mode ≠ .waitFingerOff) :
    ev.fingerStatusChanged = false := by
  rw [Bool.eq_false_iff]
  intro changed
  rcases finger changed with ⟨isOn, -⟩ | ⟨isOff, -⟩
  · exact notOn isOn
  · exact notOff isOff

/-- A wake-up during an activation. -/
theorem wake_activating {self : FpiDeviceGxfp cv E} {request : Task cv} {mode : SessionMode}
    (state : self.image.state = .activating)
    (pending : Pending (gxfpClass env engine) sigfm request self.image.enrollStage self.priv)
    (calm : Calm self.image self.scans) (inMode : self.driver.sess.InMode mode)
    (activates : mode.isActivating = true) {call : SessionCall} (wakes : call.wakes = true) :
    Ends (callAndHandle env engine (gxfpClass env engine) self call)
      (Holds env engine sigfm (some request)) := by
  have notOn : mode ≠ .waitFingerOn := by
    rintro rfl
    cases activates
  have notOff : mode ≠ .waitFingerOff := by
    rintro rfl
    cases activates
  obtain ⟨after, afterMode, reply⟩ := sessionStep_wakeReply env engine inMode wakes
  have ticks (hasMode : (sessionStep env engine self.driver.sess call).1.HasMode after) :=
    sessionStep_wakes_tick env engine inMode.definite wakes hasMode
  unfold callAndHandle sessionCall
  dsimp only
  generalize sessionStep env engine self.driver.sess call = out at afterMode reply ticks ⊢
  generalize out.2.ev = ev at reply ticks ⊢
  cases reply with
  | asleep stopped =>
      cases mode with
      | activatingTls => cases stopped
      | activatingWaitUp => cases stopped
      | activatingDarkCapture => cases stopped
      | _ => cases activates
  | failed running sessionError activateComplete imageReady deactivateComplete closeComplete finger
      target =>
      obtain ⟨timer, handled⟩ := handleSessionEvents_failed (gxfpClass env engine)
        { self with driver := { self.driver with sess := out.1 } } sessionError imageReady
      rw [handled, noFinger_of_fingerOf finger notOn notOff, if_neg Bool.false_ne_true]
      exact handleSessionError_activating
        { self with driver := { self.driver with sess := out.1, timerSource := timer } } state
        pending calm afterMode ev
  | proceeds running proceeds sessionError activateComplete imageReady deactivateComplete
      closeComplete cancelTick finger =>
      have stillActivates : after.isActivating = true := by
        cases proceeds with
        | same => exact activates
        | connected => rfl
        | fingerUp => rfl
      rw [handleSessionEvents_proceeds _ _ sessionError imageReady cancelTick,
        noFinger_of_fingerOf finger notOn notOff, if_neg Bool.false_ne_true, pure_bind,
        handleSessionProgress_tick _ _ activateComplete deactivateComplete closeComplete]
      exact Ends.ok (tick_holds { self with driver := { self.driver with sess := out.1 } }
        (.activating state pending calm afterMode stillActivates) afterMode
        (ticks afterMode.hasMode))
  | darkStored activating sessionError activateComplete imageReady deactivateComplete closeComplete
      cancelTick noFinger =>
      rw [handleSessionEvents_proceeds _ _ sessionError imageReady cancelTick, noFinger,
        if_neg Bool.false_ne_true, pure_bind,
        handleSessionProgress_activated _ _ activateComplete deactivateComplete closeComplete]
      apply Ends.bind (activateComplete_holds
        { self with driver := { self.driver with sess := out.1 } } state pending calm afterMode)
      intro next holds
      exact Ends.ok (holds.schedule ev.requestTick ev.tickDelayMs)
  | imageReady capturing =>
      cases capturing
      cases activates

/-- The states of an active device, one after the other. -/
theorem Link.states {action : FpiDeviceAction} {state : FpiImageDeviceState} {mode : SessionMode}
    {finger scanning : Bool} (link : Link action state mode finger scanning) :
    (mode = .waitFingerOn ∧ state = .awaitFingerOn ∧ scanning = false) ∨
      (mode = .capturing ∧ state = .capture ∧ finger = true ∧ scanning = false) ∨
      (mode = .waitFingerOff ∧ state = .awaitFingerOff ∧ finger = true) ∨
      (mode = .idle ∧ state = .idle ∧ finger = false ∧ action = .enroll) := by
  cases link with
  | awaitFingerOn => exact Or.inl ⟨rfl, rfl, rfl⟩
  | capture => exact Or.inr (Or.inl ⟨rfl, rfl, rfl, rfl⟩)
  | awaitFingerOff scanning => exact Or.inr (Or.inr (Or.inl ⟨rfl, rfl, rfl⟩))
  | idle enrolls => exact Or.inr (Or.inr (Or.inr ⟨rfl, rfl, rfl, enrolls⟩))

theorem Link.state_of_waitFingerOn {action : FpiDeviceAction} {state : FpiImageDeviceState}
    {mode : SessionMode} {finger scanning : Bool} (link : Link action state mode finger scanning)
    (isOn : mode = .waitFingerOn) : state = .awaitFingerOn ∧ scanning = false := by
  cases link with
  | awaitFingerOn => exact ⟨rfl, rfl⟩
  | _ => cases isOn

theorem Link.state_of_waitFingerOff {action : FpiDeviceAction} {state : FpiImageDeviceState}
    {mode : SessionMode} {finger scanning : Bool} (link : Link action state mode finger scanning)
    (isOff : mode = .waitFingerOff) : state = .awaitFingerOff := by
  cases link with
  | awaitFingerOff scanning => rfl
  | _ => cases isOff

theorem Link.state_of_capturing {action : FpiDeviceAction} {state : FpiImageDeviceState}
    {mode : SessionMode} {finger scanning : Bool} (link : Link action state mode finger scanning)
    (isCapturing : mode = .capturing) :
    state = .capture ∧ finger = true ∧ scanning = false := by
  cases link with
  | capture => exact ⟨rfl, rfl, rfl⟩
  | _ => cases isCapturing

/-- An active device has a running session and is not about to stop. -/
theorem Link.running {action : FpiDeviceAction} {state : FpiImageDeviceState}
    {mode : SessionMode} {finger scanning : Bool} (link : Link action state mode finger scanning) :
    mode.isStopped = false ∧ mode.isActivating = false ∧ state ≠ .deactivating ∧
      state ≠ .inactive := by
  cases link <;>
    exact ⟨rfl, rfl, FpiImageDeviceState.noConfusion, FpiImageDeviceState.noConfusion⟩

/-- A wake-up of an active device. -/
theorem wake_working {self : FpiDeviceGxfp cv E} {request : Task cv} {mode : SessionMode}
    (active : Active (gxfpClass env engine) sigfm request mode (core self))
    (link : Link request.action self.image.state mode self.image.fingerPresent
      self.image.minutiaeScanActive)
    {call : SessionCall} (wakes : call.wakes = true) :
    Ends (callAndHandle env engine (gxfpClass env engine) self call)
      (Holds env engine sigfm (some request)) := by
  obtain ⟨isRunning, notActivating, states⟩ := link.running
  have inMode : self.driver.sess.InMode mode := active.inMode
  obtain ⟨after, afterMode, reply⟩ := sessionStep_wakeReply env engine inMode wakes
  have ticks (hasMode : (sessionStep env engine self.driver.sess call).1.HasMode after) :=
    sessionStep_wakes_tick env engine inMode.definite wakes hasMode
  have ready := sessionStep_imageReady env engine inMode.hasMode wakes
  unfold callAndHandle sessionCall
  dsimp only
  generalize sessionStep env engine self.driver.sess call = out at afterMode reply ticks ready ⊢
  generalize out.2.ev = ev at reply ticks ready ⊢
  have moved {next : SessionMode} (nextMode : out.1.InMode next) (isOpen : next ≠ .closed)
      (timer : Option Int) : Active (gxfpClass env engine) sigfm request next
        (core { self with driver := { self.driver with sess := out.1, timerSource := timer } }) :=
    ⟨active.pending, active.active, active.scans, active.taken, nextMode, isOpen⟩
  cases reply with
  | asleep stopped =>
      rw [isRunning] at stopped
      cases stopped
  | failed running sessionError activateComplete imageReady deactivateComplete closeComplete finger
      target =>
      have generic : ev.errorTarget ≠ .activate := by
        intro isActivate
        have activating := target isActivate
        rw [notActivating] at activating
        cases activating
      obtain ⟨timer, handled⟩ := handleSessionEvents_failed (gxfpClass env engine)
        { self with driver := { self.driver with sess := out.1 } } sessionError imageReady
      have fails := moved afterMode SessionMode.noConfusion timer
      rw [handled]
      have reported : Ends (if ev.fingerStatusChanged = true then
          fpiImageDeviceReportFingerStatus (gxfpClass env engine)
            { self with driver := { self.driver with sess := out.1, timerSource := timer } }
            ev.fingerPresent
        else
          pure { self with driver := { self.driver with sess := out.1, timerSource := timer } })
          (Failing env engine sigfm request) := by
        by_cases changed : ev.fingerStatusChanged = true
        · rw [if_pos changed]
          rcases finger changed with ⟨isOn, present⟩ | ⟨isOff, absent⟩
          · rw [present]
            exact fingerOn_failing _ fails (link.state_of_waitFingerOn isOn).1
          · rw [absent]
            exact fingerOff_failing _ fails (link.state_of_waitFingerOff isOff)
        · rw [if_neg changed]
          exact Ends.pure (Or.inr ⟨fails, states⟩)
      apply reported.bind
      intro next failing
      exact handleSessionError_failing next failing generic
  | proceeds running proceeds sessionError activateComplete imageReady deactivateComplete
      closeComplete cancelTick finger =>
      have same : after = mode := by
        cases proceeds with
        | same => rfl
        | connected => cases notActivating
        | fingerUp => cases notActivating
      subst same
      have goesOn := moved afterMode active.isOpen self.driver.timerSource
      rw [handleSessionEvents_proceeds _ _ sessionError imageReady cancelTick]
      by_cases changed : ev.fingerStatusChanged = true
      · rw [if_pos changed]
        have reported : Ends (fpiImageDeviceReportFingerStatus (gxfpClass env engine)
            { self with driver := { self.driver with sess := out.1 } } ev.fingerPresent)
            (Holds env engine sigfm (some request)) := by
          rcases finger changed with ⟨isOn, present⟩ | ⟨isOff, absent⟩
          · rw [present]
            subst isOn
            obtain ⟨state, unscanned⟩ := link.state_of_waitFingerOn rfl
            exact fingerOn_holds _ goesOn state unscanned
          · rw [absent]
            subst isOff
            exact fingerOff_holds _ goesOn (link.state_of_waitFingerOff rfl)
        apply reported.bind
        intro next holds
        rw [handleSessionProgress_tick _ _ activateComplete deactivateComplete closeComplete]
        exact Ends.ok (holds.schedule ev.requestTick ev.tickDelayMs)
      · rw [if_neg changed, pure_bind,
          handleSessionProgress_tick _ _ activateComplete deactivateComplete closeComplete]
        exact Ends.ok (tick_holds { self with driver := { self.driver with sess := out.1 } }
          (.working goesOn link) afterMode (ticks afterMode.hasMode))
  | darkStored activating =>
      rcases activating with rfl | rfl
      · cases notActivating
      · cases notActivating
  | imageReady capturing sessionError activateComplete imageReady deactivateComplete closeComplete
      cancelTick noFinger =>
      obtain ⟨state, finger, unscanned⟩ := link.state_of_capturing capturing
      have noScan : Unscanned self.image self.scans := by
        rcases active.scans with scans | unscans
        · rw [show self.image.minutiaeScanActive = true from scans.1] at unscanned
          cases unscanned
        · exact unscans
      obtain ⟨impl, present, pendingImg⟩ := ready imageReady
      rw [handleSessionEvents_image _ _ sessionError imageReady cancelTick noFinger]
      apply Ends.bind (emitImageCaptured_holds
        { self with driver := { self.driver with sess := out.1 } }
        (moved afterMode SessionMode.noConfusion self.driver.timerSource) state finger noScan
        present pendingImg)
      intro next holds
      rw [handleSessionProgress_tick _ _ activateComplete deactivateComplete closeComplete]
      exact Ends.ok (holds.schedule ev.requestTick ev.tickDelayMs)

/-- A call that wakes the session leaves the device with a shape and the timer it
needs, and with its request. -/
theorem wake_holds {pending : Option (Task cv)} {self : FpiDeviceGxfp cv E}
    (shape : Shape (gxfpClass env engine) sigfm pending (core self)) {call : SessionCall}
    (wakes : call.wakes = true) :
    Ends (callAndHandle env engine (gxfpClass env engine) self call)
      (Holds env engine sigfm pending) := by
  cases shape with
  | shut notOpen free calm dormant =>
      obtain ⟨sess, woken, still⟩ := wake_dormant dormant wakes
      rw [woken]
      exact Ends.ok ⟨.shut notOpen free calm still, fun _ => still.armed⟩
  | rests isOpen free calm resting =>
      obtain ⟨sess, woken, still⟩ := wake_resting resting wakes
      rw [woken]
      exact Ends.ok ⟨.rests isOpen free calm still, fun _ => still.armed⟩
  | opening notOpen finished calm opened =>
      rcases opened with ⟨result, resting⟩ | ⟨error, result, dormant⟩
      · obtain ⟨sess, woken, still⟩ := wake_resting resting wakes
        rw [woken]
        exact Ends.ok ⟨.opening notOpen finished calm (Or.inl ⟨result, still⟩),
          fun _ => still.armed⟩
      · obtain ⟨sess, woken, still⟩ := wake_dormant dormant wakes
        rw [woken]
        exact Ends.ok ⟨.opening notOpen finished calm (Or.inr ⟨error, result, still⟩),
          fun _ => still.armed⟩
  | closing finished calm dormant =>
      obtain ⟨sess, woken, still⟩ := wake_dormant dormant wakes
      rw [woken]
      exact Ends.ok ⟨.closing finished calm still, fun _ => still.armed⟩
  | returning capturing isOpen finished calm resting =>
      obtain ⟨sess, woken, still⟩ := wake_resting resting wakes
      rw [woken]
      exact Ends.ok ⟨.returning capturing isOpen finished calm still, fun _ => still.armed⟩
  | activating state pending calm inMode activates =>
      exact wake_activating state pending calm inMode activates wakes
  | working active link => exact wake_working active link wakes
  | waiting inactive noFinger scans taken pending resting =>
      obtain ⟨sess, woken, still⟩ := wake_resting resting wakes
      rw [woken]
      exact Ends.ok ⟨.waiting inactive noFinger scans taken pending still, fun _ => still.armed⟩

end Wakes

end Gxfp.Fprint
