import Gxfp.Fprint.DriverWakes
import Gxfp.User.Ownership

/-!
# The inputs of a device

What each input of the main loop and of the user does to a device with a shape:
the requests that open, close and capture, cancellation, the return of a result
and the pump timer.  Each either leaves the request as it is, accepts one, or
returns the result of the pending one.
-/

namespace Gxfp.Fprint

open Lib.Outcome
open Gxfp.User
open Gxfp.Errno

section Inputs

variable {cv : OpenCv} {E α : Type} {env : Env} {engine : TlsEngine E}
  {sigfm : SigfmLibrary cv α}

/-- What changes neither the core nor the timer. -/
theorem Holds.noted {pending : Option (Task cv)} {self : FpiDeviceGxfp cv E}
    (holds : Holds env engine sigfm pending self) (ui : Ui cv) :
    Holds env engine sigfm pending { self with ui := ui } :=
  ⟨holds.shape, holds.armed⟩

/-! ## The pump timer -/

theorem fpiDeviceActionIsCancelled_eq (self : FpiDeviceGxfp cv E) :
    ∃ cancelled ui, fpiDeviceActionIsCancelled self = (cancelled, { self with ui := ui }) := by
  unfold fpiDeviceActionIsCancelled
  split
  · exact ⟨_, _, rfl⟩
  · exact ⟨_, self.ui, rfl⟩

theorem timeout_holds {pending : Option (Task cv)} {self : FpiDeviceGxfp cv E}
    (shape : Shape (gxfpClass env engine) sigfm pending (core self)) (polled : Int) :
    Ends (gxfpPumpTimeoutCb env engine (gxfpClass env engine) self polled)
      (Holds env engine sigfm pending) := by
  unfold gxfpPumpTimeoutCb
  obtain ⟨cancelled, ui, asked⟩ := fpiDeviceActionIsCancelled_eq (cancelScheduledPump self)
  rw [asked]
  dsimp only
  have pumped : Ends (callAndHandle env engine (gxfpClass env engine)
      { cancelScheduledPump self with ui := ui } (.pump cancelled))
      (Holds env engine sigfm pending) := by
    apply wake_holds
    · exact shape
    · rfl
  apply pumped.bind
  intro next holds
  obtain ⟨still, lastUi, askedAgain⟩ := fpiDeviceActionIsCancelled_eq next
  rw [askedAgain]
  dsimp only
  split
  · exact Ends.pure (holds.noted lastUi)
  · split
    · apply wake_holds
      · exact (holds.noted lastUi).shape
      · rfl
    · exact Ends.pure (holds.noted lastUi)

/-! ## Cancellation -/

/-- A cancelled task is one that is to be cancelled from an idle callback. -/
theorem cancelCurrent_pending {self : FpiDeviceGxfp cv E} {request : Task cv} {stage : Nat}
    (pending : Pending (gxfpClass env engine) sigfm request stage self.priv) :
    Pending (gxfpClass env engine) sigfm request stage (cancelCurrent self).priv := by
  unfold cancelCurrent
  split
  · exact pending
  · rename_i number current
    split
    · exact pending
    · refine ⟨pending.isOpen, pending.develops, pending.notReturned, fun _ => ?_⟩
      refine ⟨number, current, ?_⟩
      simp

/-- What is cancelled after its task is finished is not cancelled again. -/
theorem cancelCurrent_eq (self : FpiDeviceGxfp cv E) :
    ∃ cancelled,
      cancelCurrent self =
        { self with
          priv :=
            { self.priv with
              cancelled := cancelled
              idleCancel := (cancelCurrent self).priv.idleCancel } } ∧
      (self.priv.cancelConnected = false → self.priv.idleCancel = false →
        (cancelCurrent self).priv.idleCancel = false) := by
  unfold cancelCurrent
  split
  · exact ⟨_, rfl, fun _ idle => idle⟩
  · split
    · exact ⟨_, rfl, fun _ idle => idle⟩
    · refine ⟨_, rfl, fun disconnected idle => ?_⟩
      change (self.priv.idleCancel || self.priv.cancelConnected) = false
      rw [disconnected, idle]
      rfl

/-- A device keeps its shape when its task is cancelled. -/
theorem cancelCurrent_shape {pending : Option (Task cv)} {self : FpiDeviceGxfp cv E}
    (shape : Shape (gxfpClass env engine) sigfm pending (core self)) :
    Shape (gxfpClass env engine) sigfm pending (core (cancelCurrent self)) := by
  obtain ⟨cancelled, same, kept⟩ := cancelCurrent_eq self
  have rest : core (cancelCurrent self) = { core self with priv := (cancelCurrent self).priv } := by
    rw [same]
    rfl
  rw [rest]
  apply shape.withPriv
  · rw [same]
    rfl
  · rw [same]
    rfl
  · intro request stage isPending
    exact cancelCurrent_pending isPending
  · intro request isFinished
    have idle := kept isFinished.cancelConnected isFinished.idleCancel
    rw [same, idle]
    exact ⟨isFinished.earned, rfl, isFinished.cancelConnected⟩
  · intro isFree
    have idle := kept isFree.cancelConnected isFree.idleCancel
    rw [same, idle]
    exact ⟨isFree.currentTask, isFree.idleReturns, rfl, isFree.cancelConnected⟩

theorem cancelCurrent_holds {pending : Option (Task cv)} {self : FpiDeviceGxfp cv E}
    (holds : Holds env engine sigfm pending self) :
    Holds env engine sigfm pending (cancelCurrent self) := by
  have sameDriver : (cancelCurrent self).driver = self.driver := by
    unfold cancelCurrent
    split
    · rfl
    · split
      · rfl
      · rfl
  refine ⟨cancelCurrent_shape holds.shape, fun images => ?_⟩
  unfold Armed
  rw [sameDriver] at images ⊢
  exact holds.armed images

theorem fpDeviceTaskCancelledCb_holds {pending : Option (Task cv)} {self : FpiDeviceGxfp cv E}
    (holds : Holds env engine sigfm pending self) :
    Holds env engine sigfm pending (fpDeviceTaskCancelledCb self) := by
  unfold fpDeviceTaskCancelledCb
  split
  · exact cancelCurrent_holds holds
  · exact holds

/-- The reason of a cancellation is no part of a shape. -/
theorem Holds.reason {pending : Option (Task cv)} {self : FpiDeviceGxfp cv E}
    (holds : Holds env engine sigfm pending self) (reason : Option GError) :
    Holds env engine sigfm pending
      { self with priv := { self.priv with currentCancellationReason := reason } } := by
  refine ⟨?_, holds.armed⟩
  apply holds.shape.withPriv { self.priv with currentCancellationReason := reason } rfl rfl
  · intro request stage isPending
    exact ⟨isPending.isOpen, isPending.develops, isPending.notReturned, isPending.cancels⟩
  · intro request isFinished
    exact ⟨isFinished.earned, isFinished.idleCancel, isFinished.cancelConnected⟩
  · intro isFree
    exact ⟨isFree.currentTask, isFree.idleReturns, isFree.idleCancel, isFree.cancelConnected⟩

theorem fpiDeviceTooHot_holds {pending : Option (Task cv)} {self : FpiDeviceGxfp cv E}
    (holds : Holds env engine sigfm pending self) :
    Holds env engine sigfm pending (fpiDeviceTooHot self) := by
  unfold fpiDeviceTooHot
  split
  · exact cancelCurrent_holds (holds.reason _)
  · exact holds

/-- The idle callback of a cancellation deactivates an active device. -/
theorem fpDeviceCancelInIdleCb_holds {pending : Option (Task cv)} {self : FpiDeviceGxfp cv E}
    (holds : Holds env engine sigfm pending self) (waits : self.priv.idleCancel = true) :
    Ends (fpDeviceCancelInIdleCb (gxfpClass env engine) self)
      (Holds env engine sigfm pending) := by
  have pendingKept {request : Task cv} {stage : Nat}
      (isPending : Pending (gxfpClass env engine) sigfm request stage self.priv) :
      Pending (gxfpClass env engine) sigfm request stage { self.priv with idleCancel := false } :=
    ⟨isPending.isOpen, isPending.develops, isPending.notReturned, fun impossible => by
      cases impossible⟩
  have unfinished {priv : FpDevicePrivate cv} (same : priv.idleCancel = false)
      (isPriv : priv = self.priv) : False := by
    rw [isPriv, waits] at same
    cases same
  -- The task that is running decides what the callback does.
  have cancelled {request : Task cv}
      (isPending : Pending (gxfpClass env engine) sigfm request self.image.enrollStage self.priv)
      (deactivated : Ends (fpiImageDeviceDeactivate (gxfpClass env engine)
        { self with priv := { self.priv with idleCancel := false } } true)
        (Holds env engine sigfm (some request))) :
      Ends (fpDeviceCancelInIdleCb (gxfpClass env engine) self)
        (Holds env engine sigfm (some request)) := by
    have action : fpiDeviceGetCurrentAction self = request.action :=
      currentAction_of_pending isPending
    have capturing := isPending.capturing
    have runs : ¬ fpiDeviceGetCurrentAction self = .none := by
      rw [action]
      intro impossible
      rw [impossible] at capturing
      cases capturing
    unfold fpDeviceCancelInIdleCb fpImageDeviceCancelAction
    rw [if_neg runs]
    dsimp only
    rw [if_pos (show (fpiDeviceGetCurrentAction _).isCapturing = true from action ▸ capturing)]
    apply deactivated.bind
    intro next nextHolds
    exact Ends.pure (nextHolds.noted _)
  have inactiveStays (inactive : self.image.active = false) :
      fpiImageDeviceDeactivate (gxfpClass env engine)
        { self with priv := { self.priv with idleCancel := false } } true =
      .ok { self with priv := { self.priv with idleCancel := false } } := by
    unfold fpiImageDeviceDeactivate
    rw [if_pos (Or.inl inactive)]
    rfl
  cases holds.shape with
  | shut notOpen free calm dormant => exact (unfinished free.idleCancel rfl).elim
  | rests isOpen free calm resting => exact (unfinished free.idleCancel rfl).elim
  | opening notOpen finished calm opened => exact (unfinished finished.idleCancel rfl).elim
  | closing finished calm dormant => exact (unfinished finished.idleCancel rfl).elim
  | returning capturing isOpen finished calm resting =>
      exact (unfinished finished.idleCancel rfl).elim
  | activating state isPending calm inMode activates =>
      apply cancelled isPending
      rw [inactiveStays calm.inactive]
      exact Ends.ok ⟨.activating state (pendingKept isPending) calm inMode activates, holds.armed⟩
  | working active link =>
      apply cancelled active.pending
      apply (deactivate_settles env engine
        { self with priv := { self.priv with idleCancel := false } }
        ⟨pendingKept active.pending, active.active, active.scans, active.taken, active.inMode,
          active.isOpen⟩ link.running.2.2.1
        (fun _ => Or.inr (Or.inl (active.pending.cancels waits))) true).mono
      intro after settled
      exact settled.holds
  | waiting inactive noFinger scans taken isPending resting =>
      apply cancelled isPending
      rw [inactiveStays inactive]
      exact Ends.ok ⟨.waiting inactive noFinger scans taken (pendingKept isPending) resting,
        holds.armed⟩

/-! ## Returning a result -/

/-- Whether a device is open once a task has returned. -/
def openAfter (isOpen : Bool) : FpiDeviceAction → TaskReturn cv → Bool
  | .opening, .error _ => isOpen
  | .opening, _ => true
  | .closing, _ => false
  | _, _ => isOpen

theorem isOpen_returned (self : FpiDeviceGxfp cv E) {action : FpiDeviceAction}
    (isAction : fpiDeviceGetCurrentAction self = action) (result : TaskReturn cv) :
    (fpDeviceTaskReturnInIdleCb self result).2.priv.isOpen =
      openAfter self.priv.isOpen action result := by
  unfold fpDeviceTaskReturnInIdleCb
  dsimp only
  rw [isAction]
  cases action <;> cases result <;> rfl

/-- An error may be replaced by the reason of the cancellation. -/
theorem returned_earned {self : FpiDeviceGxfp cv E} {request task : Task cv}
    {result : TaskReturn cv} (current : self.priv.currentTask = some task)
    (earned : Earned (gxfpClass env engine) sigfm Delivered request ⟨task, result⟩) :
    ∃ returned, (fpDeviceTaskReturnInIdleCb self result).1 = some returned ∧
      Earned (gxfpClass env engine) sigfm Delivered request returned := by
  unfold fpDeviceTaskReturnInIdleCb
  dsimp only
  rw [current]
  cases result with
  | error error =>
      cases self.priv.currentCancellationReason with
      | none => exact ⟨_, rfl, earned⟩
      | some reason => exact ⟨_, rfl, earned.error _ _ _ reason⟩
  | int result => exact ⟨_, rfl, earned⟩
  | bool => exact ⟨_, rfl, earned⟩
  | print print => exact ⟨_, rfl, earned⟩
  | image image => exact ⟨_, rfl, earned⟩

/-- The task of a device with a result is returned, and nothing else is. -/
theorem fpDeviceTaskReturnInIdleCb_holds {pending : Option (Task cv)} {self : FpiDeviceGxfp cv E}
    (holds : Holds env engine sigfm pending self) {result : TaskReturn cv}
    {results : List (TaskReturn cv)} (returns : self.priv.idleReturns = result :: results) :
    ∃ request returned, pending = some request ∧
      (fpDeviceTaskReturnInIdleCb
        { self with priv := { self.priv with idleReturns := results } } result).1 = some returned ∧
      Earned (gxfpClass env engine) sigfm Delivered request returned ∧
      Holds env engine sigfm none (fpDeviceTaskReturnInIdleCb
        { self with priv := { self.priv with idleReturns := results } } result).2 := by
  have none_of {priv : FpDevicePrivate cv} (empty : priv.idleReturns = [])
      (same : priv = self.priv) : False := by
    rw [same, returns] at empty
    cases empty
  have finished {request : Task cv}
      (isFinished : Finished (gxfpClass env engine) sigfm request self.priv) :
      fpiDeviceGetCurrentAction self = request.action ∧
        Free (fpDeviceTaskReturnInIdleCb
          { self with priv := { self.priv with idleReturns := results } } result).2.priv ∧
        ∃ returned,
          (fpDeviceTaskReturnInIdleCb
            { self with priv := { self.priv with idleReturns := results } } result).1 =
              some returned ∧
          Earned (gxfpClass env engine) sigfm Delivered request returned := by
    obtain ⟨task, only, current, isOnly, earned⟩ := isFinished.earned
    rw [returns] at isOnly
    cases isOnly
    refine ⟨?_, ⟨rfl, rfl, isFinished.idleCancel, isFinished.cancelConnected⟩,
      returned_earned current earned⟩
    unfold fpiDeviceGetCurrentAction
    rw [current]
    exact earned.action
  cases holds.shape with
  | shut notOpen free calm dormant => exact (none_of free.idleReturns rfl).elim
  | rests isOpen free calm resting => exact (none_of free.idleReturns rfl).elim
  | activating state isPending => exact (none_of isPending.notReturned rfl).elim
  | working active link => exact (none_of active.pending.notReturned rfl).elim
  | waiting inactive noFinger scans taken isPending =>
      exact (none_of isPending.notReturned rfl).elim
  | opening notOpen isFinished calm opened =>
      obtain ⟨action, free, returned, isReturned, earned⟩ := finished isFinished
      refine ⟨.opening, returned, rfl, isReturned, earned, ?_, holds.armed⟩
      have isOpen := isOpen_returned
        { self with priv := { self.priv with idleReturns := results } } action result
      rcases opened with ⟨isBool, resting⟩ | ⟨error, isError, dormant⟩
      · rw [show (core self).priv.idleReturns = result :: results from returns] at isBool
        cases isBool
        exact .rests isOpen free calm resting
      · rw [show (core self).priv.idleReturns = result :: results from returns] at isError
        cases isError
        exact .shut (isOpen.trans notOpen) free calm dormant
  | closing isFinished calm dormant =>
      obtain ⟨action, free, returned, isReturned, earned⟩ := finished isFinished
      have isOpen := isOpen_returned
        { self with priv := { self.priv with idleReturns := results } } action result
      exact ⟨.closing, returned, rfl, isReturned, earned, .shut isOpen free calm dormant,
        holds.armed⟩
  | @returning request _ capturing opened isFinished calm resting =>
      obtain ⟨action, free, returned, isReturned, earned⟩ := finished isFinished
      refine ⟨request, returned, rfl, isReturned, earned, .rests ?_ free calm resting,
        holds.armed⟩
      have isOpen := isOpen_returned
        { self with priv := { self.priv with idleReturns := results } } action result
      change (fpDeviceTaskReturnInIdleCb
        { self with priv := { self.priv with idleReturns := results } } result).2.priv.isOpen = true
      rw [isOpen]
      cases request with
      | opening => cases capturing
      | closing => cases capturing
      | _ => exact opened

/-! ## Opening -/

/-- The result of an open or a close. -/
def resultOf (error : Option GError) : TaskReturn cv :=
  match error with
  | none => .bool
  | some error => .error error

theorem openComplete_eq {self : FpiDeviceGxfp cv E}
    (current : self.priv.currentTask = some .opening) (inactive : self.image.active = false)
    (error : Option GError) :
    ∃ ui, fpiImageDeviceOpenComplete self error =
      { self with
        priv := self.priv.completed (resultOf error)
        image := { self.image with state := .inactive }
        ui := ui } := by
  have action : fpiDeviceGetCurrentAction self = .opening := by
    unfold fpiDeviceGetCurrentAction
    rw [current]
    rfl
  unfold fpiImageDeviceOpenComplete
  rw [if_neg (by rw [inactive]; exact Bool.false_ne_true), if_neg (not_not.mpr action)]
  dsimp only [fpiDeviceOpenComplete, fpiDeviceReportFingerStatus]
  rw [current]
  exact ⟨_, rfl⟩

/-- What is left of an open: the result and the session. -/
theorem openComplete_holds (self : FpiDeviceGxfp cv E)
    (current : self.priv.currentTask = some .opening) (returns : self.priv.idleReturns = [])
    (notOpen : self.priv.isOpen = false) (calm : Calm self.image self.scans)
    (error : Option GError)
    (session : (error = none ∧ Resting self.driver.sess) ∨
      (error ≠ none ∧ Dormant self.driver.sess)) :
    Holds env engine sigfm (some .opening) (fpiImageDeviceOpenComplete self error) := by
  obtain ⟨ui, completed⟩ := openComplete_eq current calm.inactive error
  have only : self.priv.idleReturns ++ [resultOf error] = [resultOf error] := by
    rw [returns]
    rfl
  rw [completed]
  have earned : Earned (gxfpClass env engine) sigfm Delivered .opening
      ⟨.opening, resultOf error⟩ := by
    cases error with
    | none => exact .opened
    | some error => exact .failed rfl error
  have finished : Finished (gxfpClass env engine) sigfm .opening
      (self.priv.completed (resultOf error)) :=
    ⟨⟨.opening, _, current, only, earned⟩, rfl, rfl⟩
  have stillCalm : Calm { self.image with state := .inactive } self.scans :=
    ⟨calm.inactive, calm.noFinger, calm.unscanned, calm.noError, calm.taken⟩
  rcases session with ⟨rfl, resting⟩ | ⟨isError, dormant⟩
  · exact ⟨.opening notOpen finished stillCalm (Or.inl ⟨only, resting⟩), fun _ => resting.armed⟩
  · obtain ⟨failure, rfl⟩ := Option.ne_none_iff_exists'.mp isError
    exact ⟨.opening notOpen finished stillCalm (Or.inr ⟨failure, only, dormant⟩),
      fun _ => dormant.armed⟩

variable (env engine) in
/-- A session that is opened stands ready, or is closed. -/
theorem sessionStep_openPath {run : SessionRun E} (dormant : Dormant run) (devPath : String)
    (psk : List Lib.Bytes.Byte) (errbufLen : Nat) :
    ((sessionStep env engine run (.openPath devPath psk errbufLen)).2.ret < 0 ∧
        Dormant (sessionStep env engine run (.openPath devPath psk errbufLen)).1) ∨
      (¬ (sessionStep env engine run (.openPath devPath psk errbufLen)).2.ret < 0 ∧
        Resting (sessionStep env engine run (.openPath devPath psk errbufLen)).1) := by
  have definite := sessionStep_definite env engine dormant.1 (.openPath devPath psk errbufLen)
  have spec : SessionOpens engine Out.IsUse run.session run.io psk _ :=
    sessionOpen_spec env engine (fun _ isStart => Out.isUse_of_command isStart) run.session run.io
      devPath psk errbufLen
  dsimp only [sessionStep] at definite ⊢
  generalize sessionOpen env engine run.session run.io devPath psk errbufLen = out
    at spec definite ⊢
  cases spec with
  | refused noPsk => exact Or.inl ⟨rc_neg EINVAL, definite, dormant.2⟩
  | noMemory hasPsk absent => exact Or.inl ⟨rc_neg ENOMEM, definite, Or.inl absent⟩
  | noDevice hasPsk negative sessionEq released trace =>
      exact Or.inl ⟨negative, definite, Or.inr ⟨_, sessionEq, released.mode⟩⟩
  | failed hasPsk negative sessionEq released used closed =>
      exact Or.inl ⟨negative, definite, Or.inr ⟨_, sessionEq, released.mode⟩⟩
  | opened hasPsk zero sessionEq ready =>
      refine Or.inr ⟨?_, Or.inl ⟨⟨_, sessionEq, ready⟩, definite⟩⟩
      rw [zero]
      exact Int.lt_irrefl 0

theorem gxfpImgOpen_holds (host : OpenHost) (self : FpiDeviceGxfp cv E)
    (current : self.priv.currentTask = some .opening) (returns : self.priv.idleReturns = [])
    (notOpen : self.priv.isOpen = false) (calm : Calm self.image self.scans)
    (dormant : Dormant self.driver.sess) :
    Holds env engine sigfm (some .opening) (gxfpImgOpen env engine host self) := by
  unfold gxfpImgOpen
  dsimp only
  split
  · exact openComplete_holds self current returns notOpen calm _
      (Or.inr ⟨Option.some_ne_none _, dormant⟩)
  · rcases readFileAll_cases host.pskFile with ⟨rc, failed⟩ | ⟨stream, -, read, -⟩
    · rw [failed]
      apply openComplete_holds
      · exact current
      · exact returns
      · exact notOpen
      · exact calm
      · exact Or.inr ⟨Option.some_ne_none _, dormant⟩
    · rw [read]
      dsimp only
      unfold imgOpenSession sessionCall
      dsimp only
      rcases sessionStep_openPath env engine dormant
        (host.chardevPath.getD "") stream.content 256 with ⟨negative, closed⟩ | ⟨zero, resting⟩
      · rw [if_pos negative]
        apply openComplete_holds
        · exact current
        · exact returns
        · exact notOpen
        · exact calm
        · exact Or.inr ⟨Option.some_ne_none _, closed⟩
      · rw [if_neg zero]
        apply openComplete_holds
        · exact current
        · exact returns
        · exact notOpen
        · exact calm
        · exact Or.inl ⟨rfl, resting⟩

/-- A device that is closed and has no task may be opened; another refuses. -/
theorem fpDeviceOpen_holds {pending : Option (Task cv)} {self : FpiDeviceGxfp cv E}
    (holds : Holds env engine sigfm pending self) (host : OpenHost) :
    (∃ error, fpDeviceOpen (gxfpImgOpen env engine host) self = (some error, self)) ∨
      (pending = none ∧ (fpDeviceOpen (gxfpImgOpen env engine host) self).1 = none ∧
        Holds env engine sigfm (some .opening)
          (fpDeviceOpen (gxfpImgOpen env engine host) self).2) := by
  unfold fpDeviceOpen
  by_cases isOpen : self.priv.isOpen = true
  · rw [if_pos isOpen]
    exact Or.inl ⟨_, rfl⟩
  rw [if_neg isOpen]
  by_cases busy : self.priv.currentTask.isSome = true
  · rw [if_pos busy]
    exact Or.inl ⟨_, rfl⟩
  rw [if_neg busy]
  have absent : self.priv.currentTask = none := by simpa using busy
  cases holds.shape with
  | shut notOpen free calm dormant =>
      refine Or.inr ⟨rfl, rfl, ?_⟩
      apply gxfpImgOpen_holds
      · rfl
      · exact free.idleReturns
      · exact notOpen
      · exact calm
      · exact dormant
  | rests opened => exact absurd opened isOpen
  | opening notOpen finished =>
      obtain ⟨task, -, current, -⟩ := finished.earned
      rw [show self.priv.currentTask = some task from current] at absent
      cases absent
  | closing finished =>
      obtain ⟨task, -, current, -⟩ := finished.earned
      rw [show self.priv.currentTask = some task from current] at absent
      cases absent
  | returning capturing opened => exact absurd opened isOpen
  | activating state isPending => exact absurd isPending.isOpen isOpen
  | working active => exact absurd active.pending.isOpen isOpen
  | waiting inactive noFinger scans taken isPending => exact absurd isPending.isOpen isOpen

/-! ## Requests on an open device -/

/-- A device that does not refuse a task stands ready. -/
theorem rests_of_startRefusal {pending : Option (Task cv)} {self : FpiDeviceGxfp cv E}
    (shape : Shape (gxfpClass env engine) sigfm pending (core self))
    (accepts : startRefusal self = none) :
    pending = none ∧ self.priv.isOpen = true ∧ Free self.priv ∧ Calm self.image self.scans ∧
      Resting self.driver.sess := by
  unfold startRefusal at accepts
  split at accepts
  · cases accepts
  split at accepts
  · cases accepts
  rename_i isOpen idle
  have opened : self.priv.isOpen = true := by simpa using isOpen
  have absent : self.priv.currentTask = none := by simpa using idle
  have runs {task : Task cv} (current : self.priv.currentTask = some task) : False := by
    rw [absent] at current
    cases current
  cases shape with
  | shut notOpen =>
      rw [show self.priv.isOpen = false from notOpen] at opened
      cases opened
  | rests isOpen free calm resting => exact ⟨rfl, opened, free, calm, resting⟩
  | opening notOpen finished =>
      rw [show self.priv.isOpen = false from notOpen] at opened
      cases opened
  | closing finished =>
      obtain ⟨task, -, current, -⟩ := finished.earned
      exact (runs current).elim
  | returning capturing isOpen finished =>
      obtain ⟨task, -, current, -⟩ := finished.earned
      exact (runs current).elim
  | activating state isPending =>
      obtain ⟨task, current, -⟩ := isPending.develops
      exact (runs current).elim
  | working active =>
      obtain ⟨task, current, -⟩ := active.pending.develops
      exact (runs current).elim
  | waiting inactive noFinger scans taken isPending =>
      obtain ⟨task, current, -⟩ := isPending.develops
      exact (runs current).elim

theorem closeComplete_holds (self : FpiDeviceGxfp cv E)
    (current : self.priv.currentTask = some .closing) (returns : self.priv.idleReturns = [])
    (calm : Calm self.image self.scans) (dormant : Dormant self.driver.sess) :
    Holds env engine sigfm (some .closing) (fpiImageDeviceCloseComplete self none) := by
  have action : fpiDeviceGetCurrentAction self = .closing := by
    unfold fpiDeviceGetCurrentAction
    rw [current]
    rfl
  have only : self.priv.idleReturns ++ [TaskReturn.bool] = [TaskReturn.bool] := by
    rw [returns]
    rfl
  unfold fpiImageDeviceCloseComplete
  rw [if_neg (by rw [calm.inactive]; exact Bool.false_ne_true), if_neg (not_not.mpr action)]
  dsimp only [fpiDeviceCloseComplete]
  rw [current]
  exact ⟨.closing ⟨⟨.closing, .bool, current, only, .closed⟩, rfl, rfl⟩
    ⟨calm.inactive, calm.noFinger, calm.unscanned, calm.noError, calm.taken⟩ dormant,
    fun _ => dormant.armed⟩

/-- Closing ends at once. -/
theorem fpDeviceClose_holds {pending : Option (Task cv)} {self : FpiDeviceGxfp cv E}
    (holds : Holds env engine sigfm pending self) :
    Ends (fpDeviceClose (gxfpClass env engine) self) fun out =>
      (∃ error, out = (some error, self)) ∨
        (pending = none ∧ out.1 = none ∧ Holds env engine sigfm (some .closing) out.2) := by
  unfold fpDeviceClose
  cases accepts : startRefusal self with
  | some error => exact Ends.pure (Or.inl ⟨error, rfl⟩)
  | none =>
      obtain ⟨isNone, isOpen, free, calm, resting⟩ := rests_of_startRefusal holds.shape accepts
      have virtual : (gxfpClass env engine).imgClose (startTask self .closing) =
          gxfpImgClose env engine (gxfpClass env engine) (startTask self .closing) := by
        conv_lhs => rw [gxfpClass_eq env engine]
        rfl
      have definite : self.driver.sess.Definite := by
        rcases resting with ready | failed
        · exact ready.definite
        · exact failed.definite
      have closes : (sessionStep env engine self.driver.sess (.requestClose false)).2.ev =
          closeEvents ∧
          (sessionStep env engine self.driver.sess (.requestClose false)).1.HasMode .closed := by
        have closed {mode : SessionMode} (inMode : self.driver.sess.InMode mode) :
            (sessionStep env engine self.driver.sess (.requestClose false)).2.ev = closeEvents ∧
              (sessionStep env engine self.driver.sess (.requestClose false)).1.HasMode
                .closed := by
          obtain ⟨after, afterMode, reply⟩ := sessionStep_inMode env engine inMode
            (rfl : SessionCall.isDriven (.requestClose false) = true)
          generalize (sessionStep env engine self.driver.sess (.requestClose false)).2.ev = ev
            at reply ⊢
          cases reply with
          | closed => exact ⟨rfl, afterMode.hasMode⟩
          | woken wakes => cases wakes
        rcases resting with ready | failed
        · exact closed ready
        · exact closed failed
      have notActive : ¬ (startTask self .closing).image.active = true := by
        rw [show (startTask self .closing).image.active = false from calm.inactive]
        exact Bool.false_ne_true
      dsimp only
      unfold fpImageDeviceClose
      rw [if_neg notActive]
      dsimp only
      rw [virtual]
      unfold gxfpImgClose callAndHandle sessionCall
      dsimp only
      rw [show (sessionStep env engine (cancelScheduledPump (startTask self .closing)).driver.sess
        (.requestClose false)).2.ev = closeEvents from closes.1, handleSessionEvents_closeEvents]
      refine Ends.ok (Or.inr ⟨isNone, rfl, ?_⟩)
      apply closeComplete_holds
      · rfl
      · exact free.idleReturns
      · exact calm
      · exact ⟨sessionStep_definite env engine definite _, Or.inr closes.2⟩

/-! ## Requests that capture -/

/-- An activation of a device that stands ready. -/
theorem gxfpActivate_holds (self : FpiDeviceGxfp cv E) {request : Task cv} {mode : SessionMode}
    (state : self.image.state = .activating)
    (pending : Pending (gxfpClass env engine) sigfm request self.image.enrollStage self.priv)
    (calm : Calm self.image self.scans) (inMode : self.driver.sess.InMode mode)
    (isOpen : mode ≠ .closed) :
    Ends ((gxfpClass env engine).activate self) (Holds env engine sigfm (some request)) := by
  have virtual : (gxfpClass env engine).activate self =
      gxfpActivate env engine (gxfpClass env engine) self := by
    conv_lhs => rw [gxfpClass_eq env engine]
    rfl
  obtain ⟨after, afterMode, reply⟩ := sessionStep_inMode env engine inMode
    (rfl : SessionCall.isDriven .activate = true)
  rw [virtual]
  unfold gxfpActivate sessionCall
  dsimp only
  generalize sessionStep env engine self.driver.sess .activate = out at afterMode reply ⊢
  have handled : Ends (handleSessionEvents env engine (gxfpClass env engine)
      { self with driver := { self.driver with sess := out.1 } } out.2.ev)
      (Holds env engine sigfm (some request)) := by
    generalize out.2.ev = ev at reply ⊢
    cases reply with
    | activateClosed closed => exact absurd closed isOpen
    | activated _ =>
        rw [handleSessionEvents_tickNow]
        obtain ⟨delay, armed⟩ := schedulePumpSoon_eq
          { self with driver := { self.driver with sess := out.1 } } 0
        rw [armed]
        exact Ends.ok ⟨.activating state pending calm afterMode rfl, fun _ => armed_of_timer rfl⟩
    | activateFailed _ code msg =>
        rw [handleSessionEvents_error env engine _ _ (isError_errorEvents code _ msg)]
        exact handleSessionError_activating
          { self with driver := { self.driver with sess := out.1 } } state pending calm afterMode _
    | woken wakes => cases wakes
  apply handled.bind
  intro next holds
  apply Ends.pure
  have scheduled := holds.schedule true 0
  split
  · exact holds
  · exact scheduled

/-- The start of a task on a device that stands ready. -/
theorem startCapturing_holds (self : FpiDeviceGxfp cv E) {request : Task cv}
    (pending : Pending (gxfpClass env engine) sigfm request 0 self.priv)
    (calm : Calm self.image self.scans) (resting : Resting self.driver.sess) :
    Ends (startCapturing (gxfpClass env engine) self)
      (Holds env engine sigfm (some request)) := by
  have noFinger : ¬ self.image.fingerPresent = true := by
    rw [calm.noFinger]
    exact Bool.false_ne_true
  have noScan : ¬ self.image.minutiaeScanActive = true := by
    rw [calm.unscanned.1]
    exact Bool.false_ne_true
  have inactive : ¬ self.image.active = true := by
    rw [calm.inactive]
    exact Bool.false_ne_true
  have activates {mode : SessionMode} (inMode : self.driver.sess.InMode mode)
      (isOpen : mode ≠ .closed) :
      Ends (startCapturing (gxfpClass env engine) self)
        (Holds env engine sigfm (some request)) := by
    unfold startCapturing
    dsimp only
    rw [if_neg noFinger, if_neg noScan]
    unfold fpiImageDeviceActivate
    dsimp only
    rw [if_neg inactive]
    obtain ⟨sess, ui, changed, changedMode⟩ := changeState_quiet env engine
      { self with image := { self.image with enrollStage := 0 } } inMode isOpen
      (rfl : FpiImageDeviceState.isQuiet .activating = true)
    rw [changed]
    apply gxfpActivate_holds
      { self with
        image := { self.image with enrollStage := 0, state := .activating }
        driver := { self.driver with sess := sess }
        ui := ui } rfl pending
      ⟨calm.inactive, calm.noFinger, calm.unscanned, calm.noError, calm.taken⟩ changedMode
    split
    · exact SessionMode.noConfusion
    · exact SessionMode.noConfusion
  rcases resting with ready | failed
  · exact activates ready SessionMode.noConfusion
  · exact activates failed SessionMode.noConfusion

/-- The tasks that capture, as a request starts them. -/
inductive Starts : Task cv → Prop
  | enroll (template : FpPrint cv) : Starts (.enroll template)
  | verify (enrolled : FpPrint cv) : Starts (.verify enrolled (.new cv))
  | identify (gallery : List (FpPrint cv)) : Starts (.identify gallery (.new cv))
  | capture (waitForFinger : Bool) : Starts (.capture waitForFinger)

/-- The start of the action of a new task. -/
theorem startCaptureAction_holds {self : FpiDeviceGxfp cv E} {task : Task cv}
    (starts : Starts task) (isOpen : self.priv.isOpen = true) (free : Free self.priv)
    (calm : Calm self.image self.scans) (resting : Resting self.driver.sess) :
    Ends (fpImageDeviceStartCaptureAction (gxfpClass env engine) (startTask self task))
      (Holds env engine sigfm (some task)) := by
  have pends {request next : Task cv}
      (develops : Develops (gxfpClass env engine) sigfm Delivered 0 request next) :
      Pending (gxfpClass env engine) sigfm request 0
        { (startTask self task).priv with currentTask := some next } :=
    ⟨isOpen, ⟨next, rfl, develops⟩, free.idleReturns, fun waits => by
      rw [show (startTask self task).priv.idleCancel = false from free.idleCancel] at waits
      cases waits⟩
  cases starts with
  | enroll template =>
      exact startCapturing_holds _ (pends (.enroll [] (fun _ member => by cases member) rfl
        (extendedPrint_nil template).symm)) calm resting
  | verify enrolled =>
      exact startCapturing_holds (startTask self _)
        (pends (.verify ⟨fun _ => rfl, fun impossible => by cases impossible⟩)) calm resting
  | identify gallery =>
      exact startCapturing_holds (startTask self _)
        (pends (.identify ⟨fun _ => rfl, fun impossible => by cases impossible⟩)) calm resting
  | capture waitForFinger =>
      cases waitForFinger with
      | true => exact startCapturing_holds (startTask self _) (pends (.capture true)) calm resting
      | false =>
          obtain ⟨final, ui, completed⟩ := fpiDeviceActionError_completes
            (startTask self (.capture false)) rfl (fpiDeviceErrorNew .notSupported)
          change Ends (pure (fpiDeviceActionError (startTask self (.capture false))
            (fpiDeviceErrorNew .notSupported))) _
          rw [completed]
          have only : self.priv.idleReturns ++ [TaskReturn.error final] =
              [TaskReturn.error final] := by
            rw [free.idleReturns]
            rfl
          exact Ends.pure ⟨.returning rfl isOpen
            ⟨⟨.capture false, .error final, rfl, only, .failed rfl final⟩, rfl, rfl⟩ calm resting,
            fun _ => resting.armed⟩

/-- A request that captures is refused, or its task begins. -/
theorem fpDeviceCaptures_holds {pending : Option (Task cv)} {self : FpiDeviceGxfp cv E}
    (holds : Holds env engine sigfm pending self) {task : Task cv} (starts : Starts task)
    (hot : Bool) :
    Ends (fpDeviceCaptures (gxfpClass env engine) self task hot) fun out =>
      (∃ error, out = (some error, self)) ∨
        (pending = none ∧ out.1 = none ∧ Holds env engine sigfm (some task) out.2) := by
  unfold fpDeviceCaptures
  cases accepts : startRefusal self with
  | some error => exact Ends.pure (Or.inl ⟨error, rfl⟩)
  | none =>
      obtain ⟨isNone, isOpen, free, calm, resting⟩ := rests_of_startRefusal holds.shape accepts
      dsimp only
      split
      · exact Ends.pure (Or.inl ⟨_, rfl⟩)
      · split
        · exact Ends.pure (Or.inl ⟨_, rfl⟩)
        · apply (startCaptureAction_holds starts isOpen free calm resting).bind
          intro next nextHolds
          exact Ends.pure (Or.inr ⟨isNone, rfl, nextHolds⟩)

end Inputs

end Gxfp.Fprint
