import Gxfp.Fprint.DriverDepth
import Gxfp.Fprint.Tasks
import Gxfp.Lib.Serving
import Gxfp.User.Ticks

/-!
# The shapes of a device at rest

Between two callbacks of the main loop a device has one of a few shapes: closed,
open without a task, with a task that is to be returned, activating, active in
one of four states, or deactivated with a scan that is still running.  `Shape`
lists them, each with the mode its session is in and the request it works on.

The functions of the image device pass through states that have no shape.  The
results here say where each of them leaves an active device: deactivated, with
its result if no scan is running (`Settled`), or in the state it asked for.
-/

namespace Gxfp.User

open Lib.Execution

section Definite

variable {E : Type} (env : Env) (engine : TlsEngine E)

/-- A failed service keeps an error that is not `-EAGAIN`, as long as no write of
`GET_IMAGE` returns that. -/
def SessionRun.Definite (run : SessionRun E) : Prop :=
  ImageWritesDefinite run.io.trace → ErrorsDefinite run.world

theorem sessionStep_definite {run : SessionRun E} (definite : run.Definite) (call : SessionCall) :
    (sessionStep env engine run call).1.Definite := by
  intro images
  have moves := sessionStep_moves env engine run call
  exact moves.errorsDefinite images (definite (images.suffix moves.trace_suffix))

/-- A session with its mode. -/
structure SessionRun.InMode (run : SessionRun E) (mode : SessionMode) : Prop where
  hasMode : run.HasMode mode
  definite : run.Definite

theorem sessionStep_inMode {run : SessionRun E} {mode : SessionMode} (inMode : run.InMode mode)
    {call : SessionCall} (driven : call.isDriven = true) :
    ∃ after, (sessionStep env engine run call).1.InMode after ∧
      SessionReply mode call after (sessionStep env engine run call).2.ev := by
  obtain ⟨after, hasMode, reply⟩ := sessionStep_reply env engine inMode.hasMode driven
  exact ⟨after, ⟨hasMode, sessionStep_definite env engine inMode.definite call⟩, reply⟩

/-- A call that wakes a session and leaves it running asks for a tick. -/
theorem sessionStep_wakes_tick {run : SessionRun E} (definite : run.Definite) {call : SessionCall}
    (wakes : call.wakes = true) {mode : SessionMode}
    (hasMode : (sessionStep env engine run call).1.HasMode mode)
    (running : mode.needsTick = true)
    (images : ImageWritesDefinite (sessionStep env engine run call).1.io.trace) :
    (sessionStep env engine run call).2.ev.requestTick = true := by
  have moves := sessionStep_moves env engine run call
  have errors := definite (images.suffix moves.trace_suffix)
  obtain ⟨impl, present, rfl⟩ := hasMode
  have asks := sessionStep_asksForTick env engine run call errors images
  cases call with
  | onFd condition actionCancelled =>
      exact asks rfl (fun impossible => by cases impossible) impl present running
  | pump actionCancelled =>
      exact asks rfl (fun impossible => by cases impossible) impl present running
  | _ => cases wakes

theorem SessionRun.HasMode.unique {run : SessionRun E} {mode other : SessionMode}
    (hasMode : run.HasMode mode) (hasOther : run.HasMode other) : mode = other := by
  obtain ⟨impl, present, rfl⟩ := hasMode
  obtain ⟨otherImpl, otherPresent, rfl⟩ := hasOther
  rw [present] at otherPresent
  cases otherPresent
  rfl

end Definite

end Gxfp.User

namespace Gxfp.Fprint

open Lib.Outcome
open Gxfp.User

section Shapes

variable {cv : OpenCv} {E α : Type}

/-! ## Shapes -/

/-- The device without its timer and what its user sees. -/
structure Core (cv : OpenCv) (E : Type) where
  priv : FpDevicePrivate cv
  image : FpImageDevicePrivate cv
  scans : List (Scan cv)
  sess : SessionRun E

/-- The core of a device. -/
def core (self : FpiDeviceGxfp cv E) : Core cv E :=
  ⟨self.priv, self.image, self.scans, self.driver.sess⟩

/-- The task of a device is cancelled. -/
def FpDevicePrivate.Cancelled (priv : FpDevicePrivate cv) : Prop :=
  ∃ task, priv.currentCancellable = some task ∧ priv.cancelled.contains task = true

/-- The images of the driver. -/
def Delivered (image : FpImage cv) : Prop :=
  ∃ img : DecodedImage, image = capturedImage img

variable (cls : FpImageDeviceClass cv (GxfpDriver E)) (sigfm : SigfmLibrary cv α)

/-- A request that is being worked on. -/
structure Pending (request : Task cv) (stage : Nat) (priv : FpDevicePrivate cv) : Prop where
  isOpen : priv.isOpen = true
  develops : ∃ task, priv.currentTask = some task ∧
    Develops cls sigfm Delivered stage request task
  notReturned : priv.idleReturns = []
  cancels : priv.idleCancel = true → priv.Cancelled

/-- A request whose result waits to be returned. -/
structure Finished (request : Task cv) (priv : FpDevicePrivate cv) : Prop where
  earned : ∃ task result, priv.currentTask = some task ∧ priv.idleReturns = [result] ∧
    Earned cls sigfm Delivered request ⟨task, result⟩
  idleCancel : priv.idleCancel = false
  cancelConnected : priv.cancelConnected = false

/-- There is no task. -/
structure Free (priv : FpDevicePrivate cv) : Prop where
  currentTask : priv.currentTask = none
  idleReturns : priv.idleReturns = []
  idleCancel : priv.idleCancel = false
  cancelConnected : priv.cancelConnected = false

/-- A captured image that is kept is one of the driver's. -/
def Taken (image : FpImageDevicePrivate cv) : Prop :=
  ∀ taken : FpImage cv, image.captureImage = some taken →
    Delivered ({ taken with sigfmInfo := none } : FpImage cv)

/-- A scan is running, and the image device waits for it. -/
def Scans (image : FpImageDevicePrivate cv) (scans : List (Scan cv)) : Prop :=
  image.minutiaeScanActive = true ∧ ∃ scan, scans = [scan] ∧ Delivered scan.image

/-- No scan is running. -/
def Unscanned (image : FpImageDevicePrivate cv) (scans : List (Scan cv)) : Prop :=
  image.minutiaeScanActive = false ∧ scans = []

/-- An image device that is not active and has nothing left to report. -/
structure Calm (image : FpImageDevicePrivate cv) (scans : List (Scan cv)) : Prop where
  inactive : image.active = false
  noFinger : image.fingerPresent = false
  unscanned : Unscanned image scans
  noError : image.actionError = none
  taken : Taken image

/-- The session is open and stands still. -/
def Resting (sess : SessionRun E) : Prop :=
  sess.InMode .ready ∨ sess.InMode .failed

/-- The session is closed. -/
def Dormant (sess : SessionRun E) : Prop :=
  sess.Definite ∧ (sess.session = none ∨ sess.HasMode .closed)

/-- An active device. -/
structure Active (request : Task cv) (mode : SessionMode) (c : Core cv E) : Prop where
  pending : Pending cls sigfm request c.image.enrollStage c.priv
  active : c.image.active = true
  scans : Scans c.image c.scans ∨ Unscanned c.image c.scans
  taken : Taken c.image
  inMode : c.sess.InMode mode
  isOpen : mode ≠ .closed

/-- The states of an active device: the state of the image device and of its
session, whether a finger is on the sensor and whether a scan is running. -/
inductive Link (action : FpiDeviceAction) : FpiImageDeviceState → SessionMode → Bool → Bool → Prop
  | awaitFingerOn : Link action .awaitFingerOn .waitFingerOn false false
  | capture : Link action .capture .capturing true false
  | awaitFingerOff (scanning : Bool) : Link action .awaitFingerOff .waitFingerOff true scanning
  | idle (enrolls : action = .enroll) : Link action .idle .idle false true

/-- What is left of a task when the device is not active: a scan, or the return
of its result. -/
def Awaits (request : Task cv) (c : Core cv E) : Prop :=
  (Scans c.image c.scans ∧ Pending cls sigfm request c.image.enrollStage c.priv) ∨
    (Unscanned c.image c.scans ∧ c.image.actionError = none ∧ c.priv.isOpen = true ∧
      Finished cls sigfm request c.priv)

/-- A device that has been deactivated. -/
structure Settled (request : Task cv) (c : Core cv E) : Prop where
  capturing : request.action.isCapturing = true
  state : c.image.state = .inactive
  inactive : c.image.active = false
  noFinger : c.image.fingerPresent = false
  taken : Taken c.image
  inMode : c.sess.InMode .ready
  awaits : Awaits cls sigfm request c

/-- The shapes of a device between two callbacks, with the request it works
on. -/
inductive Shape : Option (Task cv) → Core cv E → Prop
  | shut {c : Core cv E} (notOpen : c.priv.isOpen = false) (free : Free c.priv)
      (calm : Calm c.image c.scans) (dormant : Dormant c.sess) : Shape none c
  | rests {c : Core cv E} (isOpen : c.priv.isOpen = true) (free : Free c.priv)
      (calm : Calm c.image c.scans) (resting : Resting c.sess) : Shape none c
  | opening {c : Core cv E} (notOpen : c.priv.isOpen = false)
      (finished : Finished cls sigfm .opening c.priv) (calm : Calm c.image c.scans)
      (opened : (c.priv.idleReturns = [.bool] ∧ Resting c.sess) ∨
        ∃ error, c.priv.idleReturns = [.error error] ∧ Dormant c.sess) :
      Shape (some .opening) c
  | closing {c : Core cv E} (finished : Finished cls sigfm .closing c.priv)
      (calm : Calm c.image c.scans) (dormant : Dormant c.sess) : Shape (some .closing) c
  | returning {request : Task cv} {c : Core cv E} (capturing : request.action.isCapturing = true)
      (isOpen : c.priv.isOpen = true) (finished : Finished cls sigfm request c.priv)
      (calm : Calm c.image c.scans) (resting : Resting c.sess) : Shape (some request) c
  | activating {request : Task cv} {mode : SessionMode} {c : Core cv E}
      (state : c.image.state = .activating)
      (pending : Pending cls sigfm request c.image.enrollStage c.priv) (calm : Calm c.image c.scans)
      (inMode : c.sess.InMode mode) (activates : mode.isActivating = true) :
      Shape (some request) c
  | working {request : Task cv} {mode : SessionMode} {c : Core cv E}
      (active : Active cls sigfm request mode c)
      (link : Link request.action c.image.state mode c.image.fingerPresent
        c.image.minutiaeScanActive) : Shape (some request) c
  | waiting {request : Task cv} {c : Core cv E} (inactive : c.image.active = false)
      (noFinger : c.image.fingerPresent = false) (scans : Scans c.image c.scans)
      (taken : Taken c.image)
      (pending : Pending cls sigfm request c.image.enrollStage c.priv)
      (resting : Resting c.sess) : Shape (some request) c

/-- A session that needs ticks has its timer. -/
def Armed (self : FpiDeviceGxfp cv E) : Prop :=
  ∀ mode, self.driver.sess.HasMode mode → mode.needsTick = true →
    self.driver.timerSource.isSome = true

variable {cls sigfm}

theorem Pending.capturing {request : Task cv} {stage : Nat} {priv : FpDevicePrivate cv}
    (pending : Pending cls sigfm request stage priv) : request.action.isCapturing = true := by
  obtain ⟨task, -, develops⟩ := pending.develops
  rw [← develops.action.1]
  exact develops.action.2

/-- A deactivated device has a shape. -/
theorem Settled.shape {request : Task cv} {c : Core cv E} (settled : Settled cls sigfm request c) :
    Shape cls sigfm (some request) c := by
  obtain ⟨capturing, state, inactive, noFinger, taken, inMode, awaits⟩ := settled
  rcases awaits with ⟨scans, pending⟩ | ⟨unscanned, noError, isOpen, finished⟩
  · exact .waiting inactive noFinger scans taken pending (Or.inl inMode)
  · exact .returning capturing isOpen finished ⟨inactive, noFinger, unscanned, noError, taken⟩
      (Or.inl inMode)

/-- A change of the device that keeps the tasks keeps the shape. -/
theorem Shape.withPriv {pending : Option (Task cv)} {c : Core cv E}
    (shape : Shape cls sigfm pending c) (priv : FpDevicePrivate cv)
    (isOpen : priv.isOpen = c.priv.isOpen) (returns : priv.idleReturns = c.priv.idleReturns)
    (pendingKept : ∀ request stage, Pending cls sigfm request stage c.priv →
      Pending cls sigfm request stage priv)
    (finishedKept : ∀ request, Finished cls sigfm request c.priv → Finished cls sigfm request priv)
    (freeKept : Free c.priv → Free priv) : Shape cls sigfm pending { c with priv := priv } := by
  cases shape with
  | shut notOpen free calm dormant =>
      exact .shut (isOpen.trans notOpen) (freeKept free) calm dormant
  | rests opened free calm resting =>
      exact .rests (isOpen.trans opened) (freeKept free) calm resting
  | opening notOpen finished calm opened =>
      refine .opening (isOpen.trans notOpen) (finishedKept _ finished) calm ?_
      dsimp only
      rw [returns]
      exact opened
  | closing finished calm dormant => exact .closing (finishedKept _ finished) calm dormant
  | returning capturing opened finished calm resting =>
      exact .returning capturing (isOpen.trans opened) (finishedKept _ finished) calm resting
  | activating state pending calm inMode activates =>
      exact .activating state (pendingKept _ _ pending) calm inMode activates
  | working active link =>
      exact .working ⟨pendingKept _ _ active.pending, active.active, active.scans, active.taken,
        active.inMode, active.isOpen⟩ link
  | waiting inactive noFinger scans taken pending resting =>
      exact .waiting inactive noFinger scans taken (pendingKept _ _ pending) resting

/-! ## The end of an action -/

theorem keepFirstError_eq {δ : Type} (dev : FpImageDevice cv δ) (error : Option GError) :
    ∃ first ui,
      keepFirstError dev error =
        { dev with image := { dev.image with actionError := first }, ui := ui } ∧
      (first = none → error = none ∧ dev.image.actionError = none) := by
  rcases dev with ⟨priv, ⟨state, active, fingerPresent, stage, scanning, earlier, captured⟩, scans,
    driver, ui⟩
  cases error with
  | none => exact ⟨earlier, ui, rfl, fun noError => ⟨rfl, noError⟩⟩
  | some error =>
      unfold keepFirstError
      cases earlier with
      | none => exact ⟨_, _, rfl, fun impossible => by cases impossible⟩
      | some first =>
          dsimp only
          split
          · exact ⟨_, _, rfl, fun impossible => by cases impossible⟩
          · exact ⟨some first, _, rfl, fun impossible => by cases impossible⟩

theorem noticeCancellation_eq {δ : Type} (dev : FpImageDevice cv δ) {task : Task cv}
    (current : dev.priv.currentTask = some task) :
    ∃ noticed,
      noticeCancellation dev = { dev with image := { dev.image with actionError := noticed } } ∧
      (noticed = none → dev.image.actionError = none ∧ ¬ dev.priv.Cancelled) := by
  have runs : fpiDeviceGetCancellable dev = (dev.priv.currentCancellable, dev) := by
    unfold fpiDeviceGetCancellable fpiDeviceGetCurrentAction
    rw [current]
    cases task <;> rfl
  rcases dev with ⟨priv, ⟨state, active, fingerPresent, stage, scanning, earlier, captured⟩, scans,
    driver, ui⟩
  unfold noticeCancellation
  cases earlier with
  | some error => exact ⟨some error, rfl, fun impossible => by cases impossible⟩
  | none =>
      dsimp only
      rw [runs]
      dsimp only
      split
      · exact ⟨_, rfl, fun impossible => by cases impossible⟩
      · rename_i notCancelled
        refine ⟨none, rfl, fun _ => ⟨rfl, ?_⟩⟩
        rintro ⟨number, isNumber, isCancelled⟩
        apply notCancelled
        rw [isNumber]
        exact isCancelled

/-- An enrolment that is to end has failed, is cancelled, or has all its
stages. -/
def Due (stages : Nat) (request : Task cv) (priv : FpDevicePrivate cv)
    (image : FpImageDevicePrivate cv) : Prop :=
  request.action = .enroll →
    image.actionError ≠ none ∨ priv.Cancelled ∨ image.enrollStage = stages

/-- An inactive device completes its action unless a scan is running. -/
theorem maybeComplete_awaits (self : FpiDeviceGxfp cv E) {request : Task cv}
    (inactive : self.image.active = false)
    (pending : Pending cls sigfm request self.image.enrollStage self.priv)
    (scans : Scans self.image self.scans ∨ Unscanned self.image self.scans)
    (taken : Taken self.image) (error : Option GError)
    (due : error = none → Unscanned self.image self.scans →
      Due cls.nrEnrollStages request self.priv self.image) :
    Ends (fpImageDeviceMaybeCompleteAction self error) fun after =>
      (∃ priv actionError captureImage ui,
        after =
          { self with
            priv := priv
            image := { self.image with actionError := actionError, captureImage := captureImage }
            ui := ui }) ∧
      Taken after.image ∧ Awaits cls sigfm request (core after) := by
  obtain ⟨task, current, develops⟩ := pending.develops
  obtain ⟨first, ui, kept, keptNone⟩ := keepFirstError_eq self error
  unfold fpImageDeviceMaybeCompleteAction
  rw [kept]
  dsimp only
  rcases scans with scans | unscanned
  · rw [if_pos (Or.inr scans.1)]
    exact Ends.pure ⟨⟨_, _, _, _, rfl⟩, taken, Or.inl ⟨scans, pending⟩⟩
  · have stopped : ¬ (self.image.active = true ∨ self.image.minutiaeScanActive = true) := by
      rw [inactive, unscanned.1]
      simp
    rw [if_neg stopped]
    obtain ⟨noticed, notices, noticedNone⟩ := noticeCancellation_eq
      { self with image := { self.image with actionError := first }, ui := ui } current
    rw [notices]
    have stages : noticed = none → task.action = .enroll →
        self.image.enrollStage = cls.nrEnrollStages := by
      intro unnoticed enrolls
      obtain ⟨firstNone, notCancelled⟩ := noticedNone unnoticed
      obtain ⟨noError, noEarlier⟩ := keptNone firstNone
      rcases due noError unscanned (develops.action.1 ▸ enrolls) with failed | cancelled | all
      · exact absurd noEarlier failed
      · exact absurd cancelled notCancelled
      · exact all
    apply (reportAction_earned
      { self with image := { self.image with actionError := noticed }, ui := ui } current develops
      stages taken).mono
    rintro after ⟨result, ⟨captureImage, lastUi, cleared, rfl⟩, earned⟩
    refine ⟨⟨_, _, _, _, rfl⟩, ?_, Or.inr ⟨unscanned, rfl, pending.isOpen, ?_, rfl, rfl⟩⟩
    · rcases cleared with rfl | rfl
      · intro image impossible
        cases impossible
      · exact taken
    · refine ⟨task, result, current, ?_, earned⟩
      change self.priv.idleReturns ++ [result] = [result]
      rw [pending.notReturned]
      rfl

/-! ## Changes of state -/

section Class

variable (env : Env) (engine : TlsEngine E)

/-- The mode in which a session rests. -/
def restMode (state : FpiImageDeviceState) : SessionMode :=
  if state = .inactive then .ready else .idle

theorem restMode_of_rests {state : FpiImageDeviceState} {mode : SessionMode}
    (rests : Rests (sessionStateOf state) mode) : mode = restMode state := by
  generalize stateEq : sessionStateOf state = target at rests
  cases rests with
  | idle =>
      cases state with
      | inactive => cases stateEq
      | _ => rfl
  | inactive =>
      cases state with
      | inactive => rfl
      | _ => cases stateEq

/-- A change to a quiet state puts the session to rest. -/
theorem changeState_quiet (self : FpiDeviceGxfp cv E) {mode : SessionMode}
    (inMode : self.driver.sess.InMode mode) (isOpen : mode ≠ .closed)
    {state : FpiImageDeviceState} (quiet : state.isQuiet = true) :
    ∃ sess ui,
      fpImageDeviceChangeState (gxfpClass env engine) self state =
        .ok
          { self with
            image := { self.image with state := state }
            driver := { self.driver with sess := sess }
            ui := ui } ∧
      sess.InMode (if mode = .failed then .failed else restMode state) := by
  have quiets : Quiets env engine (gxfpClass env engine : FpImageDeviceClass cv (GxfpDriver E)) :=
    gxfpClassAbove_quiets env engine tooDeep 2
  obtain ⟨after, afterMode, reply⟩ := sessionStep_inMode env engine inMode
    (rfl : SessionCall.isDriven (.changeState (sessionStateOf state)) = true)
  obtain ⟨ui, noted⟩ := warnIf_eq self
    (!FpiImageDeviceState.validTransitions.contains (self.image.state, state))
    ("Internal state machine issue: transition from " ++ self.image.state.name ++ " to " ++
      state.name ++ " should not happen!")
  refine ⟨(sessionStep env engine self.driver.sess (.changeState (sessionStateOf state))).1, ui, ?_,
    ?_⟩
  · unfold fpImageDeviceChangeState
    dsimp only
    rw [noted, quiets _ _ quiet]
    cases state with
    | awaitFingerOn => cases quiet
    | awaitFingerOff => cases quiet
    | _ => rfl
  · have reached : after = if mode = .failed then .failed else restMode state := by
      generalize (sessionStep env engine self.driver.sess
        (.changeState (sessionStateOf state))).2.ev = ev at reply
      cases reply with
      | ignored _ stopped =>
          rcases stopped with closed | failed
          · exact absurd closed isOpen
          · rw [if_pos failed]
            exact failed
      | rests _ working rests =>
          rw [if_neg working]
          exact restMode_of_rests rests
      | waits _ _ waits => exact absurd waits (state.not_waitsIn quiet _)
      | refused _ _ waits => exact absurd waits (state.not_waitsIn quiet _)
      | woken wakes => cases wakes
    rw [← reached]
    exact afterMode

/-! ## Deactivation -/

/-- The end of a deactivation. -/
theorem deactivateComplete_settles {self : FpiDeviceGxfp cv E} {request : Task cv}
    (active : Active (gxfpClass env engine) sigfm request .ready (core self))
    (state : self.image.state = .deactivating)
    (due : Due DEFAULT_ENROLL_SAMPLES request self.priv self.image) :
    Ends (fpiImageDeviceDeactivateComplete (gxfpClass env engine) self none) fun after =>
      Settled (gxfpClass env engine) sigfm request (core after) := by
  have isActive : ¬ self.image.active = false := by
    rw [show self.image.active = true from active.active]
    exact Bool.false_ne_true.symm
  unfold fpiImageDeviceDeactivateComplete
  rw [if_neg isActive, if_neg (not_not.mpr state)]
  dsimp only
  obtain ⟨sess, ui, changed, inMode⟩ := changeState_quiet env engine
    { self with image := { self.image with active := false, fingerPresent := false } }
    active.inMode active.isOpen (rfl : FpiImageDeviceState.isQuiet .inactive = true)
  rw [changed]
  apply (maybeComplete_awaits
    { self with
      image := { self.image with state := .inactive, active := false, fingerPresent := false }
      driver := { self.driver with sess := sess }
      ui := ui } rfl active.pending active.scans active.taken none fun _ _ => due).mono
  rintro after ⟨⟨priv, actionError, captureImage, lastUi, rfl⟩, taken, awaits⟩
  exact ⟨active.pending.capturing, rfl, rfl, rfl, taken, inMode, awaits⟩

/-- A deactivation ends at once. -/
theorem gxfpDeactivate_settles {self : FpiDeviceGxfp cv E} {request : Task cv}
    {mode : SessionMode} (active : Active (gxfpClass env engine) sigfm request mode (core self))
    (state : self.image.state = .deactivating)
    (due : Due DEFAULT_ENROLL_SAMPLES request self.priv self.image) :
    Ends ((gxfpClass env engine).deactivate self) fun after =>
      Settled (gxfpClass env engine) sigfm request (core after) := by
  have virtual : (gxfpClass env engine).deactivate self =
      gxfpDeactivate env engine (gxfpClass env engine) self := by
    conv_lhs => rw [gxfpClass_eq env engine]
    rfl
  obtain ⟨after, afterMode, reply⟩ := sessionStep_inMode env engine active.inMode
    (rfl : SessionCall.isDriven .requestDeactivate = true)
  rw [virtual]
  unfold gxfpDeactivate callAndHandle sessionCall
  dsimp only
  have events : (sessionStep env engine (cancelScheduledPump self).driver.sess
      .requestDeactivate).2.ev = deactivateEvents ∧ after = .ready := by
    change (sessionStep env engine (core self).sess .requestDeactivate).2.ev = _ ∧ _
    generalize (sessionStep env engine (core self).sess .requestDeactivate).2.ev = ev at reply ⊢
    cases reply with
    | deactivated =>
        rw [if_neg active.isOpen]
        exact ⟨rfl, rfl⟩
    | woken wakes => cases wakes
  rw [events.1, handleSessionEvents_deactivateEvents]
  rw [events.2] at afterMode
  exact deactivateComplete_settles env engine
    ⟨active.pending, active.active, active.scans, active.taken, afterMode,
      SessionMode.noConfusion⟩ state due

/-- An active device is deactivated with the result of its task, unless a scan is
running. -/
theorem deactivate_settles (self : FpiDeviceGxfp cv E) {request : Task cv} {mode : SessionMode}
    (active : Active (gxfpClass env engine) sigfm request mode (core self))
    (state : self.image.state ≠ .deactivating)
    (due : Due DEFAULT_ENROLL_SAMPLES request self.priv self.image) (cancelling : Bool) :
    Ends (fpiImageDeviceDeactivate (gxfpClass env engine) self cancelling) fun after =>
      Settled (gxfpClass env engine) sigfm request (core after) := by
  have stays : ¬ (self.image.active = false ∨ self.image.state = .deactivating) := by
    rw [show self.image.active = true from active.active]
    rintro (impossible | isState)
    · cases impossible
    · exact state isState
  obtain ⟨ui, noted⟩ := warnIf_eq self (!cancelling && self.image.state ≠ .idle)
    "Deactivating image device while it is not idle, this should not happen."
  unfold fpiImageDeviceDeactivate
  rw [if_neg stays]
  dsimp only
  rw [noted]
  obtain ⟨sess, lastUi, changed, inMode⟩ := changeState_quiet env engine
    { self with ui := ui } active.inMode active.isOpen
    (rfl : FpiImageDeviceState.isQuiet .deactivating = true)
  rw [changed]
  refine gxfpDeactivate_settles env engine
    ⟨active.pending, active.active, active.scans, active.taken, inMode, ?_⟩ rfl due
  split
  · exact SessionMode.noConfusion
  · exact SessionMode.noConfusion

/-! ## Errors of the session -/

/-- Errors other than that of a cancelled operation. -/
def GError.isGenuine (error : GError) : Prop :=
  error.code ≠ .io .cancelled

/-- An error of the session ends the action of an active device. -/
theorem sessionError_settles (self : FpiDeviceGxfp cv E) {request : Task cv} {mode : SessionMode}
    (active : Active (gxfpClass env engine) sigfm request mode (core self))
    (state : self.image.state ≠ .deactivating) (working : self.image.state ≠ .inactive)
    {error : GError} (genuine : error.isGenuine) :
    Ends (fpiImageDeviceSessionError (gxfpClass env engine) self error) fun after =>
      Settled (gxfpClass env engine) sigfm request (core after) := by
  have isActive : self.image.active = true := active.active
  have notInactive : ¬ self.image.active = false := by
    rw [isActive]
    exact Bool.false_ne_true.symm
  unfold fpiImageDeviceSessionError
  rw [if_neg notInactive, if_neg genuine]
  dsimp only
  rw [if_neg Bool.false_ne_true, if_neg working]
  unfold abortSession
  dsimp only
  obtain ⟨ui, noted⟩ := warnIf_eq self error.isRetry
    "Driver should report retries using fpi_image_device_retry_scan!"
  rw [noted]
  obtain ⟨first, lastUi, kept, keptNone⟩ := keepFirstError_eq { self with ui := ui } (some error)
  unfold fpImageDeviceMaybeCompleteAction
  rw [kept]
  dsimp only
  rw [if_pos (Or.inl isActive)]
  refine deactivate_settles env engine
    { self with image := { self.image with actionError := first }, ui := lastUi }
    ⟨active.pending, isActive, active.scans, active.taken, active.inMode, active.isOpen⟩ state ?_
    true
  intro _
  left
  intro isNone
  cases (keptNone isNone).1

/-! ## Waiting -/

theorem schedulePumpSoon_eq (self : FpiDeviceGxfp cv E) (delayMs : Int) :
    ∃ delay, schedulePumpSoon self delayMs =
      { self with driver := { self.driver with timerSource := some delay } } := by
  rcases self with ⟨priv, image, scans, ⟨sess, timerSource, devPath, pskPath⟩, ui⟩
  cases timerSource with
  | none => exact ⟨delayMs, rfl⟩
  | some delay => exact ⟨delay, rfl⟩

/-- A device that has entered a state in which its session waits. -/
structure Entered (sigfm : SigfmLibrary cv α) (request : Task cv) (mode : SessionMode)
    (state : FpiImageDeviceState) (before after : FpiDeviceGxfp cv E) : Prop where
  active : Active (gxfpClass env engine) sigfm request mode (core after)
  image : after.image = { before.image with state := state }
  scans : after.scans = before.scans
  timer : after.driver.timerSource.isSome = true

/-- The last part of a change of state only tells the user. -/
theorem fpImageDeviceChangeState_bind (self : FpiDeviceGxfp cv E) (state : FpiImageDeviceState)
    {post : FpiDeviceGxfp cv E → Prop}
    (closed : ∀ after ui, post after → post { after with ui := ui })
    (changes : ∀ ui, Ends (gxfpChangeState env engine (gxfpClass env engine)
      { self with image := { self.image with state := state }, ui := ui } state) post) :
    Ends (fpImageDeviceChangeState (gxfpClass env engine) self state) post := by
  have virtual : (gxfpClass env engine : FpImageDeviceClass cv (GxfpDriver E)).changeState =
      gxfpChangeState env engine (gxfpClass env engine) := by
    conv_lhs => rw [gxfpClass_eq env engine]
    rfl
  obtain ⟨ui, noted⟩ := warnIf_eq self
    (!FpiImageDeviceState.validTransitions.contains (self.image.state, state))
    ("Internal state machine issue: transition from " ++ self.image.state.name ++ " to " ++
      state.name ++ " should not happen!")
  unfold fpImageDeviceChangeState
  dsimp only
  rw [noted, virtual]
  apply Ends.bind (changes ui)
  intro after holds
  cases state with
  | awaitFingerOn => exact Ends.pure (closed after _ holds)
  | awaitFingerOff => exact Ends.pure (closed after _ holds)
  | inactive => exact Ends.pure holds
  | activating => exact Ends.pure holds
  | deactivating => exact Ends.pure holds
  | idle => exact Ends.pure holds
  | capture => exact Ends.pure holds

theorem sessionEventError_isGenuine (ev : SessionEvents) : (sessionEventError ev).isGenuine := by
  intro impossible
  cases impossible

/-- An active device enters a state in which its session waits, or the session
fails and ends the action. -/
theorem changeState_waits {self : FpiDeviceGxfp cv E} {request : Task cv} {mode : SessionMode}
    (active : Active (gxfpClass env engine) sigfm request mode (core self))
    (working : mode ≠ .failed) {state : FpiImageDeviceState} {target : SessionMode}
    (waits : WaitsIn (sessionStateOf state) target) :
    Ends (fpImageDeviceChangeState (gxfpClass env engine) self state) fun after =>
      Entered env engine sigfm request target state self after ∨
        Settled (gxfpClass env engine) sigfm request (core after) := by
  apply fpImageDeviceChangeState_bind env engine
  · rintro after ui (⟨active, image, scans, timer⟩ | settled)
    · exact Or.inl ⟨active, image, scans, timer⟩
    · exact Or.inr settled
  intro ui
  obtain ⟨after, afterMode, reply⟩ := sessionStep_inMode env engine active.inMode
    (rfl : SessionCall.isDriven (.changeState (sessionStateOf state)) = true)
  unfold gxfpChangeState callAndHandle sessionCall
  dsimp only
  change SessionReply mode _ after (sessionStep env engine self.driver.sess
    (.changeState (sessionStateOf state))).2.ev at reply
  generalize evEq : (sessionStep env engine self.driver.sess
    (.changeState (sessionStateOf state))).2.ev = ev at reply ⊢
  cases reply with
  | ignored _ stopped =>
      rcases stopped with closed | failed
      · exact absurd closed active.isOpen
      · exact absurd failed working
  | rests _ _ rests =>
      exfalso
      generalize sessionStateOf state = session at waits rests
      cases waits <;> cases rests
  | waits _ _ entered =>
      have same : after = target := by
        generalize sessionStateOf state = session at waits entered
        cases waits <;> cases entered <;> rfl
      rw [handleSessionEvents_tickNow]
      obtain ⟨delay, armed⟩ := schedulePumpSoon_eq
        { self with
          image := { self.image with state := state }
          driver :=
            { self.driver with
              sess := (sessionStep env engine self.driver.sess
                (.changeState (sessionStateOf state))).1 }
          ui := ui } 0
      rw [armed]
      refine Ends.ok (Or.inl ⟨⟨active.pending, active.active, active.scans, active.taken, ?_, ?_⟩,
        rfl, rfl, rfl⟩)
      · rw [← same]
        exact afterMode
      · generalize sessionStateOf state = session at waits
        cases waits <;> exact SessionMode.noConfusion
  | refused _ _ waits code generic msg =>
      rw [handleSessionEvents_error env engine _ _ (isError_errorEvents code _ msg),
        handleSessionError_generic _ _ generic (isError_errorEvents code _ msg)]
      have notResting : state ≠ .deactivating ∧ state ≠ .inactive := by
        constructor
        · rintro rfl
          cases waits
        · rintro rfl
          cases waits
      apply (sessionError_settles env engine
        (cancelScheduledPump
          { self with
            image := { self.image with state := state }
            driver :=
              { self.driver with
                sess := (sessionStep env engine self.driver.sess
                  (.changeState (sessionStateOf state))).1 }
            ui := ui })
        ⟨active.pending, active.active, active.scans, active.taken, afterMode,
          SessionMode.noConfusion⟩ notResting.1 notResting.2 (sessionEventError_isGenuine _)).mono
      intro last settled
      exact Or.inr settled
  | woken wakes => cases wakes

/-- A session that has failed ignores changes of state. -/
theorem changeState_failed (self : FpiDeviceGxfp cv E)
    (inMode : self.driver.sess.InMode .failed) (state : FpiImageDeviceState) :
    Ends (fpImageDeviceChangeState (gxfpClass env engine) self state) fun after =>
      ∃ sess ui,
        after =
          { self with
            image := { self.image with state := state }
            driver := { self.driver with sess := sess }
            ui := ui } ∧
        sess.InMode .failed := by
  apply fpImageDeviceChangeState_bind env engine
  · rintro after ui ⟨sess, earlier, rfl, inMode⟩
    exact ⟨sess, ui, rfl, inMode⟩
  intro ui
  obtain ⟨after, afterMode, reply⟩ := sessionStep_inMode env engine inMode
    (rfl : SessionCall.isDriven (.changeState (sessionStateOf state)) = true)
  unfold gxfpChangeState callAndHandle sessionCall
  dsimp only
  generalize evEq : (sessionStep env engine self.driver.sess
    (.changeState (sessionStateOf state))).2.ev = ev at reply ⊢
  cases reply with
  | ignored _ stopped =>
      rw [handleSessionEvents_clear]
      exact Ends.ok ⟨_, ui, rfl, afterMode⟩
  | rests _ working _ => exact absurd rfl working
  | waits _ working _ => exact absurd rfl working
  | refused _ working _ => exact absurd rfl working
  | woken wakes => cases wakes

end Class

end Shapes

end Gxfp.Fprint
