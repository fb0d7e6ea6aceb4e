import Gxfp.Fprint.DriverRuns
import Gxfp.User.Activation

/-!
# Late scans

An error of the session deactivates an enrolment at once but does not end it
while a scan is running.  The end of that scan makes the image device wait for
the next finger, although it is not active any more, and if the session cannot
wait, its error goes nowhere: it is taken for the failure of an activation that
is over.

`late_scan_is_stuck` shows what is left: whatever the user and the main loop do,
the enrolment is never returned and every further request is refused.
-/

namespace Gxfp.Fprint

open Lib.Execution
open Lib.Outcome
open Gxfp.User

section Stuck

variable {cv : OpenCv} {E α : Type}

/-- An enrolment that nothing goes on with: the device is not active, no scan is
running, no result is to be returned and the session stands still. -/
structure Stuck (dev : FpiDeviceGxfp cv E) : Prop where
  isOpen : dev.priv.isOpen = true
  enrolls : ∃ print, dev.priv.currentTask = some (.enroll print)
  noResult : dev.priv.idleReturns = []
  noScan : dev.scans = []
  inactive : dev.image.active = false
  resting : Resting dev.driver.sess

variable {env : Env} {engine : TlsEngine E} {sigfm : SigfmLibrary cv α}

theorem Stuck.noted {dev : FpiDeviceGxfp cv E} (stuck : Stuck dev) (ui : Ui cv) :
    Stuck { dev with ui := ui } :=
  ⟨stuck.isOpen, stuck.enrolls, stuck.noResult, stuck.noScan, stuck.inactive, stuck.resting⟩

/-- A stuck device refuses every task. -/
theorem Stuck.refuses {dev : FpiDeviceGxfp cv E} (stuck : Stuck dev) :
    startRefusal dev = some (fpiDeviceErrorNew .busy) := by
  obtain ⟨print, current⟩ := stuck.enrolls
  unfold startRefusal
  rw [stuck.isOpen, current]
  rfl

theorem Stuck.cancelCurrent {dev : FpiDeviceGxfp cv E} (stuck : Stuck dev) :
    Stuck (cancelCurrent dev) := by
  obtain ⟨cancelled, same, -⟩ := cancelCurrent_eq dev
  rw [same]
  exact ⟨stuck.isOpen, stuck.enrolls, stuck.noResult, stuck.noScan, stuck.inactive, stuck.resting⟩

/-- A wake-up leaves a stuck device alone. -/
theorem Stuck.wake {dev : FpiDeviceGxfp cv E} (stuck : Stuck dev) {call : SessionCall}
    (wakes : call.wakes = true) :
    Ends (callAndHandle env engine (gxfpClass env engine) dev call) Stuck := by
  obtain ⟨sess, woken, still⟩ := wake_resting stuck.resting wakes
  rw [woken]
  exact Ends.ok ⟨stuck.isOpen, stuck.enrolls, stuck.noResult, stuck.noScan, stuck.inactive, still⟩

theorem Stuck.timeout {dev : FpiDeviceGxfp cv E} (stuck : Stuck dev) (polled : Int) :
    Ends (gxfpPumpTimeoutCb env engine (gxfpClass env engine) dev polled) Stuck := by
  unfold gxfpPumpTimeoutCb
  obtain ⟨cancelled, ui, asked⟩ := fpiDeviceActionIsCancelled_eq (cancelScheduledPump dev)
  rw [asked]
  dsimp only
  have unscheduled : Stuck { cancelScheduledPump dev with ui := ui } :=
    ⟨stuck.isOpen, stuck.enrolls, stuck.noResult, stuck.noScan, stuck.inactive, stuck.resting⟩
  apply (unscheduled.wake rfl).bind
  intro next still
  obtain ⟨again, lastUi, askedAgain⟩ := fpiDeviceActionIsCancelled_eq next
  rw [askedAgain]
  dsimp only
  split
  · exact Ends.pure (still.noted lastUi)
  · split
    · exact (still.noted lastUi).wake rfl
    · exact Ends.pure (still.noted lastUi)

/-- The idle callback of a cancellation does not reach a device that is not
active. -/
theorem Stuck.cancelInIdle {dev : FpiDeviceGxfp cv E} (stuck : Stuck dev) :
    Ends (fpDeviceCancelInIdleCb (gxfpClass env engine) dev) Stuck := by
  obtain ⟨print, current⟩ := stuck.enrolls
  have action : fpiDeviceGetCurrentAction dev = .enroll := by
    unfold fpiDeviceGetCurrentAction
    rw [current]
    rfl
  unfold fpDeviceCancelInIdleCb fpImageDeviceCancelAction fpiImageDeviceDeactivate
  rw [action]
  dsimp only
  rw [show fpiDeviceGetCurrentAction
    ({ dev with priv := { dev.priv with idleCancel := false } } : FpiDeviceGxfp cv E) = .enroll from
      action, stuck.inactive]
  exact Ends.pure ⟨stuck.isOpen, stuck.enrolls, stuck.noResult, stuck.noScan, stuck.inactive,
    stuck.resting⟩

/-- No input goes on with a stuck device. -/
theorem Stuck.input {dev : FpiDeviceGxfp cv E} (stuck : Stuck dev) (input : Input cv) :
    Ends (deviceInput env engine sigfm dev input) fun out =>
      Stuck out.2.2 ∧ out.2.1 = none ∧ (input.request.isSome = true → out.1.isSome = true) := by
  have captures (task : Task cv) (hot : Bool) :
      fpDeviceCaptures (gxfpClass env engine) dev task hot =
        .ok (some (fpiDeviceErrorNew .busy), dev) := by
    unfold fpDeviceCaptures
    rw [stuck.refuses]
    rfl
  have refused (out : Except Halt (Option GError × FpiDeviceGxfp cv E))
      (isRefused : ∃ error, out = .ok (some error, dev)) :
      Ends (request out) fun out =>
        Stuck out.2.2 ∧ out.2.1 = none ∧ (input.request.isSome = true → out.1.isSome = true) := by
    obtain ⟨error, rfl⟩ := isRefused
    exact Ends.ok ⟨stuck, rfl, fun _ => rfl⟩
  have called {out : Except Halt (FpiDeviceGxfp cv E)} (noRequest : input.request = none)
      (ends : Ends out Stuck) :
      Ends (callback out) fun out =>
        Stuck out.2.2 ∧ out.2.1 = none ∧ (input.request.isSome = true → out.1.isSome = true) := by
    apply ends.bind
    intro next still
    refine Ends.pure ⟨still, rfl, ?_⟩
    rw [noRequest]
    intro impossible
    cases impossible
  cases input with
  | openDevice host =>
      apply refused
      refine ⟨fpiDeviceErrorNew .alreadyOpen, ?_⟩
      unfold fpDeviceOpen
      rw [if_pos stuck.isOpen]
  | closeDevice =>
      apply refused
      refine ⟨fpiDeviceErrorNew .busy, ?_⟩
      unfold fpDeviceClose
      rw [stuck.refuses]
      rfl
  | enroll template hot => exact refused _ ⟨_, captures _ hot⟩
  | verify enrolled hot => exact refused _ ⟨_, captures _ hot⟩
  | identify gallery hot => exact refused _ ⟨_, captures _ hot⟩
  | capture waitForFinger hot => exact refused _ ⟨_, captures _ hot⟩
  | cancel =>
      apply called rfl
      unfold fpDeviceTaskCancelledCb
      split
      · exact Ends.ok stuck.cancelCurrent
      · exact Ends.ok stuck
  | tooHot =>
      apply called rfl
      unfold fpiDeviceTooHot
      split
      · apply Ends.ok
        apply Stuck.cancelCurrent
        exact ⟨stuck.isOpen, stuck.enrolls, stuck.noResult, stuck.noScan, stuck.inactive,
          stuck.resting⟩
      · exact Ends.ok stuck
  | idleCancel =>
      apply called rfl
      split
      · exact stuck.cancelInIdle
      · exact Ends.ok stuck
  | idleReturn =>
      unfold deviceInput
      rw [stuck.noResult]
      exact Ends.ok ⟨stuck, rfl, fun impossible => by cases impossible⟩
  | timeout polled =>
      apply called rfl
      split
      · exact Ends.ok stuck
      · exact stuck.timeout polled
  | scanDone index =>
      apply called rfl
      rw [stuck.noScan]
      exact Ends.ok stuck

/-- Nothing is returned and no request is accepted. -/
def Idles (transition : Transition (Except Halt (FpiDeviceGxfp cv E)) (Input cv) (Output cv)) :
    Prop :=
  transition.output.returned = none ∧
    (transition.input.request.isSome = true → transition.output.refused.isSome = true)

theorem Stuck.step {dev : FpiDeviceGxfp cv E} (stuck : Stuck dev) (input : Input cv) :
    (∃ next, (deviceStep env engine sigfm (.ok dev) input).1 = .ok next ∧ Stuck next) ∧
      Idles (stepTransition (deviceStep env engine sigfm) (.ok dev) input) := by
  have ends : Ends (deviceInput env engine sigfm dev input) fun out =>
      Stuck out.2.2 ∧ out.2.1 = none ∧ (input.request.isSome = true → out.1.isSome = true) :=
    stuck.input input
  obtain ⟨⟨refused, returned, after⟩, stepped, still, noReturn, refuses⟩ := ends
  have result : deviceStep env engine sigfm (.ok dev) input =
      (.ok { after with ui := { after.ui with notes := [] } },
        ⟨after.ui.notes.reverse, refused, returned⟩) := by
    unfold deviceStep
    dsimp only
    rw [stepped]
  constructor
  · rw [result]
    exact ⟨_, rfl, still.noted _⟩
  · unfold Idles stepTransition
    rw [result]
    exact ⟨noReturn, refuses⟩

/-- A stuck device stays so. -/
theorem Stuck.run {dev : FpiDeviceGxfp cv E} (stuck : Stuck dev) (inputs : List (Input cv)) :
    ∀ transition ∈ transitions (deviceStep env engine sigfm) (.ok dev) inputs,
      Idles transition := by
  induction inputs generalizing dev with
  | nil =>
      intro transition member
      cases member
  | cons input inputs ih =>
      have stepped : (∃ next, (deviceStep env engine sigfm (.ok dev) input).1 = .ok next ∧
          Stuck next) ∧ Idles (stepTransition (deviceStep env engine sigfm) (.ok dev) input) :=
        stuck.step input
      obtain ⟨⟨next, isNext, still⟩, idles⟩ := stepped
      intro transition member
      rcases List.mem_cons.mp member with rfl | later
      · exact idles
      · rw [isNext] at later
        exact ih still transition later

/-! ## How a device gets stuck -/

/-- The error of a session is lost on a device that is not active and is not being
activated. -/
theorem sessionError_lost (cls : FpImageDeviceClass cv (GxfpDriver E)) (dev : FpiDeviceGxfp cv E)
    (inactive : dev.image.active = false) (state : dev.image.state ≠ .activating)
    (busy : fpiDeviceGetCurrentAction dev ≠ .none) (error : GError) :
    ∃ ui, fpiImageDeviceSessionError cls dev error = .ok { dev with ui := ui } := by
  unfold fpiImageDeviceSessionError
  rw [if_pos inactive]
  dsimp only
  rw [if_pos]
  · unfold fpiImageDeviceActivateComplete
    rw [if_neg, if_pos]
    · exact ⟨_, rfl⟩
    · exact state
    · exact Bool.eq_false_iff.mp inactive
  · exact busy

/-- An inactive device that is to wait for a finger is stuck where its session
cannot wait: there is no activation to fail. -/
theorem Stuck.awaitFingerOn {dev : FpiDeviceGxfp cv E} (stuck : Stuck dev)
    (fails : (sessionStep env engine dev.driver.sess
      (.changeState .awaitFingerOn)).1.HasMode .failed) :
    Ends (fpImageDeviceChangeState (gxfpClass env engine) dev .awaitFingerOn) Stuck := by
  apply fpImageDeviceChangeState_bind env engine
  · intro after ui still
    exact still.noted ui
  intro ui
  have driven : ∃ mode after,
      dev.driver.sess.InMode mode ∧
      (sessionStep env engine dev.driver.sess (.changeState .awaitFingerOn)).1.InMode after ∧
      SessionReply mode (.changeState .awaitFingerOn) after
        (sessionStep env engine dev.driver.sess (.changeState .awaitFingerOn)).2.ev := by
    rcases stuck.resting with ready | failed
    · obtain ⟨after, afterMode, reply⟩ := sessionStep_inMode env engine ready
        (rfl : SessionCall.isDriven (.changeState .awaitFingerOn) = true)
      exact ⟨_, after, ready, afterMode, reply⟩
    · obtain ⟨after, afterMode, reply⟩ := sessionStep_inMode env engine failed
        (rfl : SessionCall.isDriven (.changeState .awaitFingerOn) = true)
      exact ⟨_, after, failed, afterMode, reply⟩
  obtain ⟨mode, after, -, afterMode, reply⟩ := driven
  obtain rfl := afterMode.hasMode.unique fails
  unfold gxfpChangeState callAndHandle sessionCall
  dsimp only [sessionStateOf]
  generalize evEq : (sessionStep env engine dev.driver.sess
    (.changeState .awaitFingerOn)).2.ev = ev at reply ⊢
  cases reply with
  | ignored _ stopped =>
      rw [handleSessionEvents_clear]
      exact Ends.ok ⟨stuck.isOpen, stuck.enrolls, stuck.noResult, stuck.noScan, stuck.inactive,
        Or.inr afterMode⟩
  | rests _ _ rests => cases rests
  | waits _ _ waits => cases waits
  | refused _ _ waits code generic msg =>
      rw [handleSessionEvents_error env engine _ _ (isError_errorEvents code _ msg),
        handleSessionError_generic _ _ generic (isError_errorEvents code _ msg)]
      obtain ⟨print, current⟩ := stuck.enrolls
      have action : fpiDeviceGetCurrentAction dev = .enroll := by
        unfold fpiDeviceGetCurrentAction
        rw [current]
        rfl
      obtain ⟨lastUi, lost⟩ := sessionError_lost (gxfpClass env engine)
        (cancelScheduledPump
          { dev with
            image := { dev.image with state := .awaitFingerOn }
            driver :=
              { dev.driver with
                sess := (sessionStep env engine dev.driver.sess
                  (.changeState .awaitFingerOn)).1 }
            ui := ui })
        stuck.inactive FpiImageDeviceState.noConfusion
        (fun impossible => FpiDeviceAction.noConfusion (action.symm.trans impossible))
        (sessionEventError (errorEvents code _ msg))
      rw [lost]
      exact Ends.ok ⟨stuck.isOpen, stuck.enrolls, stuck.noResult, stuck.noScan, stuck.inactive,
        Or.inr afterMode⟩
  | woken wakes => cases wakes

/-- The end of the stage of an inactive device. -/
theorem Stuck.enrollProgressed {dev : FpiDeviceGxfp cv E} (stuck : Stuck dev)
    (unscanned : dev.image.minutiaeScanActive = false)
    (noFinger : dev.image.fingerPresent = false)
    (stages : dev.image.enrollStage < DEFAULT_ENROLL_SAMPLES)
    (fails : (sessionStep env engine dev.driver.sess
      (.changeState .awaitFingerOn)).1.HasMode .failed)
    (print : Option (FpPrint cv)) (error : Option GError) :
    Ends (enrollProgressed (gxfpClass env engine) dev print error) Stuck := by
  obtain ⟨ui, noted⟩ := fpiDeviceEnrollProgress_eq dev dev.image.enrollStage print error
  unfold Fprint.enrollProgressed
  rw [noted]
  dsimp only
  rw [if_neg, fpImageDeviceEnrollMaybeAwaitFingerOn, if_neg]
  · exact (stuck.noted ui).awaitFingerOn fails
  · rintro (scanning | finger)
    · rw [unscanned] at scanning
      cases scanning
    · rw [noFinger] at finger
      cases finger
  · exact stages.ne

/-- A print or a retry ends the stage of an inactive device. -/
theorem Stuck.printDetected {dev : FpiDeviceGxfp cv E} (stuck : Stuck dev) {template : FpPrint cv}
    (pending : Pending (gxfpClass env engine) sigfm (.enroll template) dev.image.enrollStage
      dev.priv)
    (unscanned : dev.image.minutiaeScanActive = false)
    (noFinger : dev.image.fingerPresent = false)
    (stages : dev.image.enrollStage + 1 < DEFAULT_ENROLL_SAMPLES)
    (fails : (sessionStep env engine dev.driver.sess
      (.changeState .awaitFingerOn)).1.HasMode .failed)
    {print : Option (FpPrint cv)} {error : Option GError} (found : Found sigfm print error) :
    Ends (printDetected (gxfpClass env engine) sigfm dev print error) Stuck := by
  obtain ⟨task, current, develops⟩ := pending.develops
  unfold Fprint.printDetected
  rw [current]
  cases develops with
  | enroll infos scanned isStage extended =>
      unfold enrollDetected
      cases found with
      | @print info isScanned =>
          rw [extended]
          dsimp only
          rw [fpiPrintAddPrint_extendedPrint]
          have next : Stuck
              { dev with
                priv :=
                  { dev.priv with
                    currentTask := some (.enroll (extendedPrint template (infos ++ [info]))) }
                image := { dev.image with enrollStage := dev.image.enrollStage + 1 } } :=
            ⟨stuck.isOpen, ⟨_, rfl⟩, stuck.noResult, stuck.noScan, stuck.inactive, stuck.resting⟩
          exact next.enrollProgressed unscanned noFinger stages fails _ none
      | retry isRetry =>
          exact stuck.enrollProgressed unscanned noFinger (Nat.lt_of_succ_lt stages) fails none _

/-- A late scan before the last stage leaves the device stuck if the session cannot
wait for a finger. -/
theorem LateScan.stuck {template : FpPrint cv} {self : FpiDeviceGxfp cv E}
    (holds : Holds env engine sigfm (some (.enroll template)) self) {index : Nat}
    (late : LateScan self (.scanDone index))
    (stages : self.image.enrollStage + 1 < DEFAULT_ENROLL_SAMPLES)
    (fails : (sessionStep env engine self.driver.sess
      (.changeState .awaitFingerOn)).1.HasMode .failed) :
    Ends (deviceInput env engine sigfm self (.scanDone index)) fun out =>
      Stuck out.2.2 := by
  obtain ⟨_, scan, isIndex, isScan, -, inactive, notCancelled⟩ := late
  cases isIndex
  obtain ⟨request, isRequest, delivered, ended⟩ := scanOver_of_shape holds.shape isScan
  cases isRequest
  have notActive (active : self.image.active = true) : False := by
    rw [inactive] at active
    cases active
  cases ended with
  | waits active => exact (notActive active.active).elim
  | idle active => exact (notActive active.active).elim
  | inactive _ unscanned noFinger _ pending resting =>
      obtain ⟨task, current, develops⟩ := pending.develops
      have enrolls : ∃ print, self.priv.currentTask = some (.enroll print) := by
        cases develops with
        | enroll => exact ⟨_, current⟩
      have notCapture : task.action ≠ .capture := by
        rw [develops.action.1]
        exact FpiDeviceAction.noConfusion
      obtain ⟨image, error, ui, -, extracted, goesOn⟩ :=
        minutiaeDetected_extracted self index delivered notCancelled
      have stuck : Stuck
          { self with
            image := { self.image with minutiaeScanActive := false }
            scans := self.scans.eraseIdx index
            ui := ui } :=
        ⟨pending.isOpen, enrolls, pending.notReturned, unscanned.2, inactive, resting⟩
      obtain ⟨print, reported, found, detected⟩ :=
        scanDetected_found
          { self with
            image := { self.image with minutiaeScanActive := false }
            scans := self.scans.eraseIdx index
            ui := ui } current notCapture extracted
      have ends := stuck.printDetected pending rfl noFinger stages fails found
      unfold deviceInput
      dsimp only
      rw [isScan]
      dsimp only
      rw [goesOn, detected]
      exact ends.bind fun next still => Ends.pure still

variable (env engine sigfm) in
/-- An enrolment whose session has failed while a scan was running is lost when
that scan ends: if the session fails again when the device is to wait for the next
finger, nothing is ever returned and every request is refused. -/
theorem late_scan_is_stuck (template : FpPrint cv) (self : FpiDeviceGxfp cv E)
    (holds : Holds env engine sigfm (some (.enroll template)) self) (index : Nat)
    (late : LateScan self (.scanDone index))
    (stages : self.image.enrollStage + 1 < DEFAULT_ENROLL_SAMPLES)
    (fails : (sessionStep env engine self.driver.sess
      (.changeState .awaitFingerOn)).1.HasMode .failed)
    (inputs : List (Input cv)) :
    ∀ transition ∈ transitions (deviceStep env engine sigfm)
        (deviceStep env engine sigfm (.ok self) (.scanDone index)).1 inputs,
      Idles transition := by
  have ends : Ends (deviceInput env engine sigfm self (.scanDone index)) fun out =>
      Stuck out.2.2 := LateScan.stuck holds late stages fails
  obtain ⟨out, stepped, stuck⟩ := ends
  have result : (deviceStep env engine sigfm (.ok self) (.scanDone index)).1 =
      .ok { out.2.2 with ui := { out.2.2.ui with notes := [] } } := by
    unfold deviceStep
    dsimp only
    rw [stepped]
  rw [result]
  exact (stuck.noted _).run inputs

end Stuck

/-! ## An unplugged device -/

/-- A session that has been opened. -/
def openedSession : SessionRun Channel :=
  final (sessionStep unpluggedEnv (channelEngine clearCipher)) ⟨none, ⟨0, []⟩⟩
    [.init, .openPath "/dev/gxfp" (List.replicate PSK_LEN 0) 0]

theorem openedSession_ready : openedSession.InMode .ready := by
  have mode : openedSession.session.map SessionImpl.mode = some .ready := by
    decide +kernel
  obtain ⟨impl, present, isReady⟩ := Option.map_eq_some_iff.mp mode
  refine ⟨⟨impl, present, isReady⟩, ?_⟩
  have initially : SessionRun.Definite (⟨none, ⟨0, []⟩⟩ : SessionRun Channel) := by
    intro _ impl impossible
    cases impossible
  exact sessionStep_definite unpluggedEnv (channelEngine clearCipher)
    (sessionStep_definite unpluggedEnv (channelEngine clearCipher) initially _) _

/-- An empty print. -/
def emptyTemplate : FpPrint opencv4 :=
  fpPrintNew "gxfp" FP_DEVICE_ID false

/-- The first stage of an enrolment: the session has failed and been deactivated
while the first image was being scanned. -/
def scanningDevice : FpiDeviceGxfp opencv4 Channel where
  priv :=
    ⟨true, some (.enroll (fpiPrintSetType emptyTemplate .sigfm)), some 1, true, none, false, [], 2,
      []⟩
  image := ⟨.inactive, false, false, 0, true, some (fpiDeviceErrorNew .general), none⟩
  scans := [⟨capturedImage ⟨List.replicate 864 0, 54, 16⟩, some 1⟩]
  driver := ⟨openedSession, none, some "/dev/gxfp", some DEFAULT_PSK_PATH⟩
  ui := ⟨⟨false, false⟩, []⟩

theorem scanningDevice_holds :
    Holds unpluggedEnv (channelEngine clearCipher) gridSigfm (some (.enroll emptyTemplate))
      scanningDevice := by
  have pending : Pending (gxfpClass unpluggedEnv (channelEngine clearCipher)) gridSigfm
      (.enroll emptyTemplate) 0 scanningDevice.priv := by
    refine ⟨rfl, ⟨_, rfl, .enroll [] ?_ rfl rfl⟩, rfl, ?_⟩
    · intro info member
      cases member
    · intro impossible
      cases impossible
  have taken : Taken scanningDevice.image := by
    intro image impossible
    cases impossible
  have resting : Resting scanningDevice.driver.sess := Or.inl openedSession_ready
  exact ⟨.waiting rfl rfl ⟨rfl, _, rfl, _, rfl⟩ taken pending resting, fun _ => resting.armed⟩

theorem scanningDevice_late : LateScan scanningDevice (.scanDone 0) :=
  ⟨0, _, rfl, rfl, rfl, rfl, rfl⟩

/-- The timer, a cancellation and a request to close do not help. -/
theorem late_scan_is_stuck_unplugged :
    LateScan scanningDevice (.scanDone 0) ∧
      ∀ transition ∈ transitions (deviceStep unpluggedEnv (channelEngine clearCipher) gridSigfm)
          (deviceStep unpluggedEnv (channelEngine clearCipher) gridSigfm (.ok scanningDevice)
            (.scanDone 0)).1
          [.timeout 0, .cancel, .idleCancel, .idleReturn, .closeDevice],
        Idles transition := by
  have mode : (sessionStep unpluggedEnv (channelEngine clearCipher) openedSession
      (.changeState .awaitFingerOn)).1.session.map SessionImpl.mode = some .failed := by
    decide +kernel
  obtain ⟨impl, present, isFailed⟩ := Option.map_eq_some_iff.mp mode
  exact ⟨scanningDevice_late, late_scan_is_stuck unpluggedEnv (channelEngine clearCipher) gridSigfm
    emptyTemplate scanningDevice scanningDevice_holds 0 scanningDevice_late (by decide)
    ⟨impl, present, isFailed⟩ _⟩

end Gxfp.Fprint
