import Gxfp.Fprint.DriverInputs

/-!
# The end of a scan

A captured image is scanned in a thread of its own, and the scan ends while the
device waits for the finger to leave, is idle, or has been deactivated.  What was
found goes into the task before the state machine goes on.

An enrolment that has been deactivated by an error of the session does not expect
the scan that is still running: its end would start the next stage on a device
that is not active.  `LateScan` names that step.
-/

namespace Gxfp.Fprint

open Lib.Outcome
open Gxfp.User

section Scans

variable {cv : OpenCv} {E α : Type} {env : Env} {engine : TlsEngine E}
  {sigfm : SigfmLibrary cv α}

/-! ## Devices whose scan is over -/

variable (env engine sigfm) in
/-- Where a device is when its scan ends. -/
inductive ScanOver (request : Task cv) (dev : FpiDeviceGxfp cv E) : Prop
  | waits (active : Active (gxfpClass env engine) sigfm request .waitFingerOff (core dev))
      (unscanned : Unscanned dev.image dev.scans) (state : dev.image.state = .awaitFingerOff)
      (finger : dev.image.fingerPresent = true)
  | idle (active : Active (gxfpClass env engine) sigfm request .idle (core dev))
      (unscanned : Unscanned dev.image dev.scans) (state : dev.image.state = .idle)
      (noFinger : dev.image.fingerPresent = false) (enrolls : request.action = .enroll)
  | inactive (inactive : dev.image.active = false) (unscanned : Unscanned dev.image dev.scans)
      (noFinger : dev.image.fingerPresent = false) (taken : Taken dev.image)
      (pending : Pending (gxfpClass env engine) sigfm request dev.image.enrollStage dev.priv)
      (resting : Resting dev.driver.sess)

theorem ScanOver.pending {request : Task cv} {dev : FpiDeviceGxfp cv E}
    (ended : ScanOver env engine sigfm request dev) :
    Pending (gxfpClass env engine) sigfm request dev.image.enrollStage dev.priv := by
  cases ended with
  | waits active => exact active.pending
  | idle active => exact active.pending
  | inactive _ _ _ _ pending => exact pending

theorem ScanOver.taken {request : Task cv} {dev : FpiDeviceGxfp cv E}
    (ended : ScanOver env engine sigfm request dev) : Taken dev.image := by
  cases ended with
  | waits active => exact active.taken
  | idle active => exact active.taken
  | inactive _ _ _ taken => exact taken

/-- A change of the task, of the error and of the captured image leaves the device
where it is. -/
theorem ScanOver.change {request : Task cv} {dev : FpiDeviceGxfp cv E}
    (ended : ScanOver env engine sigfm request dev) {priv : FpDevicePrivate cv}
    {image : FpImageDevicePrivate cv} (ui : Ui cv)
    (pending : Pending (gxfpClass env engine) sigfm request image.enrollStage priv)
    (taken : Taken image)
    (same : image =
      { dev.image with
        enrollStage := image.enrollStage
        actionError := image.actionError
        captureImage := image.captureImage }) :
    ScanOver env engine sigfm request { dev with priv := priv, image := image, ui := ui } := by
  have state : image.state = dev.image.state := by rw [same]
  have active : image.active = dev.image.active := by rw [same]
  have finger : image.fingerPresent = dev.image.fingerPresent := by rw [same]
  have unscanned (isUnscanned : Unscanned dev.image dev.scans) : Unscanned image dev.scans := by
    refine ⟨?_, isUnscanned.2⟩
    rw [same]
    exact isUnscanned.1
  cases ended with
  | waits isActive isUnscanned isState isFinger =>
      exact .waits ⟨pending, active.trans isActive.active, Or.inr (unscanned isUnscanned), taken,
        isActive.inMode, isActive.isOpen⟩ (unscanned isUnscanned) (state.trans isState)
        (finger.trans isFinger)
  | idle isActive isUnscanned isState noFinger enrolls =>
      exact .idle ⟨pending, active.trans isActive.active, Or.inr (unscanned isUnscanned), taken,
        isActive.inMode, isActive.isOpen⟩ (unscanned isUnscanned) (state.trans isState)
        (finger.trans noFinger) enrolls
  | inactive isInactive isUnscanned noFinger _ _ resting =>
      exact .inactive (active.trans isInactive) (unscanned isUnscanned) (finger.trans noFinger)
        taken pending resting

/-- A device that stays where it is has a shape. -/
theorem ScanOver.holds {request : Task cv} (dev : FpiDeviceGxfp cv E)
    (active : Active (gxfpClass env engine) sigfm request .waitFingerOff (core dev))
    (unscanned : Unscanned dev.image dev.scans) (state : dev.image.state = .awaitFingerOff)
    (finger : dev.image.fingerPresent = true)
    (armed : ImageWritesDefinite dev.driver.sess.io.trace → Armed dev) :
    Holds env engine sigfm (some request) dev := by
  refine ⟨.working active ?_, armed⟩
  change Link _ dev.image.state _ dev.image.fingerPresent dev.image.minutiaeScanActive
  rw [state, finger, unscanned.1]
  exact .awaitFingerOff false

/-- A device that is to complete its action stays as it is as long as it is
active. -/
theorem maybeComplete_active (self : FpiDeviceGxfp cv E) (active : self.image.active = true)
    (error : Option GError) :
    ∃ first ui, fpImageDeviceMaybeCompleteAction self error =
      .ok { self with image := { self.image with actionError := first }, ui := ui } ∧
      (first = none → error = none ∧ self.image.actionError = none) := by
  obtain ⟨first, ui, kept, keptNone⟩ := keepFirstError_eq self error
  refine ⟨first, ui, ?_, keptNone⟩
  unfold fpImageDeviceMaybeCompleteAction
  rw [kept]
  dsimp only
  rw [if_pos (Or.inl active)]
  rfl

/-- The end of the action of a device that has been deactivated. -/
theorem maybeComplete_inactive {self : FpiDeviceGxfp cv E} {request : Task cv}
    (inactive : self.image.active = false) (unscanned : Unscanned self.image self.scans)
    (noFinger : self.image.fingerPresent = false) (taken : Taken self.image)
    (pending : Pending (gxfpClass env engine) sigfm request self.image.enrollStage self.priv)
    (resting : Resting self.driver.sess) (error : Option GError)
    (due : error = none → Due DEFAULT_ENROLL_SAMPLES request self.priv self.image) :
    Ends (fpImageDeviceMaybeCompleteAction self error) fun after =>
      Holds env engine sigfm (some request) after ∧ after.image.active = false := by
  apply (maybeComplete_awaits self inactive pending (Or.inr unscanned) taken error
    fun noError _ => due noError).mono
  rintro after ⟨⟨priv, actionError, captureImage, ui, rfl⟩, stillTaken, awaits⟩
  refine ⟨?_, inactive⟩
  rcases awaits with ⟨scans, -⟩ | ⟨stillUnscanned, noError, isOpen, finished⟩
  · have scanning := unscanned.1
    rw [show self.image.minutiaeScanActive = true from scans.1] at scanning
    cases scanning
  · exact ⟨.returning pending.capturing isOpen finished
      ⟨inactive, noFinger, stillUnscanned, noError, stillTaken⟩ resting, fun _ => resting.armed⟩

/-- An action other than an enrolment completes, or stays active. -/
theorem maybeComplete_over {self : FpiDeviceGxfp cv E} {request : Task cv}
    (ended : ScanOver env engine sigfm request self) (notEnroll : request.action ≠ .enroll)
    (armed : ImageWritesDefinite self.driver.sess.io.trace → Armed self)
    (error : Option GError) :
    Ends (fpImageDeviceMaybeCompleteAction self error)
      (Holds env engine sigfm (some request)) := by
  cases ended with
  | waits active unscanned state finger =>
      obtain ⟨first, ui, completed, -⟩ := maybeComplete_active self active.active error
      rw [completed]
      exact Ends.ok (ScanOver.holds
        { self with image := { self.image with actionError := first }, ui := ui }
        ⟨active.pending, active.active, active.scans, active.taken, active.inMode, active.isOpen⟩
        unscanned state finger armed)
  | idle _ _ _ _ enrolls => exact absurd enrolls notEnroll
  | inactive inactive unscanned noFinger taken pending resting =>
      apply (maybeComplete_inactive inactive unscanned noFinger taken pending resting error
        fun _ enrolls => absurd enrolls notEnroll).mono
      rintro after ⟨holds, -⟩
      exact holds

/-- An error ends the action wherever the device is. -/
theorem abort_over {self : FpiDeviceGxfp cv E} {request : Task cv}
    (ended : ScanOver env engine sigfm request self) (error : GError) :
    Ends (fpImageDeviceMaybeCompleteAction self (some error) >>= fun dev =>
        fpiImageDeviceDeactivate (gxfpClass env engine) dev true)
      (Holds env engine sigfm (some request)) := by
  have aborts {mode : SessionMode}
      (active : Active (gxfpClass env engine) sigfm request mode (core self))
      (state : self.image.state ≠ .deactivating) :
      Ends (fpImageDeviceMaybeCompleteAction self (some error) >>= fun dev =>
          fpiImageDeviceDeactivate (gxfpClass env engine) dev true)
        (Holds env engine sigfm (some request)) := by
    obtain ⟨first, ui, completed, firstNone⟩ := maybeComplete_active self active.active (some error)
    rw [completed]
    apply (deactivate_settles env engine
      { self with image := { self.image with actionError := first }, ui := ui }
      ⟨active.pending, active.active, active.scans, active.taken, active.inMode, active.isOpen⟩
      state (fun _ => Or.inl fun isNone => by cases (firstNone isNone).1) true).mono
    intro after settled
    exact settled.holds
  cases ended with
  | waits active unscanned state finger =>
      apply aborts active
      rw [state]
      exact FpiImageDeviceState.noConfusion
  | idle active unscanned state noFinger enrolls =>
      apply aborts active
      rw [state]
      exact FpiImageDeviceState.noConfusion
  | inactive inactive unscanned noFinger taken pending resting =>
      apply (maybeComplete_inactive inactive unscanned noFinger taken pending resting (some error)
        fun impossible => by cases impossible).bind
      rintro after ⟨holds, stillInactive⟩
      unfold fpiImageDeviceDeactivate
      rw [if_pos (Or.inl stillInactive)]
      exact Ends.pure holds

/-! ## What was found -/

variable (sigfm) in
/-- What a scan has found: a print of one of the driver's images, or an error
that asks for a retry. -/
inductive Found : Option (FpPrint cv) → Option GError → Prop
  | print {info : SigfmImgInfo cv} (scanned : Scanned sigfm Delivered info) :
      Found (some (scannedPrint "gxfp" info)) none
  | retry {error : GError} (isRetry : error.isRetry = true) : Found none (some error)

theorem fpiDeviceEnrollProgress_eq (self : FpiDeviceGxfp cv E) (completedStages : Nat)
    (print : Option (FpPrint cv)) (error : Option GError) :
    ∃ ui, fpiDeviceEnrollProgress self completedStages print error = { self with ui := ui } := by
  unfold fpiDeviceEnrollProgress
  split
  · exact ⟨_, rfl⟩
  · cases error with
    | none => exact ⟨_, rfl⟩
    | some error =>
        cases print with
        | none =>
            dsimp only
            split
            · exact ⟨_, rfl⟩
            · exact ⟨_, rfl⟩
        | some print =>
            dsimp only
            split
            · exact ⟨_, rfl⟩
            · exact ⟨_, rfl⟩

/-- The end of a stage: the enrolment is complete, or goes on when the finger has
left. -/
theorem enrollProgressed_holds (self : FpiDeviceGxfp cv E) {template : FpPrint cv}
    (ended : ScanOver env engine sigfm (.enroll template) self)
    (expected : self.image.active = true)
    (armed : ImageWritesDefinite self.driver.sess.io.trace → Armed self)
    (print : Option (FpPrint cv)) (error : Option GError) :
    Ends (enrollProgressed (gxfpClass env engine) self print error)
      (Holds env engine sigfm (some (.enroll template))) := by
  obtain ⟨ui, noted⟩ := fpiDeviceEnrollProgress_eq self self.image.enrollStage print error
  have ends {mode : SessionMode}
      (active : Active (gxfpClass env engine) sigfm (.enroll template) mode (core self))
      (state : self.image.state ≠ .deactivating)
      (stages : self.image.enrollStage = DEFAULT_ENROLL_SAMPLES) :
      Ends (fpImageDeviceMaybeCompleteAction { self with ui := ui } error >>= fun dev =>
          fpiImageDeviceDeactivate (gxfpClass env engine) dev false)
        (Holds env engine sigfm (some (.enroll template))) := by
    obtain ⟨first, lastUi, completed, -⟩ :=
      maybeComplete_active { self with ui := ui } expected error
    rw [completed]
    apply (deactivate_settles env engine
      { self with image := { self.image with actionError := first }, ui := lastUi }
      ⟨active.pending, active.active, active.scans, active.taken, active.inMode, active.isOpen⟩
      state (fun _ => Or.inr (Or.inr stages)) false).mono
    intro after settled
    exact settled.holds
  unfold enrollProgressed
  dsimp only
  rw [noted]
  cases ended with
  | waits active unscanned state finger =>
      split
      · rename_i stages
        apply ends active _ stages
        rw [state]
        exact FpiImageDeviceState.noConfusion
      · unfold fpImageDeviceEnrollMaybeAwaitFingerOn
        rw [if_pos (Or.inr finger)]
        exact Ends.pure (ScanOver.holds { self with ui := ui } active unscanned state finger armed)
  | idle active unscanned state noFinger enrolls =>
      split
      · rename_i stages
        apply ends active _ stages
        rw [state]
        exact FpiImageDeviceState.noConfusion
      · exact maybeAwaitFingerOn_holds { self with ui := ui } active state noFinger enrolls
  | inactive inactive =>
      rw [expected] at inactive
      cases inactive

/-- The stage of an enrolment that a scan ends. -/
theorem enrollDetected_holds {self : FpiDeviceGxfp cv E} {template enrollPrint : FpPrint cv}
    (ended : ScanOver env engine sigfm (.enroll template) self)
    (current : self.priv.currentTask = some (.enroll enrollPrint))
    (expected : self.image.active = true)
    (armed : ImageWritesDefinite self.driver.sess.io.trace → Armed self)
    {print : Option (FpPrint cv)} {error : Option GError} (found : Found sigfm print error) :
    Ends (enrollDetected (gxfpClass env engine) self enrollPrint print error)
      (Holds env engine sigfm (some (.enroll template))) := by
  obtain ⟨task, isTask, develops⟩ := ended.pending.develops
  rw [current] at isTask
  cases isTask
  unfold enrollDetected
  cases found with
  | @print info scanned =>
      cases develops with
      | enroll infos allScanned stages extended =>
          rw [extended]
          dsimp only
          rw [fpiPrintAddPrint_extendedPrint]
          refine enrollProgressed_holds
            { self with
              priv :=
                { self.priv with
                  currentTask := some (.enroll (extendedPrint template (infos ++ [info]))) }
              image := { self.image with enrollStage := self.image.enrollStage + 1 } }
            (ended.change self.ui ?_ ended.taken rfl) expected armed _ _
          refine ⟨ended.pending.isOpen, ⟨_, rfl, .enroll (infos ++ [info]) ?_ ?_ rfl⟩,
            ended.pending.notReturned, ended.pending.cancels⟩
          · intro other member
            rcases List.mem_append.mp member with earlier | last
            · exact allScanned other earlier
            · rw [List.mem_singleton.mp last]
              exact scanned
          · rw [List.length_append, stages]
            rfl
  | retry isRetry => exact enrollProgressed_holds self ended expected armed none (some _)

theorem verifyDetected_holds {self : FpiDeviceGxfp cv E} {enrolled : FpPrint cv}
    {start data : FpMatchData cv}
    (ended : ScanOver env engine sigfm (.verify enrolled start) self)
    (current : self.priv.currentTask = some (.verify enrolled data))
    (armed : ImageWritesDefinite self.driver.sess.io.trace → Armed self)
    {print : Option (FpPrint cv)} {error : Option GError} (found : Found sigfm print error) :
    Ends (verifyDetected (gxfpClass env engine) sigfm self enrolled print error)
      (Holds env engine sigfm (some (.verify enrolled start))) := by
  have notEnroll : (Task.verify enrolled start).action ≠ .enroll := FpiDeviceAction.noConfusion
  have borneOut : VerifyData (gxfpClass env engine) sigfm Delivered enrolled data := by
    obtain ⟨task, isTask, develops⟩ := ended.pending.develops
    rw [current] at isTask
    cases isTask
    cases develops with
    | verify borneOut => exact borneOut
  -- A report puts the result into the task and leaves the device where it is.
  have reports (result : FpiMatchResult) (error : Option GError)
      (matched : error = none → result ≠ .error → ∃ info, Scanned sigfm Delivered info ∧
        matchPrint (gxfpClass env engine) sigfm enrolled (scannedPrint "gxfp" info) =
          .ok (result, none)) :
      Ends (fpImageDeviceMaybeCompleteAction (fpiDeviceVerifyReport self result print error) none)
        (Holds env engine sigfm (some (.verify enrolled start))) := by
    obtain ⟨next, ⟨ui, goesOn⟩, nextBorneOut⟩ :=
      fpiDeviceVerifyReport_develops current borneOut result print error matched
    rw [goesOn]
    refine maybeComplete_over (ended.change ui ?_ ended.taken rfl) notEnroll armed none
    exact ⟨ended.pending.isOpen, ⟨_, rfl, .verify nextBorneOut⟩, ended.pending.notReturned,
      ended.pending.cancels⟩
  unfold verifyDetected
  cases found with
  | @print info scanned =>
      obtain ⟨⟨result, error⟩, isMatch, clean⟩ :=
        matchPrint_ends (gxfpClass env engine) sigfm enrolled info
      change Ends (matchPrint (gxfpClass env engine) sigfm enrolled
        (scannedPrint "gxfp" info) >>= _) _
      rw [show matchPrint (gxfpClass env engine) sigfm enrolled (scannedPrint "gxfp" info) = _ from
        isMatch]
      rcases clean with ⟨isResult, noError⟩ | ⟨failure, notRetry, isError⟩
      · dsimp only at isResult noError
        subst noError
        exact reports result none fun _ _ => ⟨info, scanned, isMatch⟩
      · cases isError
        change Ends (if failure.isRetry = true then _ else _) _
        rw [if_neg (by rw [notRetry]; exact Bool.false_ne_true)]
        exact maybeComplete_over ended notEnroll armed (some failure)
  | @retry failure isRetry =>
      change Ends (if failure.isRetry = true then _ else _) _
      rw [if_pos isRetry]
      exact reports .error (some failure) fun impossible => by cases impossible

theorem identifyDetected_holds {self : FpiDeviceGxfp cv E} {gallery : List (FpPrint cv)}
    {start data : FpMatchData cv}
    (ended : ScanOver env engine sigfm (.identify gallery start) self)
    (current : self.priv.currentTask = some (.identify gallery data))
    (armed : ImageWritesDefinite self.driver.sess.io.trace → Armed self)
    {print : Option (FpPrint cv)} {error : Option GError} (found : Found sigfm print error) :
    Ends (identifyDetected (gxfpClass env engine) sigfm self gallery print error)
      (Holds env engine sigfm (some (.identify gallery start))) := by
  have notEnroll : (Task.identify gallery start).action ≠ .enroll := FpiDeviceAction.noConfusion
  have borneOut : IdentifyData (gxfpClass env engine) sigfm Delivered gallery data := by
    obtain ⟨task, isTask, develops⟩ := ended.pending.develops
    rw [current] at isTask
    cases isTask
    cases develops with
    | identify borneOut => exact borneOut
  have reports (index : Option Nat) (error : Option GError)
      (identified : error = none → ∃ info, Scanned sigfm Delivered info ∧
        Identified (gxfpClass env engine) sigfm gallery (scannedPrint "gxfp" info)
          (index.bind fun place => gallery[place]?)) :
      Ends (fpImageDeviceMaybeCompleteAction (fpiDeviceIdentifyReport self index print error) none)
        (Holds env engine sigfm (some (.identify gallery start))) := by
    obtain ⟨next, ⟨ui, goesOn⟩, nextBorneOut⟩ :=
      fpiDeviceIdentifyReport_develops current borneOut index print error identified
    rw [goesOn]
    refine maybeComplete_over (ended.change ui ?_ ended.taken rfl) notEnroll armed none
    exact ⟨ended.pending.isOpen, ⟨_, rfl, .identify nextBorneOut⟩, ended.pending.notReturned,
      ended.pending.cancels⟩
  unfold identifyDetected
  cases found with
  | @print info scanned =>
      obtain ⟨⟨index, error⟩, looped, clean⟩ :=
        identifyLoop_ends (gxfpClass env engine) sigfm info [] gallery fun _ member => by
          cases member
      change Ends (identifyLoop (gxfpClass env engine) sigfm (scannedPrint "gxfp" info) 0
        gallery >>= _) _
      rw [show identifyLoop (gxfpClass env engine) sigfm (scannedPrint "gxfp" info) 0 gallery = _
        from looped]
      rcases clean with ⟨noError, identified⟩ | ⟨failure, notRetry, isError⟩
      · dsimp only at noError
        subst noError
        exact reports index none fun _ => ⟨info, scanned, identified⟩
      · cases isError
        change Ends (if failure.isRetry = true then _ else _) _
        rw [if_neg (by rw [notRetry]; exact Bool.false_ne_true)]
        exact maybeComplete_over ended notEnroll armed (some failure)
  | @retry failure isRetry =>
      change Ends (if failure.isRetry = true then _ else _) _
      rw [if_pos isRetry]
      exact reports none (some failure) fun impossible => by cases impossible

/-! ## The end of a scan -/

/-- A print or a retry goes to the task that is running. -/
theorem printDetected_holds {self : FpiDeviceGxfp cv E} {request : Task cv}
    (ended : ScanOver env engine sigfm request self)
    (expected : request.action = .enroll → self.image.active = true)
    (notCapture : request.action ≠ .capture)
    (armed : ImageWritesDefinite self.driver.sess.io.trace → Armed self)
    {print : Option (FpPrint cv)} {error : Option GError} (found : Found sigfm print error) :
    Ends (printDetected (gxfpClass env engine) sigfm self print error)
      (Holds env engine sigfm (some request)) := by
  obtain ⟨task, current, develops⟩ := ended.pending.develops
  unfold printDetected
  rw [current]
  cases develops with
  | enroll infos scanned stages extended =>
      exact enrollDetected_holds ended current (expected rfl) armed found
  | verify borneOut => exact verifyDetected_holds ended current armed found
  | identify borneOut => exact identifyDetected_holds ended current armed found
  | capture waitForFinger => exact absurd rfl notCapture

variable (sigfm) in
/-- What a scan that has not been cancelled leaves: an image with what was
extracted from it, or an error that asks for a retry. -/
def Extracted (image : FpImage cv) (error : Option GError) : Prop :=
  (error = none ∧ ∃ info, image.sigfmInfo = some info ∧ Scanned sigfm Delivered info) ∨
    ∃ failure, error = some failure ∧ failure.isRetry = true

/-- A task that needs a print gets it, or the request to retry. -/
theorem scanDetected_found (self : FpiDeviceGxfp cv E) {task : Task cv}
    (current : self.priv.currentTask = some task) (notCapture : task.action ≠ .capture)
    {image : FpImage cv} {error : Option GError} (extracted : Extracted sigfm image error) :
    ∃ print reported, Found sigfm print reported ∧
      scanDetected (gxfpClass env engine) sigfm self image error =
        printDetected (gxfpClass env engine) sigfm self print reported := by
  have goesOn (waitForFinger : Bool) : task ≠ .capture waitForFinger := by
    rintro rfl
    exact notCapture rfl
  rcases extracted with ⟨rfl, info, isInfo, scanned⟩ | ⟨failure, rfl, isRetry⟩
  · refine ⟨some (scannedPrint "gxfp" info), none, .print scanned, ?_⟩
    have added : fpiPrintAddFromImage
        (fpiPrintSetType (fpPrintNew "gxfp" FP_DEVICE_ID false : FpPrint cv) .sigfm) image =
          .ok (.ok (scannedPrint "gxfp" info)) := by
      unfold fpiPrintAddFromImage
      rw [isInfo]
      rfl
    unfold scanDetected
    rw [current]
    cases task with
    | capture waitForFinger => exact absurd rfl (goesOn waitForFinger)
    | _ =>
        change fpiPrintAddFromImage
          (fpiPrintSetType (fpPrintNew "gxfp" FP_DEVICE_ID false : FpPrint cv) .sigfm)
            image >>= _ = _
        rw [added]
        rfl
  · refine ⟨none, some failure, .retry isRetry, ?_⟩
    unfold scanDetected
    rw [current]
    cases task with
    | capture waitForFinger => exact absurd rfl (goesOn waitForFinger)
    | _ => rfl

/-- The image of a scan that has not been cancelled goes to the task. -/
theorem scanDetected_holds {self : FpiDeviceGxfp cv E} {request : Task cv}
    (ended : ScanOver env engine sigfm request self)
    (expected : request.action = .enroll → self.image.active = true)
    (armed : ImageWritesDefinite self.driver.sess.io.trace → Armed self) {image : FpImage cv}
    (delivered : Delivered ({ image with sigfmInfo := none } : FpImage cv))
    {error : Option GError} (extracted : Extracted sigfm image error) :
    Ends (scanDetected (gxfpClass env engine) sigfm self image error)
      (Holds env engine sigfm (some request)) := by
  obtain ⟨task, current, develops⟩ := ended.pending.develops
  by_cases captures : request.action = .capture
  · -- A captured image is kept until the action ends.
    have kept : Taken { self.image with captureImage := some image } := by
      intro taken isTaken
      cases isTaken
      exact delivered
    have keeps : ScanOver env engine sigfm request
        { self with image := { self.image with captureImage := some image } } :=
      ended.change self.ui ended.pending kept rfl
    unfold scanDetected
    rw [current]
    cases develops with
    | capture waitForFinger =>
        exact maybeComplete_over keeps FpiDeviceAction.noConfusion armed error
    | _ => cases captures
  · have notCapture : task.action ≠ .capture := by
      rw [develops.action.1]
      exact captures
    obtain ⟨print, reported, found, goesOn⟩ := scanDetected_found self current notCapture extracted
    rw [goesOn]
    exact printDetected_holds ended expected captures armed found

/-- A scan of an enrolment that ends, without being cancelled, on a device that is
not active any more. -/
def LateScan (self : FpiDeviceGxfp cv E) (input : Input cv) : Prop :=
  ∃ index scan, input = .scanDone index ∧ self.scans[index]? = some scan ∧
    fpiDeviceGetCurrentAction self = .enroll ∧ self.image.active = false ∧
    isCancelled self scan.cancellable = false

/-- The device whose scan has ended. -/
theorem scanOver_of_shape {pending : Option (Task cv)} {self : FpiDeviceGxfp cv E}
    (shape : Shape (gxfpClass env engine) sigfm pending (core self)) {index : Nat} {scan : Scan cv}
    (isScan : self.scans[index]? = some scan) :
    ∃ request, pending = some request ∧ Delivered scan.image ∧
      ScanOver env engine sigfm request
        { self with
          image := { self.image with minutiaeScanActive := false }
          scans := self.scans.eraseIdx index } := by
  have none_of (empty : self.scans = []) : False := by
    rw [empty] at isScan
    cases isScan
  have only (scans : Scans self.image self.scans) :
      self.scans.eraseIdx index = [] ∧ Delivered scan.image := by
    obtain ⟨-, other, isOther, delivered⟩ := scans
    rw [isOther] at isScan ⊢
    cases index with
    | zero =>
        cases isScan
        exact ⟨rfl, delivered⟩
    | succ index => cases isScan
  cases shape with
  | shut _ _ calm => exact (none_of calm.unscanned.2).elim
  | rests _ _ calm => exact (none_of calm.unscanned.2).elim
  | opening _ _ calm => exact (none_of calm.unscanned.2).elim
  | closing _ calm => exact (none_of calm.unscanned.2).elim
  | returning _ _ _ calm => exact (none_of calm.unscanned.2).elim
  | activating _ _ calm => exact (none_of calm.unscanned.2).elim
  | @working request mode _ active link =>
      rcases active.scans with scans | unscanned
      · obtain ⟨erased, delivered⟩ := only scans
        have ended : Unscanned { self.image with minutiaeScanActive := false }
            (self.scans.eraseIdx index) := ⟨rfl, erased⟩
        have scanning : self.image.minutiaeScanActive = true := scans.1
        refine ⟨request, rfl, delivered, ?_⟩
        change Link _ self.image.state mode self.image.fingerPresent
          self.image.minutiaeScanActive at link
        rcases link.states with ⟨-, -, noScan⟩ | ⟨-, -, -, noScan⟩ | ⟨rfl, state, finger⟩ |
          ⟨rfl, state, noFinger, enrolls⟩
        · rw [scanning] at noScan
          cases noScan
        · rw [scanning] at noScan
          cases noScan
        · exact .waits ⟨active.pending, active.active, Or.inr ended, active.taken, active.inMode,
            active.isOpen⟩ ended state finger
        · exact .idle ⟨active.pending, active.active, Or.inr ended, active.taken, active.inMode,
            active.isOpen⟩ ended state noFinger enrolls
      · exact (none_of unscanned.2).elim
  | @waiting request _ inactive noFinger scans taken isPending resting =>
      obtain ⟨erased, delivered⟩ := only scans
      exact ⟨request, rfl, delivered, .inactive inactive ⟨rfl, erased⟩ noFinger taken isPending
        resting⟩

/-- A scan that has not been cancelled goes to the task. -/
theorem minutiaeDetected_extracted (self : FpiDeviceGxfp cv E) (index : Nat) {scan : Scan cv}
    (delivered : Delivered scan.image) (goesOn : isCancelled self scan.cancellable = false) :
    ∃ image error ui,
      Delivered ({ image with sigfmInfo := none } : FpImage cv) ∧ Extracted sigfm image error ∧
      fpiImageDeviceMinutiaeDetected (gxfpClass env engine) sigfm
          { self with scans := self.scans.eraseIdx index } (fpImageSigfmExtract sigfm self scan).2
          (fpImageSigfmExtract sigfm self scan).1 =
        scanDetected (gxfpClass env engine) sigfm
          { self with
            image := { self.image with minutiaeScanActive := false }
            scans := self.scans.eraseIdx index
            ui := ui } image error := by
  have stripped (info : Option (SigfmImgInfo cv)) :
      Delivered ({ ({ scan.image with sigfmInfo := info } : FpImage cv) with
        sigfmInfo := none } : FpImage cv) := by
    obtain ⟨img, isImage⟩ := delivered
    refine ⟨img, ?_⟩
    rw [isImage]
    rfl
  unfold fpImageSigfmExtract
  dsimp only
  rw [goesOn, if_neg Bool.false_ne_true]
  split
  · exact ⟨scan.image, _, _, stripped scan.image.sigfmInfo, Or.inr ⟨_, rfl, rfl⟩, rfl⟩
  · rename_i enough
    exact ⟨_, none, self.ui, stripped (some (sigfm.extract scan.image)),
      Or.inl ⟨rfl, sigfm.extract scan.image, rfl, scan.image, delivered, rfl,
        Nat.le_of_not_lt enough⟩, rfl⟩

/-- A scan that is not late leaves the device with a shape. -/
theorem scanDone_holds {pending : Option (Task cv)} {self : FpiDeviceGxfp cv E}
    (holds : Holds env engine sigfm pending self) {index : Nat}
    (timely : ¬ LateScan self (.scanDone index)) {scan : Scan cv}
    (isScan : self.scans[index]? = some scan) :
    Ends (fpiImageDeviceMinutiaeDetected (gxfpClass env engine) sigfm
        { self with scans := self.scans.eraseIdx index } (fpImageSigfmExtract sigfm self scan).2
        (fpImageSigfmExtract sigfm self scan).1)
      (Holds env engine sigfm pending) := by
  obtain ⟨request, rfl, delivered, ended⟩ := scanOver_of_shape holds.shape isScan
  have action : fpiDeviceGetCurrentAction self = request.action :=
    currentAction_of_pending ended.pending
  by_cases cancelled : isCancelled self scan.cancellable = true
  · unfold fpImageSigfmExtract
    dsimp only
    rw [if_pos cancelled]
    exact abort_over ended cancelledError
  have expected : request.action = .enroll → self.image.active = true := by
    intro enrolls
    by_contra inactive
    exact timely ⟨index, scan, rfl, isScan, action.trans enrolls, Bool.eq_false_iff.mpr inactive,
      Bool.eq_false_iff.mpr cancelled⟩
  obtain ⟨image, error, ui, stripped, extracted, goesOn⟩ :=
    minutiaeDetected_extracted self index delivered (Bool.eq_false_iff.mpr cancelled)
  rw [goesOn]
  exact scanDetected_holds (ended.change ui ended.pending ended.taken rfl) expected holds.armed
    stripped extracted

end Scans

end Gxfp.Fprint
