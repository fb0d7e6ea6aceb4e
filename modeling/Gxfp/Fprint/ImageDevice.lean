import Gxfp.Fprint.Device

/-!
# Image devices

Embeds `libfprint/libfprint/fpi-image-device.c` and `fp-image-device.c` for
drivers that match with SIGFM: the state machine that activates a driver, waits
for a finger, captures and waits for the finger to leave, the scan of a captured
image in a thread of its own, and the end of the action.

The driver is a record of its virtual functions.  They run inside the functions
here and call back into them, so that a call may return into a device whose
action is over.  What is used of OpenCV is a parameter.
-/

namespace Gxfp.Fprint

open Lib.Bytes

/-! ## Parameters -/

/-- `FpImageDeviceClass`: the constants and the virtual functions of a driver,
without `img_open`. -/
structure FpImageDeviceClass (cv : OpenCv) (δ : Type) where
  id : String
  nrEnrollStages : Nat
  bz3Threshold : Int32
  imgClose : FpImageDevice cv δ → Except Halt (FpImageDevice cv δ)
  activate : FpImageDevice cv δ → Except Halt (FpImageDevice cv δ)
  deactivate : FpImageDevice cv δ → Except Halt (FpImageDevice cv δ)
  changeState : FpImageDevice cv δ → FpiImageDeviceState → Except Halt (FpImageDevice cv δ)

/-- What the library has of OpenCV. -/
structure SigfmLibrary (cv : OpenCv) (α : Type) where
  measure : Measure α
  matcher : Matcher cv
  /-- `sigfm_extract`. -/
  extract : FpImage cv → SigfmImgInfo cv

/-- `BOZORTH3_DEFAULT_THRESHOLD`. -/
def BOZORTH3_DEFAULT_THRESHOLD : Int32 := 40

/-- The device id that `fp_device_constructed` sets; an image device does not
probe. -/
def FP_DEVICE_ID : String := "0"

/-- The threshold that `fp_image_device_constructed` sets. -/
def FpImageDeviceClass.threshold {cv : OpenCv} {δ : Type} (cls : FpImageDeviceClass cv δ) :
    Int32 :=
  if cls.bz3Threshold > 0 then cls.bz3Threshold else BOZORTH3_DEFAULT_THRESHOLD

/-! ## States -/

namespace FpiImageDeviceState

/-- The name that `g_enum_to_string` gives a state. -/
def name : FpiImageDeviceState → String
  | .inactive => "FPI_IMAGE_DEVICE_STATE_INACTIVE"
  | .activating => "FPI_IMAGE_DEVICE_STATE_ACTIVATING"
  | .deactivating => "FPI_IMAGE_DEVICE_STATE_DEACTIVATING"
  | .idle => "FPI_IMAGE_DEVICE_STATE_IDLE"
  | .awaitFingerOn => "FPI_IMAGE_DEVICE_STATE_AWAIT_FINGER_ON"
  | .capture => "FPI_IMAGE_DEVICE_STATE_CAPTURE"
  | .awaitFingerOff => "FPI_IMAGE_DEVICE_STATE_AWAIT_FINGER_OFF"

/-- `valid_transitions`. -/
def validTransitions : List (FpiImageDeviceState × FpiImageDeviceState) :=
  [(.inactive, .activating),
    (.activating, .idle),
    (.activating, .inactive),
    (.idle, .awaitFingerOn),
    (.idle, .capture),
    (.idle, .deactivating),
    (.awaitFingerOn, .capture),
    (.awaitFingerOn, .deactivating),
    (.capture, .awaitFingerOff),
    (.capture, .idle),
    (.capture, .deactivating),
    (.awaitFingerOff, .idle),
    (.awaitFingerOff, .deactivating),
    (.deactivating, .inactive)]

end FpiImageDeviceState

section ImageDevice

variable {cv : OpenCv} {δ α : Type} (cls : FpImageDeviceClass cv δ) (sigfm : SigfmLibrary cv α)

/-- `fp_image_device_change_state`. -/
def fpImageDeviceChangeState (dev : FpImageDevice cv δ) (state : FpiImageDeviceState) :
    Except Halt (FpImageDevice cv δ) := do
  let valid := FpiImageDeviceState.validTransitions.contains (dev.image.state, state)
  let dev := warnIf dev (!valid)
    ("Internal state machine issue: transition from " ++ dev.image.state.name ++ " to " ++
      state.name ++ " should not happen!")
  let dev ← cls.changeState { dev with image := { dev.image with state := state } } state
  match state with
  | .awaitFingerOn =>
      pure (fpiDeviceReportFingerStatusChanges dev ⟨true, false⟩ ⟨false, false⟩)
  | .awaitFingerOff =>
      pure (fpiDeviceReportFingerStatusChanges dev ⟨false, false⟩ ⟨true, false⟩)
  | _ => pure dev

/-- `fpi_image_device_activate`. -/
def fpiImageDeviceActivate (dev : FpImageDevice cv δ) : Except Halt (FpImageDevice cv δ) := do
  if dev.image.active then
    throw (.assertion "!priv->active")
  let dev ← fpImageDeviceChangeState cls dev .activating
  cls.activate dev

/-- `fpi_image_device_deactivate`. -/
def fpiImageDeviceDeactivate (dev : FpImageDevice cv δ) (cancelling : Bool) :
    Except Halt (FpImageDevice cv δ) :=
  if dev.image.active = false ∨ dev.image.state = .deactivating then
    pure dev
  else do
    let dev := warnIf dev (!cancelling && dev.image.state ≠ .idle)
      "Deactivating image device while it is not idle, this should not happen."
    let dev ← fpImageDeviceChangeState cls dev .deactivating
    cls.deactivate dev

/-- `fp_image_device_enroll_maybe_await_finger_on`. -/
def fpImageDeviceEnrollMaybeAwaitFingerOn (dev : FpImageDevice cv δ) :
    Except Halt (FpImageDevice cv δ) :=
  if dev.image.minutiaeScanActive ∨ dev.image.fingerPresent then
    pure dev
  else
    fpImageDeviceChangeState cls dev .awaitFingerOn

/-! ## The end of an action -/

/-- The first part of `fp_image_device_maybe_complete_action`: the first error
is kept, but not if it is of type retry. -/
def keepFirstError (dev : FpImageDevice cv δ) : Option GError → FpImageDevice cv δ
  | none => dev
  | some error =>
      let replaced := { dev with image := { dev.image with actionError := some error } }
      match dev.image.actionError with
      | none => replaced
      | some first =>
          if first.isRetry then
            replaced
          else
            dev.warning ("Will complete with first error, new error was: " ++ error.message)

/-- The part that takes a cancelled task for an error. -/
def noticeCancellation (dev : FpImageDevice cv δ) : FpImageDevice cv δ :=
  match dev.image.actionError with
  | some _ => dev
  | none =>
      let cancellable := fpiDeviceGetCancellable dev
      if isCancelled cancellable.2 cancellable.1 then
        { cancellable.2 with
          image := { cancellable.2.image with actionError := some cancelledError } }
      else
        cancellable.2

/-- The part that reports the result. -/
def reportAction (dev : FpImageDevice cv δ) : Except Halt (FpImageDevice cv δ) :=
  match dev.image.actionError with
  | some error =>
      let dev := { dev with image := { dev.image with actionError := none } }
      let dev := fpiDeviceActionError dev error
      pure { dev with image := { dev.image with captureImage := none } }
  | none =>
      match dev.priv.currentTask with
      | some (.enroll print) => pure (fpiDeviceEnrollComplete dev (some print) none)
      | some (.verify _ _) => pure (fpiDeviceVerifyComplete dev none)
      | some (.identify _ _) => pure (fpiDeviceIdentifyComplete dev none)
      | some (.capture _) =>
          pure (fpiDeviceCaptureComplete
            { dev with image := { dev.image with captureImage := none } }
            dev.image.captureImage none)
      | _ => throw (.assertion "not reached")

/-- `fp_image_device_maybe_complete_action`. -/
def fpImageDeviceMaybeCompleteAction (dev : FpImageDevice cv δ) (error : Option GError) :
    Except Halt (FpImageDevice cv δ) :=
  let dev := keepFirstError dev error
  if dev.image.active ∨ dev.image.minutiaeScanActive then
    pure dev
  else
    reportAction (noticeCancellation dev)

/-! ## Reports of the driver -/

/-- The part of `fpi_image_device_report_finger_status` for an active device. -/
def fingerStatusReported (dev : FpImageDevice cv δ) (present : Bool) :
    Except Halt (FpImageDevice cv δ) := do
  let action := fpiDeviceGetCurrentAction dev
  if action = .opening then
    throw (.assertion "action != FPI_DEVICE_ACTION_OPEN")
  if action = .closing then
    throw (.assertion "action != FPI_DEVICE_ACTION_CLOSE")
  let dev := { dev with image := { dev.image with fingerPresent := present } }
  if present = true ∧ dev.image.state = .awaitFingerOn then
    fpImageDeviceChangeState cls dev .capture
  else if present = false ∧ dev.image.state = .awaitFingerOff then
    let dev ← fpImageDeviceChangeState cls dev .idle
    if action ≠ .enroll then
      fpiImageDeviceDeactivate cls dev false
    else
      fpImageDeviceEnrollMaybeAwaitFingerOn cls dev
  else
    pure dev

/-- `fpi_image_device_report_finger_status`. -/
def fpiImageDeviceReportFingerStatus (dev : FpImageDevice cv δ) (present : Bool) :
    Except Halt (FpImageDevice cv δ) :=
  let dev := fpiDeviceReportFingerStatusChanges dev ⟨false, present⟩ ⟨false, !present⟩
  if dev.image.state = .inactive then pure dev else fingerStatusReported cls dev present

/-- `fpi_image_device_image_captured`. -/
def fpiImageDeviceImageCaptured (dev : FpImageDevice cv δ) (image : FpImage cv) :
    Except Halt (FpImageDevice cv δ) :=
  if dev.image.state ≠ .capture then
    pure (dev.critical "priv->state == FPI_IMAGE_DEVICE_STATE_CAPTURE")
  else if !(fpiDeviceGetCurrentAction dev).isCapturing then
    pure (dev.critical "action == FPI_DEVICE_ACTION_ENROLL || …")
  else
    let dev := { dev with image := { dev.image with minutiaeScanActive := true } }
    let dev := { dev with scans := dev.scans ++ [⟨image, dev.priv.currentCancellable⟩] }
    fpImageDeviceChangeState cls dev .awaitFingerOff

/-- `fpi_image_device_activate_complete`. -/
def fpiImageDeviceActivateComplete (dev : FpImageDevice cv δ) (error : Option GError) :
    Except Halt (FpImageDevice cv δ) :=
  if dev.image.active then
    pure (dev.critical "priv->active == FALSE")
  else if dev.image.state ≠ .activating then
    pure (dev.critical "priv->state == FPI_IMAGE_DEVICE_STATE_ACTIVATING")
  else if !(fpiDeviceGetCurrentAction dev).isCapturing then
    pure (dev.critical "action == FPI_DEVICE_ACTION_ENROLL || …")
  else
    match error with
    | some error => pure (fpiDeviceActionError dev error)
    | none => do
        let dev := { dev with image := { dev.image with active := true } }
        let dev ← fpImageDeviceChangeState cls dev .idle
        fpImageDeviceChangeState cls dev .awaitFingerOn

/-- The end of `fpi_image_device_session_error`. -/
def abortSession (dev : FpImageDevice cv δ) (error : GError) :
    Except Halt (FpImageDevice cv δ) := do
  let dev := warnIf dev error.isRetry
    "Driver should report retries using fpi_image_device_retry_scan!"
  let dev ← fpImageDeviceMaybeCompleteAction dev (some error)
  fpiImageDeviceDeactivate cls dev true

/-- `fpi_image_device_session_error` with an error. -/
def fpiImageDeviceSessionError (dev : FpImageDevice cv δ) (error : GError) :
    Except Halt (FpImageDevice cv δ) :=
  if dev.image.active = false then
    let dev := dev.warning "Driver reported session error, but device is inactive."
    if fpiDeviceGetCurrentAction dev ≠ .none then
      fpiImageDeviceActivateComplete cls (dev.warning "Translating to activation failure!")
        (some error)
    else
      abortSession cls dev error
  else
    let cancelled :=
      if error.code = .io .cancelled then fpiDeviceActionIsCancelled dev else (false, dev)
    if cancelled.1 then
      pure cancelled.2
    else if cancelled.2.image.state = .inactive then
      pure (cancelled.2.warning
        ("Driver reported session error while deactivating already, ignoring. " ++
          "This indicates a driver bug."))
    else
      abortSession cls cancelled.2 error

/-- `fpi_image_device_deactivate_complete`. -/
def fpiImageDeviceDeactivateComplete (dev : FpImageDevice cv δ) (error : Option GError) :
    Except Halt (FpImageDevice cv δ) :=
  if dev.image.active = false then
    pure (dev.critical "priv->active == TRUE")
  else if dev.image.state ≠ .deactivating then
    pure (dev.critical "priv->state == FPI_IMAGE_DEVICE_STATE_DEACTIVATING")
  else do
    let dev := { dev with image := { dev.image with active := false, fingerPresent := false } }
    let dev ← fpImageDeviceChangeState cls dev .inactive
    fpImageDeviceMaybeCompleteAction dev error

/-- `fpi_image_device_open_complete`. -/
def fpiImageDeviceOpenComplete (dev : FpImageDevice cv δ) (error : Option GError) :
    FpImageDevice cv δ :=
  if dev.image.active then
    dev.critical "priv->active == FALSE"
  else if fpiDeviceGetCurrentAction dev ≠ .opening then
    dev.critical "action == FPI_DEVICE_ACTION_OPEN"
  else
    let dev := { dev with image := { dev.image with state := .inactive } }
    fpiDeviceOpenComplete (fpiDeviceReportFingerStatus dev ⟨false, false⟩) error

/-- `fpi_image_device_close_complete`. -/
def fpiImageDeviceCloseComplete (dev : FpImageDevice cv δ) (error : Option GError) :
    FpImageDevice cv δ :=
  if dev.image.active then
    dev.critical "priv->active == FALSE"
  else if fpiDeviceGetCurrentAction dev ≠ .closing then
    dev.critical "action == FPI_DEVICE_ACTION_CLOSE"
  else
    fpiDeviceCloseComplete { dev with image := { dev.image with state := .inactive } } error

/-! ## Scans -/

/-- `fp_image_sigfm_extract_thread_func` and `fp_image_sigfm_extract_cb`: the
image afterwards and what `fp_image_detect_minutiae_finish` returns. -/
def fpImageSigfmExtract (dev : FpImageDevice cv δ) (scan : Scan cv) :
    Option GError × FpImage cv :=
  let info := sigfm.extract scan.image
  if isCancelled dev scan.cancellable then
    (some cancelledError, scan.image)
  else if info.keypoints.length < 25 then
    (some ⟨.io .failed, "No enough keypoints found"⟩, scan.image)
  else
    (none, { scan.image with sigfmInfo := some info })

/-- `fpi_print_add_from_image` for a print of type SIGFM.  A null pointer is
taken for the failure it leads to. -/
def fpiPrintAddFromImage (print : FpPrint cv) (image : FpImage cv) :
    Except Halt (Except GError (FpPrint cv)) :=
  match print.prints, image.sigfmInfo with
  | .sigfm prints, some info =>
      pure (.ok { print with prints := .sigfm (prints ++ [info]) })
  | .sigfm _, none => throw (.failure .outOfBounds)
  | _, _ => pure (.error ⟨.io .invalidData, "Cannot add print data from image!"⟩)

/-- A call whose failure ends the process. -/
def orHalt {β : Type} : Except PrintFailure β → Except Halt β
  | .ok value => .ok value
  | .error cause => .error (.failure cause)

/-- `fpi_print_sigfm_match` with the threshold of the device. -/
def matchPrint (template print : FpPrint cv) : Except Halt (FpiMatchResult × Option GError) := do
  let out ← orHalt
    (fpiPrintSigfmMatch sigfm.measure sigfm.matcher template print cls.threshold)
  pure (out.result, out.error.map fun error => ⟨.device error.1.toCode, error.2⟩)

/-- The end of the enroll branch of `fpi_image_device_minutiae_detected`. -/
def enrollProgressed (dev : FpImageDevice cv δ) (print : Option (FpPrint cv))
    (error : Option GError) : Except Halt (FpImageDevice cv δ) := do
  let dev := fpiDeviceEnrollProgress dev dev.image.enrollStage print error
  if dev.image.enrollStage = cls.nrEnrollStages then
    let dev ← fpImageDeviceMaybeCompleteAction dev error
    fpiImageDeviceDeactivate cls dev false
  else
    fpImageDeviceEnrollMaybeAwaitFingerOn cls dev

/-- The enroll branch of `fpi_image_device_minutiae_detected`. -/
def enrollDetected (dev : FpImageDevice cv δ) (enrollPrint : FpPrint cv)
    (print : Option (FpPrint cv)) (error : Option GError) : Except Halt (FpImageDevice cv δ) := do
  let dev ←
    match print with
    | none => pure dev
    | some print => do
        let added ← orHalt (fpiPrintAddPrint enrollPrint print)
        pure
          { dev with
            priv := { dev.priv with currentTask := some (.enroll added) }
            image := { dev.image with enrollStage := dev.image.enrollStage + 1 } }
  enrollProgressed cls dev print error

/-- The verify branch. -/
def verifyDetected (dev : FpImageDevice cv δ) (template : FpPrint cv) (print : Option (FpPrint cv))
    (error : Option GError) : Except Halt (FpImageDevice cv δ) := do
  let out ←
    match print with
    | some print => matchPrint cls sigfm template print
    | none => pure (.error, error)
  if out.2.all GError.isRetry then
    fpImageDeviceMaybeCompleteAction (fpiDeviceVerifyReport dev out.1 print out.2) none
  else
    fpImageDeviceMaybeCompleteAction dev out.2

/-- The loop of the identify branch over the templates, from an index on: the
index that matches, and the error. -/
def identifyLoop (print : FpPrint cv) :
    Nat → List (FpPrint cv) → Except Halt (Option Nat × Option GError)
  | _, [] => pure (none, none)
  | index, template :: templates => do
      let out ← matchPrint cls sigfm template print
      if out.1 = .success then
        pure (some index, out.2)
      else if out.2.isSome then
        pure (none, out.2)
      else
        identifyLoop print (index + 1) templates

/-- The identify branch. -/
def identifyDetected (dev : FpImageDevice cv δ) (templates : List (FpPrint cv))
    (print : Option (FpPrint cv)) (error : Option GError) : Except Halt (FpImageDevice cv δ) := do
  let out ←
    match print with
    | some print => identifyLoop cls sigfm print 0 templates
    | none => pure (none, error)
  if out.2.all GError.isRetry then
    fpImageDeviceMaybeCompleteAction (fpiDeviceIdentifyReport dev out.1 print out.2) none
  else
    fpImageDeviceMaybeCompleteAction dev out.2

/-- The part of `fpi_image_device_minutiae_detected` for an image that was
scanned for a print, with the retry condition of a scan that failed. -/
def printDetected (dev : FpImageDevice cv δ) (print : Option (FpPrint cv))
    (error : Option GError) : Except Halt (FpImageDevice cv δ) :=
  match dev.priv.currentTask with
  | some (.enroll enrollPrint) => enrollDetected cls dev enrollPrint print error
  | some (.verify template _) => verifyDetected cls sigfm dev template print error
  | some (.identify templates _) => identifyDetected cls sigfm dev templates print error
  | _ => throw (.assertion "not reached")

/-- The part behind the result of the scan. -/
def scanDetected (dev : FpImageDevice cv δ) (image : FpImage cv) (error : Option GError) :
    Except Halt (FpImageDevice cv δ) :=
  match dev.priv.currentTask with
  | some (.capture _) =>
      fpImageDeviceMaybeCompleteAction
        { dev with image := { dev.image with captureImage := some image } } error
  | _ =>
      match error with
      | some error => printDetected cls sigfm dev none (some error)
      | none => do
          let print := fpiPrintSetType (fpPrintNew cls.id FP_DEVICE_ID false) .sigfm
          match ← fpiPrintAddFromImage print image with
          | .ok print => printDetected cls sigfm dev (some print) none
          | .error error =>
              if !error.isRetry then
                let dev ← fpImageDeviceMaybeCompleteAction dev (some error)
                fpiImageDeviceDeactivate cls dev true
              else
                printDetected cls sigfm dev none (some error)

/-- `fpi_image_device_minutiae_detected`. -/
def fpiImageDeviceMinutiaeDetected (dev : FpImageDevice cv δ) (image : FpImage cv)
    (error : Option GError) : Except Halt (FpImageDevice cv δ) := do
  let dev := { dev with image := { dev.image with minutiaeScanActive := false } }
  match error with
  | none => scanDetected cls sigfm dev image none
  | some error =>
      if error.code = .io .cancelled then
        let dev ← fpImageDeviceMaybeCompleteAction dev (some error)
        fpiImageDeviceDeactivate cls dev true
      else
        scanDetected cls sigfm (dev.warning ("Failed to detect minutiae: " ++ error.message)) image
          (some (fpiDeviceRetryNewMsg .general "Minutiae detection failed, please retry"))

/-! ## Requests of the library -/

/-- `fp_image_device_close`. -/
def fpImageDeviceClose (dev : FpImageDevice cv δ) : Except Halt (FpImageDevice cv δ) := do
  if dev.image.active then
    throw (.assertion "priv->active == FALSE")
  cls.imgClose dev

/-- `fp_image_device_cancel_action`. -/
def fpImageDeviceCancelAction (dev : FpImageDevice cv δ) : Except Halt (FpImageDevice cv δ) :=
  if (fpiDeviceGetCurrentAction dev).isCapturing then
    fpiImageDeviceDeactivate cls dev true
  else
    pure dev

/-- The end of `fp_image_device_start_capture_action`. -/
def startCapturing (dev : FpImageDevice cv δ) : Except Halt (FpImageDevice cv δ) := do
  let dev := { dev with image := { dev.image with enrollStage := 0 } }
  if dev.image.fingerPresent then
    throw (.assertion "!priv->finger_present")
  if dev.image.minutiaeScanActive then
    throw (.assertion "!priv->minutiae_scan_active")
  fpiImageDeviceActivate cls dev

/-- `fp_image_device_start_capture_action`. -/
def fpImageDeviceStartCaptureAction (dev : FpImageDevice cv δ) :
    Except Halt (FpImageDevice cv δ) :=
  match dev.priv.currentTask with
  | some (.capture false) =>
      pure (fpiDeviceActionError dev (fpiDeviceErrorNew .notSupported))
  | some (.enroll print) =>
      startCapturing cls
        { dev with
          priv := { dev.priv with currentTask := some (.enroll (fpiPrintSetType print .sigfm)) } }
  | _ => startCapturing cls dev

/-! ## Requests of the user -/

/-- `fp_device_cancel_in_idle_cb`; a driver has no critical sections here. -/
def fpDeviceCancelInIdleCb (dev : FpImageDevice cv δ) : Except Halt (FpImageDevice cv δ) := do
  if fpiDeviceGetCurrentAction dev = .none then
    throw (.assertion "priv->current_action != FPI_DEVICE_ACTION_NONE")
  let dev ← fpImageDeviceCancelAction cls
    { dev with priv := { dev.priv with idleCancel := false } }
  pure (fpiDeviceReportFingerStatus dev ⟨false, false⟩)

/-- `fp_device_open`, with `img_open` of the driver; a refused task returns its
error. -/
def fpDeviceOpen (imgOpen : FpImageDevice cv δ → FpImageDevice cv δ) (dev : FpImageDevice cv δ) :
    Option GError × FpImageDevice cv δ :=
  if dev.priv.isOpen then
    (some (fpiDeviceErrorNew .alreadyOpen), dev)
  else if dev.priv.currentTask.isSome then
    (some (fpiDeviceErrorNew .busy), dev)
  else
    (none, imgOpen (fpiDeviceReportFingerStatus (startTask dev .opening) ⟨false, false⟩))

/-- `fp_device_close`. -/
def fpDeviceClose (dev : FpImageDevice cv δ) :
    Except Halt (Option GError × FpImageDevice cv δ) :=
  match startRefusal dev with
  | some error => pure (some error, dev)
  | none => do
      let dev ← fpImageDeviceClose cls (startTask dev .closing)
      pure (none, dev)

/-- `fp_print_compatible`. -/
def fpPrintCompatible (print : FpPrint cv) : Bool :=
  print.driver == cls.id && print.deviceId == FP_DEVICE_ID

/-- The checks of `fp_device_enroll` on the template; an image device updates
prints. -/
def enrollRefusal (template : FpPrint cv) : Option GError :=
  if template.prints.type ≠ .undefined ∧ fpPrintCompatible cls template = false then
    some (fpiDeviceErrorNewMsg .dataInvalid
      ("The print and device must have a matching driver and device id" ++
        " for a fingerprint update to succeed"))
  else
    none

/-- `fp_device_enroll`, `fp_device_verify`, `fp_device_identify` and
`fp_device_capture` for a task that captures; `hot` tells whether the device is
too hot. -/
def fpDeviceCaptures (dev : FpImageDevice cv δ) (task : Task cv) (hot : Bool) :
    Except Halt (Option GError × FpImageDevice cv δ) :=
  match startRefusal dev with
  | some error => pure (some error, dev)
  | none =>
      let refusal :=
        match task with
        | .enroll template => enrollRefusal cls template
        | _ => none
      match refusal with
      | some error => pure (some error, dev)
      | none =>
          if hot then
            pure (some (fpiDeviceErrorNew .tooHot), dev)
          else do
            let dev ← fpImageDeviceStartCaptureAction cls (startTask dev task)
            pure (none, dev)

end ImageDevice

end Gxfp.Fprint
