import Gxfp.Fprint.Match

/-!
# Devices and their tasks

Embeds the part of `libfprint/libfprint/fp-device.c` and `fpi-device.c` that an
image device uses: one task at a time, the reports that belong to it, its
cancellation, and its return from an idle callback of the main loop.

`current_action` and `current_task` are set and cleared together, and the data
of a task belongs to its action, so that both are one value here.  A removed or
a suspended device and the temperature model are left out; what the latter does
to a task is an input of the main loop.
-/

namespace Gxfp.Fprint

/-! ## Errors -/

/-- `FpDeviceRetry`. -/
inductive FpDeviceRetry
  | general
  | tooShort
  | centerFinger
  | removeFinger
  deriving DecidableEq, Repr

/-- `FpDeviceError` with all its codes. -/
inductive DeviceErrorCode
  | general
  | notSupported
  | notOpen
  | alreadyOpen
  | busy
  | proto
  | dataInvalid
  | dataNotFound
  | dataFull
  | dataDuplicate
  | removed
  | tooHot
  deriving DecidableEq, Repr

/-- `GIOErrorEnum`, as far as it is used; an error can also come from an
`errno`. -/
inductive IoErrorCode
  | cancelled
  | failed
  | notFound
  | invalidData
  | fromErrno (errno : Int)
  deriving DecidableEq, Repr

/-- The domain of an error with its code there. -/
inductive ErrorCode
  | retry (code : FpDeviceRetry)
  | device (code : DeviceErrorCode)
  | io (code : IoErrorCode)
  deriving DecidableEq, Repr

/-- `GError`. -/
structure GError where
  code : ErrorCode
  message : String
  deriving DecidableEq, Repr

/-- `error->domain == FP_DEVICE_RETRY`. -/
def GError.isRetry (error : GError) : Bool :=
  match error.code with
  | .retry _ => true
  | _ => false

/-- `fpi_device_retry_new`. -/
def fpiDeviceRetryNew (error : FpDeviceRetry) : GError :=
  ⟨.retry error,
    match error with
    | .general => "Please try again."
    | .tooShort => "The swipe was too short, please try again."
    | .centerFinger => "The finger was not centered properly, please try again."
    | .removeFinger => "Please try again after removing the finger first."⟩

/-- `fpi_device_error_new`. -/
def fpiDeviceErrorNew (error : DeviceErrorCode) : GError :=
  ⟨.device error,
    match error with
    | .general => "An unspecified error occurred!"
    | .notSupported => "The operation is not supported on this device!"
    | .notOpen => "The device needs to be opened first!"
    | .alreadyOpen => "The device has already been opened!"
    | .busy => "The device is still busy with another operation, please try again later."
    | .proto => "The driver encountered a protocol error with the device."
    | .dataInvalid => "Passed (print) data is not valid."
    | .dataFull => "On device storage space is full."
    | .dataNotFound => "Print was not found on the devices storage."
    | .dataDuplicate => "This finger has already enrolled, please try a different finger"
    | .removed => "This device has been removed from the system."
    | .tooHot => "Device disabled to prevent overheating."⟩

/-- `fpi_device_retry_new_msg`. -/
def fpiDeviceRetryNewMsg (error : FpDeviceRetry) (msg : String) : GError :=
  ⟨.retry error, msg⟩

/-- `fpi_device_error_new_msg`. -/
def fpiDeviceErrorNewMsg (error : DeviceErrorCode) (msg : String) : GError :=
  ⟨.device error, msg⟩

/-- The error that `g_cancellable_set_error_if_cancelled` sets. -/
def cancelledError : GError :=
  ⟨.io .cancelled, "Operation was cancelled"⟩

/-- The code of an error of `fpi_print_sigfm_match`. -/
def FpDeviceError.toCode : FpDeviceError → DeviceErrorCode
  | .notSupported => .notSupported
  | .dataInvalid => .dataInvalid

/-! ## Tasks -/

/-- `FpiDeviceAction`, without those that no image device has. -/
inductive FpiDeviceAction
  | none
  | opening
  | closing
  | enroll
  | verify
  | identify
  | capture
  deriving DecidableEq, Repr

/-- The actions that capture images. -/
def FpiDeviceAction.isCapturing : FpiDeviceAction → Bool
  | .enroll => true
  | .verify => true
  | .identify => true
  | .capture => true
  | _ => false

/-- `FpImage`, with what `fp_image_extract_sigfm_info` puts in it. -/
structure FpImage (cv : OpenCv) where
  width : Int
  height : Int
  data : List Lib.Bytes.Byte
  sigfmInfo : Option (SigfmImgInfo cv)

/-- `FpMatchData` without what the caller of the task passes in; a match is the
print that was matched. -/
structure FpMatchData (cv : OpenCv) where
  resultReported : Bool
  found : Option (FpPrint cv)
  print : Option (FpPrint cv)
  error : Option GError

/-- A task data record as it is allocated. -/
def FpMatchData.new (cv : OpenCv) : FpMatchData cv :=
  ⟨false, none, none, none⟩

/-- The task of a device, with the data of its action. -/
inductive Task (cv : OpenCv)
  | opening
  | closing
  | enroll (print : FpPrint cv)
  | verify (enrolled : FpPrint cv) (data : FpMatchData cv)
  | identify (gallery : List (FpPrint cv)) (data : FpMatchData cv)
  | capture (waitForFinger : Bool)

/-- The action of a task. -/
def Task.action {cv : OpenCv} : Task cv → FpiDeviceAction
  | .opening => .opening
  | .closing => .closing
  | .enroll _ => .enroll
  | .verify _ _ => .verify
  | .identify _ _ => .identify
  | .capture _ => .capture

/-- `FpDeviceTaskReturnType` with its value. -/
inductive TaskReturn (cv : OpenCv)
  | int (result : FpiMatchResult)
  | bool
  | print (print : FpPrint cv)
  | image (image : FpImage cv)
  | error (error : GError)

/-- `FpFingerStatusFlags`. -/
structure FingerStatus where
  needed : Bool
  present : Bool
  deriving DecidableEq, Repr

/-- What a call tells the user or the log.  A critical message stands for a
failed `g_return_if_fail`. -/
inductive Note (cv : OpenCv)
  | warning (text : String)
  | critical (condition : String)
  | progress (completedStages : Nat) (print : Option (FpPrint cv)) (error : Option GError)
  | matched (found print : Option (FpPrint cv)) (error : Option GError)

/-- What the user sees of a device while a call is running, the last note
first. -/
structure Ui (cv : OpenCv) where
  fingerStatus : FingerStatus
  notes : List (Note cv)

/-- `FpDevicePrivate`.  A cancellable is the number of its task, `cancelled`
holds those that are cancelled; `idleCancel` and `idleReturns` are the idle
callbacks that wait to run. -/
structure FpDevicePrivate (cv : OpenCv) where
  isOpen : Bool
  currentTask : Option (Task cv)
  currentCancellable : Option Nat
  cancelConnected : Bool
  currentCancellationReason : Option GError
  idleCancel : Bool
  idleReturns : List (TaskReturn cv)
  tasks : Nat
  cancelled : List Nat

/-- How a call can end the process, or the model of it: a failed assertion, a
call of a null pointer or outside a buffer, or virtual functions that are nested
deeper than the model follows. -/
inductive Halt
  | assertion (condition : String)
  | failure (cause : PrintFailure)
  | depth
  deriving DecidableEq, Repr

/-! ## Image devices -/

/-- `FpiImageDeviceState`. -/
inductive FpiImageDeviceState
  | inactive
  | activating
  | deactivating
  | idle
  | awaitFingerOn
  | capture
  | awaitFingerOff
  deriving DecidableEq, Repr

/-- `FpImageDevicePrivate`. -/
structure FpImageDevicePrivate (cv : OpenCv) where
  state : FpiImageDeviceState
  active : Bool
  fingerPresent : Bool
  enrollStage : Nat
  minutiaeScanActive : Bool
  actionError : Option GError
  captureImage : Option (FpImage cv)

/-- A scan for keypoints that is running in its thread, with the cancellable it
was started with. -/
structure Scan (cv : OpenCv) where
  image : FpImage cv
  cancellable : Option Nat

/-- An image device with the data of its driver and the scans that are
running. -/
structure FpImageDevice (cv : OpenCv) (δ : Type) where
  priv : FpDevicePrivate cv
  image : FpImageDevicePrivate cv
  scans : List (Scan cv)
  driver : δ
  ui : Ui cv

section Device

variable {cv : OpenCv} {δ : Type}

namespace FpImageDevice

/-- Log a note. -/
def note (dev : FpImageDevice cv δ) (entry : Note cv) : FpImageDevice cv δ :=
  { dev with ui := { dev.ui with notes := entry :: dev.ui.notes } }

/-- `g_warning`. -/
def warning (dev : FpImageDevice cv δ) (text : String) : FpImageDevice cv δ :=
  dev.note (.warning text)

/-- A failed `g_return_if_fail`. -/
def critical (dev : FpImageDevice cv δ) (condition : String) : FpImageDevice cv δ :=
  dev.note (.critical condition)

end FpImageDevice

/-! ## Reports -/

/-- `fpi_device_get_current_action`. -/
def fpiDeviceGetCurrentAction (dev : FpImageDevice cv δ) : FpiDeviceAction :=
  match dev.priv.currentTask with
  | none => .none
  | some task => task.action

/-- `g_cancellable_is_cancelled`. -/
def isCancelled (dev : FpImageDevice cv δ) : Option Nat → Bool
  | none => false
  | some task => dev.priv.cancelled.contains task

/-- `fpi_device_action_is_cancelled`. -/
def fpiDeviceActionIsCancelled (dev : FpImageDevice cv δ) : Bool × FpImageDevice cv δ :=
  if fpiDeviceGetCurrentAction dev = .none then
    (true, dev.critical "priv->current_action != FPI_DEVICE_ACTION_NONE")
  else
    (isCancelled dev dev.priv.currentCancellable, dev)

/-- `fpi_device_get_cancellable`. -/
def fpiDeviceGetCancellable (dev : FpImageDevice cv δ) : Option Nat × FpImageDevice cv δ :=
  if fpiDeviceGetCurrentAction dev = .none then
    (none, dev.critical "priv->current_action != FPI_DEVICE_ACTION_NONE")
  else
    (dev.priv.currentCancellable, dev)

/-- `fpi_device_report_finger_status`. -/
def fpiDeviceReportFingerStatus (dev : FpImageDevice cv δ) (status : FingerStatus) :
    FpImageDevice cv δ :=
  { dev with ui := { dev.ui with fingerStatus := status } }

/-- `fpi_device_report_finger_status_changes`. -/
def fpiDeviceReportFingerStatusChanges (dev : FpImageDevice cv δ) (added removed : FingerStatus) :
    FpImageDevice cv δ :=
  fpiDeviceReportFingerStatus dev
    ⟨(dev.ui.fingerStatus.needed || added.needed) && !removed.needed,
      (dev.ui.fingerStatus.present || added.present) && !removed.present⟩

/-- `fpi_device_enroll_progress`. -/
def fpiDeviceEnrollProgress (dev : FpImageDevice cv δ) (completedStages : Nat)
    (print : Option (FpPrint cv)) (error : Option GError) : FpImageDevice cv δ :=
  if fpiDeviceGetCurrentAction dev ≠ .enroll then
    dev.critical "priv->current_action == FPI_DEVICE_ACTION_ENROLL"
  else
    match error, print with
    | none, print => dev.note (.progress completedStages print none)
    | some error, none =>
        if !error.isRetry then
          dev.critical "error == NULL || error->domain == FP_DEVICE_RETRY"
        else
          dev.note (.progress completedStages none (some error))
    | some error, some _ =>
        if !error.isRetry then
          dev.critical "error == NULL || error->domain == FP_DEVICE_RETRY"
        else
          (dev.warning
            "Driver passed an error and also provided a print, returning error!").note
            (.progress completedStages none (some error))

/-- Put back the data of a match and call `match_cb` where the error lets it. -/
def reportMatch (dev : FpImageDevice cv δ) (task : Task cv) (data : FpMatchData cv) :
    FpImageDevice cv δ :=
  let dev := { dev with priv := { dev.priv with currentTask := some task } }
  match data.error with
  | none => dev.note (.matched data.found data.print none)
  | some error =>
      if error.isRetry then
        dev.note (.matched data.found data.print (some error))
      else
        dev.warning
          "Driver reported a verify error that was not in the retry domain, delaying report!"

/-- The warning where a condition holds. -/
def warnIf (dev : FpImageDevice cv δ) (condition : Bool) (text : String) : FpImageDevice cv δ :=
  if condition then dev.warning text else dev

/-- `fpi_device_verify_report`. -/
def fpiDeviceVerifyReport (dev : FpImageDevice cv δ) (result : FpiMatchResult)
    (print : Option (FpPrint cv)) (error : Option GError) : FpImageDevice cv δ :=
  match dev.priv.currentTask with
  | some (.verify enrolled data) =>
      if data.resultReported then
        dev.critical "data->result_reported == FALSE"
      else if error.isSome ∨ result = .error then
        let dev := warnIf dev (result ≠ .error)
          "Driver reported an error code without setting match result to error!"
        let dev := warnIf dev error.isNone
          ("Driver reported an error without specifying a retry code, " ++
            "assuming general retry error!")
        let dev := warnIf dev print.isSome "Driver reported a print together with an error!"
        let data :=
          { data with
            resultReported := true
            error := some (error.getD (fpiDeviceRetryNew .general)) }
        reportMatch dev (.verify enrolled data) data
      else
        let data :=
          { data with
            resultReported := true
            found := if result = .success then some enrolled else data.found
            print := print }
        reportMatch dev (.verify enrolled data) data
  | _ => dev.critical "priv->current_action == FPI_DEVICE_ACTION_VERIFY"

/-- `fpi_device_identify_report`; a match is its place in the gallery. -/
def fpiDeviceIdentifyReport (dev : FpImageDevice cv δ) (found : Option Nat)
    (print : Option (FpPrint cv)) (error : Option GError) : FpImageDevice cv δ :=
  match dev.priv.currentTask with
  | some (.identify gallery data) =>
      if data.resultReported then
        dev.critical "data->result_reported == FALSE"
      else
        let matched := found.bind fun index => gallery[index]?
        let dev := warnIf dev (found.isSome && matched.isNone)
          "Driver reported a match to a print that was not in the gallery, ignoring match."
        match error with
        | some error =>
            let dev := warnIf dev matched.isSome
              "Driver reported an error code but also provided a match!"
            let dev := warnIf dev print.isSome "Driver reported a print together with an error!"
            let data := { data with resultReported := true, error := some error }
            reportMatch dev (.identify gallery data) data
        | none =>
            let data :=
              { data with
                resultReported := true
                found := matched.or data.found
                print := print.or data.print }
            reportMatch dev (.identify gallery data) data
  | _ => dev.critical "priv->current_action == FPI_DEVICE_ACTION_IDENTIFY"

/-! ## Completion -/

/-- `clear_device_cancel_action`. -/
def clearDeviceCancelAction (dev : FpImageDevice cv δ) : FpImageDevice cv δ :=
  { dev with priv := { dev.priv with idleCancel := false, cancelConnected := false } }

/-- `fpi_device_return_task_in_idle`. -/
def fpiDeviceReturnTaskInIdle (dev : FpImageDevice cv δ) (result : TaskReturn cv) :
    FpImageDevice cv δ :=
  { dev with priv := { dev.priv with idleReturns := dev.priv.idleReturns ++ [result] } }

/-- The part that all completions begin with. -/
def beginCompletion (dev : FpImageDevice cv δ) : FpImageDevice cv δ :=
  fpiDeviceReportFingerStatus (clearDeviceCancelAction dev) ⟨false, false⟩

/-- `fpi_device_open_complete`. -/
def fpiDeviceOpenComplete (dev : FpImageDevice cv δ) (error : Option GError) :
    FpImageDevice cv δ :=
  match dev.priv.currentTask with
  | some .opening =>
      fpiDeviceReturnTaskInIdle (beginCompletion dev)
        (match error with
        | none => .bool
        | some error => .error error)
  | _ => dev.critical "priv->current_action == FPI_DEVICE_ACTION_OPEN"

/-- `fpi_device_close_complete` for a device that is not a USB device. -/
def fpiDeviceCloseComplete (dev : FpImageDevice cv δ) (error : Option GError) :
    FpImageDevice cv δ :=
  match dev.priv.currentTask with
  | some .closing =>
      fpiDeviceReturnTaskInIdle (beginCompletion dev)
        (match error with
        | none => .bool
        | some error => .error error)
  | _ => dev.critical "priv->current_action == FPI_DEVICE_ACTION_CLOSE"

/-- `fpi_device_enroll_complete`. -/
def fpiDeviceEnrollComplete (dev : FpImageDevice cv δ) (print : Option (FpPrint cv))
    (error : Option GError) : FpImageDevice cv δ :=
  match dev.priv.currentTask with
  | some (.enroll _) =>
      let dev := beginCompletion dev
      match error, print with
      | none, some print =>
          if print.prints.type = .undefined then
            fpiDeviceReturnTaskInIdle
              (dev.warning "Driver did not set the type on the returned print!")
              (.error (fpiDeviceErrorNewMsg .general "Driver provided incorrect print data!"))
          else
            fpiDeviceReturnTaskInIdle dev (.print print)
      | none, none =>
          fpiDeviceReturnTaskInIdle
            (dev.warning "Driver did not provide a valid print and failed to provide an error!")
            (.error (fpiDeviceErrorNewMsg .general "Driver failed to provide print data!"))
      | some error, print =>
          warnIf (fpiDeviceReturnTaskInIdle dev (.error error)) print.isSome
            "Driver passed an error but also provided a print, returning error!"
  | _ => dev.critical "priv->current_action == FPI_DEVICE_ACTION_ENROLL"

/-- The end of `fpi_device_verify_complete` and of
`fpi_device_identify_complete`, where a task that was reported as it should be
returns `result`. -/
def completeMatch (dev : FpImageDevice cv δ) (data : FpMatchData cv) (error : Option GError)
    (result : TaskReturn cv) (unreported retried : String) : FpImageDevice cv δ :=
  match error with
  | none =>
      if !data.resultReported then
        fpiDeviceReturnTaskInIdle (dev.warning unreported) (.error (fpiDeviceErrorNew .general))
      else
        match data.error with
        | some error => fpiDeviceReturnTaskInIdle dev (.error error)
        | none => fpiDeviceReturnTaskInIdle dev result
  | some error =>
      if error.isRetry then
        fpiDeviceReturnTaskInIdle (dev.warning retried) (.error (fpiDeviceErrorNew .general))
      else
        fpiDeviceReturnTaskInIdle dev (.error error)

/-- `fpi_device_verify_complete`. -/
def fpiDeviceVerifyComplete (dev : FpImageDevice cv δ) (error : Option GError) :
    FpImageDevice cv δ :=
  match dev.priv.currentTask with
  | some (.verify _ data) =>
      completeMatch (beginCompletion dev) data error
        (.int (if data.found.isSome then .success else .fail))
        ("Driver reported successful verify complete but did not report the result earlier. " ++
          "Reporting error instead")
        ("Driver reported a retry error to fpi_device_verify_complete. " ++
          "This is not permissible and needs to be reported using " ++
          "fpi_device_verify_report, reporting general verification failure instead.")
  | _ => dev.critical "priv->current_action == FPI_DEVICE_ACTION_VERIFY"

/-- `fpi_device_identify_complete`. -/
def fpiDeviceIdentifyComplete (dev : FpImageDevice cv δ) (error : Option GError) :
    FpImageDevice cv δ :=
  match dev.priv.currentTask with
  | some (.identify _ data) =>
      completeMatch (beginCompletion dev) data error .bool
        ("Driver reported successful identify complete but did not report the result earlier. " ++
          "Reporting error instead")
        ("Driver reported a retry error to fpi_device_identify_complete. " ++
          "This is not permissible and needs to be reported using " ++
          "fpi_device_identify_report, reporting general identification failure instead.")
  | _ => dev.critical "priv->current_action == FPI_DEVICE_ACTION_IDENTIFY"

/-- `fpi_device_capture_complete`. -/
def fpiDeviceCaptureComplete (dev : FpImageDevice cv δ) (image : Option (FpImage cv))
    (error : Option GError) : FpImageDevice cv δ :=
  match dev.priv.currentTask with
  | some (.capture _) =>
      let dev := beginCompletion dev
      match error, image with
      | none, some image => fpiDeviceReturnTaskInIdle dev (.image image)
      | none, none =>
          fpiDeviceReturnTaskInIdle
            (dev.warning "Driver did not provide an error for a failed capture operation!")
            (.error (fpiDeviceErrorNewMsg .general "Driver failed to provide an error!"))
      | some error, image =>
          warnIf (fpiDeviceReturnTaskInIdle dev (.error error)) image.isSome
            "Driver passed an error but also provided an image, returning error!"
  | _ => dev.critical "priv->current_action == FPI_DEVICE_ACTION_CAPTURE"

/-- `fpi_device_action_error` with an error. -/
def fpiDeviceActionError (dev : FpImageDevice cv δ) (error : GError) : FpImageDevice cv δ :=
  match fpiDeviceGetCurrentAction dev with
  | .none => dev.critical "priv->current_action != FPI_DEVICE_ACTION_NONE"
  | .opening => fpiDeviceOpenComplete dev (some error)
  | .closing => fpiDeviceCloseComplete dev (some error)
  | .enroll => fpiDeviceEnrollComplete dev none (some error)
  | .verify => fpiDeviceVerifyComplete dev (some error)
  | .identify => fpiDeviceIdentifyComplete dev (some error)
  | .capture => fpiDeviceCaptureComplete dev none (some error)

/-- What a task hands its caller: its result, and the data that the `_finish`
function of its action reads. -/
structure Returned (cv : OpenCv) where
  task : Task cv
  result : TaskReturn cv

/-- `fp_device_task_return_in_idle_cb`, with what the task returns; a task is
missing where it has been returned before. -/
def fpDeviceTaskReturnInIdleCb (dev : FpImageDevice cv δ) (result : TaskReturn cv) :
    Option (Returned cv) × FpImageDevice cv δ :=
  let action := fpiDeviceGetCurrentAction dev
  let reason := dev.priv.currentCancellationReason
  let isError :=
    match result with
    | .error _ => true
    | _ => false
  let isOpen :=
    if action = .opening ∧ isError = false then true
    else if action = .closing then false
    else dev.priv.isOpen
  let result :=
    match result, reason with
    | .error _, some reason => .error reason
    | result, _ => result
  (dev.priv.currentTask.map fun task => ⟨task, result⟩,
    { dev with
      priv :=
        { dev.priv with
          currentTask := none
          currentCancellable := none
          currentCancellationReason := none
          isOpen := isOpen } })

/-! ## Cancellation -/

/-- `g_cancellable_cancel` of the internal cancellable, with
`fp_device_cancelled_cb`. -/
def cancelCurrent (dev : FpImageDevice cv δ) : FpImageDevice cv δ :=
  match dev.priv.currentCancellable with
  | none => dev
  | some task =>
      if dev.priv.cancelled.contains task then
        dev
      else
        { dev with
          priv :=
            { dev.priv with
              cancelled := task :: dev.priv.cancelled
              idleCancel := dev.priv.idleCancel || dev.priv.cancelConnected } }

/-- `fp_device_task_cancelled_cb`: the caller cancels its task. -/
def fpDeviceTaskCancelledCb (dev : FpImageDevice cv δ) : FpImageDevice cv δ :=
  if dev.priv.cancelConnected then cancelCurrent dev else dev

/-- The end of `fpi_device_update_temp` for a device that is too hot. -/
def fpiDeviceTooHot (dev : FpImageDevice cv δ) : FpImageDevice cv δ :=
  if (fpiDeviceGetCurrentAction dev).isCapturing then
    let reason := dev.priv.currentCancellationReason.getD (fpiDeviceErrorNew .tooHot)
    cancelCurrent { dev with priv := { dev.priv with currentCancellationReason := some reason } }
  else
    dev

/-! ## Starting a task -/

/-- Why a task cannot be started. -/
def startRefusal (dev : FpImageDevice cv δ) : Option GError :=
  if !dev.priv.isOpen then
    some (fpiDeviceErrorNew .notOpen)
  else if dev.priv.currentTask.isSome then
    some (fpiDeviceErrorNew .busy)
  else
    none

/-- A task becomes the current one, with `setup_task_cancellable`. -/
def startTask (dev : FpImageDevice cv δ) (task : Task cv) : FpImageDevice cv δ :=
  { dev with
    priv :=
      { dev.priv with
        currentTask := some task
        currentCancellable := some dev.priv.tasks
        cancelConnected := true
        tasks := dev.priv.tasks + 1 } }

end Device

end Gxfp.Fprint
