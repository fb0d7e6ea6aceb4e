import Gxfp.Fprint.Captured
import Gxfp.Fprint.ImageDevice
import Gxfp.User.Common
import Gxfp.User.Session

/-!
# The driver

Embeds `libfprint/libfprint/drivers/gxfp.c`, which drives a session from the
main loop: a pump timer ticks the session, and the events of every call on it go
to the image device, whose changes of state come back as calls on the session.

`gxfpClassAbove` ties that knot.  Its virtual functions at one depth call the
image device with the virtual functions one depth below, and `gxfpClass` follows
them for three calls, which is as deep as they nest.
-/

namespace Gxfp.Fprint

open Lib.Bytes
open Gxfp.User
open Gxfp.Errno

/-! ## State -/

/-- `struct _FpiDeviceGxfp` without the image device: the session in its world,
the delay of the pump timer where one is armed, and the paths. -/
structure GxfpDriver (E : Type) where
  sess : SessionRun E
  timerSource : Option Int
  devPath : Option String
  pskPath : Option String

/-- The image device of the driver. -/
abbrev FpiDeviceGxfp (cv : OpenCv) (E : Type) : Type :=
  FpImageDevice cv (GxfpDriver E)

/-- What `gxfp_img_open` finds on the host: the path from udev, the variable
`FP_GXFP_PSK` and the file with the key. -/
structure OpenHost where
  chardevPath : Option String
  pskEnv : Option String
  pskFile : FileHost

/-- `GXFP_DEFAULT_PSK_PATH`. -/
def DEFAULT_PSK_PATH : String := "/var/lib/fprintd/gxfp/psk_raw32.bin"

/-- `DEFAULT_ENROLL_SAMPLES`. -/
def DEFAULT_ENROLL_SAMPLES : Nat := 16

section Driver

variable {cv : OpenCv} {E α : Type} (env : Env) (engine : TlsEngine E)

/-! ## The timer and the session -/

/-- `cancel_scheduled_pump`. -/
def cancelScheduledPump (self : FpiDeviceGxfp cv E) : FpiDeviceGxfp cv E :=
  { self with driver := { self.driver with timerSource := none } }

/-- `free_paths`. -/
def freePaths (self : FpiDeviceGxfp cv E) : FpiDeviceGxfp cv E :=
  { self with driver := { self.driver with devPath := none, pskPath := none } }

/-- `schedule_pump_soon`. -/
def schedulePumpSoon (self : FpiDeviceGxfp cv E) (delayMs : Int) : FpiDeviceGxfp cv E :=
  match self.driver.timerSource with
  | some _ => self
  | none => { self with driver := { self.driver with timerSource := some delayMs } }

/-- A call on the session. -/
def sessionCall (self : FpiDeviceGxfp cv E) (call : SessionCall) :
    SessionOut × FpiDeviceGxfp cv E :=
  let out := sessionStep env engine self.driver.sess call
  (out.2, { self with driver := { self.driver with sess := out.1 } })

section Class

variable (cls : FpImageDeviceClass cv (GxfpDriver E))

/-! ## Events -/

/-- The image that `emit_image_captured` makes of a decoded one. -/
def capturedImage (img : DecodedImage) : FpImage cv :=
  ⟨img.cols, img.rows, capturedData img, none⟩

/-- `emit_image_captured`. -/
def emitImageCaptured (self : FpiDeviceGxfp cv E) : Except Halt (FpiDeviceGxfp cv E) :=
  let taken := sessionCall env engine self .takeImage
  match taken.1.image with
  | none =>
      fpiImageDeviceSessionError cls taken.2
        (fpiDeviceErrorNewMsg .general
          ("capture image unavailable: " ++ env.strerror (-taken.1.ret)))
  | some img =>
      fpiImageDeviceImageCaptured cls taken.2 (capturedImage img)

/-- The error of a session. -/
def sessionEventError (ev : SessionEvents) : GError :=
  fpiDeviceErrorNewMsg .general (if ev.errorMsg = "" then "gxfp session error" else ev.errorMsg)

/-- The error branch of `handle_session_events`. -/
def handleSessionError (self : FpiDeviceGxfp cv E) (ev : SessionEvents) :
    Except Halt (FpiDeviceGxfp cv E) :=
  let self := cancelScheduledPump self
  if ev.errorTarget = .activate then
    fpiImageDeviceActivateComplete cls self (some (sessionEventError ev))
  else
    fpiImageDeviceSessionError cls self (sessionEventError ev)

/-- The part of `handle_session_events` without an error. -/
def handleSessionProgress (self : FpiDeviceGxfp cv E) (ev : SessionEvents) :
    Except Halt (FpiDeviceGxfp cv E) := do
  let self ←
    if ev.activateComplete then fpiImageDeviceActivateComplete cls self none else pure self
  let self ←
    if ev.deactivateComplete then
      fpiImageDeviceDeactivateComplete cls (cancelScheduledPump self) none
    else
      pure self
  let self :=
    if ev.closeComplete then
      fpiImageDeviceCloseComplete (freePaths (cancelScheduledPump self)) none
    else
      self
  pure (if ev.requestTick then schedulePumpSoon self ev.tickDelayMs else self)

/-- `handle_session_events`. -/
def handleSessionEvents (self : FpiDeviceGxfp cv E) (ev : SessionEvents) :
    Except Halt (FpiDeviceGxfp cv E) := do
  let self := if ev.cancelTick then cancelScheduledPump self else self
  let self ←
    if ev.fingerStatusChanged then
      fpiImageDeviceReportFingerStatus cls self ev.fingerPresent
    else
      pure self
  let self ← if ev.imageReady then emitImageCaptured env engine cls self else pure self
  if ev.sessionError then
    handleSessionError cls self ev
  else
    handleSessionProgress cls self ev

/-- A call on the session, with what becomes of its events. -/
def callAndHandle (self : FpiDeviceGxfp cv E) (call : SessionCall) :
    Except Halt (FpiDeviceGxfp cv E) :=
  let out := sessionCall env engine self call
  handleSessionEvents env engine cls out.2 out.1.ev

/-! ## Virtual functions -/

/-- `gxfp_img_close`. -/
def gxfpImgClose (self : FpiDeviceGxfp cv E) : Except Halt (FpiDeviceGxfp cv E) :=
  callAndHandle env engine cls (cancelScheduledPump self) (.requestClose false)

/-- `gxfp_activate`. -/
def gxfpActivate (self : FpiDeviceGxfp cv E) : Except Halt (FpiDeviceGxfp cv E) := do
  let out := sessionCall env engine self .activate
  let self ← handleSessionEvents env engine cls out.2 out.1.ev
  pure (if out.1.ret < 0 then self else schedulePumpSoon self 0)

/-- `gxfp_deactivate`. -/
def gxfpDeactivate (self : FpiDeviceGxfp cv E) : Except Halt (FpiDeviceGxfp cv E) :=
  callAndHandle env engine cls (cancelScheduledPump self) .requestDeactivate

/-- The state of the session that belongs to a state of the image device. -/
def sessionStateOf : FpiImageDeviceState → SessionState
  | .inactive => .inactive
  | .activating => .idle
  | .deactivating => .idle
  | .idle => .idle
  | .awaitFingerOn => .awaitFingerOn
  | .capture => .capture
  | .awaitFingerOff => .awaitFingerOff

/-- `gxfp_change_state`. -/
def gxfpChangeState (self : FpiDeviceGxfp cv E) (state : FpiImageDeviceState) :
    Except Halt (FpiDeviceGxfp cv E) :=
  callAndHandle env engine cls self (.changeState (sessionStateOf state))

/-! ## The pump -/

/-- `gxfp_session_poll_readable`, given what `gxfp_dev_poll_readable` makes of
the result of `poll(2)`. -/
def sessionPollReadable (self : FpiDeviceGxfp cv E) (polled : Int) : Int :=
  match self.driver.sess.session with
  | none => EINVAL.rc
  | some impl =>
      if !sessionModeHasIo impl then EINVAL.rc
      else if impl.fd < 0 then EINVAL.rc
      else polled

/-- `gxfp_pump_timeout_cb`. -/
def gxfpPumpTimeoutCb (self : FpiDeviceGxfp cv E) (polled : Int) :
    Except Halt (FpiDeviceGxfp cv E) := do
  let cancelled := fpiDeviceActionIsCancelled (cancelScheduledPump self)
  let self ← callAndHandle env engine cls cancelled.2 (.pump cancelled.1)
  let still := fpiDeviceActionIsCancelled self
  if still.1 then
    pure still.2
  else
    let pr := sessionPollReadable still.2 polled
    if pr = 0 ∨ pr = EAGAIN.rc then
      callAndHandle env engine cls still.2 (.onFd 1 cancelled.1)
    else
      pure still.2

end Class

/-! ## Opening -/

/-- An error return of `gxfp_img_open`. -/
def imgOpenFail (self : FpiDeviceGxfp cv E) (code : IoErrorCode) (message : String) :
    FpiDeviceGxfp cv E :=
  fpiImageDeviceOpenComplete self (some ⟨.io code, message⟩)

/-- The part of `gxfp_img_open` once the key is read. -/
def imgOpenSession (self : FpiDeviceGxfp cv E) (chardevPath : String) (pskRaw : List Byte) :
    FpiDeviceGxfp cv E :=
  let out := sessionCall env engine self (.openPath chardevPath pskRaw 256)
  if out.1.ret < 0 then
    imgOpenFail out.2 (.fromErrno (-out.1.ret))
      (if out.1.errbuf.getD "" = "" then "gxfp_session_open failed" else out.1.errbuf.getD "")
  else
    fpiImageDeviceOpenComplete out.2 none

/-- `gxfp_img_open`; `readFileAll` never leaves its buffer. -/
def gxfpImgOpen (host : OpenHost) (self : FpiDeviceGxfp cv E) : FpiDeviceGxfp cv E :=
  let chardevPath := host.chardevPath.getD ""
  if chardevPath = "" then
    imgOpenFail self .notFound "no chardev path from udev enumeration"
  else
    let pskEnv := host.pskEnv.getD ""
    let pskPath := if pskEnv = "" then DEFAULT_PSK_PATH else pskEnv
    let self :=
      { self with
        driver := { self.driver with devPath := some chardevPath, pskPath := some pskPath } }
    match readFileAll host.pskFile with
    | .ok pskRaw => imgOpenSession env engine self chardevPath pskRaw
    | .error rc =>
        imgOpenFail self (.fromErrno (-rc))
          ("read PSK '" ++ pskPath ++ "' failed: " ++ env.strerror (-rc))
    | .outOfBounds => self

/-! ## The class -/

/-- The constants of `fpi_device_gxfp_class_init`, with the given virtual
functions. -/
def gxfpClassOf
    (imgClose activate deactivate : FpiDeviceGxfp cv E → Except Halt (FpiDeviceGxfp cv E))
    (changeState :
      FpiDeviceGxfp cv E → FpiImageDeviceState → Except Halt (FpiDeviceGxfp cv E)) :
    FpImageDeviceClass cv (GxfpDriver E) where
  id := "gxfp"
  nrEnrollStages := DEFAULT_ENROLL_SAMPLES
  bz3Threshold := 0
  imgClose := imgClose
  activate := activate
  deactivate := deactivate
  changeState := changeState

/-- The virtual functions at the bottom, which end the model. -/
def tooDeep : FpImageDeviceClass cv (GxfpDriver E) :=
  gxfpClassOf (fun _ => .error .depth) (fun _ => .error .depth) (fun _ => .error .depth)
    fun _ _ => .error .depth

/-- The virtual functions of the driver, followed for a depth of nested calls
above those at the bottom. -/
def gxfpClassAbove (bottom : FpImageDeviceClass cv (GxfpDriver E)) :
    Nat → FpImageDeviceClass cv (GxfpDriver E)
  | 0 => bottom
  | depth + 1 =>
      gxfpClassOf (gxfpImgClose env engine (gxfpClassAbove bottom depth))
        (gxfpActivate env engine (gxfpClassAbove bottom depth))
        (gxfpDeactivate env engine (gxfpClassAbove bottom depth))
        (gxfpChangeState env engine (gxfpClassAbove bottom depth))

/-- `fpi_device_gxfp_class_init`. -/
def gxfpClass : FpImageDeviceClass cv (GxfpDriver E) :=
  gxfpClassAbove env engine tooDeep 3

/-! ## Runs -/

/-- What the main loop and the user of a device do. -/
inductive Input (cv : OpenCv)
  | openDevice (host : OpenHost)
  | closeDevice
  | enroll (template : FpPrint cv) (hot : Bool)
  | verify (enrolled : FpPrint cv) (hot : Bool)
  | identify (gallery : List (FpPrint cv)) (hot : Bool)
  | capture (waitForFinger hot : Bool)
  /-- The caller cancels its task. -/
  | cancel
  /-- The temperature model finds the device too hot. -/
  | tooHot
  /-- The idle callbacks, the pump timer with what `poll(2)` says, and the end of
  a scan. -/
  | idleCancel
  | idleReturn
  | timeout (polled : Int)
  | scanDone (index : Nat)

/-- What a step tells the user: the notes of the calls, the error of a task that
is refused, and the return of a task. -/
structure Output (cv : OpenCv) where
  notes : List (Note cv)
  refused : Option GError
  returned : Option (Returned cv)

/-- The fields of a device before its first use. -/
def fpiDeviceGxfpInit (count : Nat) : FpiDeviceGxfp cv E where
  priv := ⟨false, none, none, false, none, false, [], 0, []⟩
  image := ⟨.inactive, false, false, 0, false, none, none⟩
  scans := []
  driver := ⟨(sessionStep env engine ⟨none, ⟨count, []⟩⟩ .init).1, none, none, none⟩
  ui := ⟨⟨false, false⟩, []⟩

/-- A step that starts or refuses a task. -/
def request (out : Except Halt (Option GError × FpiDeviceGxfp cv E)) :
    Except Halt (Option GError × Option (Returned cv) × FpiDeviceGxfp cv E) := do
  let out ← out
  pure (out.1, none, out.2)

/-- A step inside a task. -/
def callback (out : Except Halt (FpiDeviceGxfp cv E)) :
    Except Halt (Option GError × Option (Returned cv) × FpiDeviceGxfp cv E) := do
  let self ← out
  pure (none, none, self)

variable (sigfm : SigfmLibrary cv α)

/-- One input; one that is not there to be handled changes nothing. -/
def deviceInput (self : FpiDeviceGxfp cv E) :
    Input cv → Except Halt (Option GError × Option (Returned cv) × FpiDeviceGxfp cv E)
  | .openDevice host => request (.ok (fpDeviceOpen (gxfpImgOpen env engine host) self))
  | .closeDevice => request (fpDeviceClose (gxfpClass env engine) self)
  | .enroll template hot =>
      request (fpDeviceCaptures (gxfpClass env engine) self (.enroll template) hot)
  | .verify enrolled hot =>
      request (fpDeviceCaptures (gxfpClass env engine) self (.verify enrolled (.new cv)) hot)
  | .identify gallery hot =>
      request (fpDeviceCaptures (gxfpClass env engine) self (.identify gallery (.new cv)) hot)
  | .capture waitForFinger hot =>
      request (fpDeviceCaptures (gxfpClass env engine) self (.capture waitForFinger) hot)
  | .cancel => callback (.ok (fpDeviceTaskCancelledCb self))
  | .tooHot => callback (.ok (fpiDeviceTooHot self))
  | .idleCancel =>
      callback
        (if self.priv.idleCancel then fpDeviceCancelInIdleCb (gxfpClass env engine) self
        else .ok self)
  | .idleReturn =>
      match self.priv.idleReturns with
      | [] => .ok (none, none, self)
      | result :: results =>
          let out := fpDeviceTaskReturnInIdleCb
            { self with priv := { self.priv with idleReturns := results } } result
          .ok (none, out.1, out.2)
  | .timeout polled =>
      callback
        (match self.driver.timerSource with
        | none => .ok self
        | some _ => gxfpPumpTimeoutCb env engine (gxfpClass env engine) self polled)
  | .scanDone index =>
      callback
        (match self.scans[index]? with
        | none => .ok self
        | some scan =>
            let out := fpImageSigfmExtract sigfm self scan
            fpiImageDeviceMinutiaeDetected (gxfpClass env engine) sigfm
              { self with scans := self.scans.eraseIdx index } out.2 out.1)

/-- One step of the process; a process that has ended takes no more. -/
def deviceStep (state : Except Halt (FpiDeviceGxfp cv E)) (input : Input cv) :
    Except Halt (FpiDeviceGxfp cv E) × Output cv :=
  match state with
  | .error halt => (.error halt, ⟨[], none, none⟩)
  | .ok self =>
      match deviceInput env engine sigfm self input with
      | .error halt => (.error halt, ⟨[], none, none⟩)
      | .ok out =>
          (.ok { out.2.2 with ui := { out.2.2.ui with notes := [] } },
            ⟨out.2.2.ui.notes.reverse, out.1, out.2.1⟩)

end Driver

end Gxfp.Fprint
