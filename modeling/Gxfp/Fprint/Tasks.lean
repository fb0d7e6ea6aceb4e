import Gxfp.Fprint.ImageDevice
import Gxfp.Lib.Outcome

/-!
# What a task may return

The abstract side of a device: what the result of a task is worth to the one who
asked for it.  `Earned` lists the results that a request admits: a print that
extends the template by one scan for each stage, a verification or an
identification that a scan of a captured image bears out, the captured image, or
an error.

`Develops` is what holds of a task in between, and `reportAction_earned` takes
it to an earned result when the action ends.  The images that a driver hands over
are a parameter.
-/

namespace Gxfp.Fprint

open Lib.Outcome

section Tasks

variable {cv : OpenCv} {δ α : Type}

/-! ## Results -/

/-- The print of a single scan. -/
def scannedPrint (driver : String) (info : SigfmImgInfo cv) : FpPrint cv :=
  { (fpPrintNew driver FP_DEVICE_ID false : FpPrint cv) with prints := .sigfm [info] }

/-- A template with further scans; one of another type is left as it is. -/
def extendedPrint (template : FpPrint cv) (infos : List (SigfmImgInfo cv)) : FpPrint cv :=
  match template.prints with
  | .undefined => { template with prints := .sigfm infos }
  | .sigfm prints => { template with prints := .sigfm (prints ++ infos) }
  | _ => template

theorem extendedPrint_nil (template : FpPrint cv) :
    extendedPrint template [] = fpiPrintSetType template .sigfm := by
  rcases template with ⟨prints, driver, deviceId, deviceStored, finger, username, description,
    enrollDate, data⟩
  cases prints with
  | undefined => rfl
  | raw => rfl
  | nbis prints => rfl
  | sigfm prints =>
      exact congrArg (fun list => FpPrint.mk (.sigfm list) driver deviceId deviceStored finger
        username description enrollDate data) (List.append_nil prints)

/-- Each scan of an enrolment extends the print by itself. -/
theorem fpiPrintAddPrint_extendedPrint (template : FpPrint cv) (infos : List (SigfmImgInfo cv))
    (driver : String) (info : SigfmImgInfo cv) :
    fpiPrintAddPrint (extendedPrint template infos) (scannedPrint driver info) =
      .ok (extendedPrint template (infos ++ [info])) := by
  rcases template with ⟨prints, owner, deviceId, deviceStored, finger, username, description,
    enrollDate, data⟩
  cases prints with
  | undefined => rfl
  | raw => rfl
  | nbis prints => rfl
  | sigfm prints =>
      have appended := List.append_assoc prints infos [info]
      exact congrArg (fun list => Except.ok (FpPrint.mk (.sigfm list) owner deviceId deviceStored
        finger username description enrollDate data)) appended

variable (cls : FpImageDeviceClass cv δ) (sigfm : SigfmLibrary cv α) (origin : FpImage cv → Prop)

/-- What was found in an image of the driver that has enough keypoints. -/
def Scanned (info : SigfmImgInfo cv) : Prop :=
  ∃ image, origin image ∧ sigfm.extract image = info ∧ 25 ≤ info.keypoints.length

/-- A print of a gallery that a scan matches, and no print before it; or none of
the gallery. -/
def Identified (gallery : List (FpPrint cv)) (print : FpPrint cv) :
    Option (FpPrint cv) → Prop
  | none => ∀ template ∈ gallery, matchPrint cls sigfm template print = .ok (.fail, none)
  | some found =>
      ∃ first rest, gallery = first ++ found :: rest ∧
        matchPrint cls sigfm found print = .ok (.success, none) ∧
        ∀ template ∈ first, matchPrint cls sigfm template print = .ok (.fail, none)

/-- The results that a request admits. -/
inductive Earned : Task cv → Returned cv → Prop
  | failed {request task : Task cv} (same : task.action = request.action) (error : GError) :
      Earned request ⟨task, .error error⟩
  | opened : Earned .opening ⟨.opening, .bool⟩
  | closed : Earned .closing ⟨.closing, .bool⟩
  | enrolled {template : FpPrint cv} (infos : List (SigfmImgInfo cv))
      (scanned : ∀ info ∈ infos, Scanned sigfm origin info)
      (stages : infos.length = cls.nrEnrollStages) :
      Earned (.enroll template)
        ⟨.enroll (extendedPrint template infos), .print (extendedPrint template infos)⟩
  | verified {enrolled : FpPrint cv} {start data : FpMatchData cv} {info : SigfmImgInfo cv}
      {result : FpiMatchResult} (scanned : Scanned sigfm origin info)
      (matched : matchPrint cls sigfm enrolled (scannedPrint cls.id info) = .ok (result, none)) :
      Earned (.verify enrolled start) ⟨.verify enrolled data, .int result⟩
  | identified {gallery : List (FpPrint cv)} {start data : FpMatchData cv}
      {info : SigfmImgInfo cv} (scanned : Scanned sigfm origin info)
      (identified : Identified cls sigfm gallery (scannedPrint cls.id info) data.found) :
      Earned (.identify gallery start) ⟨.identify gallery data, .bool⟩
  | captured {waitForFinger : Bool} {image : FpImage cv}
      (taken : origin { image with sigfmInfo := none }) :
      Earned (.capture waitForFinger) ⟨.capture waitForFinger, .image image⟩

/-- An error may take the place of another. -/
theorem Earned.error {request task : Task cv} {error : GError}
    (earned : Earned cls sigfm origin request ⟨task, .error error⟩) (other : GError) :
    Earned cls sigfm origin request ⟨task, .error other⟩ := by
  cases earned with
  | failed same error => exact .failed same other

/-- A result belongs to the action that was asked for. -/
theorem Earned.action {request : Task cv} {returned : Returned cv}
    (earned : Earned cls sigfm origin request returned) :
    returned.task.action = request.action := by
  cases earned with
  | failed same error => exact same
  | _ => rfl

/-! ## Tasks on their way -/

/-- A report of a verification is borne out by a scan. -/
structure VerifyData (enrolled : FpPrint cv) (data : FpMatchData cv) : Prop where
  unreported : data.resultReported = false → data.found = none
  reported : data.resultReported = true → data.error = none →
    ∃ info, Scanned sigfm origin info ∧
      matchPrint cls sigfm enrolled (scannedPrint cls.id info) =
        .ok (if data.found.isSome then .success else .fail, none)

/-- A report of an identification is borne out by a scan. -/
structure IdentifyData (gallery : List (FpPrint cv)) (data : FpMatchData cv) : Prop where
  unreported : data.resultReported = false → data.found = none
  reported : data.resultReported = true → data.error = none →
    ∃ info, Scanned sigfm origin info ∧
      Identified cls sigfm gallery (scannedPrint cls.id info) data.found

/-- What a request has become after some stages of an enrolment. -/
inductive Develops (stage : Nat) : Task cv → Task cv → Prop
  | enroll {template print : FpPrint cv} (infos : List (SigfmImgInfo cv))
      (scanned : ∀ info ∈ infos, Scanned sigfm origin info) (stages : infos.length = stage)
      (extended : print = extendedPrint template infos) :
      Develops stage (.enroll template) (.enroll print)
  | verify {enrolled : FpPrint cv} {start data : FpMatchData cv}
      (borneOut : VerifyData cls sigfm origin enrolled data) :
      Develops stage (.verify enrolled start) (.verify enrolled data)
  | identify {gallery : List (FpPrint cv)} {start data : FpMatchData cv}
      (borneOut : IdentifyData cls sigfm origin gallery data) :
      Develops stage (.identify gallery start) (.identify gallery data)
  | capture (waitForFinger : Bool) :
      Develops stage (.capture waitForFinger) (.capture waitForFinger)

variable {cls sigfm origin}

theorem Develops.action {stage : Nat} {request task : Task cv}
    (develops : Develops cls sigfm origin stage request task) :
    task.action = request.action ∧ task.action.isCapturing = true := by
  cases develops with
  | enroll infos scanned stages extended => exact ⟨rfl, rfl⟩
  | verify borneOut => exact ⟨rfl, rfl⟩
  | identify borneOut => exact ⟨rfl, rfl⟩
  | capture waitForFinger => exact ⟨rfl, rfl⟩

/-! ## Completion -/

/-- The state of a device whose task is to return a result. -/
def FpDevicePrivate.completed (priv : FpDevicePrivate cv) (result : TaskReturn cv) :
    FpDevicePrivate cv :=
  { priv with
    idleCancel := false
    cancelConnected := false
    idleReturns := priv.idleReturns ++ [result] }

/-- A device that has completed its task with a result. -/
def Completes (dev after : FpImageDevice cv δ) (result : TaskReturn cv) : Prop :=
  ∃ ui, after = { dev with priv := dev.priv.completed result, ui := ui }

theorem warnIf_eq (dev : FpImageDevice cv δ) (condition : Bool) (text : String) :
    ∃ ui, warnIf dev condition text = { dev with ui := ui } := by
  unfold warnIf
  split
  · exact ⟨_, rfl⟩
  · exact ⟨_, rfl⟩

theorem Completes.warnIf {dev after : FpImageDevice cv δ} {result : TaskReturn cv}
    (completes : Completes dev after result) (condition : Bool) (text : String) :
    Completes dev (warnIf after condition text) result := by
  obtain ⟨ui, rfl⟩ := completes
  obtain ⟨other, same⟩ := warnIf_eq
    ({ dev with priv := dev.priv.completed result, ui := ui } : FpImageDevice cv δ) condition text
  exact ⟨other, same⟩

theorem completeMatch_error (dev : FpImageDevice cv δ) (data : FpMatchData cv) (error : GError)
    (result : TaskReturn cv) (unreported retried : String) :
    ∃ final, Completes dev
      (completeMatch (beginCompletion dev) data (some error) result unreported retried)
      (.error final) := by
  unfold completeMatch
  dsimp only
  split
  · exact ⟨_, _, rfl⟩
  · exact ⟨_, _, rfl⟩

/-- A running task that is ended by an error returns an error. -/
theorem fpiDeviceActionError_completes (dev : FpImageDevice cv δ) {task : Task cv}
    (current : dev.priv.currentTask = some task) (error : GError) :
    ∃ final, Completes dev (fpiDeviceActionError dev error) (.error final) := by
  have action : fpiDeviceGetCurrentAction dev = task.action := by
    unfold fpiDeviceGetCurrentAction
    rw [current]
  unfold fpiDeviceActionError
  rw [action]
  cases task with
  | opening =>
      dsimp only [Task.action, fpiDeviceOpenComplete]
      rw [current]
      exact ⟨_, _, rfl⟩
  | closing =>
      dsimp only [Task.action, fpiDeviceCloseComplete]
      rw [current]
      exact ⟨_, _, rfl⟩
  | enroll print =>
      dsimp only [Task.action, fpiDeviceEnrollComplete]
      rw [current]
      exact ⟨error, Completes.warnIf ⟨_, rfl⟩ _ _⟩
  | verify enrolled data =>
      dsimp only [Task.action, fpiDeviceVerifyComplete]
      rw [current]
      exact completeMatch_error dev data error _ _ _
  | identify gallery data =>
      dsimp only [Task.action, fpiDeviceIdentifyComplete]
      rw [current]
      exact completeMatch_error dev data error _ _ _
  | capture waitForFinger =>
      dsimp only [Task.action, fpiDeviceCaptureComplete]
      rw [current]
      exact ⟨error, Completes.warnIf ⟨_, rfl⟩ _ _⟩

theorem fpiDeviceEnrollComplete_completes {dev : FpImageDevice cv δ} {task : FpPrint cv}
    (current : dev.priv.currentTask = some (.enroll task)) (print : FpPrint cv) :
    ∃ result, Completes dev (fpiDeviceEnrollComplete dev (some print) none) result ∧
      (result = .print print ∨ ∃ error, result = .error error) := by
  unfold fpiDeviceEnrollComplete
  rw [current]
  dsimp only
  split
  · exact ⟨_, ⟨_, rfl⟩, Or.inr ⟨_, rfl⟩⟩
  · exact ⟨_, ⟨_, rfl⟩, Or.inl rfl⟩

theorem completeMatch_completes (dev : FpImageDevice cv δ) (data : FpMatchData cv)
    (result : TaskReturn cv) (unreported retried : String) :
    ∃ final, Completes dev
        (completeMatch (beginCompletion dev) data none result unreported retried) final ∧
      ((final = result ∧ data.resultReported = true ∧ data.error = none) ∨
        ∃ error, final = .error error) := by
  unfold completeMatch
  dsimp only
  cases reported : data.resultReported with
  | false => exact ⟨_, ⟨_, rfl⟩, Or.inr ⟨_, rfl⟩⟩
  | true =>
      cases noError : data.error with
      | none => exact ⟨_, ⟨_, rfl⟩, Or.inl ⟨rfl, rfl, rfl⟩⟩
      | some error => exact ⟨_, ⟨_, rfl⟩, Or.inr ⟨_, rfl⟩⟩

theorem fpiDeviceCaptureComplete_completes (dev : FpImageDevice cv δ) {waitForFinger : Bool}
    (current : dev.priv.currentTask = some (.capture waitForFinger))
    (image : Option (FpImage cv)) :
    ∃ result, Completes dev (fpiDeviceCaptureComplete dev image none) result ∧
      ((∃ taken, image = some taken ∧ result = .image taken) ∨
        ∃ error, result = .error error) := by
  unfold fpiDeviceCaptureComplete
  rw [current]
  cases image with
  | none => exact ⟨_, ⟨_, rfl⟩, Or.inr ⟨_, rfl⟩⟩
  | some image => exact ⟨_, ⟨_, rfl⟩, Or.inl ⟨image, rfl, rfl⟩⟩

/-- A device whose action has been reported with a result. -/
def Reports (dev after : FpImageDevice cv δ) (result : TaskReturn cv) : Prop :=
  ∃ captureImage ui,
    (captureImage = none ∨ captureImage = dev.image.captureImage) ∧
    after =
      { dev with
        priv := dev.priv.completed result
        image := { dev.image with actionError := none, captureImage := captureImage }
        ui := ui }

/-- The result of an action that ends with an error, or with all the stages of an
enrolment, is earned. -/
theorem reportAction_earned (dev : FpImageDevice cv δ) {request task : Task cv}
    (current : dev.priv.currentTask = some task)
    (develops : Develops cls sigfm origin dev.image.enrollStage request task)
    (due : dev.image.actionError = none → task.action = .enroll →
      dev.image.enrollStage = cls.nrEnrollStages)
    (taken : ∀ image, dev.image.captureImage = some image →
      origin { image with sigfmInfo := none }) :
    Ends (reportAction dev) fun after =>
      ∃ result, Reports dev after result ∧ Earned cls sigfm origin request ⟨task, result⟩ := by
  have failed (error : GError) : Earned cls sigfm origin request ⟨task, .error error⟩ :=
    .failed develops.action.1 error
  unfold reportAction
  cases reported : dev.image.actionError with
  | some error =>
      dsimp only
      obtain ⟨final, ui, completed⟩ := fpiDeviceActionError_completes
        { dev with image := { dev.image with actionError := none } } current error
      rw [completed]
      exact Ends.pure ⟨_, ⟨none, ui, Or.inl rfl, rfl⟩, failed final⟩
  | none =>
      -- Without an error nothing but the capture changes the image device.
      have kept {after : FpImageDevice cv δ} {result : TaskReturn cv}
          (completes : Completes dev after result) : Reports dev after result := by
        obtain ⟨ui, rfl⟩ := completes
        refine ⟨dev.image.captureImage, ui, Or.inr rfl, ?_⟩
        rw [← reported]
      dsimp only
      rw [current]
      cases develops with
      | @enroll template print infos scanned stages extended =>
          obtain ⟨result, completes, isPrint | ⟨error, isError⟩⟩ :=
            fpiDeviceEnrollComplete_completes current print
          · refine Ends.pure ⟨result, kept completes, ?_⟩
            rw [isPrint, extended]
            exact .enrolled infos scanned (stages.trans (due reported rfl))
          · refine Ends.pure ⟨result, kept completes, ?_⟩
            rw [isError]
            exact failed error
      | @verify enrolled start data borneOut =>
          dsimp only
          unfold fpiDeviceVerifyComplete
          rw [current]
          obtain ⟨result, completes, ⟨isMatch, wasReported, noError⟩ | ⟨error, isError⟩⟩ :=
            completeMatch_completes dev data
              (.int (if data.found.isSome then .success else .fail)) _ _
          · refine Ends.pure ⟨result, kept completes, ?_⟩
            obtain ⟨info, scanned, matched⟩ := borneOut.reported wasReported noError
            rw [isMatch]
            exact .verified scanned matched
          · refine Ends.pure ⟨result, kept completes, ?_⟩
            rw [isError]
            exact failed error
      | @identify gallery start data borneOut =>
          dsimp only
          unfold fpiDeviceIdentifyComplete
          rw [current]
          obtain ⟨result, completes, ⟨isMatch, wasReported, noError⟩ | ⟨error, isError⟩⟩ :=
            completeMatch_completes dev data .bool _ _
          · refine Ends.pure ⟨result, kept completes, ?_⟩
            obtain ⟨info, scanned, identified⟩ := borneOut.reported wasReported noError
            rw [isMatch]
            exact .identified scanned identified
          · refine Ends.pure ⟨result, kept completes, ?_⟩
            rw [isError]
            exact failed error
      | capture waitForFinger =>
          dsimp only
          obtain ⟨result, ⟨ui, completed⟩, isImage⟩ := fpiDeviceCaptureComplete_completes
            { dev with image := { dev.image with captureImage := none } } current
            dev.image.captureImage
          rw [completed]
          refine Ends.pure ⟨result, ⟨none, ui, Or.inl rfl, ?_⟩, ?_⟩
          · rw [← reported]
          · rcases isImage with ⟨image, isTaken, rfl⟩ | ⟨error, rfl⟩
            · exact .captured (taken image isTaken)
            · exact failed error

/-! ## Reports -/

/-- A device whose task has gone on. -/
def GoesOn (dev after : FpImageDevice cv δ) (task : Task cv) : Prop :=
  ∃ ui, after = { dev with priv := { dev.priv with currentTask := some task }, ui := ui }

theorem GoesOn.refl {dev : FpImageDevice cv δ} {task : Task cv}
    (current : dev.priv.currentTask = some task) (ui : Ui cv) :
    GoesOn dev { dev with ui := ui } task := by
  refine ⟨ui, ?_⟩
  rw [← current]

theorem reportMatch_goesOn (dev : FpImageDevice cv δ) (task : Task cv) (data : FpMatchData cv) :
    GoesOn dev (reportMatch dev task data) task := by
  unfold reportMatch
  dsimp only
  split
  · exact ⟨_, rfl⟩
  · split
    · exact ⟨_, rfl⟩
    · exact ⟨_, rfl⟩

theorem GoesOn.noted {dev noted after : FpImageDevice cv δ} {task : Task cv}
    (isNoted : ∃ ui, noted = { dev with ui := ui }) (goesOn : GoesOn noted after task) :
    GoesOn dev after task := by
  obtain ⟨ui, rfl⟩ := isNoted
  exact goesOn

/-- The warnings before a report. -/
theorem warnIf_noted {dev noted : FpImageDevice cv δ}
    (isNoted : ∃ ui, noted = { dev with ui := ui }) (condition : Bool) (text : String) :
    ∃ ui, warnIf noted condition text = { dev with ui := ui } := by
  obtain ⟨ui, rfl⟩ := isNoted
  exact warnIf_eq ({ dev with ui := ui } : FpImageDevice cv δ) condition text

/-- A match that a scan bears out may be reported; a report that is not the first
changes nothing. -/
theorem fpiDeviceVerifyReport_develops {dev : FpImageDevice cv δ} {enrolled : FpPrint cv}
    {data : FpMatchData cv} (current : dev.priv.currentTask = some (.verify enrolled data))
    (borneOut : VerifyData cls sigfm origin enrolled data) (result : FpiMatchResult)
    (print : Option (FpPrint cv)) (error : Option GError)
    (matched : error = none → result ≠ .error → ∃ info, Scanned sigfm origin info ∧
      matchPrint cls sigfm enrolled (scannedPrint cls.id info) = .ok (result, none)) :
    ∃ next, GoesOn dev (fpiDeviceVerifyReport dev result print error) (.verify enrolled next) ∧
      VerifyData cls sigfm origin enrolled next := by
  unfold fpiDeviceVerifyReport
  rw [current]
  dsimp only
  cases reported : data.resultReported with
  | true => exact ⟨data, .refl current _, borneOut⟩
  | false =>
      have fresh := borneOut.unreported reported
      rw [if_neg Bool.false_ne_true]
      split
      · refine ⟨_, .noted (warnIf_noted (warnIf_noted (warnIf_eq dev _ _) _ _) _ _)
          (reportMatch_goesOn _ _ _), ?_, ?_⟩
        · intro impossible
          cases impossible
        · intro _ impossible
          cases impossible
      · rename_i clean
        obtain ⟨noError, isResult⟩ := not_or.mp clean
        have absent : error = none := by simpa using noError
        obtain ⟨info, scanned, isMatch⟩ := matched absent isResult
        refine ⟨_, reportMatch_goesOn _ _ _, ?_, ?_⟩
        · intro impossible
          cases impossible
        · intro _ _
          refine ⟨info, scanned, ?_⟩
          rw [isMatch]
          cases result with
          | error => exact absurd rfl isResult
          | success => rfl
          | fail =>
              have different : ¬ FpiMatchResult.fail = .success := FpiMatchResult.noConfusion
              dsimp only
              rw [if_neg different, fresh]
              rfl

theorem fpiDeviceIdentifyReport_develops {dev : FpImageDevice cv δ} {gallery : List (FpPrint cv)}
    {data : FpMatchData cv} (current : dev.priv.currentTask = some (.identify gallery data))
    (borneOut : IdentifyData cls sigfm origin gallery data) (found : Option Nat)
    (print : Option (FpPrint cv)) (error : Option GError)
    (identified : error = none → ∃ info, Scanned sigfm origin info ∧
      Identified cls sigfm gallery (scannedPrint cls.id info)
        (found.bind fun index => gallery[index]?)) :
    ∃ next, GoesOn dev (fpiDeviceIdentifyReport dev found print error) (.identify gallery next) ∧
      IdentifyData cls sigfm origin gallery next := by
  unfold fpiDeviceIdentifyReport
  rw [current]
  dsimp only
  cases reported : data.resultReported with
  | true => exact ⟨data, .refl current _, borneOut⟩
  | false =>
      have fresh := borneOut.unreported reported
      rw [if_neg Bool.false_ne_true]
      cases error with
      | some error =>
          refine ⟨_, .noted (warnIf_noted (warnIf_noted (warnIf_eq dev _ _) _ _) _ _)
            (reportMatch_goesOn _ _ _), ?_, ?_⟩
          · intro impossible
            cases impossible
          · intro _ impossible
            cases impossible
      | none =>
          obtain ⟨info, scanned, isMatch⟩ := identified rfl
          refine ⟨_, .noted (warnIf_eq dev _ _) (reportMatch_goesOn _ _ _), ?_, ?_⟩
          · intro impossible
            cases impossible
          · intro _ _
            refine ⟨info, scanned, ?_⟩
            dsimp only
            rw [fresh, Option.or_none]
            exact isMatch

/-! ## Matching a scan -/

variable (cls sigfm) in
/-- A scan is matched without a fault: with an error, or with a result. -/
theorem matchPrint_ends (template : FpPrint cv) (info : SigfmImgInfo cv) :
    Ends (matchPrint cls sigfm template (scannedPrint cls.id info)) fun out =>
      (out.1 ≠ .error ∧ out.2 = none) ∨
        ∃ error, error.isRetry = false ∧ out = (.error, some error) := by
  have looped (against : SigfmImgInfo cv) (prints : List (SigfmImgInfo cv)) :
      ((sigfmMatchLoop sigfm.measure sigfm.matcher against cls.threshold prints).result ≠ .error ∧
        (sigfmMatchLoop sigfm.measure sigfm.matcher against cls.threshold prints).error = none) ∨
      ∃ code text, sigfmMatchLoop sigfm.measure sigfm.matcher against cls.threshold prints =
        ⟨.error, some (code, text)⟩ := by
    induction prints with
    | nil => exact Or.inl ⟨FpiMatchResult.noConfusion, rfl⟩
    | cons pinfo rest ih =>
        unfold sigfmMatchLoop
        dsimp only
        split
        · exact Or.inr ⟨_, _, rfl⟩
        · split
          · exact Or.inl ⟨FpiMatchResult.noConfusion, rfl⟩
          · exact ih
  unfold matchPrint fpiPrintSigfmMatch
  cases template.prints with
  | sigfm prints =>
      dsimp only [scannedPrint, orHalt]
      rcases looped info prints with ⟨isResult, noError⟩ | ⟨code, text, isError⟩
      · apply Ends.pure
        left
        exact ⟨isResult, by rw [noError]; rfl⟩
      · rw [isError]
        exact Ends.pure (Or.inr ⟨_, rfl, rfl⟩)
  | undefined => exact Ends.pure (Or.inr ⟨_, rfl, rfl⟩)
  | raw => exact Ends.pure (Or.inr ⟨_, rfl, rfl⟩)
  | nbis prints => exact Ends.pure (Or.inr ⟨_, rfl, rfl⟩)

variable (cls sigfm) in
/-- The loop over a gallery finds the first match, unless it ends with an
error. -/
theorem identifyLoop_ends (info : SigfmImgInfo cv) (first templates : List (FpPrint cv))
    (before : ∀ template ∈ first,
      matchPrint cls sigfm template (scannedPrint cls.id info) = .ok (.fail, none)) :
    Ends (identifyLoop cls sigfm (scannedPrint cls.id info) first.length templates) fun out =>
      (out.2 = none ∧ Identified cls sigfm (first ++ templates) (scannedPrint cls.id info)
        (out.1.bind fun index => (first ++ templates)[index]?)) ∨
      ∃ error, error.isRetry = false ∧ out = (none, some error) := by
  induction templates generalizing first with
  | nil =>
      apply Ends.pure
      refine Or.inl ⟨rfl, ?_⟩
      rw [List.append_nil]
      exact before
  | cons template templates ih =>
      unfold identifyLoop
      obtain ⟨⟨result, error⟩, isMatch, clean⟩ := matchPrint_ends cls sigfm template info
      rw [isMatch]
      rcases clean with ⟨isResult, noError⟩ | ⟨error, notRetry, isError⟩
      · dsimp only at isResult noError
        subst noError
        cases result with
        | error => exact absurd rfl isResult
        | success =>
            refine Ends.pure (Or.inl ⟨rfl, ?_⟩)
            have here : (first ++ template :: templates)[first.length]? = some template := by
              simp
            change Identified cls sigfm _ _ (first ++ template :: templates)[first.length]?
            rw [here]
            exact ⟨first, templates, rfl, isMatch, before⟩
        | fail =>
            have later := ih (first ++ [template]) (by
              intro other member
              rcases List.mem_append.mp member with earlier | last
              · exact before other earlier
              · rw [List.mem_singleton.mp last]
                exact isMatch)
            rw [List.length_append, List.append_assoc] at later
            exact later
      · cases isError
        exact Ends.pure (Or.inr ⟨error, notRetry, rfl⟩)

end Tasks

end Gxfp.Fprint
