import Gxfp.Fprint.DriverScans
import Gxfp.Fprint.MatchCount

/-!
# Runs of a device

The device serves one request at a time.  `deviceStep_serves` shows that every
step but a late scan is a step of the abstract server of `Lib.Serving`, and the
run theorems follow: no assertion fails, requests and results alternate, each
result is one that its request admits, and a task that is running is always
waited for by a timer, a scan or an idle callback.
-/

namespace Gxfp.Fprint

open Lib.Execution
open Lib.Outcome
open Lib.Serving
open Gxfp.User

section Runs

variable {cv : OpenCv} {E α : Type}

/-! ## Steps -/

/-- The task that an input asks for. -/
def Input.request : Input cv → Option (Task cv)
  | .openDevice _ => some .opening
  | .closeDevice => some .closing
  | .enroll template _ => some (.enroll template)
  | .verify enrolled _ => some (.verify enrolled (.new cv))
  | .identify gallery _ => some (.identify gallery (.new cv))
  | .capture waitForFinger _ => some (.capture waitForFinger)
  | _ => none

/-- What a step is to the clients of a device. -/
def stepEvent (input : Input cv) (refused : Option GError) (returned : Option (Returned cv)) :
    Option (Event (Task cv) (Returned cv)) :=
  match input.request with
  | some task =>
      match refused with
      | none => some (.accepted task)
      | some _ => none
  | none => returned.map .answered

/-- The event of an executed step. -/
def deviceEvent
    (transition : Transition (Except Halt (FpiDeviceGxfp cv E)) (Input cv) (Output cv)) :
    Option (Event (Task cv) (Returned cv)) :=
  stepEvent transition.input transition.output.refused transition.output.returned

/-- A step that is not a late scan. -/
def Timely (transition : Transition (Except Halt (FpiDeviceGxfp cv E)) (Input cv) (Output cv)) :
    Prop :=
  ∀ self, transition.before = .ok self → ¬ LateScan self transition.input

variable {env : Env} {engine : TlsEngine E} {sigfm : SigfmLibrary cv α}

/-- A request that is refused, or accepted by a server that has none. -/
theorem request_serves {pending : Option (Task cv)} {self : FpiDeviceGxfp cv E}
    (holds : Holds env engine sigfm pending self) {input : Input cv} {task : Task cv}
    (isRequest : input.request = some task)
    {out : Except Halt (Option GError × FpiDeviceGxfp cv E)}
    (ends : Ends out fun out => (∃ error, out = (some error, self)) ∨
      (pending = none ∧ out.1 = none ∧ Holds env engine sigfm (some task) out.2)) :
    Ends (request out) fun out => ∃ next,
      Serves (Earned (gxfpClass env engine) sigfm Delivered) pending
        (stepEvent input out.1 out.2.1) next ∧ Holds env engine sigfm next out.2.2 := by
  apply ends.bind
  rintro ⟨refused, after⟩ (⟨error, isRefused⟩ | ⟨rfl, accepted, nextHolds⟩)
  · cases isRefused
    refine Ends.pure ⟨pending, ?_, holds⟩
    unfold stepEvent
    rw [isRequest]
    exact .silent pending
  · cases accepted
    refine Ends.pure ⟨some task, ?_, nextHolds⟩
    unfold stepEvent
    rw [isRequest]
    exact .accept task

/-- A callback that returns nothing. -/
theorem callback_serves {pending : Option (Task cv)} {input : Input cv}
    (noRequest : input.request = none) {out : Except Halt (FpiDeviceGxfp cv E)}
    (ends : Ends out (Holds env engine sigfm pending)) :
    Ends (callback out) fun out => ∃ next,
      Serves (Earned (gxfpClass env engine) sigfm Delivered) pending
        (stepEvent input out.1 out.2.1) next ∧ Holds env engine sigfm next out.2.2 := by
  apply ends.bind
  intro after holds
  refine Ends.pure ⟨pending, ?_, holds⟩
  unfold stepEvent
  rw [noRequest]
  exact .silent pending

/-- Every input but a late scan is a step of the server. -/
theorem deviceInput_serves {pending : Option (Task cv)} {self : FpiDeviceGxfp cv E}
    (holds : Holds env engine sigfm pending self) (input : Input cv)
    (timely : ¬ LateScan self input) :
    Ends (deviceInput env engine sigfm self input) fun out => ∃ next,
      Serves (Earned (gxfpClass env engine) sigfm Delivered) pending
        (stepEvent input out.1 out.2.1) next ∧ Holds env engine sigfm next out.2.2 := by
  cases input with
  | openDevice host =>
      apply request_serves holds rfl
      apply Ends.ok
      rcases fpDeviceOpen_holds holds host with ⟨error, refused⟩ | accepted
      · exact Or.inl ⟨error, refused⟩
      · exact Or.inr accepted
  | closeDevice => exact request_serves holds rfl (fpDeviceClose_holds holds)
  | enroll template hot =>
      exact request_serves holds rfl (fpDeviceCaptures_holds holds (.enroll template) hot)
  | verify enrolled hot =>
      exact request_serves holds rfl (fpDeviceCaptures_holds holds (.verify enrolled) hot)
  | identify gallery hot =>
      exact request_serves holds rfl (fpDeviceCaptures_holds holds (.identify gallery) hot)
  | capture waitForFinger hot =>
      exact request_serves holds rfl (fpDeviceCaptures_holds holds (.capture waitForFinger) hot)
  | cancel => exact callback_serves rfl (Ends.ok (fpDeviceTaskCancelledCb_holds holds))
  | tooHot => exact callback_serves rfl (Ends.ok (fpiDeviceTooHot_holds holds))
  | idleCancel =>
      apply callback_serves rfl
      split
      · rename_i waits
        exact fpDeviceCancelInIdleCb_holds holds waits
      · exact Ends.ok holds
  | idleReturn =>
      unfold deviceInput
      cases returns : self.priv.idleReturns with
      | nil => exact Ends.ok ⟨pending, .silent pending, holds⟩
      | cons result results =>
          obtain ⟨request, returned, rfl, isReturned, earned, nextHolds⟩ :=
            fpDeviceTaskReturnInIdleCb_holds holds returns
          dsimp only
          rw [isReturned]
          exact Ends.ok ⟨none, .answer earned, nextHolds⟩
  | timeout polled =>
      apply callback_serves rfl
      split
      · exact Ends.ok holds
      · exact timeout_holds holds.shape polled
  | scanDone index =>
      apply callback_serves rfl
      split
      · exact Ends.ok holds
      · rename_i scan isScan
        exact scanDone_holds holds timely isScan

variable (env engine sigfm) in
/-- A process that goes on, with a device that serves a request. -/
def Serving (pending : Option (Task cv)) (state : Except Halt (FpiDeviceGxfp cv E)) : Prop :=
  ∃ self, state = .ok self ∧ Holds env engine sigfm pending self

/-- Every step but a late scan is a step of the server. -/
theorem deviceStep_serves (pending : Option (Task cv)) (state : Except Halt (FpiDeviceGxfp cv E))
    (input : Input cv) (serving : Serving env engine sigfm pending state)
    (timely : Timely (stepTransition (deviceStep env engine sigfm) state input)) :
    ∃ next,
      Serves (Earned (gxfpClass env engine) sigfm Delivered) pending
        (deviceEvent (stepTransition (deviceStep env engine sigfm) state input)) next ∧
      Serving env engine sigfm next (deviceStep env engine sigfm state input).1 := by
  obtain ⟨self, rfl, holds⟩ := serving
  obtain ⟨⟨refused, returned, after⟩, stepped, next, serves, nextHolds⟩ :=
    deviceInput_serves holds input (timely self rfl)
  have result : deviceStep env engine sigfm (.ok self) input =
      (.ok { after with ui := { after.ui with notes := [] } },
        ⟨after.ui.notes.reverse, refused, returned⟩) := by
    unfold deviceStep
    dsimp only
    rw [stepped]
  refine ⟨next, ?_, ?_⟩
  · unfold deviceEvent stepTransition
    rw [result]
    exact serves
  · rw [result]
    exact ⟨_, rfl, nextHolds.noted _⟩

variable (env engine sigfm) in
/-- A device before its first use serves nobody. -/
theorem fpiDeviceGxfpInit_serving (count : Nat) :
    Serving env engine sigfm none (.ok (fpiDeviceGxfpInit env engine count)) := by
  have definite : SessionRun.Definite
      (sessionStep env engine (⟨none, ⟨count, []⟩⟩ : SessionRun E) .init).1 := by
    apply sessionStep_definite
    intro _ impl impossible
    cases impossible
  have closed : (sessionStep env engine (⟨none, ⟨count, []⟩⟩ : SessionRun E) .init).1.session =
        none ∨
      (sessionStep env engine (⟨none, ⟨count, []⟩⟩ : SessionRun E) .init).1.HasMode .closed := by
    dsimp only [sessionStep]
    rcases sessionEnsureImpl_cases env (none : Session E) ⟨count, []⟩ with ⟨-, ensured⟩ |
      ⟨impl, next, ensured, present | ⟨-, released⟩, -⟩
    · rw [ensured]
      exact Or.inl rfl
    · cases present
    · rw [ensured]
      exact Or.inr ⟨impl, rfl, released.mode⟩
  have dormant : Dormant (sessionStep env engine (⟨none, ⟨count, []⟩⟩ : SessionRun E) .init).1 :=
    ⟨definite, closed⟩
  refine ⟨_, rfl, .shut rfl ⟨rfl, rfl, rfl, rfl⟩ ⟨rfl, rfl, ⟨rfl, rfl⟩, rfl, ?_⟩ dormant,
    fun _ => dormant.armed⟩
  intro image impossible
  cases impossible

/-! ## Runs -/

variable (env engine sigfm) in
/-- The steps of a device from its creation on. -/
def deviceRun (count : Nat) (inputs : List (Input cv)) :
    List (Transition (Except Halt (FpiDeviceGxfp cv E)) (Input cv) (Output cv)) :=
  transitions (deviceStep env engine sigfm) (.ok (fpiDeviceGxfpInit env engine count)) inputs

variable (env engine sigfm) in
/-- The process after the inputs. -/
def deviceFinal (count : Nat) (inputs : List (Input cv)) : Except Halt (FpiDeviceGxfp cv E) :=
  final (deviceStep env engine sigfm) (.ok (fpiDeviceGxfpInit env engine count)) inputs

variable (env engine sigfm) in
/-- A run without a late scan serves its clients, and goes on. -/
theorem deviceRun_served (count : Nat) (inputs : List (Input cv))
    (timely : ∀ transition ∈ deviceRun env engine sigfm count inputs, Timely transition) :
    ∃ pending, Serving env engine sigfm pending (deviceFinal env engine sigfm count inputs) ∧
      Served (Earned (gxfpClass env engine) sigfm Delivered)
        (eventsOf deviceEvent (deviceRun env engine sigfm count inputs)) pending :=
  served_of_simulation deviceStep_serves (fpiDeviceGxfpInit_serving env engine sigfm count) inputs
    timely

variable (env engine sigfm) in
/-- A run in which no scan ends has no late scan. -/
theorem timely_of_no_scan (count : Nat) {inputs : List (Input cv)}
    (noScan : ∀ index, ∀ input ∈ inputs, input ≠ .scanDone index) :
    ∀ transition ∈ deviceRun env engine sigfm count inputs, Timely transition := by
  rintro transition member self - ⟨index, scan, isInput, -⟩
  exact noScan index transition.input (input_mem_of_mem member) isInput

/-- A library that finds the same 25 points in every image. -/
def gridSigfm : SigfmLibrary opencv4 (Int × Int × Int) where
  measure := exactMeasure
  matcher := gridMatcher
  extract := fun _ => gridPrint 25 (by decide)

/-- A host with a device and a key of the right length. -/
def keyHost : OpenHost where
  chardevPath := some "/dev/gxfp"
  pskEnv := none
  pskFile := ⟨.ok ⟨[List.replicate 32 0], by simp [FILE_CHUNK], false⟩, true, fun _ => true⟩

/-- A device is opened and activated for a verification, which is cancelled, and
closed again. -/
def cancelledVerification : List (Input opencv4) :=
  [.openDevice keyHost, .idleReturn, .verify (sigfmPrint [tenPoints]) false, .timeout 0, .cancel,
    .idleCancel, .timeout 0, .idleReturn, .closeDevice, .idleReturn]

theorem cancelledVerification_timely (inputs : List (Input opencv4))
    (isPrefix : inputs <+: cancelledVerification) :
    ∀ transition ∈ deviceRun steadyEnv (channelEngine clearCipher) gridSigfm 0 inputs,
      Timely transition := by
  apply timely_of_no_scan
  rintro index _ member rfl
  have inAll := isPrefix.subset member
  simp [cancelledVerification] at inAll

/-- What holds of a device between two callbacks. -/
structure Orderly (dev : FpiDeviceGxfp cv E) : Prop where
  oneScan : dev.scans.length ≤ 1
  oneReturn : dev.priv.idleReturns.length ≤ 1
  scanHasTask : dev.scans ≠ [] → dev.priv.currentTask.isSome = true ∧ dev.priv.idleReturns = []
  returnHasTask : dev.priv.idleReturns ≠ [] → dev.priv.currentTask.isSome = true
  activeHasTask : dev.image.active = true →
    dev.priv.currentTask.isSome = true ∧ dev.priv.idleReturns = []
  resultIsLast : dev.priv.idleReturns ≠ [] →
    dev.image.active = false ∧ dev.image.fingerPresent = false ∧ dev.scans = []

theorem Pending.isSome {cls : FpImageDeviceClass cv (GxfpDriver E)} {request : Task cv}
    {stage : Nat} {priv : FpDevicePrivate cv}
    (pending : Pending cls sigfm request stage priv) : priv.currentTask.isSome = true := by
  obtain ⟨task, current, -⟩ := pending.develops
  rw [current]
  rfl

theorem Finished.isSome {cls : FpImageDeviceClass cv (GxfpDriver E)} {request : Task cv}
    {priv : FpDevicePrivate cv} (finished : Finished cls sigfm request priv) :
    priv.currentTask.isSome = true ∧ priv.idleReturns.length = 1 := by
  obtain ⟨task, result, current, returns, -⟩ := finished.earned
  rw [current, returns]
  exact ⟨rfl, rfl⟩

/-- A device with a result is at rest. -/
theorem orderly_of_finished {cls : FpImageDeviceClass cv (GxfpDriver E)} {request : Task cv}
    {dev : FpiDeviceGxfp cv E} (finished : Finished cls sigfm request dev.priv)
    (calm : Calm dev.image dev.scans) : Orderly dev := by
  obtain ⟨isSome, one⟩ := finished.isSome
  refine ⟨by rw [calm.unscanned.2]; exact Nat.zero_le 1, one.le, ?_, fun _ => isSome, ?_, ?_⟩
  · intro scans
    exact absurd calm.unscanned.2 scans
  · intro active
    rw [calm.inactive] at active
    cases active
  · intro _
    exact ⟨calm.inactive, calm.noFinger, calm.unscanned.2⟩

theorem orderly_of_pending {cls : FpImageDeviceClass cv (GxfpDriver E)} {request : Task cv}
    {stage : Nat} {dev : FpiDeviceGxfp cv E} (pending : Pending cls sigfm request stage dev.priv)
    (scans : dev.scans.length ≤ 1) : Orderly dev := by
  refine ⟨scans, by rw [pending.notReturned]; exact Nat.zero_le 1,
    fun _ => ⟨pending.isSome, pending.notReturned⟩, fun _ => pending.isSome,
    fun _ => ⟨pending.isSome, pending.notReturned⟩, fun returns => ?_⟩
  exact absurd pending.notReturned returns

theorem orderly_of_free {dev : FpiDeviceGxfp cv E} (free : Free dev.priv)
    (calm : Calm dev.image dev.scans) : Orderly dev := by
  refine ⟨by rw [calm.unscanned.2]; exact Nat.zero_le 1,
    by rw [free.idleReturns]; exact Nat.zero_le 1, ?_, ?_, ?_, ?_⟩
  · intro scans
    exact absurd calm.unscanned.2 scans
  · intro returns
    exact absurd free.idleReturns returns
  · intro active
    rw [calm.inactive] at active
    cases active
  · intro returns
    exact absurd free.idleReturns returns

theorem Shape.orderly {pending : Option (Task cv)} {dev : FpiDeviceGxfp cv E}
    (shape : Shape (gxfpClass env engine) sigfm pending (core dev)) : Orderly dev := by
  have one (scans : Scans dev.image dev.scans) : dev.scans.length ≤ 1 := by
    obtain ⟨-, scan, isScan, -⟩ := scans
    rw [isScan]
    exact Nat.le_refl 1
  cases shape with
  | shut _ free calm => exact orderly_of_free free calm
  | rests _ free calm => exact orderly_of_free free calm
  | opening _ finished calm => exact orderly_of_finished finished calm
  | closing finished calm => exact orderly_of_finished finished calm
  | returning _ _ finished calm => exact orderly_of_finished finished calm
  | activating _ pending calm =>
      apply orderly_of_pending pending
      rw [show dev.scans = [] from calm.unscanned.2]
      exact Nat.zero_le 1
  | working active =>
      apply orderly_of_pending active.pending
      rcases active.scans with scans | unscanned
      · exact one scans
      · rw [show dev.scans = [] from unscanned.2]
        exact Nat.zero_le 1
  | waiting _ _ scans _ pending => exact orderly_of_pending pending (one scans)

variable (env engine sigfm) in
/-- No run without a late scan ends in a failed assertion, a null pointer or a
read outside a buffer, and it keeps at most one scan and at most one result, each
with its task. -/
theorem device_never_halts (count : Nat) (inputs : List (Input cv))
    (timely : ∀ transition ∈ deviceRun env engine sigfm count inputs, Timely transition) :
    ∃ self, deviceFinal env engine sigfm count inputs = .ok self ∧ Orderly self := by
  obtain ⟨pending, ⟨self, reached, holds⟩, -⟩ :=
    deviceRun_served env engine sigfm count inputs timely
  exact ⟨self, reached, holds.shape.orderly⟩

theorem device_never_halts_cancelled :
    ∃ self, deviceFinal steadyEnv (channelEngine clearCipher) gridSigfm 0
      cancelledVerification = .ok self ∧ Orderly self :=
  device_never_halts steadyEnv (channelEngine clearCipher) gridSigfm 0 cancelledVerification
    (cancelledVerification_timely _ (List.prefix_refl _))

/-- A running task is waited for. -/
theorem Holds.awaited {pending : Option (Task cv)} {self : FpiDeviceGxfp cv E}
    (holds : Holds env engine sigfm pending self)
    (images : ImageWritesDefinite self.driver.sess.io.trace)
    (running : self.priv.currentTask.isSome = true) :
    self.driver.timerSource.isSome = true ∨ self.scans ≠ [] ∨ self.priv.idleReturns ≠ [] := by
  have armed := holds.armed images
  have free_absurd (free : Free self.priv) : False := by
    rw [free.currentTask] at running
    cases running
  have returns {request : Task cv}
      (finished : Finished (gxfpClass env engine) sigfm request self.priv) :
      self.priv.idleReturns ≠ [] := by
    intro empty
    have one := finished.isSome.2
    rw [empty] at one
    cases one
  have scanned (scans : Scans self.image self.scans) : self.scans ≠ [] := by
    obtain ⟨-, scan, isScan, -⟩ := scans
    rw [isScan]
    exact List.cons_ne_nil _ _
  cases holds.shape with
  | shut _ free => exact (free_absurd free).elim
  | rests _ free => exact (free_absurd free).elim
  | opening _ finished => exact Or.inr (Or.inr (returns finished))
  | closing finished => exact Or.inr (Or.inr (returns finished))
  | returning _ _ finished => exact Or.inr (Or.inr (returns finished))
  | @activating request mode _ _ _ _ inMode activates =>
      refine Or.inl (armed mode inMode.hasMode ?_)
      cases mode with
      | activatingTls => rfl
      | activatingWaitUp => rfl
      | activatingDarkCapture => rfl
      | _ => cases activates
  | @working request mode _ active link =>
      rcases active.scans with scans | unscanned
      · exact Or.inr (Or.inl (scanned scans))
      · refine Or.inl (armed mode active.inMode.hasMode ?_)
        have noScan : (core self).image.minutiaeScanActive = false := unscanned.1
        rw [noScan] at link
        generalize (core self).image.state = state at link
        generalize (core self).image.fingerPresent = finger at link
        cases link with
        | awaitFingerOn => rfl
        | capture => rfl
        | awaitFingerOff => rfl
  | waiting _ _ scans => exact Or.inr (Or.inl (scanned scans))

variable (env engine sigfm) in
/-- In a run without a late scan, in which no write of `GET_IMAGE` returns
`-EAGAIN`, no task is forgotten: a timer, a scan or an idle callback will go on
with it. -/
theorem device_task_is_awaited (count : Nat) (inputs : List (Input cv))
    (timely : ∀ transition ∈ deviceRun env engine sigfm count inputs, Timely transition)
    {self : FpiDeviceGxfp cv E} (reached : deviceFinal env engine sigfm count inputs = .ok self)
    (images : ImageWritesDefinite self.driver.sess.io.trace)
    (running : self.priv.currentTask.isSome = true) :
    self.driver.timerSource.isSome = true ∨ self.scans ≠ [] ∨ self.priv.idleReturns ≠ [] := by
  obtain ⟨pending, ⟨other, isOther, holds⟩, -⟩ :=
    deviceRun_served env engine sigfm count inputs timely
  rw [reached] at isOther
  cases isOther
  exact holds.awaited images running

/-- The verification that is being activated waits for the timer. -/
theorem device_task_is_awaited_activating :
    ∃ self, deviceFinal steadyEnv (channelEngine clearCipher) gridSigfm 0
        (cancelledVerification.take 4) = .ok self ∧
      self.priv.currentTask.isSome = true ∧
      (self.driver.timerSource.isSome = true ∨ self.scans ≠ [] ∨ self.priv.idleReturns ≠ []) := by
  have ends : Ends (deviceFinal steadyEnv (channelEngine clearCipher) gridSigfm 0
      (cancelledVerification.take 4)) fun self =>
        ImageWritesDefinite self.driver.sess.io.trace ∧ self.priv.currentTask.isSome = true := by
    decide +kernel
  obtain ⟨self, reached, images, running⟩ := ends
  exact ⟨self, reached, running, device_task_is_awaited steadyEnv (channelEngine clearCipher)
    gridSigfm 0 (cancelledVerification.take 4)
    (cancelledVerification_timely _ (List.take_prefix 4 _)) reached images running⟩

/-- The pending request is that of the current task. -/
theorem Shape.current {pending : Option (Task cv)} {dev : FpiDeviceGxfp cv E}
    (shape : Shape (gxfpClass env engine) sigfm pending (core dev)) :
    dev.priv.currentTask.map Task.action = pending.map Task.action := by
  have ofPending {request : Task cv} {stage : Nat}
      (isPending : Pending (gxfpClass env engine) sigfm request stage dev.priv) :
      dev.priv.currentTask.map Task.action = some request.action := by
    obtain ⟨task, current, develops⟩ := isPending.develops
    rw [current]
    exact congrArg some develops.action.1
  have ofFinished {request : Task cv}
      (finished : Finished (gxfpClass env engine) sigfm request dev.priv) :
      dev.priv.currentTask.map Task.action = some request.action := by
    obtain ⟨task, result, current, -, earned⟩ := finished.earned
    rw [current]
    exact congrArg some earned.action
  have ofFree (free : Free dev.priv) : dev.priv.currentTask.map Task.action = none := by
    rw [free.currentTask]
    rfl
  cases shape with
  | shut _ free => exact ofFree free
  | rests _ free => exact ofFree free
  | opening _ finished => exact ofFinished finished
  | closing finished => exact ofFinished finished
  | returning _ _ finished => exact ofFinished finished
  | activating _ pending => exact ofPending pending
  | working active => exact ofPending active.pending
  | waiting _ _ _ _ pending => exact ofPending pending

variable (env engine sigfm) in
/-- In a run without a late scan, accepted requests and returned results
alternate, each result is one that its request admits, and the request that is
left is that of the current task. -/
theorem device_serves_in_turn (count : Nat) (inputs : List (Input cv))
    (timely : ∀ transition ∈ deviceRun env engine sigfm count inputs, Timely transition) :
    ∃ answered pending self,
      eventsOf deviceEvent (deviceRun env engine sigfm count inputs) =
        history answered ++ pendingEvent pending ∧
      (∀ pair ∈ answered, Earned (gxfpClass env engine) sigfm Delivered pair.1 pair.2) ∧
      deviceFinal env engine sigfm count inputs = .ok self ∧
      self.priv.currentTask.map Task.action = pending.map Task.action := by
  obtain ⟨pending, ⟨self, reached, holds⟩, answered, events, earned⟩ :=
    deviceRun_served env engine sigfm count inputs timely
  exact ⟨answered, pending, self, events, earned, reached, holds.shape.current⟩

/-- Three requests are accepted and answered. -/
theorem device_serves_in_turn_cancelled :
    (eventsOf deviceEvent (deviceRun steadyEnv (channelEngine clearCipher) gridSigfm 0
        cancelledVerification)).length = 6 ∧
      ∃ answered pending self,
        eventsOf deviceEvent (deviceRun steadyEnv (channelEngine clearCipher) gridSigfm 0
          cancelledVerification) = history answered ++ pendingEvent pending ∧
        (∀ pair ∈ answered, Earned (gxfpClass steadyEnv (channelEngine clearCipher)) gridSigfm
          Delivered pair.1 pair.2) ∧
        deviceFinal steadyEnv (channelEngine clearCipher) gridSigfm 0 cancelledVerification =
          .ok self ∧
        self.priv.currentTask.map Task.action = pending.map Task.action :=
  ⟨by decide +kernel, device_serves_in_turn steadyEnv (channelEngine clearCipher) gridSigfm 0
    cancelledVerification (cancelledVerification_timely _ (List.prefix_refl _))⟩

end Runs

end Gxfp.Fprint
