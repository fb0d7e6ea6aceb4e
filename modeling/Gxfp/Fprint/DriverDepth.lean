import Gxfp.Fprint.Driver
import Gxfp.User.SessionReplies

/-!
# How deep the virtual functions nest

A change of state of the image device is a call on the session, whose events may
end the action, which deactivates the driver, which changes the state again.
The nesting ends there: a session that is made idle, inactive or is deactivated
reports no error, so that no third change of state leads to a further call.

`gxfpClassAbove_eq` says so for every device, reachable or not: what stands below
three nested virtual functions is never asked.
-/

namespace Gxfp.Fprint

open Gxfp.User

section Depth

variable {cv : OpenCv} {E : Type} (env : Env) (engine : TlsEngine E)

/-! ## Events of the session -/

/-- The states in which a session cannot fail. -/
def FpiImageDeviceState.isQuiet : FpiImageDeviceState → Bool
  | .inactive => true
  | .activating => true
  | .deactivating => true
  | .idle => true
  | _ => false

/-- The events of a call that ends in an error of the given target. -/
def IsError (target : ErrorTarget) (ev : SessionEvents) : Prop :=
  ∃ code msg, ev = errorEvents code target msg

theorem isError_errorEvents (code : Int) (target : ErrorTarget) (msg : String) :
    IsError target (errorEvents code target msg) :=
  ⟨code, msg, rfl⟩

/-- A change of state of a session asks for a tick, reports an error that does
not belong to the activation, or nothing. -/
theorem sessionStep_changeState (run : SessionRun E) (state : SessionState) :
    (sessionStep env engine run (.changeState state)).2.ev = sessionEventsClear ∨
      ((∃ mode, WaitsIn state mode) ∧
        ((sessionStep env engine run (.changeState state)).2.ev = tickNow ∨
          ∃ target ≠ ErrorTarget.activate,
            IsError target (sessionStep env engine run (.changeState state)).2.ev)) := by
  rcases run with ⟨session, io⟩
  cases session with
  | none => exact Or.inl rfl
  | some impl =>
      obtain ⟨after, -, reply⟩ := sessionStep_reply env engine
        (⟨impl, rfl, rfl⟩ : SessionRun.HasMode ⟨some impl, io⟩ impl.mode)
        (rfl : SessionCall.isDriven (.changeState state) = true)
      generalize (sessionStep env engine ⟨some impl, io⟩ (.changeState state)).2.ev = ev
        at reply ⊢
      cases reply with
      | ignored _ _ => exact Or.inl rfl
      | rests _ _ _ => exact Or.inl rfl
      | waits _ _ waits => exact Or.inr ⟨⟨_, waits⟩, Or.inl rfl⟩
      | refused _ _ waits code generic msg =>
          exact Or.inr ⟨⟨_, waits⟩, Or.inr ⟨_, generic, code, msg, rfl⟩⟩
      | woken wakes _ => cases wakes

/-- A session does not wait in a quiet state. -/
theorem FpiImageDeviceState.not_waitsIn {state : FpiImageDeviceState}
    (quiet : state.isQuiet = true) (mode : SessionMode) :
    ¬ WaitsIn (sessionStateOf state) mode := by
  intro waits
  cases state with
  | inactive => cases waits
  | activating => cases waits
  | deactivating => cases waits
  | idle => cases waits
  | awaitFingerOn => cases quiet
  | capture => cases quiet
  | awaitFingerOff => cases quiet

/-- A session that is made to rest reports nothing. -/
theorem sessionStep_quiet (run : SessionRun E) {state : FpiImageDeviceState}
    (quiet : state.isQuiet = true) :
    (sessionStep env engine run (.changeState (sessionStateOf state))).2.ev =
      sessionEventsClear := by
  rcases sessionStep_changeState env engine run (sessionStateOf state) with
    clear | ⟨⟨mode, waits⟩, -⟩
  · exact clear
  · exact absurd waits (state.not_waitsIn quiet mode)

/-- The events of a deactivated session. -/
def deactivateEvents : SessionEvents :=
  { sessionEventsClear with cancelTick := true, deactivateComplete := true }

theorem sessionStep_requestDeactivate (run : SessionRun E) :
    (sessionStep env engine run .requestDeactivate).2.ev = sessionEventsClear ∨
      (sessionStep env engine run .requestDeactivate).2.ev = deactivateEvents := by
  rcases run with ⟨session, io⟩
  cases session with
  | none => exact Or.inl rfl
  | some impl =>
      obtain ⟨after, -, reply⟩ := sessionStep_reply env engine
        (⟨impl, rfl, rfl⟩ : SessionRun.HasMode ⟨some impl, io⟩ impl.mode)
        (rfl : SessionCall.isDriven .requestDeactivate = true)
      generalize (sessionStep env engine ⟨some impl, io⟩ .requestDeactivate).2.ev = ev at reply ⊢
      cases reply with
      | deactivated => exact Or.inr rfl
      | woken wakes _ => cases wakes

theorem sessionStep_activate (run : SessionRun E) :
    (sessionStep env engine run .activate).2.ev = sessionEventsClear ∨
      (sessionStep env engine run .activate).2.ev = tickNow ∨
      IsError .activate (sessionStep env engine run .activate).2.ev := by
  rcases run with ⟨session, io⟩
  cases session with
  | none => exact Or.inl rfl
  | some impl =>
      obtain ⟨after, -, reply⟩ := sessionStep_reply env engine
        (⟨impl, rfl, rfl⟩ : SessionRun.HasMode ⟨some impl, io⟩ impl.mode)
        (rfl : SessionCall.isDriven .activate = true)
      generalize (sessionStep env engine ⟨some impl, io⟩ .activate).2.ev = ev at reply ⊢
      cases reply with
      | activateClosed _ => exact Or.inl rfl
      | activated _ => exact Or.inr (Or.inl rfl)
      | activateFailed _ code msg => exact Or.inr (Or.inr ⟨code, msg, rfl⟩)
      | woken wakes _ => cases wakes

/-- The events of a closed session. -/
def closeEvents : SessionEvents :=
  { sessionEventsClear with cancelTick := true, closeComplete := true }

theorem sessionStep_requestClose (run : SessionRun E) (resetMcu : Bool) :
    (sessionStep env engine run (.requestClose resetMcu)).2.ev = sessionEventsClear ∨
      (sessionStep env engine run (.requestClose resetMcu)).2.ev = closeEvents := by
  rcases run with ⟨session, io⟩
  cases session with
  | none => exact Or.inl rfl
  | some impl =>
      obtain ⟨after, -, reply⟩ := sessionStep_reply env engine
        (⟨impl, rfl, rfl⟩ : SessionRun.HasMode ⟨some impl, io⟩ impl.mode)
        (rfl : SessionCall.isDriven (.requestClose resetMcu) = true)
      generalize (sessionStep env engine ⟨some impl, io⟩ (.requestClose resetMcu)).2.ev = ev
        at reply ⊢
      cases reply with
      | closed => exact Or.inr rfl
      | woken wakes _ => cases wakes

/-! ## Handling them -/

section Handling

variable (cls other : FpImageDeviceClass cv (GxfpDriver E)) (self : FpiDeviceGxfp cv E)

@[simp]
theorem handleSessionEvents_clear :
    handleSessionEvents env engine cls self sessionEventsClear = .ok self :=
  rfl

@[simp]
theorem handleSessionEvents_tickNow :
    handleSessionEvents env engine cls self tickNow = .ok (schedulePumpSoon self 0) :=
  rfl

theorem handleSessionEvents_deactivateEvents :
    handleSessionEvents env engine cls self deactivateEvents =
      fpiImageDeviceDeactivateComplete cls (cancelScheduledPump self) none := by
  have handled : handleSessionEvents env engine cls self deactivateEvents =
      fpiImageDeviceDeactivateComplete cls (cancelScheduledPump self) none >>= pure := rfl
  rw [handled, bind_pure]

theorem handleSessionEvents_closeEvents :
    handleSessionEvents env engine cls self closeEvents =
      .ok (fpiImageDeviceCloseComplete (freePaths (cancelScheduledPump self)) none) :=
  rfl

theorem handleSessionEvents_error {target : ErrorTarget} {ev : SessionEvents}
    (isError : IsError target ev) :
    handleSessionEvents env engine cls self ev = handleSessionError cls self ev := by
  obtain ⟨code, msg, rfl⟩ := isError
  rfl

/-- An error of the activation does not reach the virtual functions. -/
theorem handleSessionError_activate {ev : SessionEvents} (isError : IsError .activate ev) :
    handleSessionError cls self ev = handleSessionError other self ev := by
  obtain ⟨code, msg, rfl⟩ := isError
  rfl

theorem handleSessionError_generic {target : ErrorTarget} (generic : target ≠ .activate)
    {ev : SessionEvents} (isError : IsError target ev) :
    handleSessionError cls self ev =
      fpiImageDeviceSessionError cls (cancelScheduledPump self) (sessionEventError ev) := by
  obtain ⟨code, msg, rfl⟩ := isError
  unfold handleSessionError
  dsimp only
  rw [if_neg]
  exact generic

end Handling

/-! ## Depth -/

/-- A class whose changes to a quiet state are calls on the session and no
more. -/
def Quiets (cls : FpImageDeviceClass cv (GxfpDriver E)) : Prop :=
  ∀ (self : FpiDeviceGxfp cv E) (state : FpiImageDeviceState), state.isQuiet = true →
    cls.changeState self state =
      .ok (sessionCall env engine self (.changeState (sessionStateOf state))).2

theorem gxfpChangeState_quiet (cls : FpImageDeviceClass cv (GxfpDriver E))
    (self : FpiDeviceGxfp cv E) {state : FpiImageDeviceState} (quiet : state.isQuiet = true) :
    gxfpChangeState env engine cls self state =
      .ok (sessionCall env engine self (.changeState (sessionStateOf state))).2 := by
  have clear := sessionStep_quiet env engine self.driver.sess quiet
  unfold gxfpChangeState callAndHandle sessionCall
  dsimp only
  rw [clear, handleSessionEvents_clear]

theorem gxfpClassAbove_quiets (bottom : FpImageDeviceClass cv (GxfpDriver E)) (depth : Nat) :
    Quiets env engine (gxfpClassAbove env engine bottom (depth + 1)) := by
  intro self state quiet
  exact gxfpChangeState_quiet env engine _ self quiet

section Agreement

variable {env engine} {cls other : FpImageDeviceClass cv (GxfpDriver E)}

theorem fpImageDeviceChangeState_quiet (quiets : Quiets env engine cls)
    (otherQuiets : Quiets env engine other) (self : FpiDeviceGxfp cv E)
    {state : FpiImageDeviceState} (quiet : state.isQuiet = true) :
    fpImageDeviceChangeState cls self state = fpImageDeviceChangeState other self state := by
  unfold fpImageDeviceChangeState
  dsimp only
  rw [quiets _ _ quiet, otherQuiets _ _ quiet]

theorem fpiImageDeviceDeactivateComplete_agrees (quiets : Quiets env engine cls)
    (otherQuiets : Quiets env engine other) (self : FpiDeviceGxfp cv E) (error : Option GError) :
    fpiImageDeviceDeactivateComplete cls self error =
      fpiImageDeviceDeactivateComplete other self error := by
  unfold fpiImageDeviceDeactivateComplete
  dsimp only
  rw [fpImageDeviceChangeState_quiet quiets otherQuiets _ (rfl : FpiImageDeviceState.isQuiet
    .inactive = true)]

theorem gxfpDeactivate_agrees (quiets : Quiets env engine cls)
    (otherQuiets : Quiets env engine other) (self : FpiDeviceGxfp cv E) :
    gxfpDeactivate env engine cls self = gxfpDeactivate env engine other self := by
  unfold gxfpDeactivate callAndHandle sessionCall
  dsimp only
  rcases sessionStep_requestDeactivate env engine (cancelScheduledPump self).driver.sess with
    clear | deactivated
  · rw [clear, handleSessionEvents_clear, handleSessionEvents_clear]
  · rw [deactivated, handleSessionEvents_deactivateEvents, handleSessionEvents_deactivateEvents]
    exact fpiImageDeviceDeactivateComplete_agrees quiets otherQuiets _ none

theorem fpiImageDeviceDeactivate_agrees (quiets : Quiets env engine cls)
    (otherQuiets : Quiets env engine other) (deactivates : cls.deactivate = other.deactivate)
    (self : FpiDeviceGxfp cv E) (cancelling : Bool) :
    fpiImageDeviceDeactivate cls self cancelling =
      fpiImageDeviceDeactivate other self cancelling := by
  unfold fpiImageDeviceDeactivate
  rw [deactivates]
  dsimp only
  rw [fpImageDeviceChangeState_quiet quiets otherQuiets _ (rfl : FpiImageDeviceState.isQuiet
    .deactivating = true)]

theorem fpiImageDeviceSessionError_agrees (quiets : Quiets env engine cls)
    (otherQuiets : Quiets env engine other) (deactivates : cls.deactivate = other.deactivate)
    (self : FpiDeviceGxfp cv E) (error : GError) :
    fpiImageDeviceSessionError cls self error = fpiImageDeviceSessionError other self error := by
  have aborts (self : FpiDeviceGxfp cv E) :
      abortSession cls self error = abortSession other self error := by
    unfold abortSession
    dsimp only
    apply bind_congr
    intro device
    exact fpiImageDeviceDeactivate_agrees quiets otherQuiets deactivates device true
  unfold fpiImageDeviceSessionError
  simp only [aborts]
  rfl

theorem gxfpChangeState_agrees (quiets : Quiets env engine cls)
    (otherQuiets : Quiets env engine other) (deactivates : cls.deactivate = other.deactivate)
    (self : FpiDeviceGxfp cv E) (state : FpiImageDeviceState) :
    gxfpChangeState env engine cls self state = gxfpChangeState env engine other self state := by
  unfold gxfpChangeState callAndHandle sessionCall
  dsimp only
  rcases sessionStep_changeState env engine self.driver.sess (sessionStateOf state) with
    clear | ⟨-, tick | ⟨target, generic, isError⟩⟩
  · rw [clear, handleSessionEvents_clear, handleSessionEvents_clear]
  · rw [tick, handleSessionEvents_tickNow, handleSessionEvents_tickNow]
  · rw [handleSessionEvents_error env engine cls _ isError,
      handleSessionEvents_error env engine other _ isError,
      handleSessionError_generic cls _ generic isError,
      handleSessionError_generic other _ generic isError]
    exact fpiImageDeviceSessionError_agrees quiets otherQuiets deactivates _ _

end Agreement

theorem gxfpActivate_agrees (cls other : FpImageDeviceClass cv (GxfpDriver E))
    (self : FpiDeviceGxfp cv E) :
    gxfpActivate env engine cls self = gxfpActivate env engine other self := by
  unfold gxfpActivate sessionCall
  dsimp only
  rcases sessionStep_activate env engine self.driver.sess with clear | tick | isError
  · rw [clear, handleSessionEvents_clear, handleSessionEvents_clear]
  · rw [tick, handleSessionEvents_tickNow, handleSessionEvents_tickNow]
  · rw [handleSessionEvents_error env engine cls _ isError,
      handleSessionEvents_error env engine other _ isError,
      handleSessionError_activate cls other _ isError]

theorem gxfpImgClose_agrees (cls other : FpImageDeviceClass cv (GxfpDriver E))
    (self : FpiDeviceGxfp cv E) :
    gxfpImgClose env engine cls self = gxfpImgClose env engine other self := by
  unfold gxfpImgClose callAndHandle sessionCall
  dsimp only
  rcases sessionStep_requestClose env engine (cancelScheduledPump self).driver.sess false with
    clear | closed
  · rw [clear, handleSessionEvents_clear, handleSessionEvents_clear]
  · rw [closed, handleSessionEvents_closeEvents, handleSessionEvents_closeEvents]

theorem gxfpClassAbove_succ (bottom : FpImageDeviceClass cv (GxfpDriver E)) (depth : Nat) :
    gxfpClassAbove env engine bottom (depth + 1) =
      gxfpClassOf (gxfpImgClose env engine (gxfpClassAbove env engine bottom depth))
        (gxfpActivate env engine (gxfpClassAbove env engine bottom depth))
        (gxfpDeactivate env engine (gxfpClassAbove env engine bottom depth))
        (gxfpChangeState env engine (gxfpClassAbove env engine bottom depth)) :=
  rfl

/-- What stands below two nested virtual functions is not asked by a
deactivation. -/
theorem deactivate_gxfpClassAbove (bottom other : FpImageDeviceClass cv (GxfpDriver E))
    (depth otherDepth : Nat) :
    gxfpDeactivate env engine (gxfpClassAbove env engine bottom (depth + 1)) =
      gxfpDeactivate env engine (gxfpClassAbove env engine other (otherDepth + 1)) := by
  funext self
  exact gxfpDeactivate_agrees (gxfpClassAbove_quiets env engine bottom depth)
    (gxfpClassAbove_quiets env engine other otherDepth) self

/-- What stands below three nested virtual functions is never asked. -/
theorem gxfpClassAbove_eq (bottom other : FpImageDeviceClass cv (GxfpDriver E))
    (depth otherDepth : Nat) :
    gxfpClassAbove env engine bottom (depth + 3) =
      gxfpClassAbove env engine other (otherDepth + 3) := by
  rw [gxfpClassAbove_succ env engine bottom (depth + 2),
    gxfpClassAbove_succ env engine other (otherDepth + 2)]
  have quiets := gxfpClassAbove_quiets env engine bottom (depth + 1)
  have otherQuiets := gxfpClassAbove_quiets env engine other (otherDepth + 1)
  have deactivates : (gxfpClassAbove env engine bottom (depth + 2)).deactivate =
      (gxfpClassAbove env engine other (otherDepth + 2)).deactivate :=
    deactivate_gxfpClassAbove env engine bottom other depth otherDepth
  have nested :=
    deactivate_gxfpClassAbove env engine bottom other (depth + 1) (otherDepth + 1)
  generalize gxfpClassAbove env engine bottom (depth + 2) = cls at quiets deactivates nested ⊢
  generalize gxfpClassAbove env engine other (otherDepth + 2) = otherCls
    at otherQuiets deactivates nested ⊢
  rw [nested, funext (gxfpImgClose_agrees env engine cls otherCls),
    funext (gxfpActivate_agrees env engine cls otherCls),
    funext fun self => funext (gxfpChangeState_agrees quiets otherQuiets deactivates self)]

/-- The class of the driver satisfies the equations of the source: its virtual
functions call the image device with the class itself. -/
theorem gxfpClass_eq :
    gxfpClass env engine =
      (gxfpClassOf (gxfpImgClose env engine (gxfpClass env engine))
        (gxfpActivate env engine (gxfpClass env engine))
        (gxfpDeactivate env engine (gxfpClass env engine))
        (gxfpChangeState env engine (gxfpClass env engine)) :
        FpImageDeviceClass cv (GxfpDriver E)) :=
  gxfpClassAbove_eq env engine tooDeep tooDeep 0 1

/-- The virtual functions call the image device, which calls them again.  That
recursion has one meaning: whatever satisfies its equations is the class that is
followed for three calls. -/
theorem gxfpClass_is_the_only_solution (cls : FpImageDeviceClass cv (GxfpDriver E)) :
    cls = gxfpClassOf (gxfpImgClose env engine cls) (gxfpActivate env engine cls)
        (gxfpDeactivate env engine cls) (gxfpChangeState env engine cls) ↔
      cls = gxfpClass env engine := by
  constructor
  · intro solves
    have above : ∀ depth, gxfpClassAbove env engine cls depth = cls := by
      intro depth
      induction depth with
      | zero => rfl
      | succ depth ih =>
          rw [gxfpClassAbove_succ, ih]
          exact solves.symm
    calc
      cls = gxfpClassAbove env engine cls 3 := (above 3).symm
      _ = gxfpClass env engine := gxfpClassAbove_eq env engine cls tooDeep 0 0
  · rintro rfl
    exact gxfpClass_eq env engine

end Depth

end Gxfp.Fprint
