import Gxfp.User.SessionMoves

/-!
# Modes and events of a session

What the parts of a call do to the mode of a session and to its events.  A part
either ends in the error path, which leaves the session failed, or says what it
has set; the results about ticks and commands use only these specifications.
-/

namespace Gxfp.User

open Lib
open Lib.Bytes
open Gxfp.Errno

section Modes

variable {E : Type} (env : Env) (engine : TlsEngine E)

/-- The call has ended in the error path. -/
structure InCall.Failed (call : InCall E) : Prop where
  mode : call.impl.mode = .failed
  sessionError : call.ev.sessionError = true

/-- A part of a call that leaves mode, events and service as they are. -/
structure InCall.Kept (before after : InCall E) : Prop where
  mode : after.impl.mode = before.impl.mode
  ev : after.ev = before.ev
  svc : after.impl.svc = before.impl.svc

/-- A reported error has made the session fail. -/
def InCall.ErrorsFail (call : InCall E) : Prop :=
  call.ev.sessionError = true → call.impl.mode = .failed

theorem InCall.Failed.errorsFail {call : InCall E} (failed : call.Failed) : call.ErrorsFail :=
  fun _ => failed.mode

/-- A session that has not failed has reported no error. -/
theorem InCall.ErrorsFail.clear {call : InCall E} (errors : call.ErrorsFail)
    (working : call.impl.mode ≠ .failed) : call.ev.sessionError = false := by
  cases sessionError : call.ev.sessionError with
  | false => rfl
  | true => exact absurd (errors sessionError) working

theorem sessionSetError_failed (call : InCall E) (err : Int) (target : ErrorTarget)
    (msg : String) : (sessionSetError env call err target msg).Failed :=
  ⟨rfl, rfl⟩

/-! ## The FDT flow -/

theorem sessionSetFdtMode_cases (call : InCall E) (mode : FdtMode) :
    call.Kept (sessionSetFdtMode env call mode) ∨ (sessionSetFdtMode env call mode).Failed := by
  unfold sessionSetFdtMode
  split
  · exact Or.inl ⟨rfl, rfl, rfl⟩
  · dsimp only
    split
    · exact Or.inr (sessionSetError_failed env _ _ _ _)
    · exact Or.inl ⟨rfl, rfl, rfl⟩

theorem sessionPollFdt_cases (call : InCall E) :
    (0 ≤ (sessionPollFdt env call).1 ∧ call.Kept (sessionPollFdt env call).2) ∨
      ((sessionPollFdt env call).1 < 0 ∧ (sessionPollFdt env call).2.Failed) := by
  unfold sessionPollFdt
  split
  · dsimp only
    split
    · rename_i negative
      exact Or.inr ⟨negative, sessionSetError_failed env _ _ _ _⟩
    · rename_i notNegative
      exact Or.inl ⟨Int.not_lt.mp notNegative, rfl, rfl, rfl⟩
  · exact Or.inl ⟨Int.le_refl 0, rfl, rfl, rfl⟩

/-! ## Activation -/

/-- The end of an activation's handshake: it is not there yet, or it goes on to
wait for a raised finger, or it fails. -/
theorem sessionMaybeFinishActivation_cases {call : InCall E}
    (clear : call.ev.sessionError = false) :
    (sessionMaybeFinishActivation env call = call ∧
        (call.impl.mode = .activatingTls →
          tlsServiceState call.impl.svc ≠ .connected ∧ tlsServiceState call.impl.svc ≠ .done)) ∨
      ((sessionMaybeFinishActivation env call).impl.mode = .activatingWaitUp ∧
        (sessionMaybeFinishActivation env call).ev.requestTick = true ∧
        (sessionMaybeFinishActivation env call).ev.sessionError = false) ∨
      (sessionMaybeFinishActivation env call).Failed := by
  unfold sessionMaybeFinishActivation
  split
  · rename_i notActivating
    exact Or.inl ⟨rfl, fun activating => absurd activating notActivating⟩
  · split
    · rename_i notReady
      exact Or.inl ⟨rfl, fun _ => notReady⟩
    · right
      dsimp only
      rcases sessionSetFdtMode_cases env call .waitUp with kept | failed
      · have stillClear : (sessionSetFdtMode env call .waitUp).ev.sessionError = false := by
          rw [kept.ev]
          exact clear
        rw [if_neg (by rw [stillClear]; exact Bool.false_ne_true)]
        exact Or.inl ⟨rfl, rfl, stillClear⟩
      · rw [if_pos failed.sessionError]
        exact Or.inr failed

/-! ## Captures -/

theorem sessionSetDarkFromImage_kept (call : InCall E) (img : DecodedImage) :
    call.Kept (sessionSetDarkFromImage env call img).2 := by
  unfold sessionSetDarkFromImage
  split
  · exact ⟨rfl, rfl, rfl⟩
  · split
    · exact ⟨rfl, rfl, rfl⟩
    · exact ⟨rfl, rfl, rfl⟩

/-- A dark frame ends the activation or fails. -/
theorem sessionFinishDark_mode {call : InCall E} (img : DecodedImage)
    (clear : call.ev.sessionError = false) :
    (sessionFinishDark env call img).impl.mode = .failed ∨
      (sessionFinishDark env call img).impl.mode = .idle := by
  have loaded := sessionSetDarkFromImage_kept env call img
  unfold sessionFinishDark
  dsimp only
  split
  · exact Or.inl rfl
  · rcases sessionSetFdtMode_cases env (sessionSetDarkFromImage env call img).2 .idle with
      kept | failed
    · have stillClear :
          ¬ (sessionSetFdtMode env (sessionSetDarkFromImage env call img).2
            .idle).ev.sessionError = true := by
        rw [kept.ev, loaded.ev, clear]
        exact Bool.false_ne_true
      rw [if_neg stillClear]
      exact Or.inr rfl
    · rw [if_pos failed.sessionError]
      exact Or.inl failed.mode

theorem sessionFinishImage_mode (call : InCall E) (img : DecodedImage) :
    (sessionFinishImage env call img).impl.mode = .failed ∨
      (sessionFinishImage env call img).impl.mode = .idle := by
  unfold sessionFinishImage
  dsimp only
  split
  · exact Or.inl rfl
  · exact Or.inr rfl

/-- A finished capture ends in the idle mode or fails; an unfinished one leaves
the call as it is. -/
theorem sessionFinalizeCapture_cases {call : InCall E} (target : ErrorTarget)
    (clear : call.ev.sessionError = false) :
    (tlsServiceState call.impl.svc ≠ .done ∧ sessionFinalizeCapture env call target = call) ∨
      (sessionFinalizeCapture env call target).impl.mode = .failed ∨
      (sessionFinalizeCapture env call target).impl.mode = .idle := by
  unfold sessionFinalizeCapture
  split
  · rename_i notDone
    exact Or.inl ⟨notDone, rfl⟩
  · right
    dsimp only
    split
    · exact Or.inl rfl
    · split
      · exact Or.inl rfl
      · split
        · exact sessionFinishDark_mode env _ clear
        · exact sessionFinishImage_mode env _ _

/-! ## Records -/

theorem sessionFingerEvents_errorsFail {call : InCall E} (events : FdtEvents)
    (errors : call.ErrorsFail) : (sessionFingerEvents call events).ErrorsFail := by
  unfold sessionFingerEvents
  dsimp only
  split
  all_goals split
  all_goals exact errors

theorem sessionRequestDark_errorsFail {call : InCall E} (events : FdtEvents)
    (errors : call.ErrorsFail) : (sessionRequestDark env call events).2.ErrorsFail := by
  unfold sessionRequestDark
  split
  · rename_i waiting
    dsimp only
    split
    · exact (sessionSetError_failed env _ _ _ _).errorsFail
    · intro sessionError
      have failed : call.impl.mode = .failed := errors sessionError
      rw [waiting.1] at failed
      cases failed
  · exact errors

theorem sessionOnRecord_errorsFail {call : InCall E} (hdr : TapHdr) (payload : List Byte)
    (errors : call.ErrorsFail) : (sessionOnRecord env engine call hdr payload).2.ErrorsFail := by
  unfold sessionOnRecord
  generalize fdtFlowFeedRecord env call.impl.fd call.io call.impl.fdt hdr payload = fed
  dsimp only
  split
  · exact (sessionSetError_failed env _ _ _ _).errorsFail
  · have fedErrors : (call.setFdt fed.flow fed.io).ErrorsFail := errors
    have requested := sessionRequestDark_errorsFail env fed.events
      (sessionFingerEvents_errorsFail fed.events fedErrors)
    split
    · exact requested
    · split
      · exact (sessionSetError_failed env _ _ _ _).errorsFail
      · exact requested

theorem sessionOnFdLoop_errorsFail (results : List (Except ℕ+ (List Byte))) {call : InCall E}
    (errors : call.ErrorsFail) : (sessionOnFdLoop env engine results call).ErrorsFail := by
  induction results generalizing call with
  | nil =>
      unfold sessionOnFdLoop
      split
      · exact (sessionSetError_failed env _ _ _ _).errorsFail
      · split
        · exact (sessionSetError_failed env _ _ _ _).errorsFail
        · exact errors
  | cons result results ih =>
      unfold sessionOnFdLoop
      split
      · exact (sessionSetError_failed env _ _ _ _).errorsFail
      · split
        · exact (sessionSetError_failed env _ _ _ _).errorsFail
        · dsimp only
          split
          · split
            · exact errors
            · exact (sessionSetError_failed env _ _ _ _).errorsFail
          · rename_i hdr payload _
            have handled := sessionOnRecord_errorsFail env engine hdr payload errors
            split
            · exact ih handled
            · exact handled

end Modes

end Gxfp.User
