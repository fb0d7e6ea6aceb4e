import Gxfp.Lib.Execution
import Gxfp.User.SessionMoves

/-!
# Activation and its TLS service

An activation that succeeds has a live TLS service exactly if the session had a
service before it: an open session that lost its service in a failed re-arm is
taken for one whose service has just started.
-/

namespace Gxfp.User

open Lib
open Lib.Bytes
open Lib.Execution
open Gxfp.Errno

section Activation

variable {E : Type}

/-- A service that a session can work with. -/
def TlsService.Live (svc : TlsService E) : Prop :=
  ∃ impl : TlsServiceImpl E, svc = some impl ∧
    (impl.state = .connecting ∨ impl.state = .connected ∨ impl.state = .capturing ∨
      impl.state = .done)

/-- An open session without a service. -/
def SessionRun.LacksService (run : SessionRun E) : Prop :=
  ∃ impl, run.session = some impl ∧ impl.mode ≠ .closed ∧ impl.svc = none

/-- A service is never in the state in which it was allocated. -/
def ServiceStarted (world : ServiceWorld E) : Prop :=
  ∀ impl, world.1 = some impl → impl.state ≠ .init

theorem ServiceMove.started {before after : ServiceWorld E} (move : ServiceMove before after)
    (started : ServiceStarted before) : ServiceStarted after := by
  intro impl implEq
  cases move with
  | quiet quiet => exact started impl implEq
  | recovery svc io => exact started impl implEq
  | free svc io => cases implEq
  | start connecting sent =>
      cases implEq
      rw [connecting]
      decide
  | same io state err =>
      cases implEq
      rw [state]
      exact started _ rfl
  | connect io connecting connected =>
      cases implEq
      rw [connected]
      decide
  | request io ready connected =>
      cases implEq
      rw [connected]
      decide
  | finish io capturing done =>
      cases implEq
      rw [done]
      decide
  | fail io error negative definite =>
      cases implEq
      rw [error]
      decide
  | capture connected isCommand capturing =>
      cases implEq
      rw [capturing]
      decide
  | captureFail connected isCommand error negative again =>
      cases implEq
      rw [error]
      decide

/-- What becomes of a re-arm: the service was not in error and stays, or it is
replaced by a new one, or the re-arm fails. -/
theorem sessionRearmTlsIfNeeded_cases (env : Env) (engine : TlsEngine E) (call : InCall E) :
    (tlsServiceState call.impl.svc ≠ .error ∧ sessionRearmTlsIfNeeded env engine call = call) ∨
      (tlsServiceState call.impl.svc = .error ∧
        ((sessionRearmTlsIfNeeded env engine call).ev.sessionError = true ∧
            (sessionRearmTlsIfNeeded env engine call).ev.errorCode < 0 ∨
          (sessionRearmTlsIfNeeded env engine call).ev = call.ev ∧
            TlsService.Live (sessionRearmTlsIfNeeded env engine call).impl.svc)) := by
  unfold sessionRearmTlsIfNeeded
  cases state : tlsServiceState call.impl.svc with
  | init => exact Or.inl ⟨by decide, rfl⟩
  | connecting => exact Or.inl ⟨by decide, rfl⟩
  | connected => exact Or.inl ⟨by decide, rfl⟩
  | capturing => exact Or.inl ⟨by decide, rfl⟩
  | done => exact Or.inl ⟨by decide, rfl⟩
  | error =>
      right
      refine ⟨rfl, ?_⟩
      have result := tlsServiceInit_result env call.impl.fd engine
        (devFlushRxq call.impl.fd call.io) none ⟨20000, true⟩ call.impl.psk
      dsimp only [sessionTlsInit, tlsServiceFree]
      generalize tlsServiceInit env call.impl.fd engine _ none ⟨20000, true⟩ call.impl.psk = out
        at result ⊢
      cases result with
      | failed negative quiet =>
          simp only [if_pos negative]
          exact Or.inl ⟨rfl, negative⟩
      | started absent fresh quiet sent trace =>
          simp only [Int.lt_irrefl, if_false]
          exact Or.inr ⟨trivial, _, rfl, Or.inl fresh.state⟩

/-- Activation does not see whether the session had failed. -/
theorem sessionActivate_open (env : Env) (engine : TlsEngine E) {call : InCall E}
    (isOpen : call.impl.mode ≠ .closed) :
    ∃ ready : InCall E, ready.impl.svc = call.impl.svc ∧ ready.ev = call.ev ∧
      (sessionActivate env engine call).1 =
        (if (sessionRearmTlsIfNeeded env engine ready).ev.sessionError then
          (if (sessionRearmTlsIfNeeded env engine ready).ev.errorCode ≠ 0 then
            (sessionRearmTlsIfNeeded env engine ready).ev.errorCode else EIO.rc)
        else 0) ∧
      (sessionActivate env engine call).2.impl.svc =
        (sessionRearmTlsIfNeeded env engine ready).impl.svc := by
  have hasIo : ¬ (!sessionModeHasIo call.impl) = true := by simpa [sessionModeHasIo] using isOpen
  refine ⟨if call.impl.mode = .failed then call.setMode .ready else call, ?_, ?_, ?_⟩
  · split
    · rfl
    · rfl
  · split
    · rfl
    · rfl
  · unfold sessionActivate
    rw [if_neg hasIo]
    dsimp only
    generalize sessionRearmTlsIfNeeded env engine _ = after
    constructor
    · split
      · rfl
      · rfl
    · split
      · rfl
      · rfl

/-- An activation of a session with a started service, or of none, keeps its
promise exactly if the session is closed or has a service. -/
theorem sessionActivate_live_iff (env : Env) (engine : TlsEngine E) {call : InCall E}
    (clear : call.ev.sessionError = false)
    (started : ∀ impl, call.impl.svc = some impl → impl.state ≠ .init) :
    ((sessionActivate env engine call).1 = 0 →
        TlsService.Live (sessionActivate env engine call).2.impl.svc) ↔
      ¬ (call.impl.mode ≠ .closed ∧ call.impl.svc = none) := by
  by_cases isOpen : call.impl.mode = .closed
  · have refused : (sessionActivate env engine call).1 = EINVAL.rc := by
      simp [sessionActivate, sessionModeHasIo, isOpen]
    constructor
    · rintro - ⟨notClosed, -⟩
      exact notClosed isOpen
    · intro _ returned
      rw [refused] at returned
      cases returned
  · obtain ⟨ready, svcEq, evEq, retEq, afterEq⟩ := sessionActivate_open env engine isOpen
    rw [retEq, afterEq]
    rcases sessionRearmTlsIfNeeded_cases env engine ready with ⟨notError, same⟩ |
      ⟨error, ⟨failed, negative⟩ | ⟨kept, live⟩⟩
    · rw [same, evEq, clear, svcEq]
      cases svc : call.impl.svc with
      | none =>
          constructor
          · intro promise
            obtain ⟨impl, impossible, -⟩ := promise rfl
            cases impossible
          · intro notLacking
            exact absurd ⟨isOpen, rfl⟩ notLacking
      | some impl =>
          rw [svcEq, svc] at notError
          have notInit := started impl svc
          constructor
          · rintro - ⟨-, impossible⟩
            cases impossible
          · intro _ _
            refine ⟨impl, rfl, ?_⟩
            cases state : impl.state with
            | init => exact absurd state notInit
            | connecting => exact Or.inl rfl
            | connected => exact Or.inr (Or.inl rfl)
            | capturing => exact Or.inr (Or.inr (Or.inl rfl))
            | done => exact Or.inr (Or.inr (Or.inr rfl))
            | error => exact absurd state notError
    · rw [if_pos failed, if_pos (Int.ne_of_lt negative)]
      constructor
      · rintro - ⟨-, absent⟩
        rw [svcEq, absent] at error
        cases error
      · intro _ returned
        exact absurd returned (Int.ne_of_lt negative)
    · constructor
      · rintro - ⟨-, absent⟩
        rw [svcEq, absent] at error
        cases error
      · intro _ _
        exact live

/-- An activation keeps its promise. -/
def KeepsPromise (transition : Transition (SessionRun E) SessionCall SessionOut) : Prop :=
  transition.input = .activate → transition.output.ret = 0 →
    TlsService.Live (transition.after.session.bind SessionImpl.svc)

/-- An activation starts from a session that is closed or has a service. -/
def StartsWithService (transition : Transition (SessionRun E) SessionCall SessionOut) : Prop :=
  transition.input = .activate → ¬ transition.before.LacksService

theorem keepsPromise_iff (env : Env) (engine : TlsEngine E) {run : SessionRun E}
    (started : ServiceStarted run.world) (call : SessionCall) :
    KeepsPromise (stepTransition (sessionStep env engine) run call) ↔
      StartsWithService (stepTransition (sessionStep env engine) run call) := by
  by_cases isActivate : call = .activate
  · subst isActivate
    rcases run with ⟨session, io⟩
    cases session with
    | none =>
        constructor
        · rintro - - ⟨impl, impossible, -⟩
          cases impossible
        · intro _ _ returned
          cases returned
    | some impl =>
        have activateIff : _ ↔ ¬ (impl.mode ≠ .closed ∧ impl.svc = none) :=
          @sessionActivate_live_iff E env engine ⟨impl, sessionEventsClear, io⟩ rfl started
        constructor
        · rintro promise - ⟨same, sameEq, isOpen, absent⟩
          cases sameEq
          exact activateIff.mp (promise rfl) ⟨isOpen, absent⟩
        · intro starts _
          apply activateIff.mpr
          rintro ⟨isOpen, absent⟩
          exact starts rfl ⟨impl, rfl, isOpen, absent⟩
  · constructor
    · intro _ same
      exact absurd same isActivate
    · intro _ same
      exact absurd same isActivate

/-- In every run, the activations that succeed all have a live service exactly
if none of them starts from an open session without a service. -/
theorem activations_live_iff (env : Env) (engine : TlsEngine E) (io : Io)
    (calls : List SessionCall) :
    (∀ transition ∈ transitions (sessionStep env engine) ⟨none, io⟩ calls,
        KeepsPromise transition) ↔
      ∀ transition ∈ transitions (sessionStep env engine) ⟨none, io⟩ calls,
        StartsWithService transition := by
  have noneStarted : ServiceStarted (E := E) (none, io) := by
    intro impl impossible
    cases impossible
  have allStarted := sessionTransitions_preserves env engine
    (fun _ _ move started => move.started started) noneStarted calls
  have pointwise : ∀ transition ∈ transitions (sessionStep env engine) ⟨none, io⟩ calls,
      (KeepsPromise transition ↔ StartsWithService transition) := by
    intro transition member
    rw [eq_stepTransition_of_mem member]
    exact keepsPromise_iff env engine (allStarted transition member).1 transition.input
  constructor
  · intro promises transition member
    exact (pointwise transition member).mp (promises transition member)
  · intro starts transition member
    exact (pointwise transition member).mpr (starts transition member)

end Activation

/-- A TLS library whose handshake fails. -/
def brokenEngine : TlsEngine Unit where
  create := fun _ => .ok ()
  feedCipherRecord := fun _ _ => .ok ()
  handshakeStep := fun _ => .done (.failed 1, ())
  pullPlain := fun _ => .done (.again, ())
  pending := fun _ => 0
  pullPlain_pending := by
    intro _ plain impossible
    cases impossible

/-- A device that takes no more writes once it has been opened. -/
def unpluggedEnv : Env :=
  { steadyEnv with write := fun count length => if count < 21 then .ok length else .error 5 }

/-- The calls of a session whose handshake and whose re-arm fail. -/
def failedRearm : List SessionCall :=
  [.init, .openPath "/dev/gxfp" (List.replicate PSK_LEN 0) 0, .activate, .pump false, .activate]

/-- After a failed re-arm the next activation succeeds without a service. -/
theorem not_keepsPromise_failed_rearm :
    ∃ transition ∈ transitions (sessionStep unpluggedEnv brokenEngine) ⟨none, ⟨0, []⟩⟩
        (failedRearm ++ [.activate]),
      ¬ KeepsPromise transition := by
  refine ⟨_, stepTransition_mem_last _ _ failedRearm .activate, ?_⟩
  intro promise
  have returned : (sessionStep unpluggedEnv brokenEngine
      (final (sessionStep unpluggedEnv brokenEngine) ⟨none, ⟨0, []⟩⟩ failedRearm)
      .activate).2.ret = 0 := by
    decide +kernel
  have absent : ((sessionStep unpluggedEnv brokenEngine
      (final (sessionStep unpluggedEnv brokenEngine) ⟨none, ⟨0, []⟩⟩ failedRearm)
      .activate).1.session.bind SessionImpl.svc).isSome = false := by
    decide +kernel
  obtain ⟨impl, present, -⟩ := promise rfl returned
  have isSome := congrArg Option.isSome present
  rw [stepTransition] at isSome
  rw [isSome] at absent
  cases absent

end Gxfp.User
