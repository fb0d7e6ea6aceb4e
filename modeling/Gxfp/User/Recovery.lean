import Gxfp.User.Capture
import Gxfp.User.FdtRetry
import Gxfp.User.SessionMoves

/-!
# Recoveries and TLS sessions

The error path of a session resets the sensor, which ends the TLS session on
its side.  The host decides later, from the state of its service alone, whether
it needs a new handshake.  The two agree as long as every recovery finds the
service gone or failed: then no image is asked for between a recovery and the
next `TLS_SERVER_INIT`.
-/

namespace Gxfp.User

open Lib
open Lib.Bytes
open Lib.Execution
open Gxfp.Errno

/-! ## Traces -/

/-- No `TLS_SERVER_INIT` has been sent since the last recovery of the error
path.  Traces are newest first. -/
def RecoveryPending : List Out → Prop
  | [] => False
  | out :: older =>
      (∃ service, out = .recovery service) ∨
        (¬ out.sentCommand CMD_TLS_SERVER_INIT ∧ RecoveryPending older)

/-- No `GET_IMAGE` was written while a recovery was pending. -/
def ImagesAfterHandshake : List Out → Prop
  | [] => True
  | out :: older =>
      (out.isCommand CMD_GET_IMAGE → ¬ RecoveryPending older) ∧ ImagesAfterHandshake older

/-- Every recovery of the error path found the service gone or failed. -/
def RecoveriesFindFailure (trace : List Out) : Prop :=
  ∀ service, Out.recovery service ∈ trace → service = none ∨ service = some .error

/-- The entry is not a recovery that found a working service. -/
def Out.foundFailure : Out → Bool
  | .recovery service => service = none ∨ service = some .error
  | _ => true

theorem recoveriesFindFailure_iff {trace : List Out} :
    RecoveriesFindFailure trace ↔ ∀ out ∈ trace, out.foundFailure = true := by
  constructor
  · intro found out member
    cases out with
    | recovery service => exact decide_eq_true (found service member)
    | _ => rfl
  · intro found service member
    exact of_decide_eq_true (found _ member)

instance (trace : List Out) : Decidable (RecoveriesFindFailure trace) :=
  decidable_of_iff _ recoveriesFindFailure_iff.symm

/-- The entry is a recovery. -/
def Out.isRecovery : Out → Bool
  | .recovery _ => true
  | _ => false

theorem Out.isRecovery_iff {out : Out} :
    out.isRecovery = true ↔ ∃ service, out = .recovery service := by
  constructor
  · intro isRecovery
    cases out with
    | recovery service => exact ⟨service, rfl⟩
    | _ => cases isRecovery
  · rintro ⟨service, rfl⟩
    rfl

instance decidableRecoveryPending : (trace : List Out) → Decidable (RecoveryPending trace)
  | [] => inferInstanceAs (Decidable False)
  | out :: older =>
      have := decidableRecoveryPending older
      decidable_of_iff
        (out.isRecovery = true ∨ (¬ out.sentCommand CMD_TLS_SERVER_INIT ∧ RecoveryPending older))
        (or_congr_left Out.isRecovery_iff)

instance decidableImagesAfterHandshake :
    (trace : List Out) → Decidable (ImagesAfterHandshake trace)
  | [] => inferInstanceAs (Decidable True)
  | out :: older =>
      have := decidableImagesAfterHandshake older
      inferInstanceAs
        (Decidable ((out.isCommand CMD_GET_IMAGE → ¬ RecoveryPending older) ∧
          ImagesAfterHandshake older))

theorem RecoveriesFindFailure.suffix {older trace : List Out}
    (found : RecoveriesFindFailure trace) (grown : older <:+ trace) :
    RecoveriesFindFailure older := by
  intro service member
  exact found service (grown.subset member)

theorem recoveryPending_cons {out : Out} {older : List Out}
    (notRecovery : ∀ service, out ≠ .recovery service) (pending : RecoveryPending (out :: older)) :
    RecoveryPending older := by
  rcases pending with ⟨service, isRecovery⟩ | ⟨-, still⟩
  · exact absurd isRecovery (notRecovery service)
  · exact still

theorem recoveryPending_quiet {outs older : List Out} (quiet : ∀ out ∈ outs, out.Quiet)
    (pending : RecoveryPending (outs ++ older)) : RecoveryPending older := by
  induction outs with
  | nil => exact pending
  | cons out outs ih =>
      apply ih
      · intro other member
        exact quiet other (List.mem_cons_of_mem _ member)
      · exact recoveryPending_cons (quiet out List.mem_cons_self).notRecovery pending

theorem imagesAfterHandshake_quiet {outs older : List Out} (quiet : ∀ out ∈ outs, out.Quiet)
    (images : ImagesAfterHandshake older) : ImagesAfterHandshake (outs ++ older) := by
  induction outs with
  | nil => exact images
  | cons out outs ih =>
      constructor
      · intro isImage
        exact absurd isImage (quiet out List.mem_cons_self).notGetImage
      · apply ih
        intro other member
        exact quiet other (List.mem_cons_of_mem _ member)

theorem Out.isCommand.notRecovery {cmd : Byte} {out : Out} (isCommand : out.isCommand cmd)
    (service : Option TlsHsState) : out ≠ .recovery service := by
  rintro rfl
  obtain ⟨payload, impossible⟩ := isCommand
  cases impossible

/-- A `TLS_SERVER_INIT` answers every recovery. -/
theorem not_recoveryPending_sent {out : Out} {older : List Out}
    (sent : out.sentCommand CMD_TLS_SERVER_INIT) : ¬ RecoveryPending (out :: older) := by
  rintro (⟨service, isRecovery⟩ | ⟨notSent, -⟩)
  · exact sent.1.notRecovery service isRecovery
  · exact notSent sent

/-! ## The invariant -/

section Recovery

variable {E : Type}

/-- While a recovery is pending the service is gone or failed, and no image has
been asked for. -/
structure RecoveryInv (world : ServiceWorld E) : Prop where
  service : RecoveryPending world.2.trace →
    ∀ impl, world.1 = some impl → impl.state = .error
  images : ImagesAfterHandshake world.2.trace

/-- A working service has no recovery pending. -/
theorem RecoveryInv.not_pending {impl : TlsServiceImpl E} {io : Io}
    (inv : RecoveryInv (some impl, io)) (working : impl.state ≠ .error) :
    ¬ RecoveryPending io.trace := by
  intro pending
  exact working (inv.service pending impl rfl)

/-- A change of a working service that leaves no trace keeps the invariant. -/
theorem RecoveryInv.working {impl next : TlsServiceImpl E} {io : Io}
    (inv : RecoveryInv (some impl, io)) (working : impl.state ≠ .error) :
    RecoveryInv (some next, io) := by
  constructor
  · intro pending
    exact absurd pending (inv.not_pending working)
  · exact inv.images

/-- So does writing `GET_IMAGE`. -/
theorem RecoveryInv.image {impl next : TlsServiceImpl E} {io : Io} {out : Out}
    (inv : RecoveryInv (some impl, io)) (connected : impl.state = .connected)
    (isCommand : out.isCommand CMD_GET_IMAGE) : RecoveryInv (some next, io.emit out) := by
  have notPending : ¬ RecoveryPending io.trace := by
    apply inv.not_pending
    rw [connected]
    decide
  constructor
  · intro pending
    exact absurd (recoveryPending_cons isCommand.notRecovery pending) notPending
  · constructor
    · intro _
      exact notPending
    · exact inv.images

/-- What one move preserves, if the recoveries find the service failed. -/
theorem ServiceMove.recoveryInv {before after : ServiceWorld E} (move : ServiceMove before after)
    (found : RecoveriesFindFailure after.2.trace) (inv : RecoveryInv before) :
    RecoveryInv after := by
  cases move with
  | quiet quiet =>
      obtain ⟨outs, traceEq, quietOuts⟩ := quiet
      constructor
      · intro pending
        rw [traceEq] at pending
        exact inv.service (recoveryPending_quiet quietOuts pending)
      · rw [traceEq]
        exact imagesAfterHandshake_quiet quietOuts inv.images
  | recovery svc io =>
      constructor
      · intro _ impl present
        dsimp only at present
        subst present
        rcases found (some impl.state) List.mem_cons_self with impossible | failed
        · cases impossible
        · exact Option.some.inj failed
      · constructor
        · rintro ⟨payload, impossible⟩
          cases impossible
        · exact inv.images
  | free svc io =>
      constructor
      · intro _ impl impossible
        cases impossible
      · exact inv.images
  | start connecting sent =>
      constructor
      · intro pending
        exact absurd pending (not_recoveryPending_sent sent)
      · constructor
        · intro isImage
          have same := Out.isCommand_unique isImage sent.1
          cases same
        · exact inv.images
  | same io state err =>
      constructor
      · intro pending impl implEq
        cases implEq
        rw [state]
        exact inv.service pending _ rfl
      · exact inv.images
  | connect io connecting connected =>
      apply inv.working
      rw [connecting]
      decide
  | request io ready connected =>
      apply inv.working
      rcases ready with ready | ready
      · rw [ready]
        decide
      · rw [ready]
        decide
  | finish io capturing done =>
      apply inv.working
      rw [capturing]
      decide
  | fail io error negative definite =>
      constructor
      · intro _ impl implEq
        cases implEq
        exact error
      · exact inv.images
  | capture connected isCommand capturing => exact inv.image connected isCommand
  | captureFail connected isCommand error negative again => exact inv.image connected isCommand

/-- In every run in which the error path starts recoveries only for a service
that is gone or has failed, no image is asked for between a recovery and the
next `TLS_SERVER_INIT`, and an activation that succeeds leaves no service
connected from before the last recovery. -/
theorem images_after_handshake (env : Env) (engine : TlsEngine E) (count : Nat)
    (calls : List SessionCall)
    (found : RecoveriesFindFailure
      (final (sessionStep env engine) ⟨none, ⟨count, []⟩⟩ calls).io.trace) :
    ImagesAfterHandshake (final (sessionStep env engine) ⟨none, ⟨count, []⟩⟩ calls).io.trace ∧
      ∀ transition ∈ transitions (sessionStep env engine) ⟨none, ⟨count, []⟩⟩ calls,
        transition.input = .activate → transition.output.ret = 0 →
          ∀ impl, transition.after.session.bind SessionImpl.svc = some impl →
            impl.state = .connected ∨ impl.state = .capturing ∨ impl.state = .done →
              ¬ RecoveryPending transition.after.io.trace := by
  have preserved (before after : ServiceWorld E) (move : ServiceMove before after)
      (inv : RecoveriesFindFailure before.2.trace → RecoveryInv before)
      (foundAfter : RecoveriesFindFailure after.2.trace) : RecoveryInv after :=
    move.recoveryInv foundAfter (inv (foundAfter.suffix move.trace_suffix))
  have start (_ : RecoveriesFindFailure []) : RecoveryInv (E := E) (none, ⟨count, []⟩) :=
    ⟨fun impossible => absurd impossible id, trivial⟩
  constructor
  · exact (sessionRun_preserves env engine preserved start calls found).images
  · intro transition member _ _ impl present state
    have foundHere := found.suffix (sessionTransitions_trace env engine transition member)
    have inv := (sessionTransitions_preserves env engine preserved start calls transition
      member).2 foundHere
    intro pending
    have error := inv.service pending impl present
    rw [error] at state
    rcases state with impossible | impossible | impossible
    · cases impossible
    · cases impossible
    · cases impossible

end Recovery

/-! ## Two runs -/

/-- A record as `read(2)` returns it. -/
def recordBytes (hdr : TapHdr) (payload : List Byte) : List Byte :=
  hdr.bytes ++ payload

/-- The calls that open and activate a session. -/
def activateCalls : List SessionCall :=
  [.init, .openPath "/dev/gxfp" (List.replicate PSK_LEN 0) 0, .activate, .pump false]

/-- A sensor whose first record is an empty TLS record and that reports a raised
finger afterwards. -/
def emptyRecordEnv : Env :=
  { steadyEnv with
    reads := fun count =>
      if count < 28 then
        [.ok (recordBytes (tlsHdr 0) [])]
      else
        [.ok (recordBytes reportHdr upReport)] }

/-- The record puts the service into the error state; the image of the next
activation is asked for over a new TLS session. -/
theorem images_after_handshake_empty_record :
    ∃ trace, trace = (final (sessionStep emptyRecordEnv (channelEngine clearCipher))
        ⟨none, ⟨0, []⟩⟩
        (activateCalls ++ [.onFd 1 false, .activate, .pump false, .onFd 1 false])).io.trace ∧
      (∃ out ∈ trace, out.isRecovery = true) ∧ (∃ out ∈ trace, out.isCommand CMD_GET_IMAGE) ∧
      RecoveriesFindFailure trace ∧ ImagesAfterHandshake trace := by
  have found : RecoveriesFindFailure (final (sessionStep emptyRecordEnv
      (channelEngine clearCipher)) ⟨none, ⟨0, []⟩⟩
      (activateCalls ++ [.onFd 1 false, .activate, .pump false, .onFd 1 false])).io.trace := by
    decide +kernel
  refine ⟨_, rfl, ?_, ?_, found, (images_after_handshake _ _ 0 _ found).1⟩
  · decide +kernel
  · decide +kernel

/-- A sensor that reports a raised finger whenever it is read. -/
def upEnv : Env :=
  { steadyEnv with reads := fun _ => [.ok (recordBytes reportHdr upReport)] }

/-- An error on the device file resets the sensor under a connected service: the
next activation keeps the service and asks for an image without a new TLS
session. -/
theorem not_images_after_handshake_fd_error :
    ¬ ImagesAfterHandshake (final (sessionStep upEnv (channelEngine clearCipher))
      ⟨none, ⟨0, []⟩⟩
      (activateCalls ++ [.onFd 8 false, .activate, .pump false, .onFd 1 false])).io.trace := by
  decide +kernel

end Gxfp.User
