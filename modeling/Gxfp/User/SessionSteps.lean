import Gxfp.User.FdtTables
import Gxfp.User.SessionLog

/-!
# The moves of a session

`SessionMove` lists what a session does inside a call, one move for each point
of `session.c` at which mode, service and FDT flow agree again, with what the
move logs.  `gxfp_session_pump` and `gxfp_session_on_fd` are any number of moves
and then the end of a capture, `SessionFinish`; `gxfp_session_change_state` is
moves only.  A result about all runs is proved for each move and each end once.
-/

namespace Gxfp.User

open Lib
open Lib.Bytes
open Lib.EventLog
open Gxfp.Errno

section Moves

variable {E : Type} (env : Env) (engine : TlsEngine E)

/-! ## Moves -/

/-- Two states of a call that differ only in events that ask for ticks or report
a finger. -/
structure InCall.SameCore (before after : InCall E) : Prop where
  impl : after.impl = before.impl
  io : after.io = before.io
  sessionError : after.ev.sessionError = before.ev.sessionError
  activateComplete : after.ev.activateComplete = before.ev.activateComplete
  imageReady : after.ev.imageReady = before.ev.imageReady

theorem InCall.SameCore.refl (call : InCall E) : call.SameCore call :=
  ⟨rfl, rfl, rfl, rfl, rfl⟩

/-- The modes a change of state leads to, with the mode it asks of the FDT
flow. -/
inductive Awaits : SessionMode → FdtMode → Prop
  | fingerOn : Awaits .waitFingerOn .waitDown
  | fingerOff : Awaits .waitFingerOff .waitUp
  | idle : Awaits .idle .idle
  | ready : Awaits .ready .idle

/-- One move of a session inside a call, with what it logs. -/
inductive SessionMove : InCall E → List SessionEvent → InCall E → Prop
  /-- One step of the TLS service. -/
  | service (call : InCall E) (running : call.impl.mode.isStopped = false) :
      SessionMove call
        (call.io.eventsSince (tlsServiceStep env call.impl.fd engine call.io call.impl.svc).2.2)
        (call.setSvc (tlsServiceStep env call.impl.fd engine call.io call.impl.svc).2.1
          (tlsServiceStep env call.impl.fd engine call.io call.impl.svc).2.2)
  | fail (call : InCall E) (isOpen : call.impl.mode ≠ .closed) (err : Int) (target : ErrorTarget)
      (msg : String) : SessionMove call [] (sessionSetError env call err target msg)
  | note {call next : InCall E} (same : call.SameCore next) : SessionMove call [] next
  /-- A change of state, with the mode of the FDT flow it needs. -/
  | await (call : InCall E) {mode : SessionMode} {fdtMode : FdtMode} (awaits : Awaits mode fdtMode)
      (isOpen : call.impl.mode ≠ .closed) (working : call.impl.mode ≠ .failed) :
      SessionMove call (call.io.eventsSince (sessionSetFdtMode env (call.setMode mode) fdtMode).io)
        (sessionSetFdtMode env (call.setMode mode) fdtMode)
  /-- The handshake of an activation is over. -/
  | observe (call : InCall E) (activating : call.impl.mode = .activatingTls)
      (seen : tlsServiceState call.impl.svc = .connected ∨ tlsServiceState call.impl.svc = .done) :
      SessionMove call
        (.observed ::
          call.io.eventsSince (sessionSetFdtMode env (call.setMode .activatingWaitUp) .waitUp).io)
        (sessionSetFdtMode env (call.setMode .activatingWaitUp) .waitUp)
  /-- The finger-up retry. -/
  | retry (call : InCall E)
      (waiting : call.impl.mode = .waitFingerOff ∨ call.impl.mode = .activatingWaitUp)
      (nowMs : Int) :
      SessionMove call
        (call.io.eventsSince (fdtFlowPoll env call.impl.fd call.io.tick call.impl.fdt nowMs).2.2)
        (call.setFdt (fdtFlowPoll env call.impl.fd call.io.tick call.impl.fdt nowMs).2.1
          (fdtFlowPoll env call.impl.fd call.io.tick call.impl.fdt nowMs).2.2)
  | read (call : InCall E) (running : call.impl.mode.isStopped = false) :
      SessionMove call [] { call with io := call.io.emit .read }
  /-- A record goes to the FDT flow. -/
  | feed (call : InCall E) (running : call.impl.mode.isStopped = false) (hdr : TapHdr)
      (payload : List Byte) :
      SessionMove call []
        (call.setFdt (fdtFlowFeedRecord env call.impl.fd call.io call.impl.fdt hdr payload).flow
          (fdtFlowFeedRecord env call.impl.fd call.io call.impl.fdt hdr payload).io)
  /-- A finger-up report whose request for a dark frame fails. -/
  | upReport (call : InCall E) (waiting : call.impl.mode = .activatingWaitUp) :
      SessionMove call [.upReport] call
  | requestDark (call : InCall E) (waiting : call.impl.mode = .activatingWaitUp)
      (granted : ¬ (tlsServiceRequestCapture call.impl.svc).1 < 0) :
      SessionMove call [.upReport, .requested]
        ((call.setSvc (tlsServiceRequestCapture call.impl.svc).2 call.io).setMode
          .activatingDarkCapture)
  /-- A record goes to the TLS service. -/
  | record (call : InCall E) (running : call.impl.mode.isStopped = false) (hdr : TapHdr)
      (payload : List Byte) :
      SessionMove call []
        (call.setSvc (tlsServiceFeedTapRecord env engine call.io call.impl.svc hdr payload).2.1
          (tlsServiceFeedTapRecord env engine call.io call.impl.svc hdr payload).2.2)
  | requestImage (call : InCall E)
      (ready : call.impl.mode = .idle ∨ call.impl.mode = .waitFingerOn)
      (granted : ¬ (tlsServiceRequestCapture call.impl.svc).1 < 0) :
      SessionMove call [.requested]
        ((call.setSvc (tlsServiceRequestCapture call.impl.svc).2 call.io).setMode .capturing)

/-- The end of a capture, with what it logs. -/
inductive SessionFinish : InCall E → List SessionEvent → InCall E → Prop
  | none (call : InCall E) : SessionFinish call [] call
  | noImage (call : InCall E) (capture : call.impl.mode.isCapture = true)
      (done : tlsServiceState call.impl.svc = .done)
      (empty : (tlsServiceGetRawImage env call.io call.impl.svc).ret ≤ 0) (err : Int)
      (target : ErrorTarget) (msg : String) :
      SessionFinish call [.noImage]
        (sessionSetError env (call.setSvc (tlsServiceGetRawImage env call.io call.impl.svc).svc
          (tlsServiceGetRawImage env call.io call.impl.svc).io) err target msg)
  /-- The image cannot be decoded or used. -/
  | failed (call : InCall E) (capture : call.impl.mode.isCapture = true)
      (done : tlsServiceState call.impl.svc = .done) {io : Io}
      (traceEq : io.trace = call.io.trace) (err : Int) (target : ErrorTarget) (msg : String) :
      SessionFinish call []
        (sessionSetError env
          (call.setSvc (tlsServiceGetRawImage env call.io call.impl.svc).svc io) err target msg)
  /-- The image becomes the dark frame, and the activation is complete. -/
  | dark (call : InCall E) (capture : call.impl.mode = .activatingDarkCapture)
      (done : tlsServiceState call.impl.svc = .done) (img : DecodedImage) {io : Io}
      (traceEq : io.trace = call.io.trace) {fdt : FdtFlow} (idle : fdt.mode = .idle)
      (sameArm : call.impl.fdt.SameArm fdt) :
      SessionFinish call [.darkStored img]
        ⟨{ call.impl with
            svc := (tlsServiceGetRawImage env call.io call.impl.svc).svc
            dark := some ⟨img.pixels, img.rows, img.cols⟩
            fdt := fdt
            mode := .idle },
          { call.ev with activateComplete := true }, io⟩
  /-- The image is ready to be taken. -/
  | image (call : InCall E) (capture : call.impl.mode = .capturing)
      (done : tlsServiceState call.impl.svc = .done) (img : DecodedImage) {io : Io}
      (traceEq : io.trace = call.io.trace) :
      SessionFinish call []
        ⟨{ call.impl with
            svc := (tlsServiceGetRawImage env call.io call.impl.svc).svc
            pendingImg := some img
            mode := .idle },
          { call.ev with imageReady := true }, io⟩

/-- Any number of moves. -/
abbrev SessionMoves : InCall E → List SessionEvent → InCall E → Prop :=
  Runs (SessionMove env engine)

/-- What `gxfp_session_pump` and `gxfp_session_on_fd` do: moves, then the end of
a capture. -/
def SessionRuns (call : InCall E) (log : List SessionEvent) (after : InCall E) : Prop :=
  ∃ middle moved finished ended, SessionMoves env engine call moved middle ∧
    SessionFinish env middle ended finished ∧ finished.SameCore after ∧ log = moved ++ ended

variable {env engine}

theorem SessionMoves.runs {call after : InCall E} {log : List SessionEvent}
    (moves : SessionMoves env engine call log after) : SessionRuns env engine call log after :=
  ⟨after, log, after, [], moves, .none after, .refl after, (List.append_nil log).symm⟩

theorem SessionMoves.trans_runs {call middle after : InCall E} {moved log : List SessionEvent}
    (moves : SessionMoves env engine call moved middle)
    (runs : SessionRuns env engine middle log after) :
    SessionRuns env engine call (moved ++ log) after := by
  obtain ⟨last, more, finished, ended, movesMore, finish, same, logEq⟩ := runs
  refine ⟨last, moved ++ more, finished, ended, moves.trans movesMore, finish, same, ?_⟩
  rw [logEq, List.append_assoc]

/-- What every move and every end of a capture preserves, a call preserves. -/
theorem SessionRuns.preserves {invariant finished : InCall E → List SessionEvent → Prop}
    (moved : ∀ before logged after log, SessionMove env engine before logged after →
      invariant before log → invariant after (log ++ logged))
    (ended : ∀ before logged after log, SessionFinish env before logged after →
      invariant before log → finished after (log ++ logged))
    (core : ∀ before after log, before.SameCore after → finished before log → finished after log)
    {call after : InCall E} {log logged : List SessionEvent}
    (runs : SessionRuns env engine call logged after) (holds : invariant call log) :
    finished after (log ++ logged) := by
  obtain ⟨middle, more, last, tail, moves, finish, same, rfl⟩ := runs
  have atMiddle := moves.preserves moved holds
  rw [← List.append_assoc]
  exact core _ _ _ same (ended _ _ _ _ finish atMiddle)

/-! ## Parts of a call -/

section Parts

variable (env) (engine)

/-- The error path marks its recovery; the rest of it is routine. -/
theorem sessionSetError_extends {allowed : Out → Prop} [Out.AdmitsRoutine allowed]
    (admitsRecovery : ∀ service, allowed (.recovery service)) (call : InCall E) (err : Int)
    (target : ErrorTarget) (msg : String) :
    call.io.Extends allowed (sessionSetError env call err target msg).io := by
  unfold sessionSetError
  dsimp only
  split
  · have marked : call.io.Extends allowed
        (call.io.emit (.recovery (call.impl.svc.map TlsServiceImpl.state))) :=
      (Io.Extends.refl call.io).emit (admitsRecovery _)
    exact marked.trans (deviceRecovery_routine env call.impl.fd _ true true false)
  · exact .refl call.io

theorem sessionSetError_eventsSince (call : InCall E) (err : Int) (target : ErrorTarget)
    (msg : String) : call.io.eventsSince (sessionSetError env call err target msg).io = [] :=
  (sessionSetError_extends env (fun _ => rfl) call err target msg).eventsSince

theorem SessionMode.open_of_running {mode : SessionMode} (running : mode.isStopped = false) :
    mode ≠ .closed := by
  rintro rfl
  cases running

/-- The error path as the last move. -/
theorem SessionMoves.fail {call middle : InCall E} {log : List SessionEvent}
    (moves : SessionMoves env engine call log middle) (isOpen : middle.impl.mode ≠ .closed)
    (err : Int) (target : ErrorTarget) (msg : String) :
    SessionMoves env engine call log (sessionSetError env middle err target msg) := by
  have failed := moves.tail (.fail middle isOpen err target msg)
  rwa [List.append_nil] at failed

/-- A request for a tick or a finger report as the last move. -/
theorem SessionMoves.note {call middle next : InCall E} {log : List SessionEvent}
    (moves : SessionMoves env engine call log middle) (same : middle.SameCore next) :
    SessionMoves env engine call log next := by
  have noted := moves.tail (.note same)
  rwa [List.append_nil] at noted

/-- Moves that log the events of the trace and nothing else. -/
structure TracedMoves (call after : InCall E) : Prop where
  moves : SessionMoves env engine call (call.io.eventsSince after.io) after
  grown : call.io.trace <:+ after.io.trace

namespace TracedMoves

variable {env engine} {call middle after : InCall E}

theorem refl (call : InCall E) : TracedMoves env engine call call := by
  constructor
  · rw [Io.eventsSince_self]
    exact .refl call
  · exact List.suffix_refl _

theorem trans (first : TracedMoves env engine call middle)
    (second : TracedMoves env engine middle after) : TracedMoves env engine call after := by
  constructor
  · rw [Io.eventsSince_trans first.grown second.grown]
    exact first.moves.trans second.moves
  · exact first.grown.trans second.grown

theorem note (traced : TracedMoves env engine call middle) (same : middle.SameCore after) :
    TracedMoves env engine call after := by
  constructor
  · rw [same.io]
    exact SessionMoves.note env engine traced.moves same
  · rw [same.io]
    exact traced.grown

theorem fail (traced : TracedMoves env engine call middle) (isOpen : middle.impl.mode ≠ .closed)
    (err : Int) (target : ErrorTarget) (msg : String) :
    TracedMoves env engine call (sessionSetError env middle err target msg) := by
  have grown : middle.io.trace <:+ (sessionSetError env middle err target msg).io.trace :=
    (sessionSetError_moves env middle err target msg).trace_suffix
  constructor
  · rw [Io.eventsSince_trans traced.grown grown, sessionSetError_eventsSince, List.append_nil]
    exact SessionMoves.fail env engine traced.moves isOpen err target msg
  · exact traced.grown.trans grown

end TracedMoves

/-! ## Ticks -/

theorem sessionPollLoop_traced (rounds : Nat) {call : InCall E}
    (running : call.impl.mode.isStopped = false) :
    TracedMoves env engine call (sessionPollLoop env engine rounds call) := by
  induction rounds generalizing call with
  | zero => exact .refl call
  | succ rounds ih =>
      have stepped : TracedMoves env engine call (call.setSvc
          (tlsServiceStep env call.impl.fd engine call.io call.impl.svc).2.1
          (tlsServiceStep env call.impl.fd engine call.io call.impl.svc).2.2) :=
        ⟨.one (.service call running),
          (tlsServiceStep_moves env call.impl.fd engine call.io call.impl.svc).trace_suffix⟩
      unfold sessionPollLoop
      dsimp only
      generalize tlsServiceStep env call.impl.fd engine call.io call.impl.svc = out at stepped ⊢
      split
      · exact stepped
      · split
        · exact stepped.fail (SessionMode.open_of_running running) _ _ _
        · split
          · have ticked : TracedMoves env engine call
                ((call.setSvc out.2.1 out.2.2).requestTick 0) :=
              stepped.note ⟨rfl, rfl, rfl, rfl, rfl⟩
            exact ticked.trans (ih running)
          · exact stepped.trans (ih running)

theorem sessionModeHasIo_of_open {impl : SessionImpl E} (isOpen : impl.mode ≠ .closed) :
    sessionModeHasIo impl = true :=
  decide_eq_true isOpen

/-- The error path does not depend on the mode of an open session. -/
theorem sessionSetError_setMode {call : InCall E} {mode : SessionMode}
    (isOpen : call.impl.mode ≠ .closed) (opens : mode ≠ .closed) (err : Int)
    (target : ErrorTarget) (msg : String) :
    sessionSetError env (call.setMode mode) err target msg =
      sessionSetError env call err target msg := by
  have stillOpen : (call.setMode mode).impl.mode ≠ .closed := opens
  unfold sessionSetError
  rw [sessionModeHasIo_of_open isOpen, sessionModeHasIo_of_open stillOpen]
  rfl

theorem sessionSetFdtMode_of_open {call : InCall E} (fdtMode : FdtMode)
    (isOpen : call.impl.mode ≠ .closed) :
    sessionSetFdtMode env call fdtMode =
      if (fdtFlowSetMode env call.impl.fd call.io call.impl.fdt fdtMode).1 < 0 then
        sessionSetError env
          (call.setFdt (fdtFlowSetMode env call.impl.fd call.io call.impl.fdt fdtMode).2.1
            (fdtFlowSetMode env call.impl.fd call.io call.impl.fdt fdtMode).2.2)
          (fdtFlowSetMode env call.impl.fd call.io call.impl.fdt fdtMode).1 .generic
          ("fdt_set_mode(" ++ toString fdtMode.code ++ ") failed: " ++
            env.strerror (-(fdtFlowSetMode env call.impl.fd call.io call.impl.fdt fdtMode).1))
      else
        call.setFdt (fdtFlowSetMode env call.impl.fd call.io call.impl.fdt fdtMode).2.1
          (fdtFlowSetMode env call.impl.fd call.io call.impl.fdt fdtMode).2.2 := by
  rw [sessionSetFdtMode, sessionModeHasIo_of_open isOpen]
  rfl

/-- A change of the FDT flow may arm finger-up detection or end in the error
path; the rest of it is routine. -/
theorem sessionSetFdtMode_extends {allowed : Out → Prop} [Out.AdmitsRoutine allowed]
    (admitsUp : ∀ out : Out, out.isCommand CMD_FDT_UP → allowed out)
    (admitsRecovery : ∀ service, allowed (.recovery service)) (call : InCall E)
    (fdtMode : FdtMode) :
    call.io.Extends allowed (sessionSetFdtMode env call fdtMode).io := by
  have flowed : call.io.Extends allowed _ :=
    fdtFlowSetMode_extends env call.impl.fd admitsUp call.io call.impl.fdt fdtMode
  unfold sessionSetFdtMode
  split
  · exact .refl call.io
  · generalize fdtFlowSetMode env call.impl.fd call.io call.impl.fdt fdtMode = out at flowed ⊢
    dsimp only
    split
    · exact flowed.trans
        (sessionSetError_extends env admitsRecovery (call.setFdt out.2.1 out.2.2) _ _ _)
    · exact flowed

/-- A change of the FDT flow commutes with a change of mode, up to the error
path. -/
theorem sessionSetFdtMode_setMode {call : InCall E} {mode : SessionMode} (fdtMode : FdtMode)
    (isOpen : call.impl.mode ≠ .closed) (opens : mode ≠ .closed) :
    ((sessionSetFdtMode env call fdtMode).Failed ∧
        sessionSetFdtMode env (call.setMode mode) fdtMode = sessionSetFdtMode env call fdtMode) ∨
      ((sessionSetFdtMode env call fdtMode).ev = call.ev ∧
        sessionSetFdtMode env (call.setMode mode) fdtMode =
          (sessionSetFdtMode env call fdtMode).setMode mode) := by
  have stillOpen : (call.setMode mode).impl.mode ≠ .closed := opens
  rw [sessionSetFdtMode_of_open env fdtMode isOpen, sessionSetFdtMode_of_open env fdtMode stillOpen]
  have sameOut : fdtFlowSetMode env (call.setMode mode).impl.fd (call.setMode mode).io
      (call.setMode mode).impl.fdt fdtMode =
      fdtFlowSetMode env call.impl.fd call.io call.impl.fdt fdtMode := rfl
  rw [sameOut]
  generalize fdtFlowSetMode env call.impl.fd call.io call.impl.fdt fdtMode = out
  by_cases negative : out.1 < 0
  · rw [if_pos negative, if_pos negative]
    left
    refine ⟨sessionSetError_failed env _ _ _ _, ?_⟩
    have openAfter : (call.setFdt out.2.1 out.2.2).impl.mode ≠ .closed := isOpen
    exact sessionSetError_setMode env openAfter opens _ _ _
  · rw [if_neg negative, if_neg negative]
    exact Or.inr ⟨rfl, rfl⟩

/-- The end of an activation's handshake sets the mode of the session and of the
FDT flow together. -/
theorem sessionMaybeFinishActivation_steps {call : InCall E}
    (clear : call.ev.sessionError = false) :
    SessionMoves env engine call (sessionMaybeFinishActivationLog env call)
      (sessionMaybeFinishActivation env call) := by
  unfold sessionMaybeFinishActivationLog
  split
  · rename_i notActivating
    rw [sessionMaybeFinishActivation, if_pos notActivating]
    exact .refl call
  · rename_i activating
    split
    · rename_i notReady
      rw [sessionMaybeFinishActivation, if_neg activating, if_pos notReady]
      exact .refl call
    · rename_i ready
      have seen : tlsServiceState call.impl.svc = .connected ∨
          tlsServiceState call.impl.svc = .done := by
        by_cases connected : tlsServiceState call.impl.svc = .connected
        · exact Or.inl connected
        · exact Or.inr (by_contra fun notDone => ready ⟨connected, notDone⟩)
      have observed : SessionMoves env engine call _ _ :=
        .one (.observe call (not_not.mp activating) seen)
      have isOpen : call.impl.mode ≠ .closed := by
        rw [not_not.mp activating]
        decide
      have same : (sessionSetFdtMode env (call.setMode .activatingWaitUp) .waitUp).SameCore
          (sessionMaybeFinishActivation env call) := by
        rw [sessionMaybeFinishActivation, if_neg activating, if_neg ready]
        rcases sessionSetFdtMode_setMode env .waitUp isOpen
            (show SessionMode.activatingWaitUp ≠ .closed by decide) with
          ⟨failed, sameEq⟩ | ⟨evEq, sameEq⟩
        · dsimp only
          rw [sameEq, if_pos failed.sessionError]
          exact .refl _
        · dsimp only
          rw [sameEq, if_neg (by rw [evEq, clear]; exact Bool.false_ne_true)]
          exact ⟨rfl, rfl, rfl, rfl, rfl⟩
      rw [same.io]
      exact SessionMoves.note env engine observed same

theorem sessionPollFdt_traced (call : InCall E) :
    TracedMoves env engine call (sessionPollFdt env call).2 := by
  unfold sessionPollFdt
  split
  · rename_i waiting
    have isOpen : call.impl.mode ≠ .closed := by
      rcases waiting with fingerOff | activating
      · rw [fingerOff]
        decide
      · rw [activating]
        decide
    have retried : TracedMoves env engine call (call.setFdt
        (fdtFlowPoll env call.impl.fd call.io.tick call.impl.fdt (env.clock call.io.count)).2.1
        (fdtFlowPoll env call.impl.fd call.io.tick call.impl.fdt
          (env.clock call.io.count)).2.2) := by
      refine ⟨.one (.retry call waiting _), ?_⟩
      obtain ⟨outs, traceEq, -⟩ := fdtFlowPoll_extends env call.impl.fd Out.quiet_of_fdtUp
        call.io.tick call.impl.fdt (env.clock call.io.count)
      exact ⟨outs, traceEq.symm⟩
    dsimp only [monotonicMs]
    split
    · exact retried.fail isOpen _ _ _
    · exact retried
  · exact .refl call

/-! ## Captures -/

theorem Io.Extends.trace_eq {before after : Io} (extended : before.Extends (fun _ => False) after) :
    after.trace = before.trace := by
  obtain ⟨outs, traceEq, none⟩ := extended
  have empty : outs = [] := List.eq_nil_iff_forall_not_mem.mpr none
  rw [traceEq, empty, List.nil_append]

theorem tlsServiceFeedTapRecord_trace (io : Io) (svc : TlsService E) (hdr : TapHdr)
    (payload : List Byte) :
    (tlsServiceFeedTapRecord env engine io svc hdr payload).2.2.trace = io.trace := by
  unfold tlsServiceFeedTapRecord
  split
  · rfl
  · split
    · dsimp only
      split
      · rfl
      · rfl
    · rfl

theorem tlsServiceGetRawImage_trace (io : Io) (svc : TlsService E) :
    (tlsServiceGetRawImage env io svc).io.trace = io.trace := by
  unfold tlsServiceGetRawImage plainImageSinkExtract
  split
  · rfl
  · split
    · rfl
    · dsimp only
      split
      · rfl
      · split
        · rfl
        · split
          · rfl
          · rfl

/-- A dark frame is refused or stored; nothing else changes. -/
theorem sessionSetDarkFromImage_cases (call : InCall E) (img : DecodedImage) :
    (∃ rc io, rc < 0 ∧ io.trace = call.io.trace ∧
        sessionSetDarkFromImage env call img = (rc, { call with io := io })) ∨
      ∃ io, io.trace = call.io.trace ∧
        sessionSetDarkFromImage env call img =
          (0,
            { call with
              impl := { call.impl with dark := some ⟨img.pixels, img.rows, img.cols⟩ }
              io := io }) := by
  unfold sessionSetDarkFromImage
  split
  · exact Or.inl ⟨EINVAL.rc, call.io, rc_neg EINVAL, rfl, rfl⟩
  · split
    · exact Or.inl ⟨ENOMEM.rc, call.io.tick, rc_neg ENOMEM, rfl, rfl⟩
    · exact Or.inr ⟨call.io.tick, rfl, rfl⟩

/-- Leaving a wait sends nothing and cannot fail. -/
theorem sessionSetFdtMode_idle (call : InCall E) :
    ∃ fdt, sessionSetFdtMode env call .idle = call.setFdt fdt call.io ∧
      call.impl.fdt.SameArm fdt ∧ (call.impl.mode ≠ .closed → fdt.mode = .idle) := by
  unfold sessionSetFdtMode
  split
  · rename_i noIo
    refine ⟨call.impl.fdt, rfl, .refl _, ?_⟩
    intro isOpen
    rw [sessionModeHasIo_of_open isOpen] at noIo
    cases noIo
  · unfold fdtFlowSetMode
    split
    · rename_i same
      exact ⟨call.impl.fdt, rfl, .refl _, fun _ => same.symm⟩
    · exact ⟨{ call.impl.fdt with mode := .idle }, rfl, ⟨rfl, rfl, rfl⟩, fun _ => rfl⟩

theorem sessionFinishDark_finish {call : InCall E} (img : DecodedImage)
    (capture : call.impl.mode = .activatingDarkCapture)
    (done : tlsServiceState call.impl.svc = .done) (clear : call.ev.sessionError = false) {io : Io}
    (traceEq : io.trace = call.io.trace) :
    SessionFinish env call
      (if (sessionSetDarkFromImage env
          (call.setSvc (tlsServiceGetRawImage env call.io call.impl.svc).svc io) img).1 < 0 then
        []
      else
        [.darkStored img])
      (sessionFinishDark env
        (call.setSvc (tlsServiceGetRawImage env call.io call.impl.svc).svc io) img) := by
  have isCapture : call.impl.mode.isCapture = true := by
    rw [capture]
    rfl
  unfold sessionFinishDark
  rcases sessionSetDarkFromImage_cases env
      (call.setSvc (tlsServiceGetRawImage env call.io call.impl.svc).svc io) img with
    ⟨rc, after, negative, afterTrace, loadedEq⟩ | ⟨after, afterTrace, loadedEq⟩
  · rw [loadedEq]
    dsimp only
    rw [if_pos negative, if_pos negative]
    exact .failed call isCapture done (afterTrace.trans traceEq) _ _ _
  · rw [loadedEq]
    dsimp only
    rw [if_neg (Int.lt_irrefl 0), if_neg (Int.lt_irrefl 0)]
    obtain ⟨fdt, flowEq, sameArm, idle⟩ := sessionSetFdtMode_idle env
      { call.setSvc (tlsServiceGetRawImage env call.io call.impl.svc).svc io with
        impl :=
          { (call.setSvc (tlsServiceGetRawImage env call.io call.impl.svc).svc io).impl with
            dark := some ⟨img.pixels, img.rows, img.cols⟩ }
        io := after }
    rw [flowEq]
    have stillClear : ¬ call.ev.sessionError = true := by
      rw [clear]
      exact Bool.false_ne_true
    have isOpen : call.impl.mode ≠ .closed := by
      rw [capture]
      decide
    split
    · rename_i failed
      exact absurd failed stillClear
    · exact .dark call capture done img (afterTrace.trans traceEq) (idle isOpen) sameArm

theorem sessionFinishImage_finish {call : InCall E} (img : DecodedImage)
    (capture : call.impl.mode = .capturing) (done : tlsServiceState call.impl.svc = .done) {io : Io}
    (traceEq : io.trace = call.io.trace) :
    SessionFinish env call []
      (sessionFinishImage env
        (call.setSvc (tlsServiceGetRawImage env call.io call.impl.svc).svc io) img) := by
  have isCapture : call.impl.mode.isCapture = true := by
    rw [capture]
    rfl
  unfold sessionFinishImage
  dsimp only
  split
  · exact .failed call isCapture done traceEq _ _ _
  · rename_i pixels _
    exact .image call capture done { img with pixels := pixels } traceEq

theorem sessionFinalizeCapture_finish {call : InCall E} (target : ErrorTarget)
    (capture : call.impl.mode.isCapture = true) (clear : call.ev.sessionError = false) :
    SessionFinish env call (sessionFinalizeCaptureLog env call)
      (sessionFinalizeCapture env call target) := by
  have rawTrace := tlsServiceGetRawImage_trace env call.io call.impl.svc
  unfold sessionFinalizeCapture sessionFinalizeCaptureLog
  by_cases notDone : tlsServiceState call.impl.svc ≠ .done
  · rw [if_pos notDone, if_pos notDone]
    exact .none call
  rw [if_neg notDone, if_neg notDone]
  have done := not_not.mp notDone
  by_cases empty : (tlsServiceGetRawImage env call.io call.impl.svc).ret ≤ 0
  · dsimp only
    rw [if_pos empty, if_pos empty]
    exact .noImage call capture done empty _ _ _
  dsimp only
  rw [if_neg empty, if_neg empty]
  have decodedTrace : (decodeImage env (tlsServiceGetRawImage env call.io call.impl.svc).io
      ((tlsServiceGetRawImage env call.io call.impl.svc).body.getD [])).2.trace = call.io.trace :=
    (Io.Extends.trace_eq (decodeImage_extends env _ _)).trans rawTrace
  have decodedIo : (call.setSvc (tlsServiceGetRawImage env call.io call.impl.svc).svc
      (tlsServiceGetRawImage env call.io call.impl.svc).io).io =
      (tlsServiceGetRawImage env call.io call.impl.svc).io := rfl
  rw [decodedIo]
  generalize decodeImage env (tlsServiceGetRawImage env call.io call.impl.svc).io
    ((tlsServiceGetRawImage env call.io call.impl.svc).body.getD []) = decoded at decodedTrace ⊢
  cases decoded.1 with
  | error rc => exact .failed call capture done decodedTrace _ _ _
  | ok img =>
      have sameMode : (call.setSvc (tlsServiceGetRawImage env call.io call.impl.svc).svc
          (tlsServiceGetRawImage env call.io call.impl.svc).io).impl.mode = call.impl.mode := rfl
      dsimp only
      rw [sameMode]
      by_cases dark : call.impl.mode = .activatingDarkCapture
      · rw [if_pos dark, if_pos dark]
        exact sessionFinishDark_finish env img dark done clear decodedTrace
      · have capturing : call.impl.mode = .capturing := by
          have either := of_decide_eq_true capture
          exact either.resolve_left dark
        rw [if_neg dark, if_neg dark]
        exact sessionFinishImage_finish env img capturing done decodedTrace

/-! ## Whole calls -/

theorem InCall.SameCore.trans {first second third : InCall E} (one : first.SameCore second)
    (two : second.SameCore third) : first.SameCore third :=
  ⟨two.impl.trans one.impl, two.io.trans one.io, two.sessionError.trans one.sessionError,
    two.activateComplete.trans one.activateComplete, two.imageReady.trans one.imageReady⟩

theorem InCall.tickIf_sameCore (call : InCall E) (condition : Bool) :
    call.SameCore (call.tickIf condition) := by
  cases condition with
  | false => exact .refl call
  | true => exact ⟨rfl, rfl, rfl, rfl, rfl⟩

theorem sessionPumpTick_sameCore (call : InCall E) : call.SameCore (sessionPumpTick call) :=
  ((call.tickIf_sameCore _).trans (InCall.tickIf_sameCore _ _)).trans (InCall.tickIf_sameCore _ _)

theorem sessionPumpEnd_runs {call : InCall E} (clear : call.ev.sessionError = false) :
    SessionRuns env engine call (sessionPumpEndLog env call) (sessionPumpEnd env call) := by
  unfold sessionPumpEnd sessionPumpEndLog
  by_cases capture : call.impl.mode.isCapture = true
  · rw [if_pos capture, if_pos capture]
    exact ⟨call, [], _, _, .refl call, sessionFinalizeCapture_finish env _ capture clear,
      sessionPumpTick_sameCore _, rfl⟩
  · rw [if_neg capture, if_neg capture]
    exact ⟨call, [], call, [], .refl call, .none call, sessionPumpTick_sameCore call, rfl⟩

theorem sessionPump_runs (call : InCall E) (actionCancelled : Bool) :
    SessionRuns env engine call (sessionPumpLog env engine call actionCancelled)
      (sessionPump env engine call actionCancelled) := by
  unfold sessionPump sessionPumpLog
  by_cases stopped : call.impl.mode.isStopped = true
  · rw [if_pos stopped, if_pos stopped]
    exact SessionMoves.runs (.refl call)
  rw [if_neg stopped, if_neg stopped]
  have running : call.impl.mode.isStopped = false := Bool.not_eq_true _ ▸ stopped
  by_cases cancelled : (actionCancelled && call.impl.mode.isCancellable) = true
  · rw [if_pos cancelled, if_pos cancelled]
    have failed := SessionMoves.fail env engine (.refl call) (SessionMode.open_of_running running)
      ECANCELED.rc (if call.impl.mode ≠ .capturing then .activate else .capture) "Cancelled"
    exact SessionMoves.runs (SessionMoves.note env engine failed ⟨rfl, rfl, rfl, rfl, rfl⟩)
  rw [if_neg cancelled, if_neg cancelled]
  have polled : TracedMoves env engine call (sessionPollTls env engine call) :=
    sessionPollLoop_traced env engine 64 running
  dsimp only
  generalize sessionPollTls env engine call = afterTls at polled ⊢
  apply SessionMoves.trans_runs polled.moves
  by_cases tlsFailed : afterTls.ev.sessionError = true
  · rw [if_pos tlsFailed, if_pos tlsFailed]
    exact SessionMoves.runs (.refl afterTls)
  rw [if_neg tlsFailed, if_neg tlsFailed]
  apply SessionMoves.trans_runs
    (sessionMaybeFinishActivation_steps env engine (Bool.not_eq_true _ ▸ tlsFailed))
  generalize sessionMaybeFinishActivation env afterTls = finished
  by_cases finishFailed : finished.ev.sessionError = true
  · rw [if_pos finishFailed, if_pos finishFailed]
    exact SessionMoves.runs (.refl finished)
  rw [if_neg finishFailed, if_neg finishFailed]
  have flowed := sessionPollFdt_traced env engine finished
  apply SessionMoves.trans_runs flowed.moves
  rcases sessionPollFdt_cases env finished with ⟨notNegative, kept⟩ | ⟨negative, -⟩
  · rw [if_neg (Int.not_lt.mpr notNegative), if_neg (Int.not_lt.mpr notNegative)]
    apply sessionPumpEnd_runs
    rw [kept.ev]
    exact Bool.not_eq_true _ ▸ finishFailed
  · rw [if_pos negative, if_pos negative]
    exact SessionMoves.runs (.refl _)

/-- A refused request for a capture changes nothing. -/
theorem tlsServiceRequestCapture_refused {svc : TlsService E}
    (negative : (tlsServiceRequestCapture svc).1 < 0) : (tlsServiceRequestCapture svc).2 = svc := by
  cases svc with
  | none => rfl
  | some impl =>
      unfold tlsServiceRequestCapture at negative ⊢
      dsimp only at negative ⊢
      split at negative
      · rename_i busy
        rw [if_pos busy]
      · exact absurd negative (Int.lt_irrefl 0)

theorem sessionRequestDark_steps (call : InCall E) (events : FdtEvents) :
    SessionMoves env engine call (sessionRequestDarkLog call events)
      (sessionRequestDark env call events).2 := by
  unfold sessionRequestDark sessionRequestDarkLog
  by_cases reported : call.impl.mode = .activatingWaitUp ∧ events.up = true
  · rw [if_pos reported, if_pos reported]
    dsimp only
    by_cases negative : (tlsServiceRequestCapture call.impl.svc).1 < 0
    · rw [if_pos negative, if_pos negative, tlsServiceRequestCapture_refused negative]
      have isOpen : call.impl.mode ≠ .closed := by
        rw [reported.1]
        decide
      exact SessionMoves.fail env engine (.one (.upReport call reported.1)) isOpen _ _ _
    · rw [if_neg negative, if_neg negative]
      exact SessionMoves.note env engine (.one (.requestDark call reported.1 negative))
        ⟨rfl, rfl, rfl, rfl, rfl⟩
  · rw [if_neg reported, if_neg reported]
    exact .refl call

/-- A record that is not refused leaves the session running. -/
theorem sessionRequestDark_running {call : InCall E} (events : FdtEvents)
    (running : call.impl.mode.isStopped = false)
    (granted : ¬ (sessionRequestDark env call events).1 < 0) :
    (sessionRequestDark env call events).2.impl.mode.isStopped = false := by
  unfold sessionRequestDark at granted ⊢
  by_cases reported : call.impl.mode = .activatingWaitUp ∧ events.up = true
  · rw [if_pos reported] at granted ⊢
    dsimp only at granted ⊢
    by_cases negative : (tlsServiceRequestCapture call.impl.svc).1 < 0
    · rw [if_pos negative] at granted
      exact absurd negative granted
    · rw [if_neg negative]
      rfl
  · rw [if_neg reported]
    exact running

theorem sessionFingerEvents_sameCore (call : InCall E) (events : FdtEvents) :
    call.SameCore (sessionFingerEvents call events) := by
  unfold sessionFingerEvents
  dsimp only
  split
  · split
    · exact ⟨rfl, rfl, rfl, rfl, rfl⟩
    · exact ⟨rfl, rfl, rfl, rfl, rfl⟩
  · split
    · exact ⟨rfl, rfl, rfl, rfl, rfl⟩
    · exact .refl call

/-- One record: the moves it makes, and that the loop goes on only in a running
session. -/
theorem sessionOnRecord_steps {call : InCall E} (hdr : TapHdr) (payload : List Byte)
    (running : call.impl.mode.isStopped = false) :
    SessionMoves env engine call (sessionOnRecordLog env call hdr payload)
        (sessionOnRecord env engine call hdr payload).2 ∧
      ((sessionOnRecord env engine call hdr payload).1 = true →
        (sessionOnRecord env engine call hdr payload).2.impl.mode.isStopped = false) := by
  have fed : SessionMoves env engine call [] _ := .one (.feed call running hdr payload)
  unfold sessionOnRecord sessionOnRecordLog
  generalize fdtFlowFeedRecord env call.impl.fd call.io call.impl.fdt hdr payload = out at fed ⊢
  have stillRunning : (call.setFdt out.flow out.io).impl.mode.isStopped = false := running
  dsimp only
  by_cases refused : out.ret < 0 ∧ out.ret ≠ EAGAIN.rc
  · rw [if_pos refused, if_pos refused]
    refine ⟨?_, fun goesOn => nomatch goesOn⟩
    exact SessionMoves.fail env engine fed (SessionMode.open_of_running stillRunning) _ _ _
  rw [if_neg refused, if_neg refused]
  have sameCore := sessionFingerEvents_sameCore (call.setFdt out.flow out.io) out.events
  have fingered := SessionMoves.note env engine fed sameCore
  have fingerRunning : (sessionFingerEvents (call.setFdt out.flow out.io)
      out.events).impl.mode.isStopped = false := by
    rw [sameCore.impl]
    exact running
  generalize sessionFingerEvents (call.setFdt out.flow out.io) out.events = finger
    at fingered fingerRunning ⊢
  have requested := fingered.trans (sessionRequestDark_steps env engine finger out.events)
  rw [List.nil_append] at requested
  have requestedRunning := sessionRequestDark_running env out.events fingerRunning
  generalize sessionRequestDark env finger out.events = asked at requested requestedRunning ⊢
  by_cases negative : asked.1 < 0
  · rw [if_pos negative]
    exact ⟨requested, fun goesOn => nomatch goesOn⟩
  rw [if_neg negative]
  have askedRunning := requestedRunning negative
  have recorded := requested.tail (.record asked.2 askedRunning hdr payload)
  rw [List.append_nil] at recorded
  generalize tlsServiceFeedTapRecord env engine asked.2.io asked.2.impl.svc hdr payload = taken
    at recorded ⊢
  have recordedRunning : (asked.2.setSvc taken.2.1 taken.2.2).impl.mode.isStopped = false :=
    askedRunning
  by_cases feedFailed : taken.1 < 0
  · rw [if_pos feedFailed]
    refine ⟨?_, fun goesOn => nomatch goesOn⟩
    exact SessionMoves.fail env engine recorded (SessionMode.open_of_running recordedRunning) _ _ _
  · rw [if_neg feedFailed]
    exact ⟨recorded, fun _ => recordedRunning⟩

theorem sessionOnFdLoop_steps (results : List (Except ℕ+ (List Byte))) {call : InCall E}
    (running : call.impl.mode.isStopped = false) :
    SessionMoves env engine call (sessionOnFdLoopLog env engine results call)
      (sessionOnFdLoop env engine results call) := by
  induction results generalizing call with
  | nil =>
      have isOpen := SessionMode.open_of_running running
      unfold sessionOnFdLoop sessionOnFdLoopLog
      by_cases noBuffer : (!call.impl.tapIoBuf) = true
      · rw [if_pos noBuffer, if_pos noBuffer]
        exact SessionMoves.fail env engine (.refl call) isOpen _ _ _
      rw [if_neg noBuffer, if_neg noBuffer]
      by_cases noFd : call.impl.fd < 0
      · rw [if_pos noFd, if_pos noFd]
        exact SessionMoves.fail env engine (.refl call) isOpen _ _ _
      rw [if_neg noFd, if_neg noFd]
      exact .refl call
  | cons result results ih =>
      have isOpen := SessionMode.open_of_running running
      unfold sessionOnFdLoop sessionOnFdLoopLog
      by_cases noBuffer : (!call.impl.tapIoBuf) = true
      · rw [if_pos noBuffer, if_pos noBuffer]
        exact SessionMoves.fail env engine (.refl call) isOpen _ _ _
      rw [if_neg noBuffer, if_neg noBuffer]
      by_cases noFd : call.impl.fd < 0
      · rw [if_pos noFd, if_pos noFd]
        exact SessionMoves.fail env engine (.refl call) isOpen _ _ _
      rw [if_neg noFd, if_neg noFd]
      dsimp only
      cases devReadRecord result with
      | error rc =>
          dsimp only
          split
          · exact .refl call
          · exact SessionMoves.fail env engine (.refl call) isOpen _ _ _
      | ok record =>
          obtain ⟨hdr, payload⟩ := record
          obtain ⟨handled, goesOn⟩ := sessionOnRecord_steps env engine hdr payload running
          dsimp only
          by_cases more : (sessionOnRecord env engine call hdr payload).1 = true
          · rw [if_pos more, if_pos more]
            exact handled.trans (ih (goesOn more))
          · rw [if_neg more, if_neg more, List.append_nil]
            exact handled

theorem sessionOnFd_runs (call : InCall E) (condition : UInt32) (actionCancelled : Bool) :
    SessionRuns env engine call (sessionOnFdLog env engine call condition actionCancelled)
      (sessionOnFd env engine call condition actionCancelled) := by
  unfold sessionOnFd sessionOnFdLog
  by_cases stopped : call.impl.mode.isStopped = true
  · rw [if_pos stopped, if_pos stopped]
    exact SessionMoves.runs (.refl call)
  rw [if_neg stopped, if_neg stopped]
  have running : call.impl.mode.isStopped = false := Bool.not_eq_true _ ▸ stopped
  by_cases bad : condition &&& SESSION_IO_BAD ≠ 0
  · rw [if_pos bad, if_pos bad]
    exact SessionMoves.runs (SessionMoves.fail env engine (.refl call)
      (SessionMode.open_of_running running) _ _ _)
  rw [if_neg bad, if_neg bad]
  have reading : SessionMoves env engine call [] _ := .one (.read call running)
  have looped := reading.trans (sessionOnFdLoop_steps env engine (env.reads call.io.count) running)
  exact SessionMoves.trans_runs looped (sessionPump_runs env engine _ actionCancelled)

/-! ## State changes -/

theorem sessionAwait_traced {call : InCall E} {mode : SessionMode} {fdtMode : FdtMode}
    (awaits : Awaits mode fdtMode) (isOpen : call.impl.mode ≠ .closed)
    (working : call.impl.mode ≠ .failed) :
    TracedMoves env engine call (sessionSetFdtMode env (call.setMode mode) fdtMode) :=
  ⟨.one (.await call awaits isOpen working),
    (sessionSetFdtMode_moves env (call.setMode mode) fdtMode).trace_suffix⟩

theorem sessionChangeState_steps (call : InCall E) (state : SessionState) :
    SessionMoves env engine call (sessionChangeStateLog env call state)
      (sessionChangeState env call state) := by
  unfold sessionChangeStateLog
  by_cases ignored : (!sessionModeHasIo call.impl) = true ∨ call.impl.mode = .failed
  · unfold sessionChangeState
    rw [if_pos ignored, if_pos ignored]
    exact .refl call
  rw [if_neg ignored]
  obtain ⟨hasIo, working⟩ := not_or.mp ignored
  have isOpen : call.impl.mode ≠ .closed := by
    intro closed
    apply hasIo
    simp [sessionModeHasIo, closed]
  have awaited {mode : SessionMode} {fdtMode : FdtMode} (awaits : Awaits mode fdtMode) :
      TracedMoves env engine call (sessionAwait env call mode fdtMode) := by
    have set := sessionAwait_traced env engine awaits isOpen working
    unfold sessionAwait
    dsimp only
    split
    · exact set.note ⟨rfl, rfl, rfl, rfl, rfl⟩
    · exact set
  cases state with
  | awaitFingerOn =>
      have changed : sessionChangeState env call .awaitFingerOn =
          sessionAwait env call .waitFingerOn .waitDown := if_neg ignored
      rw [changed]
      exact (awaited .fingerOn).moves
  | awaitFingerOff =>
      have changed : sessionChangeState env call .awaitFingerOff =
          sessionAwait env call .waitFingerOff .waitUp := if_neg ignored
      rw [changed]
      exact (awaited .fingerOff).moves
  | idle =>
      have changed : sessionChangeState env call .idle =
          sessionSetFdtMode env (call.setMode .idle) .idle := if_neg ignored
      rw [changed]
      exact (sessionAwait_traced env engine .idle isOpen working).moves
  | inactive =>
      have stopped : { call with impl := sessionStopRun call.impl } = call.setMode .ready := by
        unfold sessionStopRun
        rw [if_pos isOpen]
        rfl
      have changed : sessionChangeState env call .inactive =
          sessionSetFdtMode env { call with impl := sessionStopRun call.impl } .idle :=
        if_neg ignored
      dsimp only
      rw [changed, stopped]
      exact (sessionAwait_traced env engine .ready isOpen working).moves
  | capture =>
      have changed : sessionChangeState env call .capture = sessionStartCapture env call :=
        if_neg ignored
      rw [changed]
      dsimp only
      unfold sessionStartCapture
      by_cases rejected : call.impl.mode ≠ .idle ∧ call.impl.mode ≠ .waitFingerOn
      · rw [if_pos rejected, if_pos rejected]
        exact SessionMoves.fail env engine (.refl call) isOpen _ _ _
      rw [if_neg rejected, if_neg rejected]
      have ready : call.impl.mode = .idle ∨ call.impl.mode = .waitFingerOn := by
        by_cases idle : call.impl.mode = .idle
        · exact Or.inl idle
        · exact Or.inr (by_contra fun notOn => rejected ⟨idle, notOn⟩)
      dsimp only
      by_cases negative : (tlsServiceRequestCapture call.impl.svc).1 < 0
      · rw [if_pos negative, if_pos negative, tlsServiceRequestCapture_refused negative]
        exact SessionMoves.fail env engine (.refl call) isOpen _ _ _
      · rw [if_neg negative, if_neg negative]
        exact SessionMoves.note env engine (.one (.requestImage call ready negative))
          ⟨rfl, rfl, rfl, rfl, rfl⟩

end Parts

end Moves

end Gxfp.User
