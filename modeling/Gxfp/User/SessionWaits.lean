import Gxfp.User.FdtBudget
import Gxfp.User.SessionCalls

/-!
# What a session and its FDT flow wait for

The mode of a session and the mode of its FDT flow are set by different
functions, before and after sends that may fail.  A session that waits for a
finger has a flow that waits for the same, and the table of a finger-up wait is
the one of the last `FDT_UP` command since the flow was initialised.

The world in which the flow was initialised is kept beside the run; the
invariant is about the tables the trace has gained since then.
-/

namespace Gxfp.User

open Lib
open Lib.Bytes
open Lib.Execution
open Lib.EventLog
open Gxfp.Errno

/-! ## The flow and the trace -/

/-- An entry that arms no finger-up detection. -/
def Out.NoUp (out : Out) : Prop :=
  out.upTable = none

theorem Out.noUp_of_command_none {out : Out} (none : out.command = none) : out.NoUp := by
  unfold NoUp upTable
  rw [none]
  cases out.isComplete with
  | false => rfl
  | true => rfl

theorem Out.noUp_of_command {cmd : Byte} {out : Out} (isCommand : out.isCommand cmd)
    (notUp : cmd ≠ CMD_FDT_UP) : out.NoUp := by
  obtain ⟨payload, commandEq⟩ := isCommand
  exact upTable_of_command commandEq notUp

instance : Out.AdmitsRoutine Out.NoUp where
  command := fun isCommand _ _ notUp => Out.noUp_of_command isCommand notUp
  incomplete := fun _ incomplete => Out.upTable_of_incomplete incomplete
  record := Out.noUp_of_command_none
  flushed := rfl
  waited := rfl
  read := rfl

theorem Io.Extends.upTables {io after : Io} (extended : io.Extends Out.NoUp after) :
    after.upTables = io.upTables := by
  obtain ⟨outs, traceEq, none⟩ := extended
  unfold Io.upTables
  rw [traceEq, List.filterMap_append, List.filterMap_eq_nil_iff.mpr none, List.nil_append]

theorem Io.upTables_of_trace {io after : Io} (traceEq : after.trace = io.trace) :
    after.upTables = io.upTables := by
  unfold Io.upTables
  rw [traceEq]

/-- The arm of a flow that was initialised in the world `start`: its table is
that of the last `FDT_UP` command since, if there is one, and a finger-up wait
has one. -/
structure FdtFlow.ArmedSince (flow : FdtFlow) (start io : Io) : Prop where
  retries : flow.waitUpRetries ≤ FDT_WAIT_UP_MAX_RETRIES
  tables : ∃ new, io.upTables = new ++ start.upTables ∧
    (∀ table ∈ new.head?, table = flow.armedUpTable) ∧ (flow.mode = .waitUp → new ≠ [])

namespace FdtFlow.ArmedSince

variable {flow next : FdtFlow} {start io after : Io}

/-- A flow has sent nothing when it is initialised. -/
theorem fresh (idle : flow.mode = .idle) (retries : flow.waitUpRetries = 0) (io : Io) :
    flow.ArmedSince io io := by
  constructor
  · rw [retries]
    exact Nat.zero_le _
  · refine ⟨[], rfl, by simp, ?_⟩
    intro waiting
    rw [idle] at waiting
    cases waiting

theorem sameArm (armed : flow.ArmedSince start io) (same : flow.SameArm next)
    (mode : next.mode = flow.mode ∨ next.mode ≠ .waitUp) (tables : after.upTables = io.upTables) :
    next.ArmedSince start after := by
  obtain ⟨retries, new, newEq, head, nonempty⟩ := armed
  constructor
  · exact same.retries.trans_le retries
  · refine ⟨new, tables.trans newEq, ?_, ?_⟩
    · intro table isHead
      rw [same.table]
      exact head table isHead
    · intro waiting
      rcases mode with kept | left
      · exact nonempty (kept.symm.trans waiting)
      · exact absurd waiting left

theorem quiet (armed : flow.ArmedSince start io) (tables : after.upTables = io.upTables) :
    flow.ArmedSince start after :=
  armed.sameArm (.refl flow) (Or.inl rfl) tables

/-- A new arm. -/
theorem rearm (armed : flow.ArmedSince start io)
    (retries : next.waitUpRetries ≤ FDT_WAIT_UP_MAX_RETRIES)
    (tables : after.upTables = next.armedUpTable :: io.upTables) :
    next.ArmedSince start after := by
  obtain ⟨-, new, newEq, -, -⟩ := armed
  constructor
  · exact retries
  · refine ⟨next.armedUpTable :: new, ?_, ?_, ?_⟩
    · rw [tables, newEq, List.cons_append]
    · intro table isHead
      exact (Option.some.inj isHead).symm
    · intro _
      exact List.cons_ne_nil _ _

theorem upSet {out : Int × FdtFlow × Io} (armed : flow.ArmedSince start io)
    (result : UpSet io flow out) : out.2.1.ArmedSince start out.2.2 := by
  have retries := result.retries_le armed.retries
  cases result with
  | unarmed tables sameArm mode => exact armed.sameArm sameArm mode tables
  | armed entered waiting _ tables => exact armed.rearm retries tables

theorem upPolled {nowMs : Int} {out : Int × FdtFlow × Io} (armed : flow.ArmedSince start io)
    (result : UpPolled io flow nowMs out) (mode : out.2.1.mode = flow.mode) :
    out.2.1.ArmedSince start out.2.2 := by
  have retries := result.retries_le armed.retries
  cases result with
  | notDue none => exact armed
  | failed due negative tables sameArm sameReport table =>
      exact armed.sameArm sameArm (Or.inl mode) tables
  | rearmed due tables _ armedMs sameReport table => exact armed.rearm retries tables

/-- The table of a finger-up wait is the last one the sensor was armed with. -/
theorem head_eq (armed : flow.ArmedSince start io) (waiting : flow.mode = .waitUp) :
    (start.upTablesSince io).head? = some flow.armedUpTable := by
  obtain ⟨-, new, newEq, head, nonempty⟩ := armed
  rw [Io.upTablesSince_eq newEq]
  cases new with
  | nil => exact absurd rfl (nonempty waiting)
  | cons table new => exact congrArg some (head table rfl)

end FdtFlow.ArmedSince

section Waits

variable {E : Type} (env : Env) (engine : TlsEngine E)

/-! ## Inside a call -/

/-- The session and its flow wait for the same. -/
structure InCall.Agrees (start : Io) (call : InCall E) : Prop where
  fingerOn : call.impl.mode = .waitFingerOn → call.impl.fdt.mode = .waitDown
  fingerOff : call.impl.mode = .waitFingerOff ∨ call.impl.mode = .activatingWaitUp →
    call.impl.fdt.mode = .waitUp
  armed : call.impl.fdt.ArmedSince start call.io

/-- The modes in which a session waits for no finger. -/
def SessionMode.Unfingered (mode : SessionMode) : Prop :=
  mode ≠ .waitFingerOn ∧ mode ≠ .waitFingerOff ∧ mode ≠ .activatingWaitUp

theorem SessionMode.unfingered_failed : SessionMode.failed.Unfingered :=
  ⟨SessionMode.noConfusion, SessionMode.noConfusion, SessionMode.noConfusion⟩

theorem SessionMode.unfingered_idle : SessionMode.idle.Unfingered :=
  ⟨SessionMode.noConfusion, SessionMode.noConfusion, SessionMode.noConfusion⟩

theorem SessionMode.unfingered_ready : SessionMode.ready.Unfingered :=
  ⟨SessionMode.noConfusion, SessionMode.noConfusion, SessionMode.noConfusion⟩

namespace InCall.Agrees

variable {start : Io} {call next : InCall E}

/-- A session that waits for no finger agrees with any flow. -/
theorem of_unfingered (unfingered : call.impl.mode.Unfingered)
    (armed : call.impl.fdt.ArmedSince start call.io) : call.Agrees start := by
  obtain ⟨notOn, notOff, notUp⟩ := unfingered
  constructor
  · intro waiting
    exact absurd waiting notOn
  · rintro (waiting | waiting)
    · exact absurd waiting notOff
    · exact absurd waiting notUp
  · exact armed

/-- A change that keeps both modes and the arm. -/
theorem sameArm (agrees : call.Agrees start) (mode : next.impl.mode = call.impl.mode)
    (fdtMode : next.impl.fdt.mode = call.impl.fdt.mode)
    (same : call.impl.fdt.SameArm next.impl.fdt) (tables : next.io.upTables = call.io.upTables) :
    next.Agrees start := by
  constructor
  · intro waiting
    rw [fdtMode]
    exact agrees.fingerOn (mode.symm.trans waiting)
  · intro waiting
    rw [fdtMode]
    rw [mode] at waiting
    exact agrees.fingerOff waiting
  · exact agrees.armed.sameArm same (Or.inl fdtMode) tables

end InCall.Agrees

variable {start : Io}

theorem sessionSetError_upTables (call : InCall E) (err : Int) (target : ErrorTarget)
    (msg : String) : (sessionSetError env call err target msg).io.upTables = call.io.upTables :=
  (sessionSetError_extends env (fun _ => rfl) call err target msg).upTables

theorem sessionSetError_agrees {call : InCall E} (armed : call.impl.fdt.ArmedSince start call.io)
    (err : Int) (target : ErrorTarget) (msg : String) :
    (sessionSetError env call err target msg).Agrees start := by
  apply InCall.Agrees.of_unfingered SessionMode.unfingered_failed
  exact armed.quiet (sessionSetError_upTables env call err target msg)

/-- The flow of an open session is brought into the mode that its own asks for,
or the session fails. -/
theorem sessionSetFdtMode_agrees {call : InCall E} {fdtMode : FdtMode}
    (isOpen : call.impl.mode ≠ .closed) (armed : call.impl.fdt.ArmedSince start call.io)
    (fingerOn : call.impl.mode = .waitFingerOn → fdtMode = .waitDown)
    (fingerOff : call.impl.mode = .waitFingerOff ∨ call.impl.mode = .activatingWaitUp →
      fdtMode = .waitUp) : (sessionSetFdtMode env call fdtMode).Agrees start := by
  have flowArmed := armed.upSet
    (fdtFlowSetMode_upSet env call.impl.fd call.io call.impl.fdt fdtMode)
  have reached := fdtFlowSetMode_mode env call.impl.fd call.io call.impl.fdt fdtMode
  rw [sessionSetFdtMode_of_open env fdtMode isOpen]
  generalize fdtFlowSetMode env call.impl.fd call.io call.impl.fdt fdtMode = out
    at flowArmed reached ⊢
  by_cases negative : out.1 < 0
  · rw [if_pos negative]
    exact sessionSetError_agrees env flowArmed _ _ _
  rw [if_neg negative]
  have flowMode : out.2.1.mode = fdtMode := by
    rcases reached with reached | ⟨failed, -⟩
    · exact reached
    · exact absurd failed negative
  constructor
  · intro waiting
    exact flowMode.trans (fingerOn waiting)
  · intro waiting
    exact flowMode.trans (fingerOff waiting)
  · exact flowArmed

/-- Every move keeps the session and its flow in agreement. -/
theorem SessionMove.agrees {before after : InCall E} {logged : List SessionEvent}
    (move : SessionMove env engine before logged after) (agrees : before.Agrees start) :
    after.Agrees start := by
  cases move with
  | service running =>
      have quiet : before.io.Extends Out.NoUp _ :=
        tlsServiceStep_extends env before.impl.fd engine
          (fun _ isImage => Out.noUp_of_command isImage (by decide)) before.io before.impl.svc
      exact agrees.sameArm rfl rfl (.refl _) quiet.upTables
  | fail isOpen err target msg => exact sessionSetError_agrees env agrees.armed err target msg
  | note same =>
      apply agrees.sameArm
      · rw [same.impl]
      · rw [same.impl]
      · rw [same.impl]
        exact .refl _
      · rw [same.io]
  | await awaits isOpen working =>
      apply sessionSetFdtMode_agrees env
      · cases awaits with
        | fingerOn => exact SessionMode.noConfusion
        | fingerOff => exact SessionMode.noConfusion
        | idle => exact SessionMode.noConfusion
        | ready => exact SessionMode.noConfusion
      · exact agrees.armed
      · intro waiting
        cases awaits with
        | fingerOn => rfl
        | fingerOff => cases waiting
        | idle => cases waiting
        | ready => cases waiting
      · intro waiting
        cases awaits with
        | fingerOff => rfl
        | fingerOn => rcases waiting with waiting | waiting <;> cases waiting
        | idle => rcases waiting with waiting | waiting <;> cases waiting
        | ready => rcases waiting with waiting | waiting <;> cases waiting
  | observe activating seen =>
      apply sessionSetFdtMode_agrees env
      · exact SessionMode.noConfusion
      · exact agrees.armed
      · intro waiting
        cases waiting
      · intro _
        rfl
  | retry waiting nowMs =>
      have mode := fdtFlowPoll_mode env before.impl.fd before.io.tick before.impl.fdt nowMs
      have armed := (agrees.armed.quiet (Io.upTables_of_trace before.io.tick_trace)).upPolled
        (fdtFlowPoll_upPolled env before.impl.fd before.io.tick before.impl.fdt nowMs) mode
      constructor
      · intro isOn
        exact mode.trans (agrees.fingerOn isOn)
      · intro isOff
        exact mode.trans (agrees.fingerOff isOff)
      · exact armed
  | read running =>
      exact agrees.sameArm rfl rfl (.refl _) (Io.Extends.upTables ((Io.Extends.refl _).emit rfl))
  | feed running hdr payload =>
      obtain ⟨tables, same, -⟩ :=
        fdtFlowFeedRecord_report env before.impl.fd before.io before.impl.fdt hdr payload
      have mode :=
        (fdtFlowFeedRecord_flow env before.impl.fd before.io before.impl.fdt hdr payload).1
      exact agrees.sameArm rfl mode same tables
  | upReport waiting => exact agrees
  | requestDark waiting granted =>
      exact .of_unfingered
        ⟨SessionMode.noConfusion, SessionMode.noConfusion, SessionMode.noConfusion⟩ agrees.armed
  | record running hdr payload =>
      have traceEq :=
        tlsServiceFeedTapRecord_trace env engine before.io before.impl.svc hdr payload
      exact agrees.sameArm rfl rfl (.refl _) (Io.upTables_of_trace traceEq)
  | requestImage ready granted =>
      exact .of_unfingered
        ⟨SessionMode.noConfusion, SessionMode.noConfusion, SessionMode.noConfusion⟩ agrees.armed

/-- The end of a capture leaves no wait behind. -/
theorem SessionFinish.agrees {before after : InCall E} {logged : List SessionEvent}
    (finish : SessionFinish env before logged after) (agrees : before.Agrees start) :
    after.Agrees start := by
  cases finish with
  | none => exact agrees
  | noImage capture done empty err target msg =>
      apply sessionSetError_agrees env
      exact agrees.armed.quiet
        (Io.upTables_of_trace (tlsServiceGetRawImage_trace env before.io before.impl.svc))
  | failed capture done traceEq err target msg =>
      apply sessionSetError_agrees env
      exact agrees.armed.quiet (Io.upTables_of_trace traceEq)
  | dark capture done img traceEq idle sameArm =>
      apply InCall.Agrees.of_unfingered
      · exact SessionMode.unfingered_idle
      · apply agrees.armed.sameArm sameArm
        · right
          rw [idle]
          exact FdtMode.noConfusion
        · exact Io.upTables_of_trace traceEq
  | image capture done img traceEq =>
      apply InCall.Agrees.of_unfingered
      · exact SessionMode.unfingered_idle
      · exact agrees.armed.quiet (Io.upTables_of_trace traceEq)

theorem InCall.Agrees.sameCore {before after : InCall E} (agrees : before.Agrees start)
    (same : before.SameCore after) : after.Agrees start := by
  apply agrees.sameArm
  · rw [same.impl]
  · rw [same.impl]
  · rw [same.impl]
    exact .refl _
  · rw [same.io]

theorem SessionMoves.agrees {before after : InCall E} {logged : List SessionEvent}
    (moves : SessionMoves env engine before logged after) (agrees : before.Agrees start) :
    after.Agrees start := by
  induction moves with
  | refl => exact agrees
  | tail _ last ih => exact last.agrees env engine ih

theorem SessionRuns.agrees {before after : InCall E} {logged : List SessionEvent}
    (runs : SessionRuns env engine before logged after) (agrees : before.Agrees start) :
    after.Agrees start := by
  obtain ⟨middle, moved, finished, ended, moves, finish, same, -⟩ := runs
  have atMiddle := moves.agrees env engine agrees
  exact (finish.agrees env atMiddle).sameCore same

/-! ## Runs -/

/-- The call has initialised the FDT flow of the session. -/
def initialisesFlow (step : Transition (SessionRun E) SessionCall SessionOut) : Bool :=
  match step.input with
  | .init | .dispose => true
  | .openPath _ psk _ => psk.length ≠ 0
  | .requestClose _ => step.before.session.any fun impl => impl.mode ≠ .closed
  | .activate => step.output.ret = 0
  | .requestDeactivate | .changeState _ | .onFd .. | .pump _ | .takeImage => false

/-- The world in which the flow was initialised after one more call. -/
def flowStartNext (start : Io) (step : Transition (SessionRun E) SessionCall SessionOut) : Io :=
  if initialisesFlow step then step.after.io else start

theorem flowStartNext_of_initialised {start : Io}
    {step : Transition (SessionRun E) SessionCall SessionOut}
    (initialised : initialisesFlow step = true) : flowStartNext start step = step.after.io :=
  if_pos initialised

theorem flowStartNext_of_kept {start : Io}
    {step : Transition (SessionRun E) SessionCall SessionOut}
    (kept : initialisesFlow step = false) : flowStartNext start step = start := by
  unfold flowStartNext
  rw [kept]
  exact if_neg Bool.false_ne_true

/-- The world in which the flow was initialised last, in a run that starts in
the world `start`. -/
def flowStart (start : Io) (steps : List (Transition (SessionRun E) SessionCall SessionOut)) : Io :=
  steps.foldl flowStartNext start

/-- The session agrees with its flow: a session that waits for a finger on the
sensor has a flow in finger-down detection, one that waits for a finger to leave
has one in finger-up detection, within its retries and with the table of the
last `FDT_UP` command since `start`. -/
def SessionRun.WaitsAgree (start : Io) (run : SessionRun E) : Prop :=
  ∀ impl, run.session = some impl →
    (impl.mode = .waitFingerOn → impl.fdt.mode = .waitDown) ∧
      (impl.mode = .waitFingerOff ∨ impl.mode = .activatingWaitUp →
        impl.fdt.mode = .waitUp ∧ impl.fdt.waitUpRetries ≤ 20 ∧
          (start.upTablesSince run.io).head? = some impl.fdt.armedUpTable)

/-- The invariant between two calls. -/
def SessionRun.Agrees (start : Io) (run : SessionRun E) : Prop :=
  ∀ impl, run.session = some impl → InCall.Agrees start ⟨impl, sessionEventsClear, run.io⟩

theorem SessionRun.Agrees.waitsAgree {run : SessionRun E} (agrees : run.Agrees start) :
    run.WaitsAgree start := by
  intro impl implEq
  obtain ⟨fingerOn, fingerOff, armed⟩ := agrees impl implEq
  refine ⟨fingerOn, ?_⟩
  intro waiting
  exact ⟨fingerOff waiting, armed.retries, armed.head_eq (fingerOff waiting)⟩

/-- A session whose flow is new agrees with it. -/
theorem SessionRun.agrees_of_unused {impl : SessionImpl E} (unfingered : impl.mode.Unfingered)
    (unused : impl.fdt.Unused) (io : Io) : SessionRun.Agrees io ⟨some impl, io⟩ := by
  intro other otherEq
  cases otherEq
  exact .of_unfingered unfingered (.fresh unused.mode unused.retries io)

theorem SessionRun.agrees_of_released {impl : SessionImpl E} (released : impl.Released) (io : Io) :
    SessionRun.Agrees io ⟨some impl, io⟩ := by
  apply SessionRun.agrees_of_unused _ released.fdt
  rw [released.mode]
  exact ⟨SessionMode.noConfusion, SessionMode.noConfusion, SessionMode.noConfusion⟩

theorem SessionRun.agrees_none (start io : Io) : SessionRun.Agrees (E := E) start ⟨none, io⟩ := by
  intro impl implEq
  cases implEq

/-- A call on an implementation that keeps the agreement keeps it in a run. -/
theorem SessionRun.within_agrees {run : SessionRun E} (agrees : run.Agrees start) (absent : Int)
    (body : InCall E → Int × InCall E)
    (kept : ∀ call : InCall E, call.Agrees start → (body call).2.Agrees start) :
    (run.within absent body).1.Agrees start := by
  rcases run with ⟨session, io⟩
  cases session with
  | none => exact SessionRun.agrees_none start io
  | some impl =>
      intro after afterEq
      cases afterEq
      obtain ⟨fingerOn, fingerOff, armed⟩ := kept _ (agrees impl rfl)
      exact ⟨fingerOn, fingerOff, armed⟩

theorem sessionStep_agrees_open {run : SessionRun E} (agrees : run.Agrees start)
    (devPath : String) (psk : List Byte) (errbufLen : Nat) :
    (sessionStep env engine run (.openPath devPath psk errbufLen)).1.Agrees (flowStartNext start
      (stepTransition (sessionStep env engine) run (.openPath devPath psk errbufLen))) := by
  have spec : SessionOpens engine Out.NoUp run.session run.io psk _ :=
    sessionOpen_spec env engine
      (fun _ isStart => Out.noUp_of_command isStart (by decide)) run.session run.io devPath psk
      errbufLen
  have kept (noPsk : psk.length = 0) : flowStartNext start
      (stepTransition (sessionStep env engine) run (.openPath devPath psk errbufLen)) = start :=
    flowStartNext_of_kept (decide_eq_false (not_not.mpr noPsk))
  have restarted (hasPsk : psk.length ≠ 0) : flowStartNext start
      (stepTransition (sessionStep env engine) run (.openPath devPath psk errbufLen)) =
      (sessionOpen env engine run.session run.io devPath psk errbufLen).io :=
    flowStartNext_of_initialised (decide_eq_true hasPsk)
  generalize flowStartNext start _ = base at kept restarted ⊢
  dsimp only [sessionStep]
  generalize sessionOpen env engine run.session run.io devPath psk errbufLen = out
    at spec restarted ⊢
  cases spec with
  | refused noPsk =>
      rw [kept noPsk]
      exact agrees
  | noMemory hasPsk absent =>
      rw [absent]
      exact SessionRun.agrees_none _ _
  | noDevice hasPsk negative sessionEq released trace =>
      rw [sessionEq, restarted hasPsk]
      exact SessionRun.agrees_of_released released out.io
  | failed hasPsk negative sessionEq released used closed =>
      rw [sessionEq, restarted hasPsk]
      exact SessionRun.agrees_of_released released out.io
  | opened hasPsk zero sessionEq ready fdEq svc fresh manual unused dark pendingImg used =>
      rw [sessionEq, restarted hasPsk]
      apply SessionRun.agrees_of_unused _ unused
      rw [ready]
      exact SessionMode.unfingered_ready

theorem sessionStep_agrees_close {run : SessionRun E} (agrees : run.Agrees start)
    (resetMcu : Bool) :
    (sessionStep env engine run (.requestClose resetMcu)).1.Agrees (flowStartNext start
      (stepTransition (sessionStep env engine) run (.requestClose resetMcu))) := by
  rcases run with ⟨session, io⟩
  cases session with
  | none => exact SessionRun.agrees_none _ _
  | some impl =>
      have spec : SessionCleansUp Out.NoUp ⟨impl, sessionEventsClear, io⟩ _ .close :=
        sessionBeginCleanup_spec env ⟨impl, sessionEventsClear, io⟩ .close resetMcu
      have kept (closed : impl.mode = .closed) : flowStartNext start
          (stepTransition (sessionStep env engine) ⟨some impl, io⟩ (.requestClose resetMcu)) =
          start :=
        flowStartNext_of_kept (decide_eq_false (not_not.mpr closed))
      have restarted (isOpen : impl.mode ≠ .closed) : flowStartNext start
          (stepTransition (sessionStep env engine) ⟨some impl, io⟩ (.requestClose resetMcu)) =
          (sessionBeginCleanup env ⟨impl, sessionEventsClear, io⟩ .close resetMcu).io :=
        flowStartNext_of_initialised (decide_eq_true isOpen)
      generalize flowStartNext start _ = base at kept restarted ⊢
      cases spec with
      | closed _ closed same =>
          rw [kept closed]
          intro after afterEq
          cases afterEq
          obtain ⟨fingerOn, fingerOff, armed⟩ := (agrees impl rfl).sameCore same
          exact ⟨fingerOn, fingerOff, armed⟩
      | @released middle isOpen used same =>
          rw [restarted isOpen]
          apply SessionRun.agrees_of_released
          rw [same.impl]
          exact sessionResetRuntime_released _ middle

theorem sessionStep_agrees_activate {run : SessionRun E} (agrees : run.Agrees start) :
    (sessionStep env engine run .activate).1.Agrees
      (flowStartNext start (stepTransition (sessionStep env engine) run .activate)) := by
  rcases run with ⟨session, io⟩
  cases session with
  | none => exact SessionRun.agrees_none _ _
  | some impl =>
      have held := agrees impl rfl
      have spec := sessionActivate_spec env engine
        (show (⟨impl, sessionEventsClear, io⟩ : InCall E).ev.sessionError = false from rfl)
      have kept (failed : (sessionActivate env engine ⟨impl, sessionEventsClear, io⟩).1 ≠ 0) :
          flowStartNext start (stepTransition (sessionStep env engine) ⟨some impl, io⟩
            .activate) = start :=
        flowStartNext_of_kept (decide_eq_false failed)
      have restarted (zero : (sessionActivate env engine ⟨impl, sessionEventsClear, io⟩).1 = 0) :
          flowStartNext start (stepTransition (sessionStep env engine) ⟨some impl, io⟩
            .activate) = (sessionActivate env engine ⟨impl, sessionEventsClear, io⟩).2.io :=
        flowStartNext_of_initialised (decide_eq_true zero)
      generalize flowStartNext start _ = base at kept restarted ⊢
      dsimp only [sessionStep, SessionRun.within]
      generalize sessionActivate env engine ⟨impl, sessionEventsClear, io⟩ = out
        at spec kept restarted ⊢
      rcases out with ⟨ret, after⟩
      dsimp only at spec kept restarted ⊢
      cases spec with
      | closed closed =>
          rw [kept (Int.ne_of_lt (rc_neg EINVAL))]
          exact agrees
      | @failed _ svc next isOpen rearmed negative msg =>
          rw [kept (Int.ne_of_lt negative)]
          have quiet : io.Extends Out.NoUp next := rearmed.extends env engine
            fun _ isStart => Out.noUp_of_command isStart (by decide)
          have armed := held.armed.quiet quiet.upTables
          have failed : (sessionSetError env (InCall.setSvc ⟨impl, sessionEventsClear, io⟩ svc
              next) ret .activate msg).Agrees start :=
            sessionSetError_agrees env armed ret .activate msg
          intro after afterEq
          cases afterEq
          obtain ⟨fingerOn, fingerOff, armed⟩ := failed
          exact ⟨fingerOn, fingerOff, armed⟩
      | activated isOpen rearmed notNegative same =>
          rw [restarted rfl, same.impl]
          apply SessionRun.agrees_of_unused _ ⟨rfl, rfl⟩
          exact ⟨SessionMode.noConfusion, SessionMode.noConfusion, SessionMode.noConfusion⟩

/-- Every call keeps session and flow in agreement. -/
theorem sessionStep_agrees {run : SessionRun E} (agrees : run.Agrees start) (call : SessionCall) :
    (sessionStep env engine run call).1.Agrees
      (flowStartNext start (stepTransition (sessionStep env engine) run call)) := by
  cases call with
  | init =>
      change SessionRun.Agrees (sessionStep env engine run .init).1.io _
      unfold sessionStep
      rcases sessionEnsureImpl_cases (E := E) env none run.io with ⟨-, ensured⟩ |
        ⟨made, next, ensured, madeEq | ⟨-, released⟩, -⟩
      · rw [ensured]
        exact SessionRun.agrees_none _ _
      · cases madeEq
      · rw [ensured]
        exact SessionRun.agrees_of_released released next
  | dispose =>
      rcases run with ⟨session, io⟩
      cases session with
      | none => exact SessionRun.agrees_none _ _
      | some impl => exact SessionRun.agrees_none _ _
  | openPath devPath psk errbufLen =>
      exact sessionStep_agrees_open env engine agrees devPath psk errbufLen
  | requestClose resetMcu => exact sessionStep_agrees_close env engine agrees resetMcu
  | requestDeactivate =>
      apply SessionRun.within_agrees agrees
      intro call held
      have spec : SessionCleansUp Out.NoUp call _ .deactivate :=
        sessionBeginCleanup_spec env call .deactivate false
      cases spec with
      | closed _ closed same => exact held.sameCore same
      | stopped isOpen same =>
          have stopped : (call.setMode .ready).Agrees start :=
            .of_unfingered SessionMode.unfingered_ready held.armed
          exact stopped.sameCore same
  | activate => exact sessionStep_agrees_activate env engine agrees
  | changeState state =>
      apply SessionRun.within_agrees agrees
      intro call held
      exact (sessionChangeState_steps env engine call state).agrees env engine held
  | onFd condition actionCancelled =>
      apply SessionRun.within_agrees agrees
      intro call held
      exact (sessionOnFd_runs env engine call condition actionCancelled).agrees env engine held
  | pump actionCancelled =>
      apply SessionRun.within_agrees agrees
      intro call held
      exact (sessionPump_runs env engine call actionCancelled).agrees env engine held
  | takeImage =>
      rcases run with ⟨session, io⟩
      cases session with
      | none => exact SessionRun.agrees_none _ _
      | some impl =>
          obtain ⟨fingerOn, fingerOff, armed⟩ := agrees impl rfl
          intro after afterEq
          dsimp only [sessionStep, sessionTakeImage] at afterEq
          split at afterEq
          · cases afterEq
            exact ⟨fingerOn, fingerOff, armed⟩
          · cases afterEq
            exact ⟨fingerOn, fingerOff, armed⟩

theorem final_agrees {run : SessionRun E} (agrees : run.Agrees start) (calls : List SessionCall) :
    (final (sessionStep env engine) run calls).Agrees
      (flowStart start (transitions (sessionStep env engine) run calls)) := by
  induction calls generalizing run start with
  | nil => exact agrees
  | cons call calls ih => exact ih (sessionStep_agrees env engine agrees call)

/-- In every state that calls lead to, the session and its FDT flow wait for the
same. -/
theorem session_waits_agree (io : Io) (calls : List SessionCall) :
    (final (sessionStep env engine) ⟨none, io⟩ calls).WaitsAgree
      (flowStart io (transitions (sessionStep env engine) ⟨none, io⟩ calls)) := by
  have fresh : SessionRun.Agrees (E := E) io ⟨none, io⟩ := SessionRun.agrees_none io io
  exact (final_agrees env engine fresh calls).waitsAgree

end Waits

end Gxfp.User
