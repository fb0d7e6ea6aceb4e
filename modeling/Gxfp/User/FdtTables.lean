import Gxfp.User.FdtRetry

/-!
# The tables the sensor is armed with

A complete `FDT_UP` command carries the base table it arms the sensor with, so
the trace tells which tables the sensor has had.  Every call of the flow either
sends no such command and leaves the arm of the flow alone, or sends one and
stores its table, its time and its number; `UpSet` and `UpPolled` say so for the
two calls that arm.

The table of the last finger-up report is copied from the stored one whether or
not there has been an arm.  It is a table the sensor was armed with exactly if
no such report comes before the first arm.
-/

namespace Gxfp.User

open Lib.Bytes
open Lib.Execution
open Gxfp.Errno

/-! ## Tables in the trace -/

/-- The table of a complete `FDT_UP` command. -/
def Out.upTable (out : Out) : Option FdtTable :=
  match out.isComplete, out.command with
  | true, some (cmd, payload) =>
      if cmd = CMD_FDT_UP then
        some (Vector.ofFn fun index : Fin 24 => payload.getD (2 + index) 0)
      else
        none
  | _, _ => none

/-- The tables of the `FDT_UP` commands sent so far, newest first. -/
def Io.upTables (io : Io) : List FdtTable :=
  io.trace.filterMap Out.upTable

/-- The tables of the `FDT_UP` commands sent since `start`. -/
def Io.upTablesSince (start io : Io) : List FdtTable :=
  io.upTables.take (io.upTables.length - start.upTables.length)

theorem Io.upTablesSince_eq {start io : Io} {new : List FdtTable}
    (tables : io.upTables = new ++ start.upTables) : start.upTablesSince io = new := by
  unfold upTablesSince
  rw [tables, List.length_append, Nat.add_sub_cancel, List.take_left]

theorem Out.upTable_of_command {out : Out} {cmd : Byte} {payload : List Byte}
    (isCommand : out.command = some (cmd, payload)) (notUp : cmd ≠ CMD_FDT_UP) :
    out.upTable = none := by
  unfold upTable
  rw [isCommand]
  cases out.isComplete with
  | false => rfl
  | true => exact if_neg notUp

theorem Out.upTable_of_incomplete {out : Out} (incomplete : ∀ buf, out ≠ .write buf buf.length) :
    out.upTable = none := by
  have notComplete : out.isComplete = false := by
    rw [Bool.eq_false_iff]
    intro complete
    obtain ⟨buf, same⟩ := isComplete_iff.mp complete
    exact incomplete buf same
  unfold upTable
  rw [notComplete]

/-- The table of a command is the one its payload was built from. -/
theorem Out.upTable_of_sent {buf : List Byte} {table : FdtTable}
    (isCommand : (Out.write buf buf.length).command =
      some (CMD_FDT_UP, fdtPayloadBuild 0x0A table)) :
    (Out.write buf buf.length).upTable = some table := by
  have complete : (Out.write buf buf.length).isComplete = true := isComplete_iff.mpr ⟨buf, rfl⟩
  unfold upTable
  rw [complete, isCommand]
  dsimp only
  rw [if_pos rfl, Option.some_inj]
  ext index inside
  rw [Vector.getElem_ofFn]
  have inTable : index < table.toList.length := by simpa using inside
  simp [fdtPayloadBuild, Nat.add_comm 2 index, List.getElem?_append_left inTable, inside]

theorem Io.upTables_emit_none {io : Io} {out : Out} (none : out.upTable = none) :
    (io.tick.emit out).upTables = io.upTables :=
  List.filterMap_cons_none none

theorem Io.upTables_emit_some {io : Io} {out : Out} {table : FdtTable}
    (some : out.upTable = some table) : (io.tick.emit out).upTables = table :: io.upTables :=
  List.filterMap_cons_some some

/-- Other commands carry no table. -/
theorem SendResult.upTables {io : Io} {cmd : Byte} {payload : List Byte} {out : Int × Io}
    (result : SendResult io cmd payload out) (notUp : cmd ≠ CMD_FDT_UP) :
    out.2.upTables = io.upTables := by
  cases result with
  | refused errno definite => rfl
  | failed isCommand negative incomplete again =>
      exact Io.upTables_emit_none (Out.upTable_of_command isCommand notUp)
  | sent isCommand => exact Io.upTables_emit_none (Out.upTable_of_command isCommand notUp)

/-- An `FDT_UP` command fails and leaves no table, or is sent with its table. -/
theorem SendResult.upTables_up {io : Io} {table : FdtTable} {out : Int × Io}
    (result : SendResult io CMD_FDT_UP (fdtPayloadBuild 0x0A table) out) :
    (out.1 < 0 ∧ out.2.upTables = io.upTables) ∨
      (out.1 = 0 ∧ out.2.upTables = table :: io.upTables) := by
  cases result with
  | refused errno definite => exact Or.inl ⟨rc_neg errno, rfl⟩
  | failed isCommand negative incomplete again =>
      exact Or.inl ⟨negative, Io.upTables_emit_none (Out.upTable_of_incomplete incomplete)⟩
  | sent isCommand => exact Or.inr ⟨rfl, Io.upTables_emit_some (Out.upTable_of_sent isCommand)⟩

/-! ## What the calls do to the arm -/

/-- The arm of the flow is as it was. -/
structure FdtFlow.SameArm (before after : FdtFlow) : Prop where
  table : after.armedUpTable = before.armedUpTable
  retries : after.waitUpRetries = before.waitUpRetries
  armedMs : after.waitUpArmedMs = before.waitUpArmedMs

/-- The finger state and the table of the last finger-up report are as they
were. -/
structure FdtFlow.SameReport (before after : FdtFlow) : Prop where
  state : after.state = before.state
  table : after.lastGoodUpTable = before.lastGoodUpTable
  valid : after.lastGoodUpValid = before.lastGoodUpValid

theorem FdtFlow.SameArm.refl (flow : FdtFlow) : flow.SameArm flow :=
  ⟨rfl, rfl, rfl⟩

theorem FdtFlow.SameReport.refl (flow : FdtFlow) : flow.SameReport flow :=
  ⟨rfl, rfl, rfl⟩

/-- The finger state and the table of the last finger-up report after a record
with these events. -/
structure FdtFlow.Reported (before : FdtFlow) (events : FdtEvents) (after : FdtFlow) : Prop where
  state : after.state =
    if events.up then .up else if events.down then .down else before.state
  table : after.lastGoodUpTable =
    if events.up then before.armedUpTable else before.lastGoodUpTable
  valid : after.lastGoodUpValid = (events.up || before.lastGoodUpValid)

/-- How a change of mode can end: without a new arm, or in a new finger-up
wait. -/
inductive UpSet (io : Io) (flow : FdtFlow) : Int × FdtFlow × Io → Prop
  | unarmed {rc : Int} {next : FdtFlow} {after : Io} (tables : after.upTables = io.upTables)
      (sameArm : flow.SameArm next) (mode : next.mode = flow.mode ∨ next.mode ≠ .waitUp) :
      UpSet io flow (rc, next, after)
  | armed {next : FdtFlow} {after : Io} (entered : flow.mode ≠ .waitUp)
      (waiting : next.mode = .waitUp) (retries : next.waitUpRetries = 0)
      (tables : after.upTables = next.armedUpTable :: io.upTables) :
      UpSet io flow (0, next, after)

/-- The table a poll arms with. -/
def FdtFlow.rearmTable (flow : FdtFlow) : FdtTable :=
  if flow.lastGoodUpValid then flow.lastGoodUpTable else flow.cmd.upTable

/-- How a poll can end: nothing is due, a command is not sent, or the sensor is
armed again. -/
inductive UpPolled (io : Io) (flow : FdtFlow) (nowMs : Int) : Int × FdtFlow × Io → Prop
  | notDue (none : fdtFlowWaitUpRetryDue flow nowMs ≤ 0) :
      UpPolled io flow nowMs (fdtFlowWaitUpRetryDue flow nowMs, flow, io)
  | failed {rc : Int} {next : FdtFlow} {after : Io} (due : ¬ fdtFlowWaitUpRetryDue flow nowMs ≤ 0)
      (negative : rc < 0) (tables : after.upTables = io.upTables) (sameArm : flow.SameArm next)
      (sameReport : flow.SameReport next) (table : next.cmd.upTable = flow.rearmTable) :
      UpPolled io flow nowMs (rc, next, after)
  | rearmed {next : FdtFlow} {after : Io} (due : ¬ fdtFlowWaitUpRetryDue flow nowMs ≤ 0)
      (tables : after.upTables = next.armedUpTable :: io.upTables)
      (retries : next.waitUpRetries = flow.waitUpRetries + 1)
      (armedMs : next.waitUpArmedMs = nowMs) (sameReport : flow.SameReport next)
      (table : next.cmd.upTable = flow.rearmTable) :
      UpPolled io flow nowMs (0, next, after)

section Calls

variable (env : Env) (fd : Int)

@[simp]
theorem cmdFdtSetMode_upTables (io : Io) (state : CmdFdtState) :
    (cmdFdtSetMode env fd io state).2.2.upTables = io.upTables :=
  (hostSendAsync_result env fd io CMD_FDT_MODE _).upTables (by decide)

@[simp]
theorem cmdFdtSendDown_upTables (io : Io) (state : CmdFdtState) :
    (cmdFdtSendDown env fd io state).2.upTables = io.upTables :=
  (hostSendAsync_result env fd io CMD_FDT_DOWN _).upTables (by decide)

theorem cmdFdtSendUp_upTables (io : Io) (state : CmdFdtState) :
    ((cmdFdtSendUp env fd io state).1 < 0 ∧
        (cmdFdtSendUp env fd io state).2.upTables = io.upTables) ∨
      ((cmdFdtSendUp env fd io state).1 = 0 ∧
        (cmdFdtSendUp env fd io state).2.upTables = state.upTable :: io.upTables) :=
  (hostSendAsync_result env fd io CMD_FDT_UP (fdtUpPayloadBuild state)).upTables_up

theorem fdtFlowSetMode_upSet (io : Io) (flow : FdtFlow) (mode : FdtMode) :
    UpSet io flow (fdtFlowSetMode env fd io flow mode) := by
  unfold fdtFlowSetMode
  split
  · exact .unarmed rfl (.refl flow) (Or.inl rfl)
  · rename_i differs
    cases mode with
    | idle => exact .unarmed rfl ⟨rfl, rfl, rfl⟩ (Or.inr (by simp))
    | waitDown =>
        dsimp only
        split
        · exact .unarmed (by simp) ⟨rfl, rfl, rfl⟩ (Or.inl rfl)
        · split
          · exact .unarmed (by simp) ⟨rfl, rfl, rfl⟩ (Or.inl rfl)
          · exact .unarmed (by simp) ⟨rfl, rfl, rfl⟩ (Or.inr (by simp))
    | waitUp =>
        dsimp only
        split
        · exact .unarmed (by simp) ⟨rfl, rfl, rfl⟩ (Or.inl rfl)
        · rcases cmdFdtSendUp_upTables env fd (cmdFdtSetMode env fd io flow.cmd).2.2
              (cmdFdtSetMode env fd io flow.cmd).2.1 with ⟨negative, tables⟩ | ⟨sent, tables⟩
          · rw [if_pos negative]
            exact .unarmed (by simp [tables]) ⟨rfl, rfl, rfl⟩ (Or.inl rfl)
          · rw [if_neg (by omega)]
            refine .armed (fun waiting => differs waiting.symm) rfl rfl ?_
            rw [cmdFdtSetMode_upTables] at tables
            exact tables

/-- A change of mode leaves the reports alone. -/
theorem fdtFlowSetMode_sameReport (io : Io) (flow : FdtFlow) (mode : FdtMode) :
    flow.SameReport (fdtFlowSetMode env fd io flow mode).2.1 := by
  unfold fdtFlowSetMode
  split
  · exact .refl flow
  · cases mode with
    | idle => exact ⟨rfl, rfl, rfl⟩
    | waitDown =>
        dsimp only
        split
        · exact ⟨rfl, rfl, rfl⟩
        · split
          · exact ⟨rfl, rfl, rfl⟩
          · exact ⟨rfl, rfl, rfl⟩
    | waitUp =>
        dsimp only
        split
        · exact ⟨rfl, rfl, rfl⟩
        · split
          · exact ⟨rfl, rfl, rfl⟩
          · exact ⟨rfl, rfl, rfl⟩

theorem fdtFlowPoll_upPolled (io : Io) (flow : FdtFlow) (nowMs : Int) :
    UpPolled io flow nowMs (fdtFlowPoll env fd io flow nowMs) := by
  unfold fdtFlowPoll
  dsimp only
  by_cases none : fdtFlowWaitUpRetryDue flow nowMs ≤ 0
  · rw [if_pos none]
    exact .notDue none
  rw [if_neg none]
  obtain ⟨chosen, chosenEq, chosenTable, chosenArm, chosenReport⟩ : ∃ chosen,
      (if flow.lastGoodUpValid then
        { flow with cmd := { flow.cmd with upTable := flow.lastGoodUpTable } }
      else flow) = chosen ∧ chosen.cmd.upTable = flow.rearmTable ∧ flow.SameArm chosen ∧
        flow.SameReport chosen := by
    refine ⟨_, rfl, ?_⟩
    unfold FdtFlow.rearmTable
    split
    · exact ⟨rfl, ⟨rfl, rfl, rfl⟩, ⟨rfl, rfl, rfl⟩⟩
    · exact ⟨rfl, .refl flow, .refl flow⟩
  rw [chosenEq]
  have sameArm (cmd : CmdFdtState) : flow.SameArm { chosen with cmd := cmd } :=
    ⟨chosenArm.table, chosenArm.retries, chosenArm.armedMs⟩
  split
  · rename_i negative
    exact .failed none negative (by simp) (sameArm _)
      ⟨chosenReport.state, chosenReport.table, chosenReport.valid⟩ chosenTable
  · rcases cmdFdtSendUp_upTables env fd (cmdFdtSetMode env fd io chosen.cmd).2.2
        (cmdFdtSetMode env fd io chosen.cmd).2.1 with ⟨negative, tables⟩ | ⟨sent, tables⟩
    · rw [if_pos negative]
      exact .failed none negative (by simp [tables]) (sameArm _)
        ⟨chosenReport.state, chosenReport.table, chosenReport.valid⟩ chosenTable
    · rw [if_neg (by omega)]
      rw [cmdFdtSetMode_upTables] at tables
      refine .rearmed none tables ?_ rfl
        ⟨chosenReport.state, chosenReport.table, chosenReport.valid⟩ chosenTable
      rw [← chosenArm.retries]

/-- A status never reports UP and reverse together. -/
theorem fdtStatusToEvents_exclusive {status : UInt16} (up : (fdtStatusToEvents status).up = true) :
    (fdtStatusToEvents status).reverse ≠ true := by
  unfold fdtStatusToEvents at up ⊢
  by_cases isDown : status = FDT_STATUS_DOWN_GET_UP_BASE
  · rw [if_pos isDown]
    decide
  rw [if_neg isDown] at up ⊢
  by_cases isUp : status = FDT_STATUS_UP
  · rw [if_pos isUp]
    decide
  rw [if_neg isUp] at up
  split at up
  · cases up
  · cases up

/-- The record reports that the finger is lifted: by its status, or by a reverse
status during a finger-up wait. -/
def FdtFlow.ReportsUp (flow : FdtFlow) (hdr : TapHdr) (payload : List Byte) : Prop :=
  ∃ cmd status, fdtUpdateStateFromRecord flow.cmd hdr payload = .ok (cmd, status) ∧
    ((fdtStatusToEvents status).up = true ∨
      ((fdtStatusToEvents status).reverse = true ∧ flow.mode = .waitUp))

/-- What the end of a feed does, in terms of the events it reports. -/
theorem fdtFlowReport_report (io : Io) (flow : FdtFlow) (events : FdtEvents) :
    flow.SameArm (fdtFlowReport io flow events).flow ∧
      flow.Reported (fdtFlowReport io flow events).events (fdtFlowReport io flow events).flow := by
  unfold fdtFlowReport
  dsimp only
  generalize (if events.reverse = true ∧ flow.mode = .waitUp then
    { events with up := true } else events) = reported
  rcases reported with ⟨down, up, reverse⟩
  cases down <;> cases up <;> exact ⟨⟨rfl, rfl, rfl⟩, ⟨rfl, rfl, rfl⟩⟩

/-- A record sends no `FDT_UP` and leaves the arm alone; the finger state and
the table of the last finger-up report follow the events. -/
theorem fdtFlowFeedRecord_report (io : Io) (flow : FdtFlow) (hdr : TapHdr)
    (payload : List Byte) :
    (fdtFlowFeedRecord env fd io flow hdr payload).io.upTables = io.upTables ∧
      flow.SameArm (fdtFlowFeedRecord env fd io flow hdr payload).flow ∧
      flow.Reported (fdtFlowFeedRecord env fd io flow hdr payload).events
        (fdtFlowFeedRecord env fd io flow hdr payload).flow := by
  unfold fdtFlowFeedRecord
  split
  · exact ⟨rfl, .refl flow, ⟨rfl, rfl, rfl⟩⟩
  · rename_i cmd status _
    have reported (io : Io) (cmd : CmdFdtState) := fdtFlowReport_report io
      { flow with cmd := cmd, lastStatus := status } (fdtStatusToEvents status)
    have sameArm (io : Io) (cmd : CmdFdtState) : flow.SameArm (fdtFlowReport io
        { flow with cmd := cmd, lastStatus := status } (fdtStatusToEvents status)).flow :=
      ⟨(reported io cmd).1.table, (reported io cmd).1.retries, (reported io cmd).1.armedMs⟩
    have sameReport (io : Io) (cmd : CmdFdtState) : flow.Reported
        (fdtFlowReport io { flow with cmd := cmd, lastStatus := status }
          (fdtStatusToEvents status)).events
        (fdtFlowReport io { flow with cmd := cmd, lastStatus := status }
          (fdtStatusToEvents status)).flow :=
      ⟨(reported io cmd).2.state, (reported io cmd).2.table, (reported io cmd).2.valid⟩
    dsimp only
    split
    · split
      · exact ⟨by simp, ⟨rfl, rfl, rfl⟩, ⟨rfl, rfl, rfl⟩⟩
      · split
        · exact ⟨by simp, ⟨rfl, rfl, rfl⟩, ⟨rfl, rfl, rfl⟩⟩
        · exact ⟨by simp [fdtFlowReport], sameArm _ _, sameReport _ _⟩
    · exact ⟨rfl, sameArm _ _, sameReport _ _⟩

/-- A reverse event counts as UP for a flow that waits for a raised finger. -/
theorem fdtFlowReport_up_iff (io : Io) (flow : FdtFlow) (events : FdtEvents) :
    (fdtFlowReport io flow events).events.up = true ↔
      events.up = true ∨ (events.reverse = true ∧ flow.mode = .waitUp) := by
  unfold fdtFlowReport
  dsimp only
  split
  · rename_i reversed
    exact ⟨fun _ => Or.inr reversed, fun _ => rfl⟩
  · rename_i notReversed
    exact ⟨Or.inl, fun up => up.resolve_right notReversed⟩

/-- The events of a feed contain UP exactly for the records that report it. -/
theorem fdtFlowFeedRecord_up_iff (io : Io) (flow : FdtFlow) (hdr : TapHdr)
    (payload : List Byte) :
    (fdtFlowFeedRecord env fd io flow hdr payload).events.up = true ↔
      flow.ReportsUp hdr payload := by
  unfold fdtFlowFeedRecord FdtFlow.ReportsUp
  cases updated : fdtUpdateStateFromRecord flow.cmd hdr payload with
  | error errno =>
      constructor
      · intro impossible
        cases impossible
      · rintro ⟨cmd, status, impossible, -⟩
        cases impossible
  | ok result =>
      obtain ⟨cmd, status⟩ := result
      have reportsUp : (∃ other otherStatus,
          (Except.ok (cmd, status) : Except Errno _) = .ok (other, otherStatus) ∧
            ((fdtStatusToEvents otherStatus).up = true ∨
              ((fdtStatusToEvents otherStatus).reverse = true ∧ flow.mode = .waitUp))) ↔
          (fdtStatusToEvents status).up = true ∨
            ((fdtStatusToEvents status).reverse = true ∧ flow.mode = .waitUp) := by
        constructor
        · rintro ⟨_, _, same, up⟩
          cases same
          exact up
        · intro up
          exact ⟨cmd, status, rfl, up⟩
      rw [reportsUp]
      dsimp only
      split
      · rename_i reversed
        have notUp : ¬ ((fdtStatusToEvents status).up = true ∨
            ((fdtStatusToEvents status).reverse = true ∧ flow.mode = .waitUp)) := by
          rintro (up | ⟨-, waiting⟩)
          · exact fdtStatusToEvents_exclusive up reversed.1
          · rw [waiting] at reversed
            cases reversed.2
        split
        · exact iff_of_false Bool.false_ne_true notUp
        · split
          · exact iff_of_false Bool.false_ne_true notUp
          · exact fdtFlowReport_up_iff _ _ _
      · exact fdtFlowReport_up_iff _ _ _

end Calls

/-! ## The table of the last finger-up report -/

/-- What a run knows of the tables since the flow was initialised in `start`:
the arm of the flow is that of the newest command, and the table of the last
finger-up report is one of those sent. -/
def TablesKnown (start : Io) (run : FdtRun) : Prop :=
  ∃ new, run.io.upTables = new ++ start.upTables ∧
    (∀ table ∈ new.head?, run.flow.armedUpTable = table) ∧
    (run.flow.lastGoodUpValid = true → run.flow.lastGoodUpTable ∈ new)

/-- A finger-up report before the first arm. -/
def ReportsEarly (start : Io) (step : Transition FdtRun FdtCall Int) : Prop :=
  ∃ hdr payload, step.input = .feedRecord hdr payload ∧
    step.before.flow.ReportsUp hdr payload ∧ start.upTablesSince step.before.io = []

/-- The table of the last finger-up report is one the sensor was armed with
since `start`. -/
def LastGoodArmed (start : Io) (run : FdtRun) : Prop :=
  run.flow.lastGoodUpValid = true → run.flow.lastGoodUpTable ∈ start.upTablesSince run.io

/-- A poll keeps the learned table or goes back to one the sensor was armed with
before. -/
def PollsArmed (start : Io) (step : Transition FdtRun FdtCall Int) : Prop :=
  ∀ nowMs, step.input = .poll nowMs →
    step.after.flow.cmd.upTable = step.before.flow.cmd.upTable ∨
      step.after.flow.cmd.upTable ∈ start.upTablesSince step.before.io

variable {env : Env} {fd : Int} {start : Io}

theorem TablesKnown.lastGoodArmed {run : FdtRun} (known : TablesKnown start run) :
    LastGoodArmed start run := by
  obtain ⟨new, tables, -, lastGood⟩ := known
  intro valid
  rw [Io.upTablesSince_eq tables]
  exact lastGood valid

theorem TablesKnown.unarmed {run : FdtRun} (known : TablesKnown start run) {next : FdtRun}
    (tables : next.io.upTables = run.io.upTables) (sameArm : run.flow.SameArm next.flow)
    (sameReport : run.flow.SameReport next.flow) : TablesKnown start next := by
  obtain ⟨new, newTables, armed, lastGood⟩ := known
  refine ⟨new, tables.trans newTables, ?_, ?_⟩
  · rw [sameArm.table]
    exact armed
  · rw [sameReport.valid, sameReport.table]
    exact lastGood

theorem TablesKnown.armed {run : FdtRun} (known : TablesKnown start run) {next : FdtRun}
    (tables : next.io.upTables = next.flow.armedUpTable :: run.io.upTables)
    (sameReport : run.flow.SameReport next.flow) : TablesKnown start next := by
  obtain ⟨new, newTables, -, lastGood⟩ := known
  refine ⟨next.flow.armedUpTable :: new, ?_, ?_, ?_⟩
  · rw [tables, newTables]
    rfl
  · rintro table ⟨⟩
    rfl
  · rw [sameReport.valid, sameReport.table]
    intro valid
    exact List.mem_cons_of_mem _ (lastGood valid)

theorem fdtStep_tablesKnown (run : FdtRun) (call : FdtCall) (known : TablesKnown start run)
    (inTime : ¬ ReportsEarly start (stepTransition (fdtStep env fd) run call)) :
    TablesKnown start (fdtStep env fd run call).1 := by
  cases call with
  | setMode mode =>
      have result := fdtFlowSetMode_upSet env fd run.io run.flow mode
      have sameReport := fdtFlowSetMode_sameReport env fd run.io run.flow mode
      unfold fdtStep
      dsimp only
      generalize fdtFlowSetMode env fd run.io run.flow mode = out at result sameReport ⊢
      cases result with
      | unarmed tables sameArm modeEq => exact known.unarmed tables sameArm sameReport
      | armed entered waiting retries tables => exact known.armed tables sameReport
  | poll nowMs =>
      have result := fdtFlowPoll_upPolled env fd run.io run.flow nowMs
      unfold fdtStep
      dsimp only
      generalize fdtFlowPoll env fd run.io run.flow nowMs = out at result ⊢
      cases result with
      | notDue none => exact known
      | failed due negative tables sameArm sameReport table =>
          exact known.unarmed tables sameArm sameReport
      | rearmed due tables retries armedMs sameReport table => exact known.armed tables sameReport
  | feedRecord hdr payload =>
      obtain ⟨tables, sameArm, reported⟩ :=
        fdtFlowFeedRecord_report env fd run.io run.flow hdr payload
      have upIff := fdtFlowFeedRecord_up_iff env fd run.io run.flow hdr payload
      obtain ⟨new, newTables, armed, lastGood⟩ := known
      refine ⟨new, tables.trans newTables, ?_, ?_⟩
      · change ∀ table ∈ new.head?,
          (fdtFlowFeedRecord env fd run.io run.flow hdr payload).flow.armedUpTable = table
        rw [sameArm.table]
        exact armed
      · change (fdtFlowFeedRecord env fd run.io run.flow hdr payload).flow.lastGoodUpValid = true →
          (fdtFlowFeedRecord env fd run.io run.flow hdr payload).flow.lastGoodUpTable ∈ new
        rw [reported.valid, reported.table]
        cases up : (fdtFlowFeedRecord env fd run.io run.flow hdr payload).events.up with
        | false => exact lastGood
        | true =>
            intro _
            cases new with
            | nil =>
                exact absurd ⟨hdr, payload, rfl, upIff.mp up, Io.upTablesSince_eq newTables⟩ inTime
            | cons table older =>
                have armedEq := armed table rfl
                rw [if_pos rfl, armedEq]
                exact List.mem_cons_self

/-- A poll of such a run keeps the learned table or goes back to an armed one. -/
theorem TablesKnown.pollsArmed {run : FdtRun} (known : TablesKnown start run) (call : FdtCall) :
    PollsArmed start (stepTransition (fdtStep env fd) run call) := by
  rintro nowMs (rfl : call = _)
  have rearm (table : FdtTable) (chosen : table = run.flow.rearmTable) :
      table = run.flow.cmd.upTable ∨ table ∈ start.upTablesSince run.io := by
    unfold FdtFlow.rearmTable at chosen
    split at chosen
    · rename_i valid
      right
      rw [chosen]
      exact known.lastGoodArmed valid
    · exact Or.inl chosen
  have result := fdtFlowPoll_upPolled env fd run.io run.flow nowMs
  unfold stepTransition fdtStep
  dsimp only
  generalize fdtFlowPoll env fd run.io run.flow nowMs = out at result ⊢
  cases result with
  | notDue none => exact Or.inl rfl
  | failed due negative tables sameArm sameReport table => exact rearm _ table
  | rearmed due tables retries armedMs sameReport table => exact rearm _ table

/-- An early report leaves the flow with a table the sensor was never armed
with. -/
theorem not_lastGoodArmed_of_early {run : FdtRun} {call : FdtCall}
    (early : ReportsEarly start (stepTransition (fdtStep env fd) run call)) :
    ¬ LastGoodArmed start (fdtStep env fd run call).1 := by
  obtain ⟨hdr, payload, inputEq, reportsUp, noTables⟩ := early
  change call = _ at inputEq
  subst inputEq
  obtain ⟨tables, -, reported⟩ := fdtFlowFeedRecord_report env fd run.io run.flow hdr payload
  have up := (fdtFlowFeedRecord_up_iff env fd run.io run.flow hdr payload).mpr reportsUp
  intro lastGoodArmed
  have valid : (fdtFlowFeedRecord env fd run.io run.flow hdr payload).flow.lastGoodUpValid =
      true := by
    rw [reported.valid, up]
    rfl
  have member := lastGoodArmed valid
  have nothing : start.upTablesSince (fdtStep env fd run (.feedRecord hdr payload)).1.io = [] := by
    unfold Io.upTablesSince fdtStep at noTables ⊢
    rw [tables]
    exact noTables
  rw [nothing] at member
  cases member

/-- In every run of a fresh flow, the table of the last finger-up report is
always one the sensor was armed with, and polls only go back to such tables,
exactly if no finger-up report comes before the first arm. -/
theorem lastGood_armed_iff (env : Env) (fd : Int) (start : Io) (calls : List FdtCall) :
    (∀ step ∈ transitions (fdtStep env fd) (FdtRun.init start) calls,
        LastGoodArmed start step.after ∧ PollsArmed start step) ↔
      ∀ step ∈ transitions (fdtStep env fd) (FdtRun.init start) calls,
        ¬ ReportsEarly start step := by
  constructor
  · intro armed step member early
    have stepEq := eq_stepTransition_of_mem member
    rw [stepEq] at early
    apply not_lastGoodArmed_of_early early
    have after := (armed step member).1
    rw [stepEq] at after
    exact after
  · intro inTime step member
    have fresh : TablesKnown start (FdtRun.init start) := by
      refine ⟨[], rfl, ?_, ?_⟩
      · rintro table ⟨⟩
      · intro impossible
        cases impossible
    obtain ⟨before, after⟩ := transitions_invariant
      (fun run call known good => fdtStep_tablesKnown run call known good) fresh inTime step member
    refine ⟨after.lastGoodArmed, ?_⟩
    rw [eq_stepTransition_of_mem member]
    exact before.pollsArmed _

/-- An `FDT_STATUS` frame that reports DOWN and teaches a finger-up table. -/
def touchReport : List Byte :=
  [CMD_FDT_STATUS, 0x07, 0x00, 0x02, 0x00, 0xff, 0xff, 0x40, 0x40, 0x49]

/-- The header of its record. -/
def touchHdr : TapHdr :=
  { reportHdr with len := 10 }

/-- A finger-up report on a fresh flow counts as a table of zeros, and the first
poll of the next wait arms the sensor with it in place of the learned table. -/
theorem not_lastGoodArmed_early_report :
    ¬ LastGoodArmed ⟨0, []⟩
        (final (fdtStep steadyEnv 3) (FdtRun.init ⟨0, []⟩) [.feedRecord reportHdr upReport]) ∧
      ¬ PollsArmed ⟨0, []⟩ (stepTransition (fdtStep steadyEnv 3)
        (final (fdtStep steadyEnv 3) (FdtRun.init ⟨0, []⟩)
          [.feedRecord reportHdr upReport, .feedRecord touchHdr touchReport, .setMode .waitUp])
        (.poll 751)) := by
  constructor
  · intro armed
    exact absurd (armed (by decide +kernel)) (by decide +kernel)
  · intro armed
    exact absurd (armed 751 rfl) (by decide +kernel)

end Gxfp.User
