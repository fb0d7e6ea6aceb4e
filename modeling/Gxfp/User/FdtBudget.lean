import Mathlib.Data.List.Chain
import Gxfp.Transmit
import Gxfp.User.FdtTables

/-!
# The budget of a finger-up wait

A finger-up wait lasts from the `gxfp_fdt_flow_set_mode` that enters it to the
next change of mode.  During the wait only polls arm the sensor again, each at
least the retry interval after the arm before it and no more than the budget
allows; a step of a wait is one of the two cases of `WaitStep`, and what a whole
wait does is an induction over its steps.
-/

namespace Gxfp.User

open Lib.Bytes
open Lib.Execution
open Gxfp.Errno

/-! ## What the steps of a run do -/

/-- The `FDT_UP` commands a step has sent. -/
def upsSent (step : Transition FdtRun FdtCall Int) : Nat :=
  step.after.io.upTables.length - step.before.io.upTables.length

/-- The `FDT_UP` commands the polls of a run have sent. -/
def pollUps : List (Transition FdtRun FdtCall Int) → Nat
  | [] => 0
  | step :: steps =>
      (match step.input with
        | .poll _ => upsSent step
        | _ => 0) + pollUps steps

/-- The times recorded for the arms of a run, one for each `FDT_UP` command. -/
def armTimes (steps : List (Transition FdtRun FdtCall Int)) : List Int :=
  steps.flatMap fun step => List.replicate (upsSent step) step.after.flow.waitUpArmedMs

section Fingers

variable (env : Env) (fd : Int)

/-- The finger event of a step: UP or DOWN, if it has fed a record with one. -/
def fingerEvent (step : Transition FdtRun FdtCall Int) : Option FdtState :=
  match step.input with
  | .feedRecord hdr payload =>
      let events := (fdtFlowFeedRecord env fd step.before.io step.before.flow hdr payload).events
      if events.up then some .up else if events.down then some .down else none
  | _ => none

/-- The last finger event of a run. -/
def lastFinger (steps : List (Transition FdtRun FdtCall Int)) : Option FdtState :=
  (steps.filterMap (fingerEvent env fd)).getLast?

/-- The finger state after a step. -/
theorem fdtStep_state (run : FdtRun) (call : FdtCall) :
    (fdtStep env fd run call).1.flow.state =
      (fingerEvent env fd (stepTransition (fdtStep env fd) run call)).getD run.flow.state := by
  cases call with
  | setMode mode => exact (fdtFlowSetMode_sameReport env fd run.io run.flow mode).state
  | poll nowMs =>
      have result := fdtFlowPoll_upPolled env fd run.io run.flow nowMs
      change (fdtFlowPoll env fd run.io run.flow nowMs).2.1.state = run.flow.state
      generalize fdtFlowPoll env fd run.io run.flow nowMs = out at result ⊢
      cases result with
      | notDue none => rfl
      | failed due negative tables sameArm sameReport table => exact sameReport.state
      | rearmed due tables retries armedMs sameReport table => exact sameReport.state
  | feedRecord hdr payload =>
      obtain ⟨-, -, reported⟩ := fdtFlowFeedRecord_report env fd run.io run.flow hdr payload
      unfold fingerEvent
      dsimp only [stepTransition]
      refine reported.state.trans ?_
      cases (fdtFlowFeedRecord env fd run.io run.flow hdr payload).events.up with
      | true => rfl
      | false =>
          cases (fdtFlowFeedRecord env fd run.io run.flow hdr payload).events.down with
          | true => rfl
          | false => rfl

/-- The finger state is the last finger event of the run. -/
theorem final_state (run : FdtRun) (calls : List FdtCall) :
    (final (fdtStep env fd) run calls).flow.state =
      (lastFinger env fd (transitions (fdtStep env fd) run calls)).getD run.flow.state := by
  induction calls generalizing run with
  | nil => rfl
  | cons call calls ih =>
      rw [final_cons, ih, fdtStep_state]
      unfold lastFinger
      rw [transitions_cons, List.filterMap_cons]
      cases fingerEvent env fd (stepTransition (fdtStep env fd) run call) with
      | none => rfl
      | some event =>
          rw [List.getLast?_cons]
          cases (List.filterMap (fingerEvent env fd)
            (transitions (fdtStep env fd) (fdtStep env fd run call).1 calls)).getLast? with
          | none => rfl
          | some last => rfl

end Fingers

/-! ## The steps of a wait -/

/-- A step of a finger-up wait: it leaves the arm alone, or it is a poll that
arms the sensor once more. -/
inductive WaitStep (step : Transition FdtRun FdtCall Int) : Prop
  | unarmed (tables : step.after.io.upTables = step.before.io.upTables)
      (sameArm : step.before.flow.SameArm step.after.flow)
  | rearmed {nowMs : Int} (isPoll : step.input = .poll nowMs)
      (tables : step.after.io.upTables = step.after.flow.armedUpTable :: step.before.io.upTables)
      (within : step.before.flow.waitUpRetries < FDT_WAIT_UP_MAX_RETRIES)
      (retries : step.after.flow.waitUpRetries = step.before.flow.waitUpRetries + 1)
      (later : step.before.flow.waitUpArmedMs + FDT_WAIT_UP_RETRY_MS ≤
        step.after.flow.waitUpArmedMs)

/-- A retry is due only within the budget and after the interval. -/
theorem fdtFlowWaitUpRetryDue_within {flow : FdtFlow} {nowMs : Int}
    (due : ¬ fdtFlowWaitUpRetryDue flow nowMs ≤ 0) :
    flow.waitUpRetries < FDT_WAIT_UP_MAX_RETRIES ∧
      flow.waitUpArmedMs + FDT_WAIT_UP_RETRY_MS ≤ nowMs := by
  unfold fdtFlowWaitUpRetryDue at due
  split at due
  · exact absurd (Int.le_refl 0) due
  · split at due
    · exact absurd (Int.le_refl 0) due
    · split at due
      · exact absurd (Int.le_refl 0) due
      · rename_i late
        split at due
        · exact absurd (Int.le_of_lt (rc_neg ETIMEDOUT)) due
        · rename_i within
          exact ⟨Nat.not_le.mp within, by omega⟩

/-- The budget is spent only after the interval. -/
theorem fdtFlowWaitUpRetryDue_timedOut {flow : FdtFlow} {nowMs : Int}
    (timedOut : fdtFlowWaitUpRetryDue flow nowMs = ETIMEDOUT.rc) :
    FDT_WAIT_UP_MAX_RETRIES ≤ flow.waitUpRetries ∧
      flow.waitUpArmedMs + FDT_WAIT_UP_RETRY_MS ≤ nowMs := by
  unfold fdtFlowWaitUpRetryDue at timedOut
  split at timedOut
  · cases timedOut
  · split at timedOut
    · cases timedOut
    · split at timedOut
      · cases timedOut
      · rename_i late
        split at timedOut
        · rename_i spent
          exact ⟨spent, by omega⟩
        · cases timedOut

theorem fdtStep_waitStep (env : Env) (fd : Int) {run : FdtRun} (call : FdtCall)
    (waiting : run.flow.mode = .waitUp) : WaitStep (stepTransition (fdtStep env fd) run call) := by
  cases call with
  | setMode mode =>
      have result := fdtFlowSetMode_upSet env fd run.io run.flow mode
      unfold stepTransition fdtStep
      dsimp only
      generalize fdtFlowSetMode env fd run.io run.flow mode = out at result ⊢
      cases result with
      | unarmed tables sameArm modeEq => exact .unarmed tables sameArm
      | armed entered waiting' retries tables => exact absurd waiting entered
  | feedRecord hdr payload =>
      obtain ⟨tables, sameArm, -⟩ := fdtFlowFeedRecord_report env fd run.io run.flow hdr payload
      exact .unarmed tables sameArm
  | poll nowMs =>
      have result := fdtFlowPoll_upPolled env fd run.io run.flow nowMs
      unfold stepTransition fdtStep
      dsimp only
      generalize fdtFlowPoll env fd run.io run.flow nowMs = out at result ⊢
      cases result with
      | notDue none => exact .unarmed rfl (.refl _)
      | failed due negative tables sameArm sameReport table => exact .unarmed tables sameArm
      | rearmed due tables retries armedMs sameReport table =>
          obtain ⟨within, elapsed⟩ := fdtFlowWaitUpRetryDue_within due
          rw [← armedMs] at elapsed
          exact .rearmed rfl tables within retries elapsed

/-! ## The retry counter -/

theorem UpSet.retries_le {io : Io} {flow : FdtFlow} {out : Int × FdtFlow × Io}
    (result : UpSet io flow out) (bounded : flow.waitUpRetries ≤ FDT_WAIT_UP_MAX_RETRIES) :
    out.2.1.waitUpRetries ≤ FDT_WAIT_UP_MAX_RETRIES := by
  cases result with
  | unarmed tables sameArm modeEq => exact sameArm.retries.trans_le bounded
  | armed entered waiting retries tables => exact retries.trans_le (Nat.zero_le _)

theorem UpPolled.retries_le {io : Io} {flow : FdtFlow} {nowMs : Int} {out : Int × FdtFlow × Io}
    (result : UpPolled io flow nowMs out)
    (bounded : flow.waitUpRetries ≤ FDT_WAIT_UP_MAX_RETRIES) :
    out.2.1.waitUpRetries ≤ FDT_WAIT_UP_MAX_RETRIES := by
  cases result with
  | notDue none => exact bounded
  | failed due negative tables sameArm sameReport table =>
      exact sameArm.retries.trans_le bounded
  | rearmed due tables retries armedMs sameReport table =>
      exact retries.trans_le (fdtFlowWaitUpRetryDue_within due).1

/-- The retry counter never passes the budget. -/
theorem fdtStep_retries_le (env : Env) (fd : Int) (run : FdtRun) (call : FdtCall)
    (bounded : run.flow.waitUpRetries ≤ FDT_WAIT_UP_MAX_RETRIES) :
    (fdtStep env fd run call).1.flow.waitUpRetries ≤ FDT_WAIT_UP_MAX_RETRIES := by
  cases call with
  | setMode mode => exact (fdtFlowSetMode_upSet env fd run.io run.flow mode).retries_le bounded
  | poll nowMs => exact (fdtFlowPoll_upPolled env fd run.io run.flow nowMs).retries_le bounded
  | feedRecord hdr payload =>
      obtain ⟨-, sameArm, -⟩ := fdtFlowFeedRecord_report env fd run.io run.flow hdr payload
      exact sameArm.retries.trans_le bounded

/-! ## Whole waits -/

variable {env : Env} {fd : Int}

/-- What a wait does to the counter and the recorded times. -/
structure WaitLog (before after : FdtFlow) (steps : List (Transition FdtRun FdtCall Int)) :
    Prop where
  counted : after.waitUpRetries = before.waitUpRetries + pollUps steps
  spaced : (before.waitUpArmedMs :: armTimes steps).IsChain fun earlier later =>
    earlier + FDT_WAIT_UP_RETRY_MS ≤ later
  last : (before.waitUpArmedMs :: armTimes steps).getLast? = some after.waitUpArmedMs

theorem WaitLog.unarmed {before middle after : FdtFlow}
    {step : Transition FdtRun FdtCall Int} {steps : List (Transition FdtRun FdtCall Int)}
    (tables : step.after.io.upTables = step.before.io.upTables) (sameArm : before.SameArm middle)
    (log : WaitLog middle after steps) : WaitLog before after (step :: steps) := by
  have nothing : upsSent step = 0 := by
    unfold upsSent
    rw [tables, Nat.sub_self]
  have noTimes : armTimes (step :: steps) = armTimes steps := by
    unfold armTimes
    rw [List.flatMap_cons, nothing]
    rfl
  have noUps : pollUps (step :: steps) = pollUps steps := by
    rw [pollUps, nothing]
    cases step.input with
    | _ => exact Nat.zero_add _
  constructor
  · rw [noUps, ← sameArm.retries]
    exact log.counted
  · rw [noTimes, ← sameArm.armedMs]
    exact log.spaced
  · rw [noTimes, ← sameArm.armedMs]
    exact log.last

theorem WaitLog.rearmed {before after : FdtFlow} {nowMs : Int}
    {step : Transition FdtRun FdtCall Int} {steps : List (Transition FdtRun FdtCall Int)}
    (isPoll : step.input = .poll nowMs)
    (tables : step.after.io.upTables = step.after.flow.armedUpTable :: step.before.io.upTables)
    (retries : step.after.flow.waitUpRetries = before.waitUpRetries + 1)
    (later : before.waitUpArmedMs + FDT_WAIT_UP_RETRY_MS ≤ step.after.flow.waitUpArmedMs)
    (log : WaitLog step.after.flow after steps) : WaitLog before after (step :: steps) := by
  have one : upsSent step = 1 := by
    unfold upsSent
    rw [tables, List.length_cons, Nat.add_sub_cancel_left]
  have oneTime : armTimes (step :: steps) = step.after.flow.waitUpArmedMs :: armTimes steps := by
    unfold armTimes
    rw [List.flatMap_cons, one]
    rfl
  have oneUp : pollUps (step :: steps) = 1 + pollUps steps := by
    rw [pollUps, isPoll]
    dsimp only
    rw [one]
  constructor
  · rw [oneUp, log.counted, retries, Nat.add_assoc]
  · rw [oneTime]
    exact List.isChain_cons_cons.mpr ⟨later, log.spaced⟩
  · rw [oneTime, List.getLast?_cons_cons]
    exact log.last

/-- The log of a wait, by induction over its steps. -/
theorem wait_log (segment : List FdtCall) {run : FdtRun} (waiting : run.flow.mode = .waitUp)
    (kept : ∀ step ∈ transitions (fdtStep env fd) run segment, step.after.flow.mode = .waitUp) :
    WaitLog run.flow (final (fdtStep env fd) run segment).flow
      (transitions (fdtStep env fd) run segment) := by
  induction segment generalizing run with
  | nil => exact ⟨rfl, List.IsChain.singleton _, rfl⟩
  | cons call calls ih =>
      have stillWaiting := kept _ List.mem_cons_self
      have log := ih stillWaiting (fun step member => kept step (List.mem_cons_of_mem _ member))
      have waited := fdtStep_waitStep env fd call waiting
      cases waited with
      | unarmed tables sameArm => exact log.unarmed tables sameArm
      | rearmed isPoll tables within retries later => exact log.rearmed isPoll tables retries later

/-- The start of a wait: the counter stands at zero for a new wait and stays as
it is for one that lasts already. -/
theorem wait_started {run : FdtRun}
    (started : (fdtStep env fd run (.setMode .waitUp)).2 = 0) :
    (fdtStep env fd run (.setMode .waitUp)).1.flow.mode = .waitUp ∧
      (fdtStep env fd run (.setMode .waitUp)).1.flow.waitUpRetries =
        (if run.flow.mode = .waitUp then run.flow.waitUpRetries else 0) ∧
      (armTimes [stepTransition (fdtStep env fd) run (.setMode .waitUp)] = [] ∨
        armTimes [stepTransition (fdtStep env fd) run (.setMode .waitUp)] =
          [(fdtStep env fd run (.setMode .waitUp)).1.flow.waitUpArmedMs]) := by
  have reached : (fdtStep env fd run (.setMode .waitUp)).1.flow.mode = .waitUp := by
    rcases fdtFlowSetMode_mode env fd run.io run.flow .waitUp with mode | ⟨negative, -⟩
    · exact mode
    · exact absurd started (Int.ne_of_lt negative)
  have timesEq : armTimes [stepTransition (fdtStep env fd) run (.setMode .waitUp)] =
      List.replicate ((fdtFlowSetMode env fd run.io run.flow .waitUp).2.2.upTables.length -
        run.io.upTables.length) (fdtFlowSetMode env fd run.io run.flow .waitUp).2.1.waitUpArmedMs :=
    List.append_nil _
  refine ⟨reached, ?_⟩
  rw [timesEq]
  have result := fdtFlowSetMode_upSet env fd run.io run.flow .waitUp
  dsimp only [fdtStep] at reached ⊢
  generalize fdtFlowSetMode env fd run.io run.flow .waitUp = out at result reached ⊢
  cases result with
  | unarmed tables sameArm modeEq =>
      have waiting : run.flow.mode = .waitUp := by
        rcases modeEq with kept | left
        · exact kept.symm.trans reached
        · exact absurd reached left
      rw [if_pos waiting, tables, Nat.sub_self]
      exact ⟨sameArm.retries, Or.inl rfl⟩
  | armed entered waiting retries tables =>
      rw [if_neg entered, tables, List.length_cons, Nat.add_sub_cancel_left]
      exact ⟨retries, Or.inr rfl⟩

/-! ## Giving up -/

/-- `write(2)` fails only in the ways of the driver. -/
def Env.DriverErrors (env : Env) : Prop :=
  ∀ index length errno, env.write index length = .error errno →
    ∃ writeEnv state ubuf, (Kernel.uapiWrite writeEnv state ubuf).1 = -(errno : Int)

/-- A command sent through the driver never times out. -/
theorem hostSendAsync_ne_timedOut (driver : env.DriverErrors) (io : Io) (cmd : Byte)
    (payload : List Byte) : (hostSendAsync env fd io cmd payload).1 ≠ ETIMEDOUT.rc := by
  unfold hostSendAsync goodixSendAsync
  cases built : goodixBuildFrame cmd payload (1 + 2 + GOODIX_PAYLOAD_MAX + 1) with
  | error errno =>
      intro timedOut
      have errnoEq := rc_injective timedOut
      subst errnoEq
      unfold goodixBuildFrame at built
      split at built
      · cases built
      · split at built
        · cases built
        · cases built
  | ok frame =>
      intro timedOut
      unfold devSendPacket at timedOut
      dsimp only [ioWrite] at timedOut
      split at timedOut
      · cases timedOut
      · split at timedOut
        · cases timedOut
        · split at timedOut
          · cases timedOut
          · split at timedOut
            · rename_i errno written
              obtain ⟨writeEnv, state, ubuf, failed⟩ := driver _ _ _ written
              have positive := errno.pos
              rw [if_pos (by omega)] at timedOut
              exact uapiWrite_ne_timedOut writeEnv state ubuf (failed.trans timedOut)
            · rw [if_neg (by omega)] at timedOut
              split at timedOut
              · cases timedOut
              · cases timedOut

/-- A poll through the driver times out only when its budget is spent. -/
theorem fdtFlowPoll_timedOut (driver : env.DriverErrors) {io : Io} {flow : FdtFlow} {nowMs : Int}
    (timedOut : (fdtFlowPoll env fd io flow nowMs).1 = ETIMEDOUT.rc) :
    fdtFlowWaitUpRetryDue flow nowMs = ETIMEDOUT.rc := by
  unfold fdtFlowPoll at timedOut
  dsimp only at timedOut
  generalize (if flow.lastGoodUpValid then
    { flow with cmd := { flow.cmd with upTable := flow.lastGoodUpTable } } else flow) = chosen
    at timedOut
  split at timedOut
  · exact timedOut
  · split at timedOut
    · exact absurd timedOut (hostSendAsync_ne_timedOut driver _ _ _)
    · split at timedOut
      · exact absurd timedOut (hostSendAsync_ne_timedOut driver _ _ _)
      · cases timedOut

/-! ## The budget -/

/-- What holds at every moment of a wait that a call of `set_mode` in the state
`before` has started or found: `earlier` are the steps of the run before it,
`steps` that call and the steps since, `reached` the present state. -/
structure WaitUpBudget (env : Env) (fd : Int) (before reached : FdtRun)
    (earlier steps : List (Transition FdtRun FdtCall Int)) : Prop where
  sent : pollUps steps ≤ 20
  counted : reached.flow.waitUpRetries =
    (if before.flow.mode = .waitUp then before.flow.waitUpRetries else 0) + pollUps steps
  spaced : (armTimes steps).IsChain fun earlier later => earlier + 750 ≤ later
  lastArm : ∀ time ∈ (armTimes steps).getLast?, reached.flow.waitUpArmedMs = time
  silent : lastFinger env fd (earlier ++ steps) = some .up → ∀ nowMs,
    fdtFlowPoll env fd reached.io reached.flow nowMs = (0, reached.flow, reached.io)
  timedOut : env.DriverErrors → ∀ nowMs,
    (fdtFlowPoll env fd reached.io reached.flow nowMs).1 = ETIMEDOUT.rc →
      reached.flow.waitUpRetries = 20 ∧ reached.flow.waitUpArmedMs + 750 ≤ nowMs

/-- Every finger-up wait of every run keeps to its budget, whatever the clock,
the sends and the records. -/
theorem waitUp_budget (env : Env) (fd : Int) (start : Io) (first segment : List FdtCall)
    (started : (fdtStep env fd (final (fdtStep env fd) (FdtRun.init start) first)
      (.setMode .waitUp)).2 = 0)
    (kept : ∀ step ∈ transitions (fdtStep env fd)
      (final (fdtStep env fd) (FdtRun.init start) (first ++ [.setMode .waitUp])) segment,
        step.after.flow.mode = .waitUp) :
    WaitUpBudget env fd (final (fdtStep env fd) (FdtRun.init start) first)
      (final (fdtStep env fd) (FdtRun.init start) (first ++ .setMode .waitUp :: segment))
      (transitions (fdtStep env fd) (FdtRun.init start) first)
      (transitions (fdtStep env fd) (final (fdtStep env fd) (FdtRun.init start) first)
        (.setMode .waitUp :: segment)) := by
  have bounded : (final (fdtStep env fd) (FdtRun.init start)
      (first ++ .setMode .waitUp :: segment)).flow.waitUpRetries ≤ 20 :=
    final_preserved (fdtStep_retries_le env fd) (Nat.zero_le _) _
  have stateEq := final_state env fd (FdtRun.init start) (first ++ .setMode .waitUp :: segment)
  rw [transitions_append] at stateEq
  rw [final_append, final_cons] at bounded stateEq ⊢
  rw [final_append, final_cons, final_nil] at kept
  generalize final (fdtStep env fd) (FdtRun.init start) first = before
    at started kept bounded stateEq ⊢
  obtain ⟨waiting, retries, entryTimes⟩ := wait_started started
  have log := wait_log segment waiting kept
  have timesEq : armTimes (transitions (fdtStep env fd) before (.setMode .waitUp :: segment)) =
      armTimes [stepTransition (fdtStep env fd) before (.setMode .waitUp)] ++
        armTimes (transitions (fdtStep env fd) (fdtStep env fd before (.setMode .waitUp)).1
          segment) := by
    unfold armTimes
    rw [← List.flatMap_append]
    rfl
  have upsEq : pollUps (transitions (fdtStep env fd) before (.setMode .waitUp :: segment)) =
      pollUps (transitions (fdtStep env fd) (fdtStep env fd before (.setMode .waitUp)).1
        segment) :=
    Nat.zero_add _
  have counted := log.counted
  rw [retries, ← upsEq] at counted
  refine ⟨?_, counted, ?_, ?_, ?_, ?_⟩
  · rw [counted] at bounded
    exact (Nat.le_add_left _ _).trans bounded
  · rw [timesEq]
    rcases entryTimes with none | one
    · rw [none]
      exact log.spaced.tail
    · rw [one]
      exact log.spaced
  · intro time isLast
    rw [timesEq] at isLast
    apply Option.some_inj.mp
    rw [← log.last]
    rcases entryTimes with none | one
    · rw [none, List.nil_append] at isLast
      rw [List.getLast?_cons, isLast]
      rfl
    · rw [one] at isLast
      exact isLast
  · intro lastUp nowMs
    rw [lastUp] at stateEq
    exact fdtFlowPoll_up stateEq nowMs
  · intro driver nowMs timedOut
    obtain ⟨spent, elapsed⟩ :=
      fdtFlowWaitUpRetryDue_timedOut (fdtFlowPoll_timedOut driver timedOut)
    exact ⟨Nat.le_antisymm bounded spent, elapsed⟩

/-- A wait with one retry, on a host that writes everything. -/
theorem waitUp_budget_one_retry :
    steadyEnv.DriverErrors ∧
      pollUps (transitions (fdtStep steadyEnv 3) (FdtRun.init ⟨0, []⟩)
        [.setMode .waitUp, .poll 751]) = 1 ∧
      WaitUpBudget steadyEnv 3 (FdtRun.init ⟨0, []⟩)
        (final (fdtStep steadyEnv 3) (FdtRun.init ⟨0, []⟩) [.setMode .waitUp, .poll 751]) []
        (transitions (fdtStep steadyEnv 3) (FdtRun.init ⟨0, []⟩)
          [.setMode .waitUp, .poll 751]) := by
  refine ⟨?_, by decide +kernel, ?_⟩
  · intro index length errno failed
    cases failed
  · apply waitUp_budget steadyEnv 3 ⟨0, []⟩ [] [.poll 751] (by decide +kernel)
    intro step member
    rw [transitions_cons, transitions_nil, List.mem_singleton] at member
    rw [member]
    decide +kernel

end Gxfp.User
