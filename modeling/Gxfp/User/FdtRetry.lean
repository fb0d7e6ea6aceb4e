import Gxfp.Lib.Execution
import Gxfp.User.FdtCalls

/-!
# Re-arming a silent finger-up wait

The retry of `gxfp_fdt_flow_poll` is gated on the finger state of the flow.
That state follows the reports of every mode and no mode change resets it, so
an UP report from before a finger-up wait switches the retry off for the whole
wait.
-/

namespace Gxfp.User

open Lib.Bytes
open Lib.Execution
open Gxfp.Errno

/-! ## Runs of the flow -/

/-- The public calls of the flow. -/
inductive FdtCall
  | setMode (mode : FdtMode)
  | feedRecord (hdr : TapHdr) (payload : List Byte)
  | poll (nowMs : Int)

/-- The flow in a run.  `upReported` tells whether a record fed since the
`set_mode` that entered the current finger-up wait has reported UP. -/
structure FdtRun where
  flow : FdtFlow
  io : Io
  upReported : Bool

/-- A fresh flow. -/
def FdtRun.init (io : Io) : FdtRun :=
  ⟨fdtFlowInit, io, false⟩

section Runs

variable (env : Env) (fd : Int)

/-- One call, with its return value. -/
def fdtStep (run : FdtRun) : FdtCall → FdtRun × Int
  | .setMode mode =>
      let out := fdtFlowSetMode env fd run.io run.flow mode
      let entered := run.flow.mode ≠ .waitUp ∧ out.2.1.mode = .waitUp
      (⟨out.2.1, out.2.2, if entered then false else run.upReported⟩, out.1)
  | .feedRecord hdr payload =>
      let fed := fdtFlowFeedRecord env fd run.io run.flow hdr payload
      (⟨fed.flow, fed.io, run.upReported || fed.events.up⟩, fed.ret)
  | .poll nowMs =>
      let out := fdtFlowPoll env fd run.io run.flow nowMs
      (⟨out.2.1, out.2.2, run.upReported⟩, out.1)

end Runs

/-- A host on which every send succeeds and whose clock is positive. -/
structure Env.Serves (env : Env) (fd : Int) : Prop where
  opened : 0 ≤ fd
  malloc : ∀ index, env.malloc index = true
  write : ∀ index length, env.write index length = .ok length
  clock : ∀ index, 0 < env.clock index

/-- A flow in a finger-up wait has been armed at a positive time. -/
def ArmedInv (run : FdtRun) : Prop :=
  run.flow.mode = .waitUp → 0 < run.flow.waitUpArmedMs

variable {env : Env} {fd : Int}

theorem fdtFlowSetMode_armed (serves : env.Serves fd) {io : Io} {flow : FdtFlow}
    (armed : flow.mode = .waitUp → 0 < flow.waitUpArmedMs) (mode : FdtMode) :
    (fdtFlowSetMode env fd io flow mode).2.1.mode = .waitUp →
      0 < (fdtFlowSetMode env fd io flow mode).2.1.waitUpArmedMs := by
  have result := fdtFlowSetMode_modeSet env fd io flow mode
  generalize fdtFlowSetMode env fd io flow mode = out at result ⊢
  cases result with
  | kept same => exact armed
  | idle isIdle =>
      intro impossible
      cases impossible
  | notModed cmd modedResult negative => exact armed
  | notArmed cmd modedResult armedResult negative => exact armed
  | armed modedResult modedSent armedResult armedSent reached traceEq clocked =>
      intro waiting
      obtain ⟨index, armedAt⟩ := clocked (reached.symm.trans waiting)
      rw [armedAt]
      exact serves.clock index

/-- The retry is due, or its budget is spent, only after a positive arming
time. -/
theorem fdtFlowWaitUpRetryDue_pos {flow : FdtFlow} {nowMs : Int}
    (due : ¬ fdtFlowWaitUpRetryDue flow nowMs ≤ 0) : 0 < nowMs := by
  unfold fdtFlowWaitUpRetryDue at due
  split at due
  · exact absurd (Int.le_refl 0) due
  · split at due
    · exact absurd (Int.le_refl 0) due
    · rename_i armed
      omega

theorem fdtFlowPoll_armed {io : Io} {flow : FdtFlow}
    (armed : flow.mode = .waitUp → 0 < flow.waitUpArmedMs) (nowMs : Int) :
    (fdtFlowPoll env fd io flow nowMs).2.1.mode = .waitUp →
      0 < (fdtFlowPoll env fd io flow nowMs).2.1.waitUpArmedMs := by
  unfold fdtFlowPoll
  dsimp only
  by_cases idle : fdtFlowWaitUpRetryDue flow nowMs ≤ 0
  · rw [if_pos idle]
    exact armed
  · rw [if_neg idle]
    have positive := fdtFlowWaitUpRetryDue_pos idle
    cases flow.lastGoodUpValid with
    | false =>
        simp only [Bool.false_eq_true, if_false]
        split
        · exact armed
        · split
          · exact armed
          · intro _
            exact positive
    | true =>
        simp only [if_true]
        split
        · exact armed
        · split
          · exact armed
          · intro _
            exact positive

theorem fdtStep_armed (serves : env.Serves fd) (run : FdtRun) (call : FdtCall)
    (armed : ArmedInv run) : ArmedInv (fdtStep env fd run call).1 := by
  cases call with
  | setMode mode => exact fdtFlowSetMode_armed serves armed mode
  | feedRecord hdr payload =>
      obtain ⟨modeEq, armedEq⟩ := fdtFlowFeedRecord_flow env fd run.io run.flow hdr payload
      intro waiting
      change 0 < (fdtFlowFeedRecord env fd run.io run.flow hdr payload).flow.waitUpArmedMs
      rw [armedEq]
      exact armed (modeEq.symm.trans waiting)
  | poll nowMs => exact fdtFlowPoll_armed armed nowMs

theorem final_armed (serves : env.Serves fd) (io : Io) (calls : List FdtCall) :
    ArmedInv (final (fdtStep env fd) (FdtRun.init io) calls) := by
  apply final_preserved (fdtStep_armed serves)
  intro impossible
  cases impossible

/-! ## Sending on a host that serves -/

theorem hostSendAsync_serves (serves : env.Serves fd) (io : Io) (cmd : Byte) {payload : List Byte}
    (short : payload.length + 4 ≤ IOCTL_TX_PAYLOAD_MAX) :
    ∃ out, out.isCommand cmd ∧ hostSendAsync env fd io cmd payload = (0, io.tick.emit out) := by
  have success : (hostSendAsync env fd io cmd payload).1 = 0 := by
    have payloadShort : ¬ payload.length > GOODIX_PAYLOAD_MAX := by
      unfold IOCTL_TX_PAYLOAD_MAX at short
      unfold GOODIX_PAYLOAD_MAX
      omega
    have frameShort : ¬ 1 + 2 + payload.length + 1 > 1 + 2 + GOODIX_PAYLOAD_MAX + 1 := by omega
    have opened : ¬ fd < 0 := Int.not_lt.mpr serves.opened
    unfold hostSendAsync goodixSendAsync goodixBuildFrame
    rw [if_neg payloadShort, if_neg frameShort]
    dsimp only
    unfold devSendPacket
    rw [if_neg opened, if_neg (by simp; omega), if_neg (by simp [serves.malloc])]
    dsimp only [ioWrite]
    rw [serves.write]
    dsimp only
    rw [if_neg (by omega), if_neg (by simp)]
  have result := hostSendAsync_result env fd io cmd payload
  generalize hostSendAsync env fd io cmd payload = sent at success result ⊢
  cases result with
  | refused errno definite => exact absurd success (Int.ne_of_lt (rc_neg errno))
  | failed isCommand negative incomplete again => exact absurd success (Int.ne_of_lt negative)
  | sent isCommand => exact ⟨_, ⟨payload, isCommand⟩, rfl⟩

theorem fdtPayloadBuild_short (magic : Byte) (table : FdtTable) :
    (fdtPayloadBuild magic table).length + 4 ≤ IOCTL_TX_PAYLOAD_MAX := by
  simp [fdtPayloadBuild, IOCTL_TX_PAYLOAD_MAX]

theorem cmdFdtSetMode_serves (serves : env.Serves fd) (io : Io) (state : CmdFdtState) :
    ∃ out, cmdFdtSetMode env fd io state =
      (0, { state with manualTable := state.downTable }, io.tick.emit out) := by
  obtain ⟨out, -, sentEq⟩ := hostSendAsync_serves serves io CMD_FDT_MODE
    (fdtPayloadBuild_short 0x09 state.downTable)
  refine ⟨out, ?_⟩
  unfold cmdFdtSetMode fdtModePayloadBuild
  simp only [sentEq]

theorem cmdFdtSendUp_serves (serves : env.Serves fd) (io : Io) (state : CmdFdtState) :
    ∃ out, out.isCommand CMD_FDT_UP ∧ cmdFdtSendUp env fd io state = (0, io.tick.emit out) :=
  hostSendAsync_serves serves io CMD_FDT_UP (fdtPayloadBuild_short 0x0A state.upTable)

/-! ## The poll -/

/-- A poll that does its duty: it sends a new `FDT_UP` within the budget, or it
gives up with `-ETIMEDOUT`. -/
def RearmsOrTimesOut (run : FdtRun) (out : Int × FdtFlow × Io) : Prop :=
  (run.flow.waitUpRetries < FDT_WAIT_UP_MAX_RETRIES ∧ out.1 = 0 ∧
    ∃ outs, out.2.2.trace = outs ++ run.io.trace ∧ ∃ sent ∈ outs, sent.isCommand CMD_FDT_UP) ∨
  out.1 = ETIMEDOUT.rc

/-- The flow waits for the finger to lift, no report of that has come since the
wait began, and the retry interval has passed. -/
structure SilentWait (run : FdtRun) (nowMs : Int) : Prop where
  waiting : run.flow.mode = .waitUp
  silent : run.upReported = false
  elapsed : run.flow.waitUpArmedMs + FDT_WAIT_UP_RETRY_MS ≤ nowMs

/-- In the finger state UP the poll does nothing. -/
theorem fdtFlowPoll_up {io : Io} {flow : FdtFlow} (up : flow.state = .up) (nowMs : Int) :
    fdtFlowPoll env fd io flow nowMs = (0, flow, io) := by
  have due : fdtFlowWaitUpRetryDue flow nowMs = 0 := by
    unfold fdtFlowWaitUpRetryDue
    rw [if_pos (Or.inr up)]
  unfold fdtFlowPoll
  rw [due]
  rfl

theorem not_rearmsOrTimesOut_up {run : FdtRun} (up : run.flow.state = .up) (nowMs : Int) :
    ¬ RearmsOrTimesOut run (fdtFlowPoll env fd run.io run.flow nowMs) := by
  rw [fdtFlowPoll_up up]
  rintro (⟨-, -, outs, traceEq, sent, member, -⟩ | timeout)
  · have empty : outs = [] := List.self_eq_append_left.mp traceEq
    rw [empty] at member
    cases member
  · cases timeout

/-- Otherwise an overdue poll either gives up or arms the sensor again. -/
theorem fdtFlowPoll_due (serves : env.Serves fd) {run : FdtRun} {nowMs : Int}
    (wait : SilentWait run nowMs) (armed : ArmedInv run) (notUp : run.flow.state ≠ .up) :
    RearmsOrTimesOut run (fdtFlowPoll env fd run.io run.flow nowMs) := by
  have positive := armed wait.waiting
  have elapsed := wait.elapsed
  unfold FDT_WAIT_UP_RETRY_MS at elapsed
  have gate : ¬ (run.flow.mode ≠ .waitUp ∨ run.flow.state = .up) := by
    rintro (notWaiting | up)
    · exact notWaiting wait.waiting
    · exact notUp up
  have clockOk : ¬ (run.flow.waitUpArmedMs ≤ 0 ∨ nowMs < run.flow.waitUpArmedMs) := by omega
  have late : ¬ nowMs - run.flow.waitUpArmedMs < FDT_WAIT_UP_RETRY_MS := by
    unfold FDT_WAIT_UP_RETRY_MS
    omega
  by_cases spent : run.flow.waitUpRetries ≥ FDT_WAIT_UP_MAX_RETRIES
  · right
    have due : fdtFlowWaitUpRetryDue run.flow nowMs = ETIMEDOUT.rc := by
      unfold fdtFlowWaitUpRetryDue
      rw [if_neg gate, if_neg clockOk, if_neg late, if_pos spent]
    unfold fdtFlowPoll
    rw [due]
    rfl
  · left
    have due : fdtFlowWaitUpRetryDue run.flow nowMs = 1 := by
      unfold fdtFlowWaitUpRetryDue
      rw [if_neg gate, if_neg clockOk, if_neg late, if_neg spent]
    unfold fdtFlowPoll
    rw [due]
    simp only [Int.reduceLE, if_false]
    generalize (if run.flow.lastGoodUpValid = true then
      { run.flow with cmd := { run.flow.cmd with upTable := run.flow.lastGoodUpTable } }
      else run.flow) = flow
    obtain ⟨moded, modedEq⟩ := cmdFdtSetMode_serves serves run.io flow.cmd
    obtain ⟨sent, isUp, sentEq⟩ := cmdFdtSendUp_serves serves (run.io.tick.emit moded)
      { flow.cmd with manualTable := flow.cmd.downTable }
    simp only [modedEq, sentEq, Int.lt_irrefl, if_false]
    exact ⟨Nat.not_le.mp spent, trivial, [sent, moded], rfl, sent, List.mem_cons_self, isUp⟩

/-- In every run of the flow, an overdue poll of a silent finger-up wait does
its duty exactly when the last finger report was not UP. -/
theorem rearmsOrTimesOut_iff (serves : env.Serves fd) (io : Io) (calls : List FdtCall)
    {nowMs : Int} (wait : SilentWait (final (fdtStep env fd) (FdtRun.init io) calls) nowMs) :
    RearmsOrTimesOut (final (fdtStep env fd) (FdtRun.init io) calls)
        (fdtFlowPoll env fd (final (fdtStep env fd) (FdtRun.init io) calls).io
          (final (fdtStep env fd) (FdtRun.init io) calls).flow nowMs) ↔
      (final (fdtStep env fd) (FdtRun.init io) calls).flow.state ≠ .up := by
  constructor
  · intro duty up
    exact not_rearmsOrTimesOut_up up nowMs duty
  · exact fdtFlowPoll_due serves wait (final_armed serves io calls)

theorem steadyEnv_serves : steadyEnv.Serves 3 :=
  ⟨by decide, fun _ => rfl, fun _ _ => rfl, fun _ => Int.one_pos⟩

/-- A finger-up wait on a fresh flow is re-armed. -/
theorem rearmsOrTimesOut_fresh :
    RearmsOrTimesOut (final (fdtStep steadyEnv 3) (FdtRun.init ⟨0, []⟩) [.setMode .waitUp])
      (fdtFlowPoll steadyEnv 3
        (final (fdtStep steadyEnv 3) (FdtRun.init ⟨0, []⟩) [.setMode .waitUp]).io
        (final (fdtStep steadyEnv 3) (FdtRun.init ⟨0, []⟩) [.setMode .waitUp]).flow 751) :=
  (rearmsOrTimesOut_iff steadyEnv_serves ⟨0, []⟩ [.setMode .waitUp]
    ⟨by decide, by decide, by decide⟩).mpr (by decide)

/-- The header of a command record of six bytes. -/
def reportHdr : TapHdr :=
  ⟨6, GOODIX_MP_TYPE_CMD.toNat, 0, 0, Vector.replicate 16 0⟩

/-- An `FDT_STATUS` frame that reports UP. -/
def upReport : List Byte :=
  [CMD_FDT_STATUS, 0x03, 0x00, 0x00, 0x02, 0xcb]

/-- An UP report that comes before the wait is armed silences its retries. -/
theorem not_rearmsOrTimesOut_early_report :
    SilentWait (final (fdtStep steadyEnv 3) (FdtRun.init ⟨0, []⟩)
        [.feedRecord reportHdr upReport, .setMode .waitUp]) 751 ∧
      ¬ RearmsOrTimesOut
        (final (fdtStep steadyEnv 3) (FdtRun.init ⟨0, []⟩)
          [.feedRecord reportHdr upReport, .setMode .waitUp])
        (fdtFlowPoll steadyEnv 3
          (final (fdtStep steadyEnv 3) (FdtRun.init ⟨0, []⟩)
            [.feedRecord reportHdr upReport, .setMode .waitUp]).io
          (final (fdtStep steadyEnv 3) (FdtRun.init ⟨0, []⟩)
            [.feedRecord reportHdr upReport, .setMode .waitUp]).flow 751) := by
  constructor
  · exact ⟨by decide, by decide, by decide⟩
  · exact not_rearmsOrTimesOut_up (by decide) 751

end Gxfp.User
