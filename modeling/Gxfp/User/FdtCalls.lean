import Gxfp.User.Fdt
import Gxfp.User.Sends

/-!
# What the calls of the FDT flow do

A change of mode arms the sensor with two commands, the second only after the
first.  `ModeSet` lists every way such a change can end, and each property of
it is a case analysis of that list.  Records and polls never change the mode.
-/

namespace Gxfp.User

open Lib.Bytes
open Gxfp.Errno

/-! ## Changes of mode -/

/-- The command that arms a mode of the flow. -/
def FdtMode.armCmd : FdtMode → Byte
  | .waitUp => CMD_FDT_UP
  | _ => CMD_FDT_DOWN

theorem FdtMode.armCmd_eq (mode : FdtMode) :
    mode.armCmd = CMD_FDT_UP ∨ mode.armCmd = CMD_FDT_DOWN := by
  cases mode with
  | waitUp => exact Or.inl rfl
  | _ => exact Or.inr rfl

/-- How a change of mode can end: nothing to do, one of the two commands not
sent, or both sent. -/
inductive ModeSet (env : Env) (io : Io) (flow : FdtFlow) (mode : FdtMode) :
    Int × FdtFlow × Io → Prop
  | kept (same : mode = flow.mode) : ModeSet env io flow mode (0, flow, io)
  | idle (isIdle : mode = .idle) : ModeSet env io flow mode (0, { flow with mode := .idle }, io)
  | notModed {payload : List Byte} {moded : Int × Io} (cmd : CmdFdtState)
      (modedResult : SendResult io CMD_FDT_MODE payload moded) (negative : moded.1 < 0) :
      ModeSet env io flow mode (moded.1, { flow with cmd := cmd }, moded.2)
  | notArmed {payload armPayload : List Byte} {moded armed : Int × Io} (cmd : CmdFdtState)
      (modedResult : SendResult io CMD_FDT_MODE payload moded)
      (armedResult : SendResult moded.2 mode.armCmd armPayload armed) (negative : armed.1 < 0) :
      ModeSet env io flow mode (armed.1, { flow with cmd := cmd }, armed.2)
  | armed {payload armPayload : List Byte} {moded armed : Int × Io} {next : FdtFlow} {after : Io}
      (modedResult : SendResult io CMD_FDT_MODE payload moded) (modedSent : ¬ moded.1 < 0)
      (armedResult : SendResult moded.2 mode.armCmd armPayload armed) (armedSent : ¬ armed.1 < 0)
      (reached : next.mode = mode) (traceEq : after.trace = armed.2.trace)
      (clocked : mode = .waitUp → ∃ index, next.waitUpArmedMs = env.clock index) :
      ModeSet env io flow mode (0, next, after)

section Calls

variable (env : Env) (fd : Int)

theorem fdtFlowSetMode_modeSet (io : Io) (flow : FdtFlow) (mode : FdtMode) :
    ModeSet env io flow mode (fdtFlowSetMode env fd io flow mode) := by
  have moded := hostSendAsync_result env fd io CMD_FDT_MODE
    (fdtModePayloadBuild { flow.cmd with manualTable := flow.cmd.downTable })
  unfold fdtFlowSetMode
  split
  · rename_i same
    exact .kept same
  · cases mode with
    | idle => exact .idle rfl
    | waitDown =>
        dsimp only [cmdFdtSetMode, cmdFdtSendDown]
        split
        · rename_i negative
          exact .notModed _ moded negative
        · rename_i modedSent
          split
          · rename_i negative
            exact .notArmed _ moded (hostSendAsync_result env fd _ CMD_FDT_DOWN _) negative
          · rename_i armedSent
            refine .armed moded modedSent (hostSendAsync_result env fd _ CMD_FDT_DOWN _) armedSent
              rfl rfl ?_
            intro impossible
            cases impossible
    | waitUp =>
        dsimp only [cmdFdtSetMode, cmdFdtSendUp]
        split
        · rename_i negative
          exact .notModed _ moded negative
        · rename_i modedSent
          split
          · rename_i negative
            exact .notArmed _ moded (hostSendAsync_result env fd _ CMD_FDT_UP _) negative
          · rename_i armedSent
            refine .armed moded modedSent (hostSendAsync_result env fd _ CMD_FDT_UP _) armedSent
              rfl rfl ?_
            intro _
            exact ⟨_, rfl⟩

/-- A change of the flow ends in the mode asked for, or fails and keeps the
mode. -/
theorem fdtFlowSetMode_mode (io : Io) (flow : FdtFlow) (mode : FdtMode) :
    (fdtFlowSetMode env fd io flow mode).2.1.mode = mode ∨
      ((fdtFlowSetMode env fd io flow mode).1 < 0 ∧
        (fdtFlowSetMode env fd io flow mode).2.1.mode = flow.mode) := by
  have result := fdtFlowSetMode_modeSet env fd io flow mode
  generalize fdtFlowSetMode env fd io flow mode = out at result ⊢
  cases result with
  | kept same => exact Or.inl same.symm
  | idle isIdle => exact Or.inl isIdle.symm
  | notModed cmd modedResult negative => exact Or.inr ⟨negative, rfl⟩
  | notArmed cmd modedResult armedResult negative => exact Or.inr ⟨negative, rfl⟩
  | armed modedResult modedSent armedResult armedSent reached traceEq clocked =>
      exact Or.inl reached

/-! ## Records and polls -/

theorem fdtFlowReport_flow (io : Io) (flow : FdtFlow) (events : FdtEvents) :
    (fdtFlowReport io flow events).flow.mode = flow.mode ∧
      (fdtFlowReport io flow events).flow.waitUpArmedMs = flow.waitUpArmedMs := by
  unfold fdtFlowReport
  dsimp only
  generalize (if events.reverse = true ∧ flow.mode = .waitUp then
    { events with up := true } else events) = reported
  rcases reported with ⟨down, up, reverse⟩
  cases down <;> cases up <;> exact ⟨rfl, rfl⟩

/-- A record changes neither the mode nor the arming time. -/
theorem fdtFlowFeedRecord_flow (io : Io) (flow : FdtFlow) (hdr : TapHdr)
    (payload : List Byte) :
    (fdtFlowFeedRecord env fd io flow hdr payload).flow.mode = flow.mode ∧
      (fdtFlowFeedRecord env fd io flow hdr payload).flow.waitUpArmedMs = flow.waitUpArmedMs := by
  unfold fdtFlowFeedRecord
  split
  · exact ⟨rfl, rfl⟩
  · dsimp only
    split
    · split
      · exact ⟨rfl, rfl⟩
      · split
        · exact ⟨rfl, rfl⟩
        · exact fdtFlowReport_flow _ _ _
    · exact fdtFlowReport_flow _ _ _

theorem fdtFlowPoll_mode (io : Io) (flow : FdtFlow) (nowMs : Int) :
    (fdtFlowPoll env fd io flow nowMs).2.1.mode = flow.mode := by
  have chosen : (if flow.lastGoodUpValid then
      { flow with cmd := { flow.cmd with upTable := flow.lastGoodUpTable } }
      else flow).mode = flow.mode := by
    split
    · rfl
    · rfl
  unfold fdtFlowPoll
  dsimp only at chosen ⊢
  generalize (if flow.lastGoodUpValid then
    { flow with cmd := { flow.cmd with upTable := flow.lastGoodUpTable } } else flow) = next
    at chosen ⊢
  split
  · rfl
  · split
    · exact chosen
    · split
      · exact chosen
      · exact chosen

/-! ## Routine parts -/

section Routine

variable {allowed : Out → Prop} [Out.AdmitsRoutine allowed]

theorem cmdFdtSetMode_routine (io : Io) (state : CmdFdtState) :
    io.Extends allowed (cmdFdtSetMode env fd io state).2.2 :=
  (hostSendAsync_result env fd io CMD_FDT_MODE _).routine (by decide) (by decide) (by decide)

theorem cmdFdtSendDown_routine (io : Io) (state : CmdFdtState) :
    io.Extends allowed (cmdFdtSendDown env fd io state).2 :=
  (hostSendAsync_result env fd io CMD_FDT_DOWN _).routine (by decide) (by decide) (by decide)

/-- Records never arm finger-up detection. -/
theorem fdtFlowFeedRecord_routine (io : Io) (flow : FdtFlow) (hdr : TapHdr) (payload : List Byte) :
    io.Extends allowed (fdtFlowFeedRecord env fd io flow hdr payload).io := by
  unfold fdtFlowFeedRecord
  split
  · exact .refl io
  · rename_i cmd status _
    have moded : io.Extends allowed _ := cmdFdtSetMode_routine env fd io cmd
    have armed := moded.trans (cmdFdtSendDown_routine env fd _ (cmdFdtSetMode env fd io cmd).2.1)
    dsimp only
    split
    · split
      · exact moded
      · split
        · exact armed
        · exact armed
    · exact .refl io

variable (admitsUp : ∀ out : Out, out.isCommand CMD_FDT_UP → allowed out)

include admitsUp

theorem fdtFlowSetMode_extends (io : Io) (flow : FdtFlow) (mode : FdtMode) :
    io.Extends allowed (fdtFlowSetMode env fd io flow mode).2.2 := by
  have admitsArm (out : Out) (isArm : out.isCommand mode.armCmd) : allowed out := by
    rcases mode.armCmd_eq with up | down
    · rw [up] at isArm
      exact admitsUp out isArm
    · rw [down] at isArm
      exact Out.AdmitsRoutine.command isArm (by decide) (by decide) (by decide)
  have result := fdtFlowSetMode_modeSet env fd io flow mode
  generalize fdtFlowSetMode env fd io flow mode = out at result ⊢
  cases result with
  | kept same => exact .refl io
  | idle isIdle => exact .refl io
  | notModed cmd modedResult negative =>
      exact modedResult.routine (by decide) (by decide) (by decide)
  | notArmed cmd modedResult armedResult negative =>
      exact (modedResult.routine (by decide) (by decide) (by decide)).trans
        (armedResult.extends.mono admitsArm)
  | armed modedResult modedSent armedResult armedSent reached traceEq clocked =>
      have both := (modedResult.routine (by decide) (by decide) (by decide)).trans
        (armedResult.extends.mono admitsArm)
      obtain ⟨outs, outsEq, all⟩ := both
      exact ⟨outs, traceEq.trans outsEq, all⟩

theorem fdtFlowPoll_extends (io : Io) (flow : FdtFlow) (nowMs : Int) :
    io.Extends allowed (fdtFlowPoll env fd io flow nowMs).2.2 := by
  unfold fdtFlowPoll
  dsimp only
  split
  · exact .refl io
  · generalize (if flow.lastGoodUpValid then
      { flow with cmd := { flow.cmd with upTable := flow.lastGoodUpTable } } else flow) = flow
    have moded : io.Extends allowed _ := cmdFdtSetMode_routine env fd io flow.cmd
    have armed : io.Extends allowed (cmdFdtSendUp env fd (cmdFdtSetMode env fd io flow.cmd).2.2
        (cmdFdtSetMode env fd io flow.cmd).2.1).2 :=
      moded.trans ((hostSendAsync_result env fd _ CMD_FDT_UP _).extends.mono admitsUp)
    split
    · exact moded
    · split
      · exact armed
      · exact armed

end Routine

/-- Arming finger-up detection is quiet. -/
theorem Out.quiet_of_fdtUp (out : Out) (isUp : out.isCommand CMD_FDT_UP) : out.Quiet :=
  isUp.quiet (by decide) (by decide)

end Calls

end Gxfp.User
