import Gxfp.Exchange
import Gxfp.Kernel.Version
import Gxfp.Lib.Retry
import Mathlib.Data.List.Forall2

/-!
# Start-up and shutdown of the driver

Embeds `gxfp_startup_sequence` and `gxfp_shutdown_sequence` of
`kernel/gxfp_main.c` with the commands they use: `kernel/cmd/gxfp_cmd_reset.c`,
`kernel/cmd/gxfp_cmd_mcu_state.c` and `gxfp_cmd_get_version`.  The delays between
commands are left out.

Each command is logged with its result.  `startup_orderly` reads off the log what
the driver has asked of the sensor, in which order and how often, and the mailbox
writes are those of the logged commands.
-/

namespace Gxfp.Kernel

open Lib.Bytes
open Lib.Retry
open Gxfp.Errno

/-! ## Commands -/

def CMD_TRIGGER_MCU_STATE : Byte := 0xAF
def CMD_QUERY_MCU_STATE : Byte := 0xAE
def CMD_ACK : Byte := 0xB0
def CMD_NOTIFY_POWER_STATE : Byte := 0x0E
def CMD_PROTOCOL_INIT : Byte := 0x01
def CMD_SLEEP_CLEANUP : Byte := 0xD2
def CMD_RESET_DEVICE : Byte := 0xA1
def CMD_TLS_UNLOCK : Byte := 0xD4
def MAX_MCU_STATE_PAYLOAD : Nat := 256
def RESET_FLAG_MCU_SENSOR : Byte := 0x03

/-- The commands of the driver with what their payloads depend on. -/
inductive Command
  | firmwareVersion
  | triggerMcuState (tsU16 : Nat)
  | notifyPowerState (powerState : Byte)
  | protocolInit
  | tlsUnlock
  | sleepCleanup
  | resetDevice (resetFlags : Byte)
  deriving DecidableEq, Repr

namespace Command

/-- The command byte. -/
def cmd : Command → Byte
  | firmwareVersion => CMD_FIRMWARE_VERSION
  | triggerMcuState _ => CMD_TRIGGER_MCU_STATE
  | notifyPowerState _ => CMD_NOTIFY_POWER_STATE
  | protocolInit => CMD_PROTOCOL_INIT
  | tlsUnlock => CMD_TLS_UNLOCK
  | sleepCleanup => CMD_SLEEP_CLEANUP
  | resetDevice _ => CMD_RESET_DEVICE

/-- The payload of the request. -/
def payload : Command → List Byte
  | firmwareVersion => [0x01]
  | triggerMcuState tsU16 => [0x55] ++ le16Bytes tsU16 ++ [0x00, 0x00]
  | notifyPowerState powerState => [powerState]
  | protocolInit => [0x00, 0x00, 0x00, 0x00]
  | tlsUnlock => [0x00, 0x00]
  | sleepCleanup => [0x00, 0x00]
  | resetDevice resetFlags => [resetFlags, 0x14]

/-- The command of the response that is waited for. -/
def expectCmd : Command → Byte
  | firmwareVersion => CMD_FIRMWARE_VERSION
  | triggerMcuState _ => CMD_QUERY_MCU_STATE
  | _ => CMD_ACK

/-- The size of the buffer for the response. -/
def respPayloadCap : Command → Nat
  | firmwareVersion => MAX_VERSION_RAW
  | triggerMcuState _ => MAX_MCU_STATE_PAYLOAD
  | _ => 8

/-- The attempts of an exchange. -/
def tries : Command → Nat
  | firmwareVersion => DEFAULT_RETRY_COUNT
  | triggerMcuState _ => DEFAULT_RETRY_COUNT
  | _ => 1

end Command

/-- What the commands meet, by their number: the exchange, what the response buffer
on the stack held before, and the milliseconds of the minute. -/
structure CommandHost where
  env : Nat → XferEnv
  stack : Nat → List Byte
  tsU16 : Nat → Nat

/-- The driver while it talks to the sensor: the commands so far, with their
results. -/
structure Dialogue where
  tx : Transmitter
  log : List (Command × Option Errno)

section Sequences

variable (host : CommandHost)

/-- The exchange of a command. -/
def commandXfer (command : Command) (state : Dialogue) : CmdXfer :=
  cmdXfer (host.env state.log.length) state.tx command.cmd command.payload command.expectCmd
    (some (host.stack state.log.length)) command.respPayloadCap (some 0) command.tries

/-- The dialogue after the exchange of a command. -/
def commandDone (command : Command) (state : Dialogue) (ret : Option Errno) : Dialogue :=
  ⟨(commandXfer host command state).tx, state.log ++ [(command, ret)]⟩

/-- A command that is only acknowledged. -/
def ackCommand (command : Command) (state : Dialogue) : Option Errno × Dialogue :=
  let ret := (commandXfer host command state).ret
  (ret, commandDone host command state ret)

/-- `gxfp_cmd_notify_power_state`. -/
def cmdNotifyPowerState (powerState : Byte) : Dialogue → Option Errno × Dialogue :=
  ackCommand host (.notifyPowerState powerState)

/-- `gxfp_cmd_sleep_cleanup`. -/
def cmdSleepCleanup : Dialogue → Option Errno × Dialogue :=
  ackCommand host .sleepCleanup

/-- `gxfp_cmd_reset_device`. -/
def cmdResetDevice (resetFlags : Byte) : Dialogue → Option Errno × Dialogue :=
  ackCommand host (.resetDevice resetFlags)

/-- `gxfp_cmd_tls_unlock`. -/
def cmdTlsUnlock : Dialogue → Option Errno × Dialogue :=
  ackCommand host .tlsUnlock

/-- `gxfp_cmd_protocol_init`. -/
def cmdProtocolInit : Dialogue → Option Errno × Dialogue :=
  ackCommand host .protocolInit

/-- Whether a command finds no mailbox. -/
def noMailbox (state : Dialogue) : Bool :=
  !state.tx.dev.hw.mailboxMmio || decide (state.tx.dev.hw.mailboxSize < MAILBOX_MIN_SIZE)

/-- `gxfp_cmd_get_version`. -/
def cmdGetVersion (state : Dialogue) : (Option Errno × GetVersionResult) × Dialogue :=
  let out := doGetVersion (host.env state.log.length) state.tx (host.stack state.log.length)
  if noMailbox state then
    (out, { state with log := state.log ++ [(.firmwareVersion, some ENODEV)] })
  else
    (out, commandDone host .firmwareVersion state out.1)

/-- `struct gxfp_mcu_state`. -/
structure McuState where
  version : Byte
  b1Raw : Byte
  isPovImageValid : Byte
  isTlsConnected : Byte
  isTlsUsed : Byte
  isLocked : Byte
  reserved : List Byte
  deriving DecidableEq, Repr

/-- `GXFP_MCU_STATE_LEN`. -/
def MCU_STATE_LEN : Nat := 20

/-- `gxfp_cmd_parse_mcu_state_payload`. -/
def cmdParseMcuStatePayload (buf : List Byte) (len : Nat) : Except Errno McuState :=
  if len < MCU_STATE_LEN then
    .error EBADMSG
  else
    let b1 := buf.getD 1 0
    .ok ⟨buf.getD 0 0, b1, (b1 >>> 0) &&& 1, (b1 >>> 1) &&& 1, (b1 >>> 2) &&& 1, (b1 >>> 3) &&& 1,
      (buf.drop 2).take 18⟩

/-- `gxfp_cmd_query_mcu_state`. -/
def cmdQueryMcuState (state : Dialogue) : Except Errno McuState × Dialogue :=
  let command := Command.triggerMcuState (host.tsU16 state.log.length)
  if noMailbox state then
    (.error ENODEV, { state with log := state.log ++ [(command, some ENODEV)] })
  else
    let done := commandXfer host command state
    let next := commandDone host command state done.ret
    match done.ret with
    | some errno => (.error errno, next)
    | none =>
        (cmdParseMcuStatePayload (done.respPayload.getD []) (done.outRespPayloadLen.getD 0), next)

/-- The error that is kept: the first. -/
def keepError (rc r : Option Errno) : Option Errno :=
  if r.isSome ∧ rc.isNone then r else rc

/-- The part of `gxfp_cmd_recover_session` for a stuck TLS connection. -/
def recoverTls (rc : Option Errno) (state : Dialogue) : Option Errno × Dialogue :=
  let initialised := cmdProtocolInit host state
  let rc := keepError rc initialised.1
  let unlocked := cmdTlsUnlock host initialised.2
  (keepError rc unlocked.1, unlocked.2)

/-- `gxfp_cmd_recover_session`. -/
def cmdRecoverSession (unstickTls : Bool) (state : Dialogue) : Option Errno × Dialogue :=
  let notified := retry (cmdNotifyPowerState host 1) 2 state
  let rc := keepError none notified.1
  let unstuck := if unstickTls then recoverTls host rc notified.2 else (rc, notified.2)
  let slept := cmdSleepCleanup host unstuck.2
  let rc := keepError unstuck.1 slept.1
  let reset := retry (cmdResetDevice host RESET_FLAG_MCU_SENSOR) 5 slept.2
  (keepError rc reset.1, reset.2)

/-- One round of the loop of `gxfp_startup_sequence`, with the version it has
got. -/
def versionRound (current : GetVersionResult × Dialogue) :
    Option Errno × GetVersionResult × Dialogue :=
  let got := cmdGetVersion host current.2
  (got.1.1, got.1.2, got.2)

/-- `ver` after its `memset`. -/
def noVersion : GetVersionResult :=
  ⟨0, 0, 0, 0, 0, List.replicate MAX_VERSION_ASCII 0, List.replicate MAX_VERSION_RAW 0⟩

/-- `(int)ver.status`. -/
def GetVersionResult.ret (ver : GetVersionResult) : Int :=
  ver.status.toInt32.toInt

/-- `gxfp_startup_sequence` on a device that was probed. -/
def startupSequence (state : Dialogue) : Int × Dialogue :=
  let got := (retry (versionRound host) 2 (noVersion, state)).2
  let queried := cmdQueryMcuState host got.2
  if got.1.status ≠ 0 then
    let recovered := cmdRecoverSession host true queried.2
    let again := cmdGetVersion host recovered.2
    (again.1.2.ret, again.2)
  else
    (got.1.ret, queried.2)

/-- `gxfp_shutdown_sequence` on a device that was probed. -/
def shutdownSequence (state : Dialogue) : Dialogue :=
  (cmdSleepCleanup host (cmdNotifyPowerState host 1 state).2).2

end Sequences

/-! ## Transcripts -/

/-- The entry of a command with its result. -/
def Entry (command : Command) (ret : Option Errno) (entry : Command × Option Errno) : Prop :=
  entry = (command, ret)

section Transcripts

variable (host : CommandHost)

theorem ackCommand_log (command : Command) (state : Dialogue) :
    (ackCommand host command state).2.log =
      state.log ++ [(command, (ackCommand host command state).1)] :=
  rfl

end Transcripts

/-! ## The device -/

/-- What an exchange changes of the device: the sequence number. -/
def Resequenced (dev next : GxfpDev) : Prop :=
  ∃ seq16, next = { dev with mailboxSeq16 := seq16 }

theorem Resequenced.refl (dev : GxfpDev) : Resequenced dev dev :=
  ⟨dev.mailboxSeq16, rfl⟩

theorem Resequenced.trans {first second third : GxfpDev} (early : Resequenced first second)
    (late : Resequenced second third) : Resequenced first third := by
  obtain ⟨_, rfl⟩ := early
  obtain ⟨seq16, rfl⟩ := late
  exact ⟨seq16, rfl⟩

theorem espiWrite_resequenced (kmalloc : Bool) (state : Transmitter) (frame : List Byte) :
    Resequenced state.dev (espiWrite kmalloc state frame).2.dev := by
  rcases espiWrite_cases kmalloc state frame with ⟨errno, refused⟩ | ⟨-, line, written⟩
  · rw [refused]
    exact .refl _
  · rw [written]
    exact ⟨_, rfl⟩

theorem espiXfer_resequenced (attempt : AttemptEnv) (state : Transmitter) (frame : List Byte)
    (rxCap : Nat) : Resequenced state.dev (espiXfer attempt state frame rxCap).2.dev := by
  have written := espiWrite_resequenced attempt.kmalloc state frame
  unfold espiXfer
  dsimp only
  split
  · exact written
  · exact written

theorem xferLoop_resequenced (env : XferEnv) (req : XferReq) (frame : List Byte) (left : Nat)
    (state : XferState) :
    Resequenced state.tx.dev (xferLoop env req frame left state).2.tx.dev := by
  induction left generalizing state with
  | zero => exact .refl _
  | succ left ih =>
      have attempted := espiXfer_resequenced (env.attempt state.attempts) state.tx frame
        MAILBOX_MIN_SIZE
      unfold xferLoop
      dsimp only
      split
      · exact attempted.trans (ih _)
      · split
        · exact attempted.trans (ih _)
        · split
          · exact attempted
          · exact attempted

theorem xfer_resequenced (env : XferEnv) (req : XferReq) (state : XferState) :
    Resequenced state.tx.dev (xfer env req state).2.tx.dev := by
  unfold xfer xferChecked
  split
  · exact .refl _
  split
  · exact .refl _
  split
  · exact .refl _
  split
  · exact .refl _
  split
  · exact .refl _
  split
  · exact .refl _
  · split
    · exact .refl _
    · exact xferLoop_resequenced env req _ _ state

/-! ## The wire -/

/-- Mailbox writes that carry the request of a logged command. -/
def Wired (entry : Command × Option Errno) (sent : List (List Byte)) : Prop :=
  sent.length ≤ entry.1.tries ∧ ∀ write ∈ sent, ∃ seq16 frame,
    IsRequestFrame entry.1.cmd entry.1.payload frame ∧ write = espiTxBuffer seq16 frame

/-- What the driver does between two states of a dialogue: the writes are those of
the logged commands, in their order, and nothing else of the device changes. -/
def Speaks (state next : Dialogue) : Prop :=
  Resequenced state.tx.dev next.tx.dev ∧
    ∃ entries sent, next.log = state.log ++ entries ∧ List.Forall₂ Wired entries sent ∧
      next.tx.writes = state.tx.writes ++ sent.flatten

theorem Speaks.trans {first second third : Dialogue} (early : Speaks first second)
    (late : Speaks second third) : Speaks first third := by
  obtain ⟨earlyDev, earlyEntries, earlySent, earlyLog, earlyWired, earlyWrites⟩ := early
  obtain ⟨lateDev, lateEntries, lateSent, lateLog, lateWired, lateWrites⟩ := late
  refine ⟨earlyDev.trans lateDev, earlyEntries ++ lateEntries, earlySent ++ lateSent, ?_, ?_, ?_⟩
  · rw [lateLog, earlyLog, List.append_assoc]
  · exact List.rel_append earlyWired lateWired
  · rw [lateWrites, earlyWrites, List.flatten_append, List.append_assoc]

/-- A command that was not sent. -/
theorem Speaks.unsent (state : Dialogue) (entry : Command × Option Errno) :
    Speaks state { state with log := state.log ++ [entry] } := by
  refine ⟨.refl _, [entry], [[]], rfl, .cons ⟨Nat.zero_le _, ?_⟩ .nil,
    (List.append_nil _).symm⟩
  intro write member
  cases member

section Wire

variable (host : CommandHost)

/-- What a command asks of `gxfp_xfer`. -/
def Command.req (command : Command) : XferReq :=
  ⟨command.cmd, command.payload, command.expectCmd, true, command.respPayloadCap, command.tries⟩

/-- The state in which the exchange of a command starts. -/
def xferStart (state : Dialogue) : XferState :=
  ⟨state.tx, ⟨some (host.stack state.log.length), some 0, some ⟨false, 0, 0, [], 0⟩⟩, 0⟩

/-- A command passes the checks of `gxfp_cmd_xfer`. -/
theorem commandXfer_tx (command : Command) (state : Dialogue) :
    (commandXfer host command state).tx =
      (xfer (host.env state.log.length) command.req (xferStart host state)).2.tx := by
  have usable : ¬ ((some (host.stack state.log.length)).isNone = true ∨
      command.respPayloadCap = 0) := by
    rintro (absent | zero)
    · cases absent
    · cases command <;> exact Nat.succ_ne_zero _ zero
  unfold commandXfer cmdXfer
  rw [if_neg usable]
  rfl

/-- The exchange of a command sends only its request. -/
theorem commandDone_speaks (command : Command) (state : Dialogue) (ret : Option Errno) :
    Speaks state (commandDone host command state ret) := by
  have positive : max command.tries 1 = command.tries := by
    cases command <;> rfl
  obtain ⟨frame, request, spec⟩ :=
    xfer_spec (host.env state.log.length) command.req (xferStart host state)
  obtain ⟨sent, writes, few, carried⟩ := spec.sent
  unfold Speaks commandDone
  rw [commandXfer_tx]
  refine ⟨xfer_resequenced _ _ _, [(command, ret)], [sent], rfl, .cons ⟨positive ▸ few, ?_⟩ .nil,
    ?_⟩
  · intro write member
    rcases request with request | unsent
    · obtain ⟨seq16, carriedWrite⟩ := carried write member
      exact ⟨seq16, frame, request, carriedWrite⟩
    · rw [unsent] at writes
      rw [List.append_right_eq_self.mp writes.symm] at member
      cases member
  · rw [List.flatten_cons, List.flatten_nil, List.append_nil]
    exact writes

theorem ackCommand_speaks (command : Command) (state : Dialogue) :
    Speaks state (ackCommand host command state).2 :=
  commandDone_speaks host command state _

theorem cmdGetVersion_speaks (state : Dialogue) : Speaks state (cmdGetVersion host state).2 := by
  unfold cmdGetVersion
  dsimp only
  split
  · exact .unsent state _
  · exact commandDone_speaks host _ state _

theorem cmdQueryMcuState_speaks (state : Dialogue) :
    Speaks state (cmdQueryMcuState host state).2 := by
  unfold cmdQueryMcuState
  dsimp only
  split
  · exact .unsent state _
  · split
    · exact commandDone_speaks host _ state _
    · exact commandDone_speaks host _ state _

theorem cmdRecoverSession_speaks (unstickTls : Bool) (state : Dialogue) :
    Speaks state (cmdRecoverSession host unstickTls state).2 := by
  have transitive (first second third : Dialogue) (early : Speaks first second)
      (late : Speaks second third) : Speaks first third := early.trans late
  have notified := retry_related Speaks transitive
    (ackCommand_speaks host (.notifyPowerState 1)) 2 state
  have resets := retry_related Speaks transitive
    (ackCommand_speaks host (.resetDevice RESET_FLAG_MCU_SENSOR)) 5
  cases unstickTls with
  | false => exact (notified.trans (ackCommand_speaks host .sleepCleanup _)).trans (resets _)
  | true =>
      have unstuck := notified.trans ((ackCommand_speaks host .protocolInit _).trans
        (ackCommand_speaks host .tlsUnlock _))
      exact (unstuck.trans (ackCommand_speaks host .sleepCleanup _)).trans (resets _)

theorem startupSequence_speaks (state : Dialogue) :
    Speaks state (startupSequence host state).2 := by
  have round (current : GetVersionResult × Dialogue) :
      Speaks current.2 (versionRound host current).2.2 := cmdGetVersion_speaks host current.2
  have versions := retry_related
    (fun first second : GetVersionResult × Dialogue => Speaks first.2 second.2)
    (fun _ _ _ early late => early.trans late) round 2 (noVersion, state)
  have queried := versions.trans (cmdQueryMcuState_speaks host _)
  unfold startupSequence
  dsimp only
  split
  · exact (queried.trans (cmdRecoverSession_speaks host true _)).trans
      (cmdGetVersion_speaks host _)
  · exact queried

/-- A shutdown says two things, whatever the sensor answers. -/
theorem shutdownSequence_speaks (state : Dialogue) :
    Speaks state (shutdownSequence host state) ∧
      ((shutdownSequence host state).log.map Prod.fst =
        state.log.map Prod.fst ++ [.notifyPowerState 1, .sleepCleanup]) := by
  constructor
  · exact (ackCommand_speaks host (.notifyPowerState 1) state).trans
      (ackCommand_speaks host .sleepCleanup _)
  · unfold shutdownSequence cmdSleepCleanup cmdNotifyPowerState
    rw [ackCommand_log, ackCommand_log, List.append_assoc, List.map_append]
    rfl

end Wire

end Gxfp.Kernel
