import Gxfp.User.Host

/-!
# Finger detection

Embeds `src/cmd/fdt_cmd.c` and `src/flow/fdt.c`: the base tables of finger-down
and finger-up detection, the three FDT commands, and the flow that arms the
sensor, follows its reports and re-arms a finger-up wait that stays silent.
-/

namespace Gxfp.User

open Lib.Bytes
open Gxfp.Errno

/-! ## Base tables -/

/-- A base table of `GXFP_FDT_BASE_TABLE_LEN` bytes. -/
abbrev FdtTable := Vector Byte 24

def FDT_BASE_UPDATE_ENTRIES : Nat := 10
def FDT_UP_DEFAULT_OFFSET : UInt16 := 0x15
def FDT_UP_NOTOUCH_FALLBACK : UInt16 := 0x1300

/-- `struct gxfp_cmd_fdt_state`.  The flags are set from comparisons, so they
are Booleans; `upDacOffset` holds the bits of the signed field. -/
structure CmdFdtState where
  downTable : FdtTable
  upTable : FdtTable
  manualTable : FdtTable
  baseTableInited : Bool
  upSecondFlag : Bool
  upNeedTwice : Bool
  upDiffUse : Bool
  upDacOffset : UInt16
  upRound : Bool
  deriving DecidableEq, Repr

/-- `gxfp_cmd_fdt_state_init`. -/
def cmdFdtStateInit : CmdFdtState where
  downTable := Vector.replicate 24 0
  upTable := Vector.replicate 24 0
  manualTable := Vector.replicate 24 0
  baseTableInited := true
  upSecondFlag := false
  upNeedTwice := false
  upDiffUse := false
  upDacOffset := 0
  upRound := false

/-- `gxfp_cmd_fdt_state_set_runtime`. -/
def cmdFdtStateSetRuntime (state : CmdFdtState) (secondFlag needFdtUpTwice diffUse : Bool)
    (dacOffset : UInt16) : CmdFdtState :=
  { state with
    upSecondFlag := secondFlag
    upNeedTwice := needFdtUpTwice
    upDiffUse := diffUse
    upDacOffset := dacOffset
    upRound := false }

/-- `gxfp_le16` of the bytes at an offset. -/
def le16At (data : List Byte) (off : Nat) : UInt16 :=
  UInt16.ofNat (le16 (data.getD off 0) (data.getD (off + 1) 0))

/-- Store a 16-bit entry of a base table. -/
def FdtTable.setEntry (table : FdtTable) (index : Nat) (encoded : UInt16) : FdtTable :=
  (table.setIfInBounds (index * 2) encoded.toUInt8).setIfInBounds (index * 2 + 1)
    (encoded >>> 8).toUInt8

/-- Number of entries a raw baseline updates. -/
def fdtUpdateEntries (rawBase : List Byte) : Nat :=
  min (rawBase.length / 2) FDT_BASE_UPDATE_ENTRIES

/-- `fdt_downbase_from_raw`. -/
def fdtDownbaseFromRaw (rawBase : List Byte) (table : FdtTable) : FdtTable :=
  (List.range (fdtUpdateEntries rawBase)).foldl
    (fun table index =>
      let half := le16At rawBase (index * 2) >>> 1
      table.setEntry index ((half <<< 8) ||| 0x80))
    table

/-- `fdt_upbase_from_raw`. -/
def fdtUpbaseFromRaw (touchflag : UInt16) (secondFlag diffUse : Bool) (dacOffset : UInt16)
    (rawBase : List Byte) (table : FdtTable) : FdtTable :=
  (List.range (fdtUpdateEntries rawBase)).foldl
    (fun merged index =>
      let half := le16At rawBase (index * 2) >>> 1
      let offset := if dacOffset = 0 then FDT_UP_DEFAULT_OFFSET else dacOffset
      let encoded := ((half + offset) <<< 8) ||| (half + offset)
      let encoded :=
        if !secondFlag ∧ (touchflag >>> UInt16.ofNat index) &&& 1 = 0 then
          if dacOffset = 0 then
            (encoded >>> 8) ||| FDT_UP_NOTOUCH_FALLBACK
          else
            ((dacOffset - 2) <<< 8) ||| (encoded >>> 8)
        else
          encoded
      let prev := le16At merged.toList (index * 2)
      let encoded := if diffUse ∧ encoded > prev then prev else encoded
      merged.setEntry index encoded)
    table

/-! ## Commands -/

/-- The payload of an FDT command: two magic bytes, a table and a trailer of
zeros. -/
def fdtPayloadBuild (magic : Byte) (table : FdtTable) : List Byte :=
  [magic, 0x01] ++ table.toList ++ List.replicate 8 0

/-- `fdt_down_payload_build`. -/
def fdtDownPayloadBuild (state : CmdFdtState) : List Byte :=
  fdtPayloadBuild 0x08 state.downTable

/-- `fdt_mode_payload_build`. -/
def fdtModePayloadBuild (state : CmdFdtState) : List Byte :=
  fdtPayloadBuild 0x09 state.manualTable

/-- `fdt_up_payload_build`. -/
def fdtUpPayloadBuild (state : CmdFdtState) : List Byte :=
  fdtPayloadBuild 0x0A state.upTable

section Commands

variable (env : Env) (fd : Int)

/-- `gxfp_cmd_fdt_set_mode`. -/
def cmdFdtSetMode (io : Io) (state : CmdFdtState) : Int × CmdFdtState × Io :=
  let state := { state with manualTable := state.downTable }
  let sent := hostSendAsync env fd io CMD_FDT_MODE (fdtModePayloadBuild state)
  (sent.1, state, sent.2)

/-- `gxfp_cmd_fdt_send_down`. -/
def cmdFdtSendDown (io : Io) (state : CmdFdtState) : Int × Io :=
  hostSendAsync env fd io CMD_FDT_DOWN (fdtDownPayloadBuild state)

/-- `gxfp_cmd_fdt_send_up`. -/
def cmdFdtSendUp (io : Io) (state : CmdFdtState) : Int × Io :=
  hostSendAsync env fd io CMD_FDT_UP (fdtUpPayloadBuild state)

end Commands

/-! ## Reports -/

def FDT_STATUS_DOWN_GET_UP_BASE : UInt16 := 0x0002
def FDT_STATUS_UP : UInt16 := 0x0200
def FDT_STATUS_IRQ_DOWN_GET_UP_BASE : UInt16 := 0x0002
def FDT_STATUS_IRQ_UP_GET_DOWN_BASE : UInt16 := 0x0200
def FDT_STATUS_IRQ_REVERSE_0 : UInt16 := 0x0080
def FDT_STATUS_IRQ_REVERSE_2 : UInt16 := 0x0082

/-- `fdt_base_table_update_from_frame`. -/
def fdtBaseTableUpdateFromFrame (state : CmdFdtState) (frame : FrameParsed) : CmdFdtState :=
  let irqStatus := le16At frame.payload 0
  if irqStatus = FDT_STATUS_IRQ_DOWN_GET_UP_BASE then
    if frame.payload.length < 4 then
      state
    else
      let touchflag := le16At frame.payload 2
      let rawBase := frame.payload.drop 4
      let secondFlag := if state.upNeedTwice then state.upRound else state.upSecondFlag
      let upRound := if state.upNeedTwice then !state.upRound else state.upRound
      { state with
        upRound := upRound
        upTable :=
          fdtUpbaseFromRaw touchflag secondFlag state.upDiffUse state.upDacOffset rawBase
            state.upTable }
  else if irqStatus = FDT_STATUS_IRQ_UP_GET_DOWN_BASE ∨ irqStatus = FDT_STATUS_IRQ_REVERSE_0 ∨
      irqStatus = FDT_STATUS_IRQ_REVERSE_2 then
    if frame.payload.length < 4 then
      state
    else
      let rawBase := (frame.payload.drop 4).take (FDT_BASE_UPDATE_ENTRIES * 2)
      { state with downTable := fdtDownbaseFromRaw rawBase state.downTable }
  else
    state

/-- `fdt_update_state_from_record`: the new state and the reported status. -/
def fdtUpdateStateFromRecord (state : CmdFdtState) (hdr : TapHdr) (payload : List Byte) :
    Except Errno (CmdFdtState × UInt16) :=
  if hdr.type ≠ GOODIX_MP_TYPE_CMD.toNat ∧ hdr.type ≠ GOODIX_MP_TYPE_NOTICE.toNat then
    .error ENOENT
  else
    match parseGoodixBody payload with
    | none => .error ENOENT
    | some frame =>
        if frame.payload.length < 2 then
          .error ENOENT
        else if frame.cmd ≠ CMD_FDT_STATUS ∧ frame.cmd ≠ CMD_FDT_DOWN ∧
            frame.cmd ≠ CMD_FDT_MODE ∧ frame.cmd ≠ CMD_FDT_UP then
          .error ENOENT
        else
          let state := if state.baseTableInited then state else cmdFdtStateInit
          .ok (fdtBaseTableUpdateFromFrame state frame, le16At frame.payload 0)

/-! ## The flow -/

/-- `enum gxfp_fdt_mode`. -/
inductive FdtMode
  | idle
  | waitDown
  | waitUp
  deriving DecidableEq, Repr

/-- `enum gxfp_fdt_state`. -/
inductive FdtState
  | unknown
  | up
  | down
  deriving DecidableEq, Repr

/-- A set of `enum gxfp_fdt_event` bits. -/
structure FdtEvents where
  down : Bool
  up : Bool
  reverse : Bool
  deriving DecidableEq, Repr

/-- `GXFP_FDT_EVENT_NONE`. -/
def FdtEvents.none : FdtEvents :=
  ⟨false, false, false⟩

/-- `struct gxfp_fdt_flow`. -/
structure FdtFlow where
  cmd : CmdFdtState
  mode : FdtMode
  state : FdtState
  lastStatus : UInt16
  armedUpTable : FdtTable
  lastGoodUpTable : FdtTable
  lastGoodUpValid : Bool
  waitUpRetries : Nat
  waitUpArmedMs : Int
  deriving DecidableEq, Repr

def FDT_WAIT_UP_RETRY_MS : Int := 750
def FDT_WAIT_UP_MAX_RETRIES : Nat := 20

/-- `gxfp_fdt_flow_init`. -/
def fdtFlowInit : FdtFlow where
  cmd := cmdFdtStateInit
  mode := .idle
  state := .unknown
  lastStatus := 0
  armedUpTable := Vector.replicate 24 0
  lastGoodUpTable := Vector.replicate 24 0
  lastGoodUpValid := false
  waitUpRetries := 0
  waitUpArmedMs := 0

/-- `fdt_status_to_events`. -/
def fdtStatusToEvents (status : UInt16) : FdtEvents :=
  if status = FDT_STATUS_DOWN_GET_UP_BASE then
    ⟨true, false, false⟩
  else if status = FDT_STATUS_UP then
    ⟨false, true, false⟩
  else if status = FDT_STATUS_IRQ_REVERSE_0 ∨ status = FDT_STATUS_IRQ_REVERSE_2 then
    ⟨false, false, true⟩
  else
    FdtEvents.none

section Flow

variable (env : Env) (fd : Int)

/-- `gxfp_fdt_flow_set_mode`. -/
def fdtFlowSetMode (io : Io) (flow : FdtFlow) (mode : FdtMode) : Int × FdtFlow × Io :=
  if mode = flow.mode then
    (0, flow, io)
  else
    match mode with
    | .idle => (0, { flow with mode := .idle }, io)
    | .waitDown =>
        let moded := cmdFdtSetMode env fd io flow.cmd
        let flow := { flow with cmd := moded.2.1 }
        if moded.1 < 0 then
          (moded.1, flow, moded.2.2)
        else
          let armed := cmdFdtSendDown env fd moded.2.2 flow.cmd
          if armed.1 < 0 then
            (armed.1, flow, armed.2)
          else
            (0, { flow with mode := .waitDown }, armed.2)
    | .waitUp =>
        let moded := cmdFdtSetMode env fd io flow.cmd
        let flow := { flow with cmd := moded.2.1 }
        if moded.1 < 0 then
          (moded.1, flow, moded.2.2)
        else
          let armed := cmdFdtSendUp env fd moded.2.2 flow.cmd
          if armed.1 < 0 then
            (armed.1, flow, armed.2)
          else
            let now := monotonicMs env armed.2
            (0,
              { flow with
                armedUpTable := flow.cmd.upTable
                waitUpArmedMs := now.1
                waitUpRetries := 0
                mode := .waitUp },
              now.2)

/-- What `gxfp_fdt_flow_feed_record` returns: its result, the events, the flow
and the world. -/
structure FdtFeed where
  ret : Int
  events : FdtEvents
  flow : FdtFlow
  io : Io

/-- The end of `gxfp_fdt_flow_feed_record`, once a finger-down wait has been
re-armed where it has to be. -/
def fdtFlowReport (io : Io) (flow : FdtFlow) (events : FdtEvents) : FdtFeed :=
  -- The reverse reports carry the same finger-up report as `FDT_STATUS_UP`.
  let events :=
    if events.reverse ∧ flow.mode = .waitUp then { events with up := true } else events
  let flow := if events.down then { flow with state := .down } else flow
  let flow :=
    if events.up then
      { flow with
        state := .up
        lastGoodUpTable := flow.armedUpTable
        lastGoodUpValid := true }
    else
      flow
  ⟨if events = FdtEvents.none then EAGAIN.rc else 0, events, flow, io⟩

/-- `gxfp_fdt_flow_feed_record`. -/
def fdtFlowFeedRecord (io : Io) (flow : FdtFlow) (hdr : TapHdr) (payload : List Byte) : FdtFeed :=
  match fdtUpdateStateFromRecord flow.cmd hdr payload with
  | .error errno =>
      ⟨if errno = EAGAIN ∨ errno = ENOENT then EAGAIN.rc else errno.rc, FdtEvents.none, flow, io⟩
  | .ok (cmd, status) =>
      let flow := { flow with cmd := cmd, lastStatus := status }
      let events := fdtStatusToEvents status
      if events.reverse ∧ flow.mode = .waitDown then
        let moded := cmdFdtSetMode env fd io flow.cmd
        let flow := { flow with cmd := moded.2.1 }
        if moded.1 < 0 then
          ⟨moded.1, FdtEvents.none, flow, moded.2.2⟩
        else
          let armed := cmdFdtSendDown env fd moded.2.2 flow.cmd
          if armed.1 < 0 then
            ⟨armed.1, FdtEvents.none, flow, armed.2⟩
          else
            fdtFlowReport armed.2 flow events
      else
        fdtFlowReport io flow events

/-- `gxfp_fdt_flow_wait_up_retry_due`. -/
def fdtFlowWaitUpRetryDue (flow : FdtFlow) (nowMs : Int) : Int :=
  if flow.mode ≠ .waitUp ∨ flow.state = .up then
    0
  else if flow.waitUpArmedMs ≤ 0 ∨ nowMs < flow.waitUpArmedMs then
    0
  else if nowMs - flow.waitUpArmedMs < FDT_WAIT_UP_RETRY_MS then
    0
  else if flow.waitUpRetries ≥ FDT_WAIT_UP_MAX_RETRIES then
    ETIMEDOUT.rc
  else
    1

/-- `gxfp_fdt_flow_poll`. -/
def fdtFlowPoll (io : Io) (flow : FdtFlow) (nowMs : Int) : Int × FdtFlow × Io :=
  let due := fdtFlowWaitUpRetryDue flow nowMs
  if due ≤ 0 then
    (due, flow, io)
  else
    let flow :=
      if flow.lastGoodUpValid then
        { flow with cmd := { flow.cmd with upTable := flow.lastGoodUpTable } }
      else
        flow
    let moded := cmdFdtSetMode env fd io flow.cmd
    let flow := { flow with cmd := moded.2.1 }
    if moded.1 < 0 then
      (moded.1, flow, moded.2.2)
    else
      let armed := cmdFdtSendUp env fd moded.2.2 flow.cmd
      if armed.1 < 0 then
        (armed.1, flow, armed.2)
      else
        (0,
          { flow with
            armedUpTable := flow.cmd.upTable
            waitUpArmedMs := nowMs
            waitUpRetries := flow.waitUpRetries + 1 },
          armed.2)

end Flow

end Gxfp.User
