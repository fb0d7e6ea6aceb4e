import Gxfp.User.OtpDelta

/-!
# The offset of the finger-up baseline

`fdt_upbase_from_raw` spells out its default twice: an offset of zero counts as
`FDT_UP_DEFAULT_OFFSET`, and a zone without touch then gets
`FDT_UP_NOTOUCH_FALLBACK` in place of a high byte computed from the offset.  The
two constants belong together, so a table derived with offset zero is the table
derived with the default.

A flow whose offset is replaced by the one it stands for therefore behaves like
the flow itself; `resolved` is that replacement, and the functions of the flow
commute with it.
-/

namespace Gxfp.User

open Lib.Bytes
open Gxfp.Errno

/-! ## Entries -/

/-- The entry of a zone: from its raw value, the previous entry and what the
report says about the touch. -/
def fdtUpEntry (touchflag : UInt16) (secondFlag diffUse : Bool) (dacOffset : UInt16)
    (index : Nat) (raw prev : UInt16) : UInt16 :=
  let moved := (raw >>> 1) + fdtUpOffset dacOffset
  let encoded := (moved <<< 8) ||| moved
  let encoded :=
    if !secondFlag ∧ (touchflag >>> UInt16.ofNat index) &&& 1 = 0 then
      if dacOffset = 0 then
        (encoded >>> 8) ||| FDT_UP_NOTOUCH_FALLBACK
      else
        ((dacOffset - 2) <<< 8) ||| (encoded >>> 8)
    else
      encoded
  if diffUse ∧ encoded > prev then prev else encoded

section Tables

variable (touchflag : UInt16) (secondFlag diffUse : Bool) (dacOffset : UInt16)
  (rawBase : List Byte) (table : FdtTable)

/-- `fdt_upbase_from_raw` entry by entry. -/
theorem fdtUpbaseFromRaw_entries :
    fdtUpbaseFromRaw touchflag secondFlag diffUse dacOffset rawBase table =
      (List.range (fdtUpdateEntries rawBase)).foldl
        (fun merged index =>
          merged.setEntry index
            (fdtUpEntry touchflag secondFlag diffUse dacOffset index
              (le16At rawBase (index * 2)) (le16At merged.toList (index * 2))))
        table :=
  fdtUpbaseFromRaw_offset touchflag secondFlag diffUse dacOffset rawBase table

/-- The fallback of a zone without touch is the high byte of the default
offset. -/
theorem notouchFallback_eq : (FDT_UP_DEFAULT_OFFSET - 2) <<< 8 = FDT_UP_NOTOUCH_FALLBACK := by
  decide

theorem fdtUpOffset_idem : fdtUpOffset (fdtUpOffset dacOffset) = fdtUpOffset dacOffset := by
  by_cases zero : dacOffset = 0
  · rw [zero]
    rfl
  · rw [fdtUpOffset, fdtUpOffset, if_neg zero, if_neg zero]

/-- An entry is the same with the offset that its own stands for. -/
theorem fdtUpEntry_resolved (index : Nat) (raw prev : UInt16) :
    fdtUpEntry touchflag secondFlag diffUse (fdtUpOffset dacOffset) index raw prev =
      fdtUpEntry touchflag secondFlag diffUse dacOffset index raw prev := by
  by_cases zero : dacOffset = 0
  · have isDefault : fdtUpOffset dacOffset = FDT_UP_DEFAULT_OFFSET := by
      rw [fdtUpOffset, if_pos zero]
    have nonzero : FDT_UP_DEFAULT_OFFSET ≠ 0 := by
      decide
    have idem := fdtUpOffset_idem dacOffset
    unfold fdtUpEntry
    rw [idem]
    dsimp only
    rw [if_pos zero, isDefault, if_neg nonzero, notouchFallback_eq, UInt16.or_comm]
  · have same : fdtUpOffset dacOffset = dacOffset := by
      rw [fdtUpOffset, if_neg zero]
    rw [same]

/-- So is a table. -/
theorem fdtUpbaseFromRaw_resolved :
    fdtUpbaseFromRaw touchflag secondFlag diffUse (fdtUpOffset dacOffset) rawBase table =
      fdtUpbaseFromRaw touchflag secondFlag diffUse dacOffset rawBase table := by
  simp only [fdtUpbaseFromRaw_entries, fdtUpEntry_resolved]

/-! ## What is written -/

theorem setEntry_getElem {table : FdtTable} {index position : Nat} (inside : position < 24)
    (behind : index * 2 + 2 ≤ position) (encoded : UInt16) :
    (table.setEntry index encoded)[position] = table[position] := by
  unfold FdtTable.setEntry
  rw [Vector.getElem_setIfInBounds_ne (by omega) (by omega),
    Vector.getElem_setIfInBounds_ne (by omega) (by omega)]

/-- Entries behind those that a raw baseline updates are kept. -/
theorem fdtUpbaseFromRaw_kept {position : Nat} (inside : position < 24)
    (behind : fdtUpdateEntries rawBase * 2 ≤ position) :
    (fdtUpbaseFromRaw touchflag secondFlag diffUse dacOffset rawBase table)[position] =
      table[position] := by
  rw [fdtUpbaseFromRaw_entries]
  generalize fdtUpdateEntries rawBase = entries at behind ⊢
  induction entries with
  | zero => rfl
  | succ entries ih =>
      rw [List.range_succ, List.foldl_append, List.foldl_cons, List.foldl_nil,
        setEntry_getElem inside (by omega)]
      exact ih (by omega)

/-! ## What is read -/

/-- `gxfp_le16` where a byte behind the end of the buffer is an error. -/
def le16Within (data : List Byte) (off : Nat) : Option UInt16 :=
  match data[off]?, data[off + 1]? with
  | some low, some high => some (UInt16.ofNat (le16 low high))
  | _, _ => none

/-- `fdt_upbase_from_raw` where a read behind the end of the raw baseline or of
the table is an error. -/
def fdtUpbaseWithin : Option FdtTable :=
  (List.range (fdtUpdateEntries rawBase)).foldlM
    (fun merged index =>
      (le16Within rawBase (index * 2)).bind fun raw =>
        (le16Within merged.toList (index * 2)).map fun prev =>
          merged.setEntry index
            (fdtUpEntry touchflag secondFlag diffUse dacOffset index raw prev))
    table

theorem le16Within_eq {data : List Byte} {off : Nat} (inside : off + 1 < data.length) :
    le16Within data off = some (le16At data off) := by
  have low : off < data.length := Nat.lt_of_succ_lt inside
  unfold le16Within le16At
  rw [List.getElem?_eq_getElem low, List.getElem?_eq_getElem inside,
    List.getD_eq_getElem _ _ low, List.getD_eq_getElem _ _ inside]

theorem entry_within {index : Nat} (updated : index < fdtUpdateEntries rawBase) :
    index * 2 + 1 < rawBase.length ∧ index * 2 + 1 < 24 := by
  unfold fdtUpdateEntries FDT_BASE_UPDATE_ENTRIES at updated
  omega

/-- Every read is inside the raw baseline and the table. -/
theorem fdtUpbaseWithin_eq :
    fdtUpbaseWithin touchflag secondFlag diffUse dacOffset rawBase table =
      some (fdtUpbaseFromRaw touchflag secondFlag diffUse dacOffset rawBase table) := by
  have within : ∀ index ∈ List.range (fdtUpdateEntries rawBase),
      index * 2 + 1 < rawBase.length ∧ index * 2 + 1 < 24 :=
    fun index member => entry_within rawBase (List.mem_range.mp member)
  rw [fdtUpbaseFromRaw_entries]
  unfold fdtUpbaseWithin
  generalize List.range (fdtUpdateEntries rawBase) = indices at within
  induction indices generalizing table with
  | nil => rfl
  | cons index indices ih =>
      obtain ⟨rawInside, tableInside⟩ := within index List.mem_cons_self
      have prevInside : index * 2 + 1 < table.toList.length := by
        rw [Vector.length_toList]
        exact tableInside
      rw [List.foldlM_cons, List.foldl_cons, le16Within_eq rawInside, le16Within_eq prevInside]
      exact ih _ fun other member => within other (List.mem_cons_of_mem _ member)

end Tables

/-! ## Offsets made explicit -/

/-- The same state with the offset that its own stands for. -/
def CmdFdtState.resolved (state : CmdFdtState) : CmdFdtState :=
  { state with upDacOffset := fdtUpOffset state.upDacOffset }

/-- The same flow with the offset that its own stands for. -/
def FdtFlow.resolved (flow : FdtFlow) : FdtFlow :=
  { flow with cmd := flow.cmd.resolved }

theorem CmdFdtState.resolved_idem (state : CmdFdtState) :
    state.resolved.resolved = state.resolved := by
  unfold resolved
  rw [fdtUpOffset_idem]

theorem FdtFlow.resolved_idem (flow : FdtFlow) : flow.resolved.resolved = flow.resolved := by
  unfold resolved
  rw [CmdFdtState.resolved_idem]

theorem fdtBaseTableUpdateFromFrame_resolved (state : CmdFdtState) (frame : FrameParsed) :
    fdtBaseTableUpdateFromFrame state.resolved frame =
      (fdtBaseTableUpdateFromFrame state frame).resolved := by
  unfold fdtBaseTableUpdateFromFrame
  dsimp only
  split
  · split
    · rfl
    · dsimp only [CmdFdtState.resolved]
      rw [fdtUpbaseFromRaw_resolved]
      rfl
  · split
    · split
      · rfl
      · rfl
    · rfl

/-- A record finds the same in a resolved state.  A state without tables is
initialised first, with an offset of zero. -/
theorem fdtUpdateStateFromRecord_resolved (state : CmdFdtState) (hdr : TapHdr)
    (payload : List Byte) :
    (fdtUpdateStateFromRecord state.resolved hdr payload).map
        (fun (updated, status) => (updated.resolved, status)) =
      (fdtUpdateStateFromRecord state hdr payload).map
        fun (updated, status) => (updated.resolved, status) := by
  unfold fdtUpdateStateFromRecord
  split
  · rfl
  · cases parseGoodixBody payload with
    | none => rfl
    | some frame =>
        dsimp only
        split
        · rfl
        · split
          · rfl
          · cases inited : state.baseTableInited with
            | false =>
                have initedToo : state.resolved.baseTableInited = false := inited
                rw [initedToo]
                rfl
            | true =>
                have initedToo : state.resolved.baseTableInited = true := inited
                rw [initedToo, if_pos rfl, if_pos rfl, fdtBaseTableUpdateFromFrame_resolved]
                exact congrArg (fun updated => Except.ok (updated, _))
                  (CmdFdtState.resolved_idem _)

section Flow

variable (env : Env) (fd : Int) (io : Io) (flow : FdtFlow)

/-- The commands do not carry the offset. -/
theorem cmdFdtSetMode_resolved (state : CmdFdtState) :
    cmdFdtSetMode env fd io state.resolved =
      ((cmdFdtSetMode env fd io state).1, (cmdFdtSetMode env fd io state).2.1.resolved,
        (cmdFdtSetMode env fd io state).2.2) :=
  rfl

theorem cmdFdtSendDown_resolved (state : CmdFdtState) :
    cmdFdtSendDown env fd io state.resolved = cmdFdtSendDown env fd io state :=
  rfl

theorem cmdFdtSendUp_resolved (state : CmdFdtState) :
    cmdFdtSendUp env fd io state.resolved = cmdFdtSendUp env fd io state :=
  rfl

theorem fdtFlowSetMode_resolved (mode : FdtMode) :
    fdtFlowSetMode env fd io flow.resolved mode =
      ((fdtFlowSetMode env fd io flow mode).1, (fdtFlowSetMode env fd io flow mode).2.1.resolved,
        (fdtFlowSetMode env fd io flow mode).2.2) := by
  have cmdEq : flow.resolved.cmd = flow.cmd.resolved := rfl
  have modeEq : flow.resolved.mode = flow.mode := rfl
  unfold fdtFlowSetMode
  rw [modeEq, cmdEq, cmdFdtSetMode_resolved]
  generalize cmdFdtSetMode env fd io flow.cmd = moded
  split
  · rfl
  · cases mode with
    | idle => rfl
    | waitDown =>
        dsimp only
        rw [cmdFdtSendDown_resolved]
        split
        · rfl
        · split
          · rfl
          · rfl
    | waitUp =>
        dsimp only
        rw [cmdFdtSendUp_resolved]
        split
        · rfl
        · split
          · rfl
          · rfl

theorem fdtFlowPoll_resolved (nowMs : Int) :
    fdtFlowPoll env fd io flow.resolved nowMs =
      ((fdtFlowPoll env fd io flow nowMs).1, (fdtFlowPoll env fd io flow nowMs).2.1.resolved,
        (fdtFlowPoll env fd io flow nowMs).2.2) := by
  have dueEq : fdtFlowWaitUpRetryDue flow.resolved nowMs = fdtFlowWaitUpRetryDue flow nowMs := rfl
  have chosenEq :
      (if flow.resolved.lastGoodUpValid then
        { flow.resolved with
          cmd := { flow.resolved.cmd with upTable := flow.resolved.lastGoodUpTable } }
      else
        flow.resolved) =
        (if flow.lastGoodUpValid then
          { flow with cmd := { flow.cmd with upTable := flow.lastGoodUpTable } }
        else
          flow).resolved := by
    rw [apply_ite FdtFlow.resolved]
    rfl
  unfold fdtFlowPoll
  dsimp only
  rw [dueEq, chosenEq]
  generalize (if flow.lastGoodUpValid then
      { flow with cmd := { flow.cmd with upTable := flow.lastGoodUpTable } }
    else
      flow) = chosen
  have cmdEq : chosen.resolved.cmd = chosen.cmd.resolved := rfl
  rw [cmdEq, cmdFdtSetMode_resolved]
  generalize cmdFdtSetMode env fd io chosen.cmd = moded
  dsimp only
  rw [cmdFdtSendUp_resolved]
  split
  · rfl
  · split
    · rfl
    · split
      · rfl
      · rfl

/-- The same feed with the offset of its flow resolved. -/
def FdtFeed.resolved (feed : FdtFeed) : FdtFeed :=
  { feed with flow := feed.flow.resolved }

theorem fdtFlowReport_resolved (events : FdtEvents) :
    fdtFlowReport io flow.resolved events = (fdtFlowReport io flow events).resolved := by
  have modeEq : flow.resolved.mode = flow.mode := rfl
  unfold fdtFlowReport
  rw [modeEq]
  generalize (if events.reverse = true ∧ flow.mode = .waitUp then
      { events with up := true }
    else
      events) = reported
  obtain ⟨down, up, reverse⟩ := reported
  cases down with
  | false =>
      cases up with
      | false => rfl
      | true => rfl
  | true =>
      cases up with
      | false => rfl
      | true => rfl

/-- `gxfp_fdt_flow_feed_record` after the state is updated. -/
def fdtFlowFed (updated : CmdFdtState) (status : UInt16) : FdtFeed :=
  let flow := { flow with cmd := updated, lastStatus := status }
  let events := fdtStatusToEvents status
  if events.reverse ∧ flow.mode = .waitDown then
    let moded := cmdFdtSetMode env fd io flow.cmd
    let flow := { flow with cmd := moded.2.1 }
    if moded.1 < 0 then
      ⟨moded.1, FdtEvents.none, flow, moded.2.2⟩
    else
      let armed := cmdFdtSendDown env fd moded.2.2 flow.cmd
      if armed.1 < 0 then
        ⟨armed.1, FdtEvents.none, flow, armed.2⟩
      else
        fdtFlowReport armed.2 flow events
  else
    fdtFlowReport io flow events

theorem fdtFlowFed_resolved (updated : CmdFdtState) (status : UInt16) :
    fdtFlowFed env fd io flow.resolved updated.resolved status =
      (fdtFlowFed env fd io flow updated status).resolved := by
  have modeEq : flow.resolved.mode = flow.mode := rfl
  unfold fdtFlowFed
  dsimp only
  rw [modeEq, cmdFdtSetMode_resolved]
  generalize cmdFdtSetMode env fd io updated = moded
  dsimp only
  rw [cmdFdtSendDown_resolved]
  split
  · split
    · rfl
    · split
      · rfl
      · exact fdtFlowReport_resolved _ { flow with cmd := moded.2.1, lastStatus := status } _
  · exact fdtFlowReport_resolved _ { flow with cmd := updated, lastStatus := status } _

theorem fdtFlowFeedRecord_fed (hdr : TapHdr) (payload : List Byte) :
    fdtFlowFeedRecord env fd io flow hdr payload =
      match fdtUpdateStateFromRecord flow.cmd hdr payload with
      | .error errno =>
          ⟨if errno = EAGAIN ∨ errno = ENOENT then EAGAIN.rc else errno.rc, FdtEvents.none, flow,
            io⟩
      | .ok (updated, status) => fdtFlowFed env fd io flow updated status :=
  rfl

/-- A record does the same to a resolved flow. -/
theorem fdtFlowFeedRecord_resolved (hdr : TapHdr) (payload : List Byte) :
    (fdtFlowFeedRecord env fd io flow.resolved hdr payload).resolved =
      (fdtFlowFeedRecord env fd io flow hdr payload).resolved := by
  have updatedAlike := fdtUpdateStateFromRecord_resolved flow.cmd hdr payload
  have idem := FdtFlow.resolved_idem flow
  have cmdEq : flow.resolved.cmd = flow.cmd.resolved := rfl
  rw [fdtFlowFeedRecord_fed, fdtFlowFeedRecord_fed, cmdEq]
  generalize fdtUpdateStateFromRecord flow.cmd.resolved hdr payload = first at updatedAlike ⊢
  generalize fdtUpdateStateFromRecord flow.cmd hdr payload = second at updatedAlike ⊢
  cases first with
  | error errno =>
      cases second with
      | error other =>
          cases updatedAlike
          unfold FdtFeed.resolved
          rw [idem]
      | ok updated => cases updatedAlike
  | ok updated =>
      obtain ⟨updated, status⟩ := updated
      cases second with
      | error other => cases updatedAlike
      | ok other =>
          obtain ⟨other, otherStatus⟩ := other
          injection updatedAlike with pairEq
          injection pairEq with updatedEq statusEq
          rw [← fdtFlowFed_resolved, ← fdtFlowFed_resolved, idem, updatedEq, statusEq]

end Flow

end Gxfp.User
