import Gxfp.User.Cmd

/-!
# What reaches the sensor

A write in the trace is read back with the library's own frame parser, so that
a result about commands is a result about the bytes handed to `write(2)`.  Each
sending function has one specification, and everything above it uses that:
`SendResult` for a single command, `Extends` for a sequence of them.
-/

namespace Gxfp.User

open Lib.Bytes
open Gxfp.Errno

/-! ## Commands in the trace -/

/-- The command and payload of a write, if it is a command packet. -/
def Out.command : Out → Option (Byte × List Byte)
  | .write buf _ =>
      if buf.getD 0 0 = goodixMpFlagsFromType GOODIX_MP_TYPE_CMD then
        (parseGoodixBody (buf.drop TX_PKT_HDR_SIZE)).map fun frame => (frame.cmd, frame.payload)
      else
        none
  | _ => none

/-- The write is a command packet with this command byte. -/
def Out.isCommand (cmd : Byte) (out : Out) : Prop :=
  ∃ payload, out.command = some (cmd, payload)

/-- The write is such a command packet and was written in full. -/
def Out.sentCommand (cmd : Byte) (out : Out) : Prop :=
  out.isCommand cmd ∧ ∃ buf, out = .write buf buf.length

theorem Out.isCommand_iff {cmd : Byte} {out : Out} :
    out.isCommand cmd ↔ out.command.map Prod.fst = some cmd := by
  rw [Option.map_eq_some_iff]
  constructor
  · rintro ⟨payload, commandEq⟩
    exact ⟨(cmd, payload), commandEq, rfl⟩
  · rintro ⟨⟨first, payload⟩, commandEq, rfl⟩
    exact ⟨payload, commandEq⟩

instance (cmd : Byte) (out : Out) : Decidable (out.isCommand cmd) :=
  decidable_of_iff _ Out.isCommand_iff.symm

/-- The write was complete. -/
def Out.isComplete : Out → Bool
  | .write buf rc => rc = buf.length
  | _ => false

theorem Out.isComplete_iff {out : Out} :
    out.isComplete = true ↔ ∃ buf, out = .write buf buf.length := by
  constructor
  · intro complete
    cases out with
    | write buf rc => exact ⟨buf, by rw [of_decide_eq_true complete]⟩
    | _ => cases complete
  · rintro ⟨buf, rfl⟩
    exact decide_eq_true rfl

instance (cmd : Byte) (out : Out) : Decidable (out.sentCommand cmd) :=
  decidable_of_iff (out.isCommand cmd ∧ out.isComplete = true)
    (and_congr_right' Out.isComplete_iff)

theorem Out.isCommand_unique {first second : Byte} {out : Out} (one : out.isCommand first)
    (other : out.isCommand second) : first = second := by
  obtain ⟨firstPayload, firstEq⟩ := one
  obtain ⟨secondPayload, secondEq⟩ := other
  rw [firstEq] at secondEq
  cases secondEq
  rfl

/-- The packet of a built frame is a command. -/
theorem command_devTxBuffer {cmd : Byte} {payload frame : List Byte} {outCap : Nat}
    (built : goodixBuildFrame cmd payload outCap = .ok frame) (rc : Int) :
    (Out.write (devTxBuffer GOODIX_MP_TYPE_CMD frame) rc).command = some (cmd, payload) := by
  obtain ⟨parsed, parsedEq, -, cmdEq, payloadEq⟩ := parseGoodixBody_goodixBuildFrame built []
  rw [List.append_nil] at parsedEq
  have payloadDrop : (devTxBuffer GOODIX_MP_TYPE_CMD frame).drop TX_PKT_HDR_SIZE = frame := rfl
  have flagsEq : (devTxBuffer GOODIX_MP_TYPE_CMD frame).getD 0 0 =
      goodixMpFlagsFromType GOODIX_MP_TYPE_CMD := rfl
  simp only [Out.command]
  rw [if_pos flagsEq, payloadDrop, parsedEq, Option.map_some, cmdEq, payloadEq]

/-! ## One packet -/

/-- What becomes of one packet: it is refused before the write, the write fails
or is cut short, or it is sent. -/
inductive PacketResult (io : Io) (buf : List Byte) : Int × Io → Prop
  | refused (errno : Errno) (definite : errno ≠ EAGAIN) : PacketResult io buf (errno.rc, io.tick)
  | failed (errno : ℕ+) :
      PacketResult io buf (-(errno : Int), io.tick.emit (.write buf (-(errno : Int))))
  | short (count : Nat) (different : count ≠ buf.length) :
      PacketResult io buf ( EIO.rc, io.tick.emit (.write buf count))
  | sent : PacketResult io buf (0, io.tick.emit (.write buf buf.length))

theorem hostSendPacket_result (env : Env) (fd : Int) (io : Io) (mpType : Byte)
    (payload : List Byte) :
    PacketResult io (devTxBuffer mpType payload) (hostSendPacket env fd io mpType payload) := by
  unfold hostSendPacket devSendPacket
  split
  · exact .refused EINVAL (by decide)
  · split
    · exact .refused EMSGSIZE (by decide)
    · split
      · exact .refused ENOMEM (by decide)
      · dsimp only [ioWrite]
        cases env.write io.tick.count (devTxBuffer mpType payload).length with
        | error errno =>
            have negative : -(errno : Int) < 0 := by
              have positive := errno.pos
              omega
            dsimp only
            rw [if_pos negative]
            exact .failed errno
        | ok count =>
            dsimp only
            rw [if_neg (by omega)]
            split
            · rename_i different
              exact .short count (fun same => different (by rw [same]))
            · rename_i same
              have countEq : count = (devTxBuffer mpType payload).length := by omega
              rw [countEq]
              exact .sent

/-! ## One command -/

/-- What becomes of one command. -/
inductive SendResult (io : Io) (cmd : Byte) (payload : List Byte) : Int × Io → Prop
  | refused (errno : Errno) (definite : errno ≠ EAGAIN) :
      SendResult io cmd payload (errno.rc, io.tick)
  | failed {out : Out} {rc : Int} (isCommand : out.command = some (cmd, payload))
      (negative : rc < 0) (incomplete : ∀ buf, out ≠ .write buf buf.length)
      (again : rc = EAGAIN.rc → ∃ buf, out = .write buf EAGAIN.rc) :
      SendResult io cmd payload (rc, io.tick.emit out)
  | sent {buf : List Byte}
      (isCommand : (Out.write buf buf.length).command = some (cmd, payload)) :
      SendResult io cmd payload (0, io.tick.emit (.write buf buf.length))

theorem hostSendAsync_result (env : Env) (fd : Int) (io : Io) (cmd : Byte) (payload : List Byte) :
    SendResult io cmd payload (hostSendAsync env fd io cmd payload) := by
  unfold hostSendAsync goodixSendAsync
  cases built : goodixBuildFrame cmd payload (1 + 2 + GOODIX_PAYLOAD_MAX + 1) with
  | error errno =>
      have definite : errno ≠ EAGAIN := by
        rintro rfl
        unfold goodixBuildFrame at built
        split at built
        · cases built
        · split at built
          · cases built
          · cases built
      exact .refused errno definite
  | ok frame =>
      have isCommand (rc : Int) := command_devTxBuffer built rc
      have result := hostSendPacket_result env fd io GOODIX_MP_TYPE_CMD frame
      change SendResult io cmd payload (hostSendPacket env fd io GOODIX_MP_TYPE_CMD frame)
      generalize hostSendPacket env fd io GOODIX_MP_TYPE_CMD frame = out at result ⊢
      cases result with
      | refused errno definite => exact .refused errno definite
      | failed errno =>
          have positive := errno.pos
          refine .failed (isCommand _) (by omega) ?_ ?_
          · intro buf same
            have rcEq := (Out.write.inj same).2
            omega
          · intro again
            rw [again]
            exact ⟨_, rfl⟩
      | short count different =>
          refine .failed (isCommand _) (rc_neg EIO) ?_ ?_
          · intro buf same
            obtain ⟨bufEq, rcEq⟩ := Out.write.inj same
            rw [bufEq] at different
            exact different (Int.ofNat_inj.mp rcEq)
          · intro again
            cases again
      | sent => exact .sent (isCommand _)

theorem SendResult.sent_of_not_neg {io : Io} {cmd : Byte} {payload : List Byte} {out : Int × Io}
    (result : SendResult io cmd payload out) (notNegative : ¬ out.1 < 0) :
    ∃ entry, out.2.trace = entry :: io.trace ∧ entry.sentCommand cmd := by
  cases result with
  | refused errno definite => exact absurd (rc_neg errno) notNegative
  | failed isCommand negative incomplete again => exact absurd negative notNegative
  | @sent buf isCommand => exact ⟨.write buf buf.length, rfl, ⟨payload, isCommand⟩, buf, rfl⟩

/-! ## Sequences -/

/-- The world after some requests: the trace has grown by allowed entries. -/
def Io.Extends (allowed : Out → Prop) (before after : Io) : Prop :=
  ∃ outs, after.trace = outs ++ before.trace ∧ ∀ out ∈ outs, allowed out

namespace Io.Extends

variable {allowed wider : Out → Prop} {before middle after : Io}

theorem refl (io : Io) : io.Extends allowed io :=
  ⟨[], rfl, by simp⟩

theorem tick (extended : before.Extends allowed after) : before.Extends allowed after.tick :=
  extended

theorem emit {out : Out} (extended : before.Extends allowed after) (isAllowed : allowed out) :
    before.Extends allowed (after.emit out) := by
  obtain ⟨outs, traceEq, all⟩ := extended
  refine ⟨out :: outs, by simp [traceEq], ?_⟩
  intro other member
  rcases List.mem_cons.mp member with rfl | older
  · exact isAllowed
  · exact all other older

theorem trans (first : before.Extends allowed middle) (second : middle.Extends allowed after) :
    before.Extends allowed after := by
  obtain ⟨outs, traceEq, all⟩ := first
  obtain ⟨more, moreEq, moreAll⟩ := second
  refine ⟨more ++ outs, by rw [moreEq, traceEq, List.append_assoc], ?_⟩
  intro out member
  rcases List.mem_append.mp member with newer | older
  · exact moreAll out newer
  · exact all out older

theorem mono (extended : before.Extends allowed after) (widens : ∀ out, allowed out → wider out) :
    before.Extends wider after := by
  obtain ⟨outs, traceEq, all⟩ := extended
  exact ⟨outs, traceEq, fun out member => widens out (all out member)⟩

end Io.Extends

theorem SendResult.extends {io : Io} {cmd : Byte} {payload : List Byte} {out : Int × Io}
    (result : SendResult io cmd payload out) : io.Extends (Out.isCommand cmd) out.2 := by
  cases result with
  | refused errno definite => exact (Io.Extends.refl io).tick
  | failed isCommand negative incomplete again =>
      exact (Io.Extends.refl io).tick.emit ⟨payload, isCommand⟩
  | sent isCommand => exact (Io.Extends.refl io).tick.emit ⟨payload, isCommand⟩

section Requests

variable (env : Env) (fd : Int)

/-- What a request leaves in the trace: its command and the waiting. -/
def Out.ofRequest (cmd : Byte) (out : Out) : Prop :=
  out.isCommand cmd ∨ out = .waited

theorem goodixRequestLoop_extends (reqCmd expectCmd : Byte) (payload : List Byte) (rxCap : Nat)
    (timeoutMs : Int) (selector : FrameParsed → Int) (attempts : Nat) (io : Io) :
    io.Extends (Out.ofRequest reqCmd)
      (goodixRequestLoop env fd reqCmd expectCmd payload rxCap timeoutMs selector attempts
        io).2 := by
  induction attempts generalizing io with
  | zero => exact .refl io
  | succ attempts ih =>
      have sent : io.Extends (Out.ofRequest reqCmd) (hostSendAsync env fd io reqCmd payload).2 :=
        (hostSendAsync_result env fd io reqCmd payload).extends.mono (fun _ => Or.inl)
      unfold goodixRequestLoop
      dsimp only
      split
      · exact sent
      · have waited : io.Extends (Out.ofRequest reqCmd)
            (goodixWaitSelected env fd (hostSendAsync env fd io reqCmd payload).2 expectCmd rxCap
              timeoutMs selector).2 := by
          unfold goodixWaitSelected
          split
          · exact sent
          · exact sent.emit (Or.inr rfl)
        split
        · exact waited
        · split
          · exact waited.trans (ih _)
          · exact waited

theorem goodixRequestSelected_extends (io : Io) (reqCmd expectCmd : Byte) (payload : List Byte)
    (rxCap tries : Nat) (timeoutMs : Int) (selector : FrameParsed → Int) :
    io.Extends (Out.ofRequest reqCmd)
      (goodixRequestSelected env fd io reqCmd expectCmd payload rxCap tries timeoutMs
        selector).2 := by
  unfold goodixRequestSelected
  split
  · exact .refl io
  · exact goodixRequestLoop_extends env fd reqCmd expectCmd payload rxCap timeoutMs selector _ io

/-- Entries that neither start a TLS session nor ask for an image and mark no
recovery. -/
structure Out.Quiet (out : Out) : Prop where
  notGetImage : ¬ out.isCommand CMD_GET_IMAGE
  notTlsServerInit : ¬ out.sentCommand CMD_TLS_SERVER_INIT
  notRecovery : ∀ service, out ≠ .recovery service

theorem Out.isCommand.quiet {cmd : Byte} {out : Out} (isCommand : out.isCommand cmd)
    (notGetImage : cmd ≠ CMD_GET_IMAGE) (notTlsServerInit : cmd ≠ CMD_TLS_SERVER_INIT) :
    out.Quiet := by
  refine ⟨?_, ?_, ?_⟩
  · intro getImage
    exact notGetImage (isCommand_unique isCommand getImage)
  · rintro ⟨serverInit, -⟩
    exact notTlsServerInit (isCommand_unique isCommand serverInit)
  · rintro service rfl
    obtain ⟨payload, impossible⟩ := isCommand
    cases impossible

/-- An entry that is no command and no recovery is quiet. -/
theorem Out.quiet_of_command_none {out : Out} (none : out.command = none)
    (notRecovery : ∀ service, out ≠ .recovery service) : out.Quiet := by
  refine ⟨?_, ?_, notRecovery⟩
  · rintro ⟨payload, impossible⟩
    rw [none] at impossible
    cases impossible
  · rintro ⟨⟨payload, impossible⟩, -⟩
    rw [none] at impossible
    cases impossible

/-- A failed command other than `GET_IMAGE` is quiet even if it is
`TLS_SERVER_INIT`. -/
theorem quiet_of_incomplete {cmd : Byte} {out : Out} (isCommand : out.isCommand cmd)
    (notGetImage : cmd ≠ CMD_GET_IMAGE) (incomplete : ∀ buf, out ≠ .write buf buf.length) :
    out.Quiet := by
  refine ⟨?_, ?_, ?_⟩
  · intro getImage
    exact notGetImage (Out.isCommand_unique isCommand getImage)
  · rintro ⟨-, buf, outEq⟩
    exact incomplete buf outEq
  · rintro service rfl
    obtain ⟨payload, impossible⟩ := isCommand
    cases impossible

/-! ## Routine traffic -/

/-- A property of entries that the routine traffic with the sensor has: all of it
but the commands that arm finger-up detection, start a TLS session or ask for an
image. -/
class Out.AdmitsRoutine (allowed : Out → Prop) : Prop where
  command : ∀ {cmd : Byte} {out : Out}, out.isCommand cmd → cmd ≠ CMD_GET_IMAGE →
    cmd ≠ CMD_TLS_SERVER_INIT → cmd ≠ CMD_FDT_UP → allowed out
  incomplete : ∀ {out : Out}, out.isCommand CMD_TLS_SERVER_INIT →
    (∀ buf, out ≠ .write buf buf.length) → allowed out
  record : ∀ {buf : List Byte} {rc : Int}, (Out.write buf rc).command = none →
    allowed (.write buf rc)
  flushed : allowed .flushed
  waited : allowed .waited
  read : allowed .read

instance : Out.AdmitsRoutine Out.Quiet where
  command := fun isCommand notGetImage notTlsServerInit _ =>
    isCommand.quiet notGetImage notTlsServerInit
  incomplete := fun isCommand incomplete => quiet_of_incomplete isCommand (by decide) incomplete
  record := fun none => Out.quiet_of_command_none none (by simp)
  flushed := Out.quiet_of_command_none rfl (by simp)
  waited := Out.quiet_of_command_none rfl (by simp)
  read := Out.quiet_of_command_none rfl (by simp)

variable {allowed : Out → Prop} [admits : Out.AdmitsRoutine allowed]

theorem SendResult.routine {io : Io} {cmd : Byte} {payload : List Byte} {out : Int × Io}
    (result : SendResult io cmd payload out) (notGetImage : cmd ≠ CMD_GET_IMAGE)
    (notTlsServerInit : cmd ≠ CMD_TLS_SERVER_INIT) (notUp : cmd ≠ CMD_FDT_UP) :
    io.Extends allowed out.2 :=
  result.extends.mono fun _ isCommand =>
    admits.command isCommand notGetImage notTlsServerInit notUp

/-- A request for a routine command. -/
theorem goodixRequestSelected_routine (io : Io) {reqCmd : Byte} (expectCmd : Byte)
    (payload : List Byte) (rxCap tries : Nat) (timeoutMs : Int) (selector : FrameParsed → Int)
    (notGetImage : reqCmd ≠ CMD_GET_IMAGE) (notTlsServerInit : reqCmd ≠ CMD_TLS_SERVER_INIT)
    (notUp : reqCmd ≠ CMD_FDT_UP) :
    io.Extends allowed
      (goodixRequestSelected env fd io reqCmd expectCmd payload rxCap tries timeoutMs
        selector).2 := by
  apply (goodixRequestSelected_extends env fd io reqCmd expectCmd payload rxCap tries timeoutMs
    selector).mono
  rintro out (isCommand | rfl)
  · exact admits.command isCommand notGetImage notTlsServerInit notUp
  · exact admits.waited

theorem devFlushRxq_routine (io : Io) : io.Extends allowed (devFlushRxq fd io) := by
  unfold devFlushRxq
  split
  · exact .refl io
  · exact (Io.Extends.refl io).emit admits.flushed

theorem cmdSendExpectAck_routine (io : Io) {cmd : Byte} (payload : List Byte) (tries : Nat)
    (timeoutMs : Int) (notGetImage : cmd ≠ CMD_GET_IMAGE)
    (notTlsServerInit : cmd ≠ CMD_TLS_SERVER_INIT) (notUp : cmd ≠ CMD_FDT_UP) :
    io.Extends allowed (cmdSendExpectAck env fd io cmd payload tries timeoutMs).2 := by
  have requested : io.Extends allowed _ := goodixRequestSelected_routine env fd io CMD_ACK payload
    IOCTL_TAP_PAYLOAD_MAX tries timeoutMs selectAnyFrame notGetImage notTlsServerInit notUp
  unfold cmdSendExpectAck
  dsimp only
  split
  · exact requested
  · split
    · exact requested
    · split
      · exact requested
      · exact requested

/-- A recovery neither starts nor uses a TLS session, nor does it arm the
sensor. -/
theorem deviceRecovery_routine (io : Io) (unstickTls resetMcu resetSensor : Bool) :
    io.Extends allowed (deviceRecovery env fd io unstickTls resetMcu resetSensor).2 := by
  have flushed : io.Extends allowed (devFlushRxq fd io) := devFlushRxq_routine fd io
  have notified := flushed.trans (cmdSendExpectAck_routine env fd (devFlushRxq fd io) [0x01] 1
    RECOVERY_CMD_TIMEOUT_MS (show CMD_NOTIFY_POWER_STATE ≠ _ by decide) (by decide) (by decide))
  unfold deviceRecovery
  dsimp only
  have unstuck : io.Extends allowed
      (if unstickTls then
        (cmdTlsUnlock env fd (cmdSendNop env fd
          (cmdD01 env fd (cmdNotifyPowerState env fd (devFlushRxq fd io)).2).2).2).2
      else (cmdNotifyPowerState env fd (devFlushRxq fd io)).2) := by
    split
    · have d01 := notified.trans (cmdSendExpectAck_routine env fd _ [0x00, 0x00] 1
        RECOVERY_CMD_TIMEOUT_MS (show CMD_D01 ≠ _ by decide) (by decide) (by decide))
      have nop := d01.trans (cmdSendExpectAck_routine env fd _ [0x00, 0x00, 0x00, 0x00] 1
        RECOVERY_CMD_TIMEOUT_MS (show CMD_SEND_NOP ≠ _ by decide) (by decide) (by decide))
      exact nop.trans (cmdSendExpectAck_routine env fd _ [0x00, 0x00] 1 500
        (show CMD_TLS_UNLOCK ≠ _ by decide) (by decide) (by decide))
    · exact notified
  have asleep := unstuck.trans (cmdSendExpectAck_routine env fd _ [0x00, 0x00] 1
    RECOVERY_CMD_TIMEOUT_MS (show CMD_SET_SLEEP_MODE ≠ _ by decide) (by decide) (by decide))
  refine Io.Extends.trans ?_ (devFlushRxq_routine fd _)
  generalize (((if resetMcu then 0x02 else 0) ||| (if resetSensor then 0x01 else 0)) : Byte) =
    resetFlag
  split
  · exact asleep.trans (cmdSendExpectAck_routine env fd _ _ 6 RECOVERY_CMD_TIMEOUT_MS
      (show CMD_RESET_DEVICE ≠ _ by decide) (by decide) (by decide))
  · exact asleep

end Requests

end Gxfp.User
