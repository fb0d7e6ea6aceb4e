import Gxfp.User.Host

/-!
# Commands of the library

Embeds `src/cmd/tls_cmd.c`, `device_recovery_cmd.c`, `register_cmd.c` and
`sensor_cfg_cmd.c`, and `gxfp_device_recovery` of `src/flow/device_recovery.c`.
-/

namespace Gxfp.User

open Lib.Bytes
open Gxfp.Errno

section Commands

variable (env : Env) (fd : Int)

/-! ## Acknowledged commands -/

/-- `gxfp_cmd_send_expect_ack` and `gxfp_tls_cmd_send_expect_ack`. -/
def cmdSendExpectAck (io : Io) (cmd : Byte) (payload : List Byte) (tries : Nat)
    (timeoutMs : Int) : Int × Io :=
  let out := goodixRequestSelected env fd io cmd CMD_ACK payload IOCTL_TAP_PAYLOAD_MAX tries
    timeoutMs selectAnyFrame
  match out.1 with
  | .error rc => (rc, out.2)
  | .ok rx =>
      match parseGoodixBody rx with
      | none => (EBADMSG.rc, out.2)
      | some frame =>
          if frame.cmd ≠ CMD_ACK then
            (EBADMSG.rc, out.2)
          else
            (0, out.2)

/-- `GXFP_RECOVERY_CMD_TIMEOUT_MS`. -/
def RECOVERY_CMD_TIMEOUT_MS : Int := 500

/-- `gxfp_cmd_notify_power_state`. -/
def cmdNotifyPowerState (io : Io) : Int × Io :=
  cmdSendExpectAck env fd io CMD_NOTIFY_POWER_STATE [0x01] 1 RECOVERY_CMD_TIMEOUT_MS

/-- `gxfp_cmd_send_nop`. -/
def cmdSendNop (io : Io) : Int × Io :=
  cmdSendExpectAck env fd io CMD_SEND_NOP [0x00, 0x00, 0x00, 0x00] 1 RECOVERY_CMD_TIMEOUT_MS

/-- `gxfp_cmd_set_sleep_mode`. -/
def cmdSetSleepMode (io : Io) : Int × Io :=
  cmdSendExpectAck env fd io CMD_SET_SLEEP_MODE [0x00, 0x00] 1 RECOVERY_CMD_TIMEOUT_MS

/-- `gxfp_cmd_d01`. -/
def cmdD01 (io : Io) : Int × Io :=
  cmdSendExpectAck env fd io CMD_D01 [0x00, 0x00] 1 RECOVERY_CMD_TIMEOUT_MS

/-- `gxfp_cmd_reset_device`. -/
def cmdResetDevice (io : Io) (resetFlag : Byte) : Int × Io :=
  cmdSendExpectAck env fd io CMD_RESET_DEVICE [resetFlag, 0x14] 6 RECOVERY_CMD_TIMEOUT_MS

/-- `gxfp_cmd_tls_unlock`. -/
def cmdTlsUnlock (io : Io) : Int × Io :=
  cmdSendExpectAck env fd io CMD_TLS_UNLOCK [0x00, 0x00] 1 500

/-- `gxfp_device_recovery`. -/
def deviceRecovery (io : Io) (unstickTls resetMcu resetSensor : Bool) : Int × Io :=
  let resetFlag : Byte := (if resetMcu then 0x02 else 0) ||| (if resetSensor then 0x01 else 0)
  let io := devFlushRxq fd io
  let io := (cmdNotifyPowerState env fd io).2
  let io :=
    if unstickTls then
      let io := (cmdD01 env fd io).2
      let io := (cmdSendNop env fd io).2
      (cmdTlsUnlock env fd io).2
    else
      io
  let io := (cmdSetSleepMode env fd io).2
  let out := if resetFlag ≠ 0 then cmdResetDevice env fd io resetFlag else (0, io)
  (out.1, devFlushRxq fd out.2)

/-! ## TLS commands -/

/-- `gxfp_cmd_tls_server_init`. -/
def cmdTlsServerInit (io : Io) : Int × Io :=
  hostSendAsync env fd io CMD_TLS_SERVER_INIT [0x00, 0x00]

/-- `gxfp_cmd_get_image`. -/
def cmdGetImage (io : Io) : Int × Io :=
  hostSendAsync env fd io CMD_GET_IMAGE [0x01, 0x00]

/-! ## Registers, OTP and configuration -/

/-- `gxfp_cmd_read_reg`. -/
def cmdReadReg (io : Io) (reg outLen : Nat) : Except Int (List Byte) × Io :=
  if outLen = 0 then
    (.error EINVAL.rc, io)
  else
    let out := goodixRequestSelected env fd io CMD_REG_READ CMD_REG_READ
      ([0x00] ++ le16Bytes reg ++ le16Bytes outLen) IOCTL_TAP_PAYLOAD_MAX 3 500 selectAnyFrame
    match out.1 with
    | .error rc => (.error rc, out.2)
    | .ok rx =>
        match parseGoodixBody rx with
        | none => (.error EBADMSG.rc, out.2)
        | some frame =>
            if frame.payload.length < outLen then
              (.error EBADMSG.rc, out.2)
            else
              (.ok (frame.payload.take outLen), out.2)

/-- `gxfp_cmd_read_chip_id`. -/
def cmdReadChipId (io : Io) : Except Int Nat × Io :=
  let out := cmdReadReg env fd io 0x0000 4
  match out.1 with
  | .error rc => (.error rc, out.2)
  | .ok buf => (.ok (le16 (buf.getD 1 0) (buf.getD 2 0)), out.2)

/-- `gxfp_cmd_read_otp`. -/
def cmdReadOtp (io : Io) (otpCap : Nat) : Except Int (List Byte) × Io :=
  if otpCap = 0 then
    (.error EINVAL.rc, io)
  else
    let out := goodixRequestSelected env fd io CMD_READ_OTP CMD_READ_OTP [0x00, 0x00]
      IOCTL_TAP_PAYLOAD_MAX 8 500 selectAnyFrame
    match out.1 with
    | .error rc => (.error rc, out.2)
    | .ok rx =>
        match parseGoodixBody rx with
        | none => (.error EBADMSG.rc, out.2)
        | some frame =>
            if frame.payload.length > otpCap then
              (.error EMSGSIZE.rc, out.2)
            else
              (.ok frame.payload, out.2)

/-- `gxfp_cmd_upload_config_mcu`; no caller uses the status byte it reports. -/
def cmdUploadConfigMcu (io : Io) (cfg : List Byte) : Int × Io :=
  if cfg.length = 0 then
    (EINVAL.rc, io)
  else
    let out := goodixRequestSelected env fd io CMD_UPLOAD_CONFIG_MCU CMD_ACK cfg
      IOCTL_TAP_PAYLOAD_MAX 2 2000 selectAnyFrame
    match out.1 with
    | .error rc => (rc, out.2)
    | .ok rx =>
        match parseGoodixBody rx with
        | none => (EBADMSG.rc, out.2)
        | some _ => (0, out.2)

end Commands

end Gxfp.User
