import Gxfp.Kernel.EspiRx
import Gxfp.Kernel.EspiTx

/-!
# Command exchange of the driver

Embeds `kernel/cmd/gxfp_cmd.c` and `gxfp_espi_xfer` of
`kernel/transport/gxfp_espi_tx.c`.  A request is written to the mailbox and a
response read back until one is acceptable or the tries are used up.

Every attempt meets a sensor of its own, which may present anything.  The memory
of the caller is part of the state, so what a failed exchange leaves in it can be
told; a pointer that may be null is an option.
-/

namespace Gxfp.Kernel

open Lib.Bytes
open Gxfp.Errno

/-- `GXFP_MAILBOX_MIN_SIZE`, the size of the receive buffer. -/
def MAILBOX_MIN_SIZE : Nat := 0x1000

/-! ## One attempt -/

/-- What one attempt meets: whether its transmit buffer is allocated, and the
sensor it reads from. -/
structure AttemptEnv where
  kmalloc : Bool
  sensor : Sensor

/-- `gxfp_espi_xfer`: the receive buffer and the length of the packet in it. -/
def espiXfer (attempt : AttemptEnv) (state : Transmitter) (mpFrame : List Byte) (rxCap : Nat) :
    Except Errno (List Byte × Nat) × Transmitter :=
  let out := espiWrite attempt.kmalloc state mpFrame
  match out.1 with
  | some errno => (.error errno, out.2)
  | none => ((espiRead out.2.dev rxCap attempt.sensor).1, out.2)

/-- `struct gxfp_xfer_req` without the pointers that are written through. -/
structure XferReq where
  reqCmd : Byte
  reqPayload : List Byte
  expectCmd : Byte
  requireProtoCkOk : Bool
  respPayloadCap : Nat
  tries : Nat

/-- The frame that `gxfp_xfer` takes from a receive buffer, unless it tries
again. -/
def xferFrame (req : XferReq) (rx : List Byte) (rxLen : Nat) : Option FrameParsed :=
  match parseMpFrame (rx.take (min rxLen MAILBOX_MIN_SIZE)) with
  | none => none
  | some mp =>
      match parseGoodixBody mp.payload with
      | none => none
      | some p =>
          if req.requireProtoCkOk ∧ !p.protoChecksumOk then
            none
          else if p.cmd ≠ req.expectCmd then
            none
          else
            some p

/-! ## The exchange -/

/-- What the caller's pointers point to: `resp_payload`, `*out_resp_payload_len`
and `*out_frame`. -/
structure XferOut where
  respPayload : Option (List Byte)
  outRespPayloadLen : Option Nat
  outFrame : Option FrameParsed

/-- The results of an accepted frame. -/
def XferOut.store (out : XferOut) (p : FrameParsed) : XferOut where
  respPayload := out.respPayload.map fun resp => memcpyAt resp 0 p.payload
  outRespPayloadLen := out.outRespPayloadLen.map fun _ => p.payloadLen
  outFrame := out.outFrame.map fun _ => p

/-- The state of an exchange; `attempts` counts those made so far. -/
structure XferState where
  tx : Transmitter
  out : XferOut
  attempts : Nat

/-- What an exchange meets: whether its three buffers are allocated, and its
attempts. -/
structure XferEnv where
  tx : Bool
  body : Bool
  rx : Bool
  attempt : Nat → AttemptEnv

section Xfer

variable (env : XferEnv) (req : XferReq)

/-- The loop of `gxfp_xfer` with the given number of tries left. -/
def xferLoop (frame : List Byte) : Nat → XferState → Option Errno × XferState
  | 0, state => (some ETIMEDOUT, state)
  | left + 1, state =>
      let got := espiXfer (env.attempt state.attempts) state.tx frame MAILBOX_MIN_SIZE
      let state := { state with tx := got.2, attempts := state.attempts + 1 }
      match got.1 with
      | .error _ => xferLoop frame left state
      | .ok (rx, rxLen) =>
          match xferFrame req rx rxLen with
          | none => xferLoop frame left state
          | some p =>
              if state.out.respPayload.isSome ∧ p.payloadLen > req.respPayloadCap then
                (some EMSGSIZE, state)
              else
                (none, { state with out := state.out.store p })

/-- `gxfp_xfer` behind the checks of its pointers. -/
def xferChecked (state : XferState) : Option Errno × XferState :=
  if !env.tx then
    (some ENOMEM, state)
  else if !env.body then
    (some ENOMEM, state)
  else if !env.rx then
    (some ENOMEM, state)
  else
    match goodixBuildFrame req.reqCmd req.reqPayload TX_BUFFER_SIZE with
    | .error errno => (some errno, state)
    | .ok body =>
        match mpBuildFrame MP_TYPE_A body TX_BUFFER_SIZE with
        | .error errno => (some errno, state)
        | .ok frame => xferLoop env req frame (if req.tries ≠ 0 then req.tries else 1) state

/-- `gxfp_xfer`. -/
def xfer (state : XferState) : Option Errno × XferState :=
  if state.out.respPayload.isSome ∧ req.respPayloadCap = 0 then
    (some EINVAL, state)
  else if state.out.respPayload.isNone ∧ req.respPayloadCap ≠ 0 then
    (some EINVAL, state)
  else
    xferChecked env req state

end Xfer

/-- What `gxfp_cmd_xfer` returns and leaves in the memory of its caller. -/
structure CmdXfer where
  ret : Option Errno
  respPayload : Option (List Byte)
  outRespPayloadLen : Option Nat
  tx : Transmitter
  attempts : Nat

/-- `gxfp_cmd_xfer`. -/
def cmdXfer (env : XferEnv) (tx : Transmitter) (reqCmd : Byte) (reqPayload : List Byte)
    (expectCmd : Byte) (respPayload : Option (List Byte)) (respPayloadCap : Nat)
    (outRespPayloadLen : Option Nat) (tries : Nat) : CmdXfer :=
  if respPayload.isNone ∨ respPayloadCap = 0 then
    ⟨some EINVAL, respPayload, outRespPayloadLen, tx, 0⟩
  else
    let done := xfer env ⟨reqCmd, reqPayload, expectCmd, true, respPayloadCap, tries⟩
      ⟨tx, ⟨respPayload, outRespPayloadLen, some ⟨false, 0, 0, [], 0⟩⟩, 0⟩
    ⟨done.1, done.2.out.respPayload, done.2.out.outRespPayloadLen, done.2.tx, done.2.attempts⟩

/-! ## Acceptable responses -/

/-- A window with a version of two characters. -/
def versionWindow : Window where
  bytes :=
    [0xA0, 6, 0, 0xA6, 0xA8, 3, 0, 0x31, 0x32, 0x9C] ++ List.replicate (ESPI_CHUNK_MAX - 10) 0
  length_eq := by
    rw [List.length_append, List.length_replicate]
    rfl

end Gxfp.Kernel
