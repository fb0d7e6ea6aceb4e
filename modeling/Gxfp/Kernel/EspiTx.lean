import Gxfp.Kernel.Device
import Gxfp.Uapi

/-!
# Transmit path of the eSPI transport

Embeds `gxfp_espi_write` of `kernel/transport/gxfp_espi_tx.c` and
`gxfp_uapi_write` of `kernel/driver/gxfp_uapi_ctrl.c`.  Both run under the
device lock, so each is one step on the device and the mailbox.  What is stored
to the mailbox is kept as a list of writes, each the bytes from its start.
-/

namespace Gxfp.Kernel

open Lib.Bytes
open Gxfp.Errno

/-- The device together with what was written to its mailbox, oldest first, and
the values driven on the write-done line. -/
structure Transmitter where
  dev : GxfpDev
  writes : List (List Byte)
  line : List Bool

/-- The padding of a frame in the transmit buffer. -/
def espiTxPad (mpFrameLen : Nat) : Nat :=
  (ESPI_ALIGN - mpFrameLen % ESPI_ALIGN) % ESPI_ALIGN

/-- The transmit buffer of `gxfp_espi_write`: the wrapper header, two bytes that
stay zero, the frame and its padding. -/
def espiTxBuffer (seq16 : Nat) (mpFrame : List Byte) : List Byte :=
  let low := UInt8.ofNat mpFrame.length
  let high := UInt8.ofNat (mpFrame.length / 256)
  [ESPI_WRAPPER_MAGIC, low, high, ESPI_WRAPPER_MAGIC + low + high] ++ le16Bytes seq16 ++ [0, 0] ++
    mpFrame ++ List.replicate (espiTxPad mpFrame.length) 0

/-- `gxfp_espi_write`; `kmalloc` tells whether the transmit buffer is
allocated.  The sequence counter moves before the mailbox is written. -/
def espiWrite (kmalloc : Bool) (state : Transmitter) (mpFrame : List Byte) :
    Option Errno × Transmitter :=
  if mpFrame.length = 0 then
    (some EINVAL, state)
  else if !state.dev.hw.mailboxMmio then
    (some ENODEV, state)
  else if 8 + mpFrame.length + espiTxPad mpFrame.length > TX_BUFFER_SIZE then
    (some EOVERFLOW, state)
  else if !kmalloc then
    (some ENOMEM, state)
  else
    let seq := state.dev.mailboxSeq16 + 1
    let state := { state with dev := { state.dev with mailboxSeq16 := seq } }
    -- `tx_len` is a multiple of the alignment already, so `ALIGN` does not change it.
    match mmioWriteQwordAligned state.dev.hw.mailboxMmio
        (espiTxBuffer (seq.toNat % 65536) mpFrame) with
    | .error _ => (some EIO, state)
    | .ok stored =>
        (none,
          { state with
            writes := state.writes ++ [stored]
            line := state.line ++ gpioPulseWriteDone state.dev })

/-- The answers of the kernel services one `gxfp_uapi_write` relies on: whether
user memory could be copied and whether the two buffers were allocated. -/
structure WriteEnv where
  copyHdr : Bool
  mpLocal : Bool
  copyPayload : Bool
  tx : Bool
  deriving DecidableEq, Repr

/-- The MP frame `gxfp_uapi_write` builds from a packet header and its payload. -/
def uapiMpLocal (txh : TxPktHdr) (payload : List Byte) : List Byte :=
  let low := UInt8.ofNat txh.payloadLen
  let high := UInt8.ofNat (txh.payloadLen / 256)
  [txh.mpFlags, low, high, txh.mpFlags + low + high] ++ payload

/-- `gxfp_uapi_write` of a user buffer of `count = ubuf.length` bytes. -/
def uapiWrite (env : WriteEnv) (state : Transmitter) (ubuf : List Byte) : Int × Transmitter :=
  if ubuf.length < TX_PKT_HDR_SIZE then
    (EINVAL.rc, state)
  else if !env.copyHdr then
    (EFAULT.rc, state)
  else
    let txh := TxPktHdr.ofBytes ubuf
    if txh.payloadLen > IOCTL_TX_PAYLOAD_MAX then
      (EINVAL.rc, state)
    else if ubuf.length ≠ TX_PKT_HDR_SIZE + txh.payloadLen then
      (EINVAL.rc, state)
    else if !env.mpLocal then
      (ENOMEM.rc, state)
    else if txh.payloadLen ≠ 0 ∧ !env.copyPayload then
      (EFAULT.rc, state)
    else
      let out := espiWrite env.tx state (uapiMpLocal txh (ubuf.drop TX_PKT_HDR_SIZE))
      match out.1 with
      | some errno => (errno.rc, out.2)
      | none => (ubuf.length, out.2)

/-! ## Runs -/

/-- The calls that reach the mailbox: `write(2)`, and the frames the driver
sends by itself. -/
inductive TxCall where
  | write (env : WriteEnv) (ubuf : List Byte)
  | espi (kmalloc : Bool) (mpFrame : List Byte)

/-- One call. -/
def txStep (state : Transmitter) : TxCall → Transmitter × Unit
  | .write env ubuf => ((uapiWrite env state ubuf).2, ())
  | .espi kmalloc mpFrame => ((espiWrite kmalloc state mpFrame).2, ())

/-- The transmitter right after probe. -/
def txProbe (mailboxSize : Nat) (rxBuf : List Byte) : Transmitter :=
  ⟨platformProbe mailboxSize rxBuf, [], []⟩

end Gxfp.Kernel
