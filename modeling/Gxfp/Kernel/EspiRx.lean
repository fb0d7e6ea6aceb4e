import Gxfp.Kernel.Device
import Gxfp.Kernel.Proto

/-!
# Receive paths of the eSPI transport

Embeds `kernel/transport/gxfp_espi_common.c`, `gxfp_espi_rx_irq.c`,
`gxfp_espi_rx_sync.c` and the interrupt thread of `kernel/driver/gxfp_irq.c`.

The interrupt path reads one window per call, so its step takes that window as
an argument and returns the values it drove on the read-done line.  The
synchronous path reads several windows in one call and what it finds in the
next one depends on the handshake, so it runs against a sensor that advances
on each rising edge of that line.
-/

namespace Gxfp.Kernel

open Lib.Bytes
open Gxfp.Errno

/-- The contents of the receive window. -/
structure Window where
  bytes : List Byte
  length_eq : bytes.length = ESPI_CHUNK_MAX

/-! ## Common parts -/

/-- `gxfp_espi_irq_assem_reset`. -/
def espiIrqAssemReset (dev : GxfpDev) : GxfpDev :=
  { dev with irq := { dev.irq with assemActive := false, assemTotal := 0, assemCopied := 0 } }

/-- `gxfp_espi_rx_read_window`. -/
def espiRxReadWindow (dev : GxfpDev) (window : Window) : Except Errno (List Byte) :=
  match mmioReadQwordAligned dev.hw.mailboxMmio window.bytes with
  | .error _ => .error EIO
  | .ok bytes => .ok bytes

/-- The results of `gxfp_espi_rx_chunk_calc`. -/
structure ChunkCalc where
  chunk : Nat
  pad : Nat
  doRead : Nat
  deriving DecidableEq, Repr

/-- `gxfp_espi_rx_chunk_calc`. -/
def espiRxChunkCalc (remain : Nat) : ChunkCalc :=
  let chunk := min remain ESPI_CHUNK_MAX
  let pad := (ESPI_ALIGN - chunk % ESPI_ALIGN) % ESPI_ALIGN
  ⟨chunk, pad, chunk + pad⟩

/-- `gxfp_espi_rx_start_packet`: the new contents of `rx_buf`, and the total
and the first chunk length of the packet. -/
def espiRxStartPacket (dev : GxfpDev) (rxBuf : List Byte) (rxCap : Nat) (validateHead : Bool)
    (window : Window) : List Byte × Except Errno (Nat × Nat) :=
  match espiRxReadWindow dev window with
  | .error errno => (rxBuf, .error errno)
  | .ok bytes =>
      let rxBuf := memcpyAt rxBuf 0 bytes
      let mpLen :=
        if validateHead then
          checkMpHead (rxBuf.take 4)
        else
          some (le16 (rxBuf.getD 1 0) (rxBuf.getD 2 0))
      match mpLen with
      | none => (rxBuf, .error EBADMSG)
      | some mpLen =>
          let total := 4 + mpLen
          if total = 0 ∨ total > rxCap then
            (rxBuf, .error EMSGSIZE)
          else
            (rxBuf, .ok (total, min total ESPI_CHUNK_MAX))

/-! ## Interrupt path -/

/-- What one `gxfp_espi_irq_read_step` returns and does. -/
structure IrqReadStep where
  ret : Option Errno
  complete : Bool
  rxLen : Nat
  /-- Values driven on the read-done line, in order. -/
  line : List Bool
  dev : GxfpDev

/-- `gxfp_espi_irq_read_step`, on the device's own buffer. -/
def espiIrqReadStep (dev : GxfpDev) (window : Window) : IrqReadStep :=
  if dev.irq.rxCap < ESPI_CHUNK_MAX then
    ⟨some EINVAL, false, 0, [], dev⟩
  else if !dev.hw.mailboxMmio then
    ⟨some ENODEV, false, 0, [], dev⟩
  else if dev.hw.mailboxSize < ESPI_RX_OFF + ESPI_CHUNK_MAX then
    ⟨some ENODEV, false, 0, [], dev⟩
  else if !dev.irq.assemActive then
    let start := espiRxStartPacket dev dev.irq.rxBuf dev.irq.rxCap true window
    let dev := { dev with irq := { dev.irq with rxBuf := start.1 } }
    match start.2 with
    | .error errno => ⟨some errno, false, 0, [], espiIrqAssemReset dev⟩
    | .ok (total, firstChunk) =>
        let dev :=
          { dev with
            irq :=
              { dev.irq with
                assemTotal := total, assemCopied := firstChunk, assemActive := true } }
        if firstChunk ≥ total then
          ⟨none, true, total, gpioSetReadDone dev true, espiIrqAssemReset dev⟩
        else
          ⟨none, false, firstChunk, gpioPulseReadDone dev, dev⟩
  else
    let total := dev.irq.assemTotal
    let copied := dev.irq.assemCopied
    if total = 0 ∨ copied = 0 ∨ copied > dev.irq.rxCap then
      ⟨some EINVAL, false, 0, [], espiIrqAssemReset dev⟩
    else
      let remain := if copied < total then total - copied else 0
      let chunk := (espiRxChunkCalc remain).chunk
      if chunk = 0 then
        ⟨none, true, total, [], espiIrqAssemReset dev⟩
      else if copied + chunk > dev.irq.rxCap then
        ⟨some EMSGSIZE, false, 0, [], espiIrqAssemReset dev⟩
      else if !dev.irq.rxTmp then
        ⟨some ENODEV, false, 0, [], espiIrqAssemReset dev⟩
      else
        match espiRxReadWindow dev window with
        | .error errno => ⟨some errno, false, 0, [], espiIrqAssemReset dev⟩
        | .ok tmp =>
            let dev :=
              { dev with
                irq :=
                  { dev.irq with
                    rxBuf := memcpyAt dev.irq.rxBuf copied (tmp.take chunk)
                    assemCopied := copied + chunk } }
            if copied + chunk < total then
              ⟨none, false, copied + chunk, gpioPulseReadDone dev, dev⟩
            else
              ⟨none, true, total, gpioSetReadDone dev true, espiIrqAssemReset dev⟩

/-- What one `gxfp_irq_thread` does: the device after it, the read-done line,
and the packet handed to `gxfp_uapi_rxq_push_packet`. -/
structure IrqThread where
  dev : GxfpDev
  line : List Bool
  push : Option (List Byte)

/-- `gxfp_irq_thread`. -/
def irqThread (dev : GxfpDev) (window : Window) : IrqThread :=
  if dev.irq.rxCap < 16 then
    ⟨dev, [], none⟩
  else
    let step := espiIrqReadStep dev window
    let push := step.ret.isNone && step.complete && step.rxLen != 0
    ⟨step.dev, step.line ++ gpioSetReadDone step.dev false,
      if push then some (step.dev.irq.rxBuf.take step.rxLen) else none⟩

/-! ## Synchronous path -/

/-- The sensor's side of the receive window: it presents one piece of its
response at a time and goes to the next on a rising edge of read-done. -/
structure Sensor where
  pieces : Nat → Window
  index : Nat
  line : Bool
  edges : Nat

namespace Sensor

/-- A sensor that has just raised its interrupt, with the line low. -/
def presenting (pieces : Nat → Window) : Sensor :=
  ⟨pieces, 0, false, 0⟩

/-- The window the host reads now. -/
def window (sensor : Sensor) : Window :=
  sensor.pieces sensor.index

/-- The host drives the read-done line. -/
def drive (sensor : Sensor) (value : Bool) : Sensor :=
  if value && !sensor.line then
    { sensor with index := sensor.index + 1, line := true, edges := sensor.edges + 1 }
  else
    { sensor with line := value }

/-- The host drives the line through a sequence of values. -/
def driveAll (sensor : Sensor) (values : List Bool) : Sensor :=
  values.foldl drive sensor

end Sensor

/-- The `while (off < total)` loop of `gxfp_espi_read_assemble`.  Every round
copies at least one byte, so `total` rounds are enough. -/
def espiReadAssembleLoop (dev : GxfpDev) (dstCap total : Nat) :
    Nat → Nat → List Byte → Sensor → Except Errno (List Byte) × Sensor
  | 0, _, dst, sensor => (.ok dst, sensor)
  | rounds + 1, off, dst, sensor =>
      if off < total then
        let chunk := (espiRxChunkCalc (total - off)).chunk
        if !dev.irq.rxTmp then
          (.error ENODEV, sensor)
        else if off + chunk > dstCap then
          (.error EMSGSIZE, sensor)
        else
          match espiRxReadWindow dev sensor.window with
          | .error errno => (.error errno, sensor)
          | .ok tmp =>
              let dst := memcpyAt dst off (tmp.take chunk)
              let off := off + chunk
              let sensor := if off < total then sensor.driveAll (gpioPulseReadDone dev) else sensor
              espiReadAssembleLoop dev dstCap total rounds off dst sensor
      else
        (.ok dst, sensor)

/-- `gxfp_espi_read_assemble` into a buffer of `dstCap` bytes: the buffer and
the packet length. -/
def espiReadAssemble (dev : GxfpDev) (dstCap : Nat) (sensor : Sensor) :
    Except Errno (List Byte × Nat) × Sensor :=
  if dstCap < ESPI_CHUNK_MAX then
    (.error EINVAL, sensor)
  else if !dev.hw.mailboxMmio then
    (.error ENODEV, sensor)
  else if dev.hw.mailboxSize < ESPI_RX_OFF + ESPI_CHUNK_MAX then
    (.error ENODEV, sensor)
  else
    let start := espiRxStartPacket dev (List.replicate dstCap 0) dstCap false sensor.window
    match start.2 with
    | .error errno => (.error errno, sensor)
    | .ok (total, firstChunk) =>
        let out := espiReadAssembleLoop dev dstCap total total firstChunk start.1 sensor
        match out.1 with
        | .error errno => (.error errno, out.2)
        | .ok dst => (.ok (dst, total), out.2.driveAll (gpioPulseReadDone dev))

/-- `gxfp_espi_read`. -/
def espiRead (dev : GxfpDev) (rxCap : Nat) (sensor : Sensor) :
    Except Errno (List Byte × Nat) × Sensor :=
  if rxCap = 0 then
    (.error EINVAL, sensor)
  else if !dev.hw.mailboxMmio then
    (.error ENODEV, sensor)
  else
    espiReadAssemble dev rxCap sensor

end Gxfp.Kernel
