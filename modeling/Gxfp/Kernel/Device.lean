import Gxfp.Errno
import Gxfp.Lib.Bytes

/-!
# The kernel device

The parts of `struct gxfp_dev` the transport works on, the GPIO lines of
`kernel/hw/gxfp_gpio.c` and the MMIO accessors of `kernel/hw/gxfp_mmio.c`.  A
pointer that is only tested for `NULL` is a Boolean.  Driving a GPIO line is
recorded as the list of values written to it.
-/

namespace Gxfp.Kernel

open Lib.Bytes
open Gxfp.Errno

/-! ## Constants -/

/-- `GXFP_ESPI_CHUNK_MAX`, the size of the receive window. -/
def ESPI_CHUNK_MAX : Nat := 0xe00
/-- `GXFP_ESPI_RX_OFF`, where the receive window starts in the mailbox. -/
def ESPI_RX_OFF : Nat := 0x200
/-- `GXFP_ESPI_ALIGN`. -/
def ESPI_ALIGN : Nat := 8
/-- `GXFP_TX_BUFFER_SIZE`. -/
def TX_BUFFER_SIZE : Nat := 0x200
/-- `GXFP_IRQ_RX_CAP`. -/
def IRQ_RX_CAP : Nat := 128 * 1024
/-- `GXFP_ESPI_WRAPPER_MAGIC`. -/
def ESPI_WRAPPER_MAGIC : Byte := 0xF0
/-- `GXFP_ESPI_SEQ16_INIT`. -/
def ESPI_SEQ16_INIT : Nat := 0x8881

/-! ## State -/

/-- The `hw` part of `struct gxfp_dev`. -/
structure GxfpHw where
  mailboxMmio : Bool
  mailboxSize : Nat
  gpioWriteDone : Bool
  gpioReadDone : Bool

/-- The `irq` part of `struct gxfp_dev`. -/
structure GxfpIrq where
  rxBuf : List Byte
  rxCap : Nat
  rxTmp : Bool
  assemActive : Bool
  assemTotal : Nat
  assemCopied : Nat

/-- `struct gxfp_dev`, without the character device.  `mailboxSeq16` is the
32-bit atomic counter behind the sequence numbers. -/
structure GxfpDev where
  hw : GxfpHw
  irq : GxfpIrq
  mailboxSeq16 : UInt32

/-- What a successful `gxfp_platform_probe` leaves behind, on a mailbox large
enough for the receive window, and what no later step changes. -/
structure Probed (dev : GxfpDev) : Prop where
  mailboxMmio : dev.hw.mailboxMmio = true
  mailboxSize : ESPI_RX_OFF + ESPI_CHUNK_MAX ≤ dev.hw.mailboxSize
  gpioWriteDone : dev.hw.gpioWriteDone = true
  gpioReadDone : dev.hw.gpioReadDone = true
  rxCap : dev.irq.rxCap = IRQ_RX_CAP
  rxBuf : dev.irq.rxBuf.length = IRQ_RX_CAP
  rxTmp : dev.irq.rxTmp = true

/-- The assembly state after `gxfp_espi_irq_assem_reset`. -/
structure AssemReset (dev : GxfpDev) : Prop where
  active : dev.irq.assemActive = false
  total : dev.irq.assemTotal = 0
  copied : dev.irq.assemCopied = 0

/-- The device right after a successful probe: `rx_buf` is not initialised. -/
def platformProbe (mailboxSize : Nat) (rxBuf : List Byte) : GxfpDev where
  hw := ⟨true, mailboxSize, true, true⟩
  irq := ⟨rxBuf, IRQ_RX_CAP, true, false, 0, 0⟩
  mailboxSeq16 := UInt32.ofNat ESPI_SEQ16_INIT

theorem platformProbe_probed {mailboxSize : Nat} {rxBuf : List Byte}
    (large : ESPI_RX_OFF + ESPI_CHUNK_MAX ≤ mailboxSize) (buffer : rxBuf.length = IRQ_RX_CAP) :
    Probed (platformProbe mailboxSize rxBuf) :=
  ⟨rfl, large, rfl, rfl, rfl, buffer, rfl⟩

theorem platformProbe_assemReset (mailboxSize : Nat) (rxBuf : List Byte) :
    AssemReset (platformProbe mailboxSize rxBuf) :=
  ⟨rfl, rfl, rfl⟩

/-! ## GPIO lines -/

/-- `gxfp_gpio_set_read_done`. -/
def gpioSetReadDone (dev : GxfpDev) (value : Bool) : List Bool :=
  if dev.hw.gpioReadDone then [value] else []

/-- `gxfp_gpio_pulse_read_done`. -/
def gpioPulseReadDone (dev : GxfpDev) : List Bool :=
  gpioSetReadDone dev true ++ gpioSetReadDone dev false

/-- `gxfp_gpio_pulse_write_done`, with the forced deassertion first. -/
def gpioPulseWriteDone (dev : GxfpDev) : List Bool :=
  (if dev.hw.gpioWriteDone then [false] else []) ++ [true, false]

/-! ## MMIO -/

/-- `gxfp_mmio_write_qword_aligned`: the bytes stored from the start of the
mailbox. -/
def mmioWriteQwordAligned (mmio : Bool) (buf : List Byte) : Except Errno (List Byte) :=
  if !mmio then
    .error EINVAL
  else if buf.length % 8 ≠ 0 then
    .error EINVAL
  else
    .ok buf

/-- `gxfp_mmio_read_qword_aligned` of a region with the given contents. -/
def mmioReadQwordAligned (mmio : Bool) (region : List Byte) : Except Errno (List Byte) :=
  if !mmio then
    .error EINVAL
  else if region.length % 8 ≠ 0 then
    .error EINVAL
  else
    .ok region

end Gxfp.Kernel
