import Gxfp.Kernel.EspiRx
import Gxfp.Kernel.RxqContract
import Gxfp.Lib.Chunks

/-!
# Reassembly of packets across interrupts

The assembly state of the driver survives from one interrupt to the next.
`Assembling dev total count` says what it is after `count` windows of a packet
of `total` bytes; one step either goes on to `count + 1` or completes the
packet.  Everything about whole packets follows from these two cases by
counting windows.
-/

namespace Gxfp.Kernel

open Lib.Bytes
open Lib.Chunks
open Gxfp.Errno

/-! ## The assembly invariant -/

/-- The assembly state in the middle of a packet. -/
structure Assembling (dev : GxfpDev) (total count : Nat) : Prop where
  active : dev.irq.assemActive = true
  total_eq : dev.irq.assemTotal = total
  copied_eq : dev.irq.assemCopied = count * ESPI_CHUNK_MAX
  count_pos : 0 < count
  copied_lt : count * ESPI_CHUNK_MAX < total
  total_le : total ≤ IRQ_RX_CAP

theorem espiIrqAssemReset_reset (dev : GxfpDev) : AssemReset (espiIrqAssemReset dev) :=
  ⟨rfl, rfl, rfl⟩

/-- Resetting the assembly state, or any other change of it, keeps what the
probe established as long as the buffer keeps its size. -/
theorem Probed.withIrq {dev : GxfpDev} (probed : Probed dev) (irq : GxfpIrq)
    (rxCap : irq.rxCap = dev.irq.rxCap) (rxTmp : irq.rxTmp = dev.irq.rxTmp)
    (rxBuf : irq.rxBuf.length = dev.irq.rxBuf.length) : Probed { dev with irq := irq } where
  mailboxMmio := probed.mailboxMmio
  mailboxSize := probed.mailboxSize
  gpioWriteDone := probed.gpioWriteDone
  gpioReadDone := probed.gpioReadDone
  rxCap := rxCap.trans probed.rxCap
  rxBuf := rxBuf.trans probed.rxBuf
  rxTmp := rxTmp.trans probed.rxTmp

/-! ## Reading one window -/

theorem espiRxReadWindow_eq {dev : GxfpDev} (probed : Probed dev) (window : Window) :
    espiRxReadWindow dev window = .ok window.bytes := by
  have aligned : ESPI_CHUNK_MAX % 8 = 0 := rfl
  simp [espiRxReadWindow, mmioReadQwordAligned, probed.mailboxMmio, window.length_eq, aligned]

/-- Copying a window to the start of a buffer puts the window in front. -/
theorem memcpyAt_window (rxBuf : List Byte) (window : Window) :
    memcpyAt rxBuf 0 window.bytes = window.bytes ++ rxBuf.drop ESPI_CHUNK_MAX := by
  rw [memcpyAt, List.take_zero, List.nil_append, Nat.zero_add, window.length_eq]

theorem memcpyAt_window_length {rxBuf : List Byte} (large : ESPI_CHUNK_MAX ≤ rxBuf.length)
    (window : Window) : (memcpyAt rxBuf 0 window.bytes).length = rxBuf.length := by
  apply memcpyAt_length
  rw [window.length_eq, Nat.zero_add]
  exact large

/-- The bytes in front of the buffer are those of the window. -/
theorem take_memcpyAt_window (rxBuf : List Byte) (window : Window) {n : Nat}
    (inside : n ≤ ESPI_CHUNK_MAX) :
    (memcpyAt rxBuf 0 window.bytes).take n = window.bytes.take n := by
  rw [memcpyAt_window, List.take_append_of_le_length]
  rw [window.length_eq]
  exact inside

theorem espiRxStartPacket_rejected {dev : GxfpDev} (probed : Probed dev) {window : Window}
    (rejected : checkMpHead (window.bytes.take 4) = none) :
    espiRxStartPacket dev dev.irq.rxBuf dev.irq.rxCap true window =
      (memcpyAt dev.irq.rxBuf 0 window.bytes, .error EBADMSG) := by
  have headEq := take_memcpyAt_window dev.irq.rxBuf window
    (show 4 ≤ ESPI_CHUNK_MAX by decide)
  simp [espiRxStartPacket, espiRxReadWindow_eq probed, headEq, rejected]

theorem espiRxStartPacket_accepted {dev : GxfpDev} (probed : Probed dev) {window : Window}
    {mpLen : Nat} (accepted : checkMpHead (window.bytes.take 4) = some mpLen) :
    espiRxStartPacket dev dev.irq.rxBuf dev.irq.rxCap true window =
      (memcpyAt dev.irq.rxBuf 0 window.bytes,
        .ok (4 + mpLen, min (4 + mpLen) ESPI_CHUNK_MAX)) := by
  have headEq := take_memcpyAt_window dev.irq.rxBuf window
    (show 4 ≤ ESPI_CHUNK_MAX by decide)
  have short := checkMpHead_lt accepted
  have fits : ¬ (4 + mpLen = 0 ∨ 4 + mpLen > dev.irq.rxCap) := by
    rw [probed.rxCap]
    unfold GOODIX_MP_LEN_MAX at short
    unfold IRQ_RX_CAP
    omega
  simp only [espiRxStartPacket, espiRxReadWindow_eq probed, if_true, headEq, accepted,
    if_neg fits]

/-! ## One step of the interrupt path -/

/-- The step's entry checks pass on a probed device. -/
theorem espiIrqReadStep_checks {dev : GxfpDev} (probed : Probed dev) :
    ¬ dev.irq.rxCap < ESPI_CHUNK_MAX ∧ dev.hw.mailboxMmio = true ∧
      ¬ dev.hw.mailboxSize < ESPI_RX_OFF + ESPI_CHUNK_MAX := by
  refine ⟨?_, probed.mailboxMmio, Nat.not_lt.mpr probed.mailboxSize⟩
  rw [probed.rxCap]
  decide

/-- A bad head between packets is reported and leaves the assembly reset. -/
theorem espiIrqReadStep_rejected {dev : GxfpDev} (probed : Probed dev) (reset : AssemReset dev)
    {window : Window} (rejected : checkMpHead (window.bytes.take 4) = none) :
    (espiIrqReadStep dev window).ret = some EBADMSG ∧
      AssemReset (espiIrqReadStep dev window).dev ∧
      Probed (espiIrqReadStep dev window).dev := by
  obtain ⟨capOk, mmioOk, sizeOk⟩ := espiIrqReadStep_checks probed
  have bufferLarge : ESPI_CHUNK_MAX ≤ dev.irq.rxBuf.length := by
    rw [probed.rxBuf]
    decide
  simp only [espiIrqReadStep, if_neg capOk, mmioOk, if_neg sizeOk, reset.active, Bool.not_true,
    Bool.not_false, Bool.false_eq_true, if_false, if_true,
    espiRxStartPacket_rejected probed rejected]
  exact ⟨trivial, espiIrqAssemReset_reset _,
    probed.withIrq _ rfl rfl (memcpyAt_window_length bufferLarge window)⟩

/-- What a step reports when it has read window `count` of a packet of `total`
bytes into place: either the packet goes on, or it is complete, its bytes are
in the buffer and the assembly is reset.  The read-done line rises once in
both cases. -/
structure WindowRead (step : IrqReadStep) (pieces : Nat → List Byte) (total count : Nat) :
    Prop where
  ret : step.ret = none
  probed : Probed step.dev
  buffer : step.dev.irq.rxBuf.take (min total ((count + 1) * ESPI_CHUNK_MAX)) =
    (joined pieces (count + 1)).take total
  more : (count + 1) * ESPI_CHUNK_MAX < total →
    step.complete = false ∧ step.line = [true, false] ∧ Assembling step.dev total (count + 1)
  last : total ≤ (count + 1) * ESPI_CHUNK_MAX →
    step.complete = true ∧ step.rxLen = total ∧ step.line = [true] ∧ AssemReset step.dev

theorem gpioSetReadDone_eq {dev : GxfpDev} (wired : dev.hw.gpioReadDone = true) (value : Bool) :
    gpioSetReadDone dev value = [value] := by
  rw [gpioSetReadDone, wired, if_pos rfl]

theorem gpioPulseReadDone_eq {dev : GxfpDev} (wired : dev.hw.gpioReadDone = true) :
    gpioPulseReadDone dev = [true, false] := by
  rw [gpioPulseReadDone, gpioSetReadDone_eq wired, gpioSetReadDone_eq wired]
  rfl

/-- The first window of a packet. -/
theorem espiIrqReadStep_first {dev : GxfpDev} (probed : Probed dev) (reset : AssemReset dev)
    {window : Window} {mpLen : Nat} (accepted : checkMpHead (window.bytes.take 4) = some mpLen)
    {pieces : Nat → List Byte} (piece : pieces 0 = window.bytes) :
    WindowRead (espiIrqReadStep dev window) pieces (4 + mpLen) 0 := by
  obtain ⟨capOk, mmioOk, sizeOk⟩ := espiIrqReadStep_checks probed
  have bufferLarge : ESPI_CHUNK_MAX ≤ dev.irq.rxBuf.length := by
    rw [probed.rxBuf]
    decide
  have short := checkMpHead_lt accepted
  have totalLe : 4 + mpLen ≤ IRQ_RX_CAP := by
    unfold GOODIX_MP_LEN_MAX at short
    unfold IRQ_RX_CAP
    omega
  have bufferLength := memcpyAt_window_length bufferLarge window
  have firstBytes : (memcpyAt dev.irq.rxBuf 0 window.bytes).take
      (min (4 + mpLen) ((0 + 1) * ESPI_CHUNK_MAX)) = (joined pieces (0 + 1)).take (4 + mpLen) := by
    rw [Nat.zero_add, Nat.one_mul, joined_one, piece,
      take_memcpyAt_window _ _ (Nat.min_le_right _ _), List.take_eq_take_iff, window.length_eq,
      Nat.min_assoc, Nat.min_self]
  simp only [espiIrqReadStep, if_neg capOk, mmioOk, if_neg sizeOk, reset.active, Bool.not_true,
    Bool.not_false, Bool.false_eq_true, if_false, if_true,
    espiRxStartPacket_accepted probed accepted]
  by_cases single : min (4 + mpLen) ESPI_CHUNK_MAX ≥ 4 + mpLen
  · rw [if_pos single]
    refine ⟨rfl, probed.withIrq _ rfl rfl bufferLength, firstBytes, ?_, ?_⟩
    · intro further
      omega
    · intro _
      exact ⟨rfl, rfl, gpioSetReadDone_eq probed.gpioReadDone true, espiIrqAssemReset_reset _⟩
  · rw [if_neg single]
    have chunkEq : min (4 + mpLen) ESPI_CHUNK_MAX = (0 + 1) * ESPI_CHUNK_MAX := by omega
    refine ⟨rfl, probed.withIrq _ rfl rfl bufferLength, firstBytes, ?_, ?_⟩
    · intro further
      exact ⟨rfl, gpioPulseReadDone_eq probed.gpioReadDone, rfl, rfl, chunkEq, Nat.one_pos, further,
        totalLe⟩
    · intro done
      omega

/-- The size of the chunk the continuation path would copy next. -/
def nextChunk (dev : GxfpDev) : Nat :=
  (espiRxChunkCalc (if dev.irq.assemCopied < dev.irq.assemTotal then
    dev.irq.assemTotal - dev.irq.assemCopied else 0)).chunk

/-- None of the conditions on the assembly state under which the continuation
path gives up holds: neither those of its `-EINVAL` and `-EMSGSIZE` exits nor
that of the exit for an empty chunk. -/
structure ContinuationSound (dev : GxfpDev) : Prop where
  valid : ¬ (dev.irq.assemTotal = 0 ∨ dev.irq.assemCopied = 0 ∨
    dev.irq.assemCopied > dev.irq.rxCap)
  nonempty : nextChunk dev ≠ 0
  fits : ¬ dev.irq.assemCopied + nextChunk dev > dev.irq.rxCap

theorem Assembling.nextChunk_eq {dev : GxfpDev} {total count : Nat}
    (middle : Assembling dev total count) :
    nextChunk dev = min (total - count * ESPI_CHUNK_MAX) ESPI_CHUNK_MAX := by
  rw [nextChunk, middle.total_eq, middle.copied_eq, if_pos middle.copied_lt]
  rfl

theorem Assembling.continuationSound {dev : GxfpDev} {total count : Nat}
    (middle : Assembling dev total count) (probed : Probed dev) : ContinuationSound dev := by
  have chunkPos : 0 < ESPI_CHUNK_MAX := by decide
  have copiedPos : 0 < count * ESPI_CHUNK_MAX := Nat.mul_pos middle.count_pos chunkPos
  have copiedLt := middle.copied_lt
  have totalLe := middle.total_le
  refine ⟨?_, ?_, ?_⟩
  · rw [middle.total_eq, middle.copied_eq, probed.rxCap]
    omega
  · rw [middle.nextChunk_eq]
    omega
  · rw [middle.nextChunk_eq, middle.copied_eq, probed.rxCap]
    omega

/-- The part of a window that a packet still needs. -/
theorem take_window_length (window : Window) (remaining : Nat) :
    (window.bytes.take (min remaining ESPI_CHUNK_MAX)).length = min remaining ESPI_CHUNK_MAX := by
  rw [List.length_take, window.length_eq]
  exact Nat.min_eq_left (Nat.min_le_right _ _)

/-- Copying that part behind the windows before it extends the packet by one
window. -/
theorem take_memcpyAt_next {rxBuf : List Byte} {total count : Nat} {window : Window}
    {pieces : Nat → List Byte} (sized : ∀ index, (pieces index).length = ESPI_CHUNK_MAX)
    (piece : pieces count = window.bytes) (copiedLt : count * ESPI_CHUNK_MAX < total)
    (inside : count * ESPI_CHUNK_MAX ≤ rxBuf.length)
    (sofar : rxBuf.take (count * ESPI_CHUNK_MAX) = joined pieces count) :
    (memcpyAt rxBuf (count * ESPI_CHUNK_MAX)
        (window.bytes.take (min (total - count * ESPI_CHUNK_MAX) ESPI_CHUNK_MAX))).take
          (min total ((count + 1) * ESPI_CHUNK_MAX)) = (joined pieces (count + 1)).take total := by
  have endEq : min total ((count + 1) * ESPI_CHUNK_MAX) = count * ESPI_CHUNK_MAX +
      (window.bytes.take (min (total - count * ESPI_CHUNK_MAX) ESPI_CHUNK_MAX)).length := by
    rw [take_window_length, Nat.succ_mul]
    omega
  rw [endEq, take_memcpyAt inside, sofar, take_joined_succ sized (Nat.le_of_lt copiedLt), piece]
  congr 1
  rw [← window.length_eq, ← List.take_eq_take_min]

/-- A further window of a packet. -/
theorem espiIrqReadStep_next {dev : GxfpDev} (probed : Probed dev) {total count : Nat}
    (middle : Assembling dev total count) {window : Window} {pieces : Nat → List Byte}
    (sized : ∀ index, (pieces index).length = ESPI_CHUNK_MAX)
    (piece : pieces count = window.bytes)
    (sofar : dev.irq.rxBuf.take (count * ESPI_CHUNK_MAX) = joined pieces count) :
    WindowRead (espiIrqReadStep dev window) pieces total count := by
  obtain ⟨capOk, mmioOk, sizeOk⟩ := espiIrqReadStep_checks probed
  have chunkEq := middle.nextChunk_eq
  obtain ⟨stateOk, chunkPos, chunkFits⟩ := middle.continuationSound probed
  rw [chunkEq] at chunkPos chunkFits
  obtain ⟨active, totalEq, copiedEq, countPos, copiedLt, totalLe⟩ := middle
  have inside : count * ESPI_CHUNK_MAX ≤ dev.irq.rxBuf.length := by
    rw [probed.rxBuf]
    exact (Nat.le_of_lt copiedLt).trans totalLe
  have bufferLength : (memcpyAt dev.irq.rxBuf dev.irq.assemCopied
      (window.bytes.take (min (total - count * ESPI_CHUNK_MAX) ESPI_CHUNK_MAX))).length =
        dev.irq.rxBuf.length := by
    apply memcpyAt_length
    rw [take_window_length, probed.rxBuf, ← probed.rxCap]
    exact Nat.not_lt.mp chunkFits
  have nextBytes : (memcpyAt dev.irq.rxBuf dev.irq.assemCopied
      (window.bytes.take (min (total - count * ESPI_CHUNK_MAX) ESPI_CHUNK_MAX))).take
        (min total ((count + 1) * ESPI_CHUNK_MAX)) = (joined pieces (count + 1)).take total := by
    rw [copiedEq]
    exact take_memcpyAt_next sized piece copiedLt inside sofar
  have started : ¬ (!dev.irq.assemActive) = true := by simp [active]
  have tmpOk : ¬ (!dev.irq.rxTmp) = true := by simp [probed.rxTmp]
  unfold espiIrqReadStep
  rw [if_neg capOk, if_neg (by simp [mmioOk]), if_neg sizeOk, if_neg started]
  dsimp only
  change (espiRxChunkCalc _).chunk = _ at chunkEq
  rw [if_neg stateOk, chunkEq, if_neg chunkPos, if_neg chunkFits, if_neg tmpOk,
    espiRxReadWindow_eq probed]
  dsimp only
  by_cases further : dev.irq.assemCopied + min (total - count * ESPI_CHUNK_MAX) ESPI_CHUNK_MAX <
      dev.irq.assemTotal
  · rw [if_pos further]
    rw [totalEq, copiedEq] at further
    have copiedNext : count * ESPI_CHUNK_MAX + min (total - count * ESPI_CHUNK_MAX) ESPI_CHUNK_MAX =
        (count + 1) * ESPI_CHUNK_MAX := by
      rw [Nat.succ_mul]
      omega
    refine ⟨rfl, probed.withIrq _ rfl rfl bufferLength, nextBytes, ?_, ?_⟩
    · intro notLast
      refine ⟨rfl, gpioPulseReadDone_eq probed.gpioReadDone, active, totalEq, ?_,
        Nat.succ_pos count, notLast, totalLe⟩
      change dev.irq.assemCopied + _ = _
      rw [copiedEq]
      exact copiedNext
    · intro done
      rw [copiedNext] at further
      exact absurd further (Nat.not_lt.mpr done)
  · rw [if_neg further]
    rw [totalEq, copiedEq] at further
    refine ⟨rfl, probed.withIrq _ rfl rfl bufferLength, nextBytes, ?_, ?_⟩
    · intro notLast
      rw [Nat.succ_mul] at notLast
      omega
    · intro _
      exact ⟨rfl, totalEq, gpioSetReadDone_eq probed.gpioReadDone true,
        espiIrqAssemReset_reset _⟩

/-! ## Runs -/

/-- The device after the first `count` calls of `gxfp_espi_irq_read_step`, call
`index` finding `windows index` in the mailbox. -/
def irqRun (dev : GxfpDev) (windows : Nat → Window) : Nat → GxfpDev
  | 0 => dev
  | count + 1 => (espiIrqReadStep (irqRun dev windows count) (windows count)).dev

/-- The call number `index` of that run. -/
def irqStepAt (dev : GxfpDev) (windows : Nat → Window) (index : Nat) : IrqReadStep :=
  espiIrqReadStep (irqRun dev windows index) (windows index)

/-- The windows of a packet whose first window is number `start`. -/
def packetPieces (windows : Nat → Window) (start index : Nat) : List Byte :=
  (windows (start + index)).bytes

theorem packetPieces_length (windows : Nat → Window) (start index : Nat) :
    (packetPieces windows start index).length = ESPI_CHUNK_MAX :=
  (windows (start + index)).length_eq

/-- The bytes in the buffer when a window has been read and more are to come. -/
theorem WindowRead.sofar {step : IrqReadStep} {pieces : Nat → List Byte} {total count : Nat}
    (read : WindowRead step pieces total count)
    (sized : ∀ index, (pieces index).length = ESPI_CHUNK_MAX)
    (further : (count + 1) * ESPI_CHUNK_MAX < total) :
    step.dev.irq.rxBuf.take ((count + 1) * ESPI_CHUNK_MAX) = joined pieces (count + 1) := by
  have whole : (joined pieces (count + 1)).take total = joined pieces (count + 1) := by
    apply List.take_of_length_le
    rw [joined_length sized]
    exact Nat.le_of_lt further
  have buffer := read.buffer
  rw [Nat.min_eq_right (Nat.le_of_lt further), whole] at buffer
  exact buffer

/-- The invariant of a run: before call `index` the device is either between
packets, or in the middle of one whose windows so far are in the buffer. -/
structure AssemInv (windows : Nat → Window) (index : Nat) (dev : GxfpDev) : Prop where
  probed : Probed dev
  state : AssemReset dev ∨
    ∃ start total count, start + count = index ∧ Assembling dev total count ∧
      dev.irq.rxBuf.take (count * ESPI_CHUNK_MAX) = joined (packetPieces windows start) count

/-- Reading a window of a packet keeps the invariant. -/
theorem WindowRead.assemInv {windows : Nat → Window} {step : IrqReadStep} {start total count : Nat}
    (read : WindowRead step (packetPieces windows start) total count) :
    AssemInv windows (start + count + 1) step.dev := by
  refine ⟨read.probed, ?_⟩
  by_cases further : (count + 1) * ESPI_CHUNK_MAX < total
  · obtain ⟨-, -, middle⟩ := read.more further
    exact Or.inr ⟨start, total, count + 1, rfl, middle,
      read.sofar (packetPieces_length windows start) further⟩
  · obtain ⟨-, -, -, reset⟩ := read.last (Nat.not_lt.mp further)
    exact Or.inl reset

theorem espiIrqReadStep_assemInv {windows : Nat → Window} {index : Nat} {dev : GxfpDev}
    (inv : AssemInv windows index dev) :
    AssemInv windows (index + 1) (espiIrqReadStep dev (windows index)).dev := by
  obtain ⟨probed, reset | ⟨start, total, count, rfl, middle, sofar⟩⟩ := inv
  · cases checked : checkMpHead ((windows index).bytes.take 4) with
    | none =>
        obtain ⟨-, resetNext, probedNext⟩ := espiIrqReadStep_rejected probed reset checked
        exact ⟨probedNext, Or.inl resetNext⟩
    | some mpLen =>
        have read : WindowRead (espiIrqReadStep dev (windows index))
            (packetPieces windows index) (4 + mpLen) 0 :=
          espiIrqReadStep_first probed reset checked rfl
        exact read.assemInv
  · have read : WindowRead (espiIrqReadStep dev (windows (start + count)))
        (packetPieces windows start) total count :=
      espiIrqReadStep_next probed middle (packetPieces_length windows start) rfl sofar
    exact read.assemInv

theorem irqRun_assemInv {dev : GxfpDev} (probed : Probed dev) (reset : AssemReset dev)
    (windows : Nat → Window) (index : Nat) :
    AssemInv windows index (irqRun dev windows index) := by
  induction index with
  | zero => exact ⟨probed, Or.inl reset⟩
  | succ index ih => exact espiIrqReadStep_assemInv ih

/-! ## Whole packets -/

/-- Every window of a packet is read into place, by induction on its number. -/
theorem irqStepAt_windowRead {dev : GxfpDev} {windows : Nat → Window} {start mpLen : Nat}
    (probed : Probed (irqRun dev windows start)) (reset : AssemReset (irqRun dev windows start))
    (accepted : checkMpHead ((windows start).bytes.take 4) = some mpLen) {index : Nat}
    (needed : index < chunkCount ESPI_CHUNK_MAX (4 + mpLen)) :
    WindowRead (irqStepAt dev windows (start + index)) (packetPieces windows start) (4 + mpLen)
      index := by
  have chunkPos : 0 < ESPI_CHUNK_MAX := by decide
  induction index with
  | zero => exact espiIrqReadStep_first probed reset accepted rfl
  | succ index ih =>
      have previous := ih (Nat.lt_of_succ_lt needed)
      have further := (lt_chunkCount_iff chunkPos _ _).mp needed
      obtain ⟨-, -, middle⟩ := previous.more further
      exact espiIrqReadStep_next previous.probed middle (packetPieces_length windows start) rfl
        (previous.sofar (packetPieces_length windows start) further)

/-- What the driver does with a packet whose head is in window `start` and
declares `mpLen` bytes of payload. -/
structure PacketReassembled (dev : GxfpDev) (windows : Nat → Window) (start mpLen : Nat) :
    Prop where
  ret : ∀ index < chunkCount ESPI_CHUNK_MAX (4 + mpLen),
    (irqStepAt dev windows (start + index)).ret = none
  complete : ∀ index < chunkCount ESPI_CHUNK_MAX (4 + mpLen),
    ((irqStepAt dev windows (start + index)).complete = true ↔
      index + 1 = chunkCount ESPI_CHUNK_MAX (4 + mpLen))
  rxLen : ∀ index, index + 1 = chunkCount ESPI_CHUNK_MAX (4 + mpLen) →
    (irqStepAt dev windows (start + index)).rxLen = 4 + mpLen
  buffer : (irqRun dev windows (start + chunkCount ESPI_CHUNK_MAX (4 + mpLen))).irq.rxBuf.take
      (4 + mpLen) =
    (joined (packetPieces windows start) (chunkCount ESPI_CHUNK_MAX (4 + mpLen))).take (4 + mpLen)
  active : ∀ index, 0 < index → index < chunkCount ESPI_CHUNK_MAX (4 + mpLen) →
    (irqRun dev windows (start + index)).irq.assemActive = true
  reset : AssemReset (irqRun dev windows (start + chunkCount ESPI_CHUNK_MAX (4 + mpLen)))
  parsed : ∃ mp, parseMpFrame ((irqRun dev windows
    (start + chunkCount ESPI_CHUNK_MAX (4 + mpLen))).irq.rxBuf.take (4 + mpLen)) = some mp
  kept : ∀ rxq : Rxq, rxq.inited = true → ∀ tsNs,
    (uapiRxqPush rxq ((irqRun dev windows
      (start + chunkCount ESPI_CHUNK_MAX (4 + mpLen))).irq.rxBuf.take (4 + mpLen)) tsNs).2 ≠
        .ignored

/-- The head of a reassembled packet is the head of its first window. -/
theorem take_head_of_joined {windows : Nat → Window} {start mpLen count : Nat} {buf : List Byte}
    (whole : buf = (joined (packetPieces windows start) (count + 1)).take (4 + mpLen)) :
    buf.take 4 = (windows start).bytes.take 4 := by
  have headInside : 4 ≤ (packetPieces windows start 0).length := by
    rw [packetPieces_length]
    decide
  rw [whole, List.take_take, Nat.min_eq_left (Nat.le_add_right 4 mpLen), joined_succ_left,
    List.take_append_of_le_length headInside]
  rfl

/-- A completed packet is never discarded: the push finds a record in it. -/
theorem uapiRxqPush_not_ignored {rxq : Rxq} (inited : rxq.inited = true) {buf : List Byte}
    {mp : MpFrameParsed} (parsed : parseMpFrame buf = some mp) (tsNs : Nat) :
    (uapiRxqPush rxq buf tsNs).2 ≠ .ignored := by
  obtain ⟨record, recordEq, -⟩ := tapRecordOf_parsed parsed tsNs
  simp only [uapiRxqPush, inited, if_true, parsed, Option.bind_some, recordEq]
  split
  · exact PushOutcome.noConfusion
  · exact PushOutcome.noConfusion

theorem packetReassembled {dev : GxfpDev} {windows : Nat → Window} {start mpLen : Nat}
    (probed : Probed (irqRun dev windows start)) (reset : AssemReset (irqRun dev windows start))
    (accepted : checkMpHead ((windows start).bytes.take 4) = some mpLen) :
    PacketReassembled dev windows start mpLen := by
  have chunkPos : 0 < ESPI_CHUNK_MAX := by decide
  obtain ⟨last, countEq⟩ : ∃ last, chunkCount ESPI_CHUNK_MAX (4 + mpLen) = last + 1 := by
    apply Nat.exists_eq_succ_of_ne_zero
    exact Nat.ne_of_gt ((lt_chunkCount_iff chunkPos _ _).mpr (by omega))
  obtain ⟨lastNeeded, lastEnough⟩ := (chunkCount_eq_succ_iff chunkPos).mp countEq
  have reads : ∀ index < last + 1, WindowRead (irqStepAt dev windows (start + index))
      (packetPieces windows start) (4 + mpLen) index := by
    intro index needed
    exact irqStepAt_windowRead probed reset accepted (countEq ▸ needed)
  have further : ∀ index < last, (index + 1) * ESPI_CHUNK_MAX < 4 + mpLen := by
    intro index before
    apply (lt_chunkCount_iff chunkPos _ _).mp
    rw [countEq]
    exact Nat.succ_lt_succ before
  have lastRead := reads last (Nat.lt_succ_self last)
  obtain ⟨lastComplete, lastLen, -, lastReset⟩ := lastRead.last lastEnough
  have buffer := lastRead.buffer
  rw [Nat.min_eq_left lastEnough] at buffer
  have bufferLength : 4 + mpLen ≤ ((irqStepAt dev windows (start + last)).dev.irq.rxBuf.take
      (4 + mpLen)).length := by
    rw [buffer, List.length_take, joined_length (packetPieces_length windows start)]
    exact Nat.le_min.mpr ⟨Nat.le_refl _, lastEnough⟩
  have headChecked : checkMpHead (((irqStepAt dev windows (start + last)).dev.irq.rxBuf.take
      (4 + mpLen)).take 4) = some mpLen := by
    rw [take_head_of_joined buffer]
    exact accepted
  have parsed := parseMpFrame_of_checkMpHead headChecked bufferLength
  refine ⟨?_, ?_, ?_, ?_, ?_, ?_, ?_, ?_⟩ <;> rw [countEq]
  · intro index needed
    exact (reads index needed).ret
  · intro index needed
    rcases Nat.lt_succ_iff_lt_or_eq.mp needed with before | rfl
    · rw [((reads index needed).more (further index before)).1]
      constructor
      · intro impossible
        cases impossible
      · intro same
        omega
    · exact ⟨fun _ => rfl, fun _ => lastComplete⟩
  · intro index same
    rw [Nat.succ_injective same]
    exact lastLen
  · exact buffer
  · intro index positive needed
    obtain ⟨previous, rfl⟩ := Nat.exists_eq_succ_of_ne_zero (Nat.ne_of_gt positive)
    have before : previous < last := Nat.lt_of_succ_lt_succ needed
    obtain ⟨-, -, middle⟩ :=
      (reads previous (Nat.lt_of_succ_lt needed)).more (further previous before)
    exact middle.active
  · exact lastReset
  · exact ⟨_, parsed⟩
  · intro rxq inited tsNs
    exact uapiRxqPush_not_ignored inited parsed tsNs

/-- Packet reassembly over every run of the interrupt path. -/
theorem irq_reassembly {dev : GxfpDev} (probed : Probed dev) (reset : AssemReset dev)
    (windows : Nat → Window) (index : Nat) :
    ((irqRun dev windows index).irq.assemActive = true →
      (0 < (irqRun dev windows index).irq.assemCopied ∧
        (irqRun dev windows index).irq.assemCopied < (irqRun dev windows index).irq.assemTotal ∧
        (irqRun dev windows index).irq.assemTotal ≤ (irqRun dev windows index).irq.rxCap ∧
        ESPI_CHUNK_MAX ∣ (irqRun dev windows index).irq.assemCopied) ∧
      ContinuationSound (irqRun dev windows index) ∧
      (irqStepAt dev windows index).ret = none) ∧
    ((irqRun dev windows index).irq.assemActive = false →
      AssemReset (irqRun dev windows index) ∧
      (checkMpHead ((windows index).bytes.take 4) = none →
        (irqStepAt dev windows index).ret = some EBADMSG ∧
          AssemReset (irqRun dev windows (index + 1))) ∧
      ∀ mpLen, checkMpHead ((windows index).bytes.take 4) = some mpLen →
        PacketReassembled dev windows index mpLen) := by
  obtain ⟨nowProbed, state⟩ := irqRun_assemInv probed reset windows index
  constructor
  · intro active
    rcases state with nowReset | ⟨start, total, count, rfl, middle, sofar⟩
    · rw [nowReset.active] at active
      cases active
    · refine ⟨⟨?_, ?_, ?_, ?_⟩, middle.continuationSound nowProbed, ?_⟩
      · rw [middle.copied_eq]
        exact Nat.mul_pos middle.count_pos (by decide)
      · rw [middle.copied_eq, middle.total_eq]
        exact middle.copied_lt
      · rw [middle.total_eq, nowProbed.rxCap]
        exact middle.total_le
      · rw [middle.copied_eq]
        exact Nat.dvd_mul_left _ _
      · exact (espiIrqReadStep_next nowProbed middle (packetPieces_length windows start) rfl
          sofar).ret
  · intro inactive
    rcases state with nowReset | ⟨start, total, count, rfl, middle, sofar⟩
    · refine ⟨nowReset, ?_, ?_⟩
      · intro rejected
        obtain ⟨ret, resetNext, -⟩ := espiIrqReadStep_rejected nowProbed nowReset rejected
        exact ⟨ret, resetNext⟩
      · intro mpLen accepted
        exact packetReassembled nowProbed nowReset accepted
    · rw [middle.active] at inactive
      cases inactive

/-- A window that holds a whole frame of type A without payload. -/
def emptyFrameWindow : Window where
  bytes := [0xA0, 0x00, 0x00, 0xA0] ++ List.replicate (ESPI_CHUNK_MAX - 4) 0
  length_eq := by
    rw [List.length_append, List.length_replicate]
    rfl

/-- A freshly probed device reassembles the first packet it is sent. -/
theorem irq_reassembly_empty_frame :
    Probed (platformProbe 0x1000 (List.replicate IRQ_RX_CAP 0)) ∧
      AssemReset (platformProbe 0x1000 (List.replicate IRQ_RX_CAP 0)) ∧
      PacketReassembled (platformProbe 0x1000 (List.replicate IRQ_RX_CAP 0))
        (fun _ => emptyFrameWindow) 0 0 := by
  have probed : Probed (platformProbe 0x1000 (List.replicate IRQ_RX_CAP 0)) :=
    platformProbe_probed (by decide) (List.length_replicate ..)
  have reset := platformProbe_assemReset 0x1000 (List.replicate IRQ_RX_CAP 0)
  have whole := (irq_reassembly probed reset (fun _ => emptyFrameWindow) 0).2 rfl
  exact ⟨probed, reset, whole.2.2 0 (by decide)⟩

end Gxfp.Kernel
