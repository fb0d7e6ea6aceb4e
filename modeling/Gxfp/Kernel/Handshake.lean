import Gxfp.Kernel.Assembly

/-!
# The read-done handshake of the two receive paths

The sensor shows the next piece of its response on each rising edge of the
read-done line.  The interrupt path raises the line once for every window it
has read.  The synchronous path reads its second window without having raised
the line after the first one, so it gives one edge too few for every packet
that takes more than one window.
-/

namespace Gxfp.Kernel

open Lib.Bytes
open Lib.Chunks
open Gxfp.Errno

/-! ## Driving the line -/

namespace Sensor

theorem driveAll_pulse {sensor : Sensor} (low : sensor.line = false) :
    sensor.driveAll [true, false] =
      { sensor with index := sensor.index + 1, edges := sensor.edges + 1 } := by
  simp [driveAll, drive, low]

theorem driveAll_pulse_low {sensor : Sensor} (low : sensor.line = false) :
    sensor.driveAll [true, false, false] =
      { sensor with index := sensor.index + 1, edges := sensor.edges + 1 } := by
  simp [driveAll, drive, low]

/-- The bytes of the response, piece by piece. -/
def pieceBytes (sensor : Sensor) (index : Nat) : List Byte :=
  (sensor.pieces index).bytes

theorem pieceBytes_length (sensor : Sensor) (index : Nat) :
    (sensor.pieceBytes index).length = ESPI_CHUNK_MAX :=
  (sensor.pieces index).length_eq

end Sensor

/-! ## The interrupt path to completion -/

/-- Interrupt threads one after the other until one of them pushes a packet,
at most `fuel` of them. -/
def irqReceive : Nat → GxfpDev → Sensor → Option (List Byte) × GxfpDev × Sensor
  | 0, dev, sensor => (none, dev, sensor)
  | fuel + 1, dev, sensor =>
      let thread := irqThread dev sensor.window
      let sensor := sensor.driveAll thread.line
      match thread.push with
      | some packet => (some packet, thread.dev, sensor)
      | none => irqReceive fuel thread.dev sensor

theorem irqThread_eq {dev : GxfpDev} (probed : Probed dev) (window : Window) :
    irqThread dev window =
      ⟨(espiIrqReadStep dev window).dev,
        (espiIrqReadStep dev window).line ++
          gpioSetReadDone (espiIrqReadStep dev window).dev false,
        if (espiIrqReadStep dev window).ret.isNone && (espiIrqReadStep dev window).complete &&
            (espiIrqReadStep dev window).rxLen != 0 then
          some ((espiIrqReadStep dev window).dev.irq.rxBuf.take (espiIrqReadStep dev window).rxLen)
        else none⟩ := by
  have large : ¬ dev.irq.rxCap < 16 := by
    rw [probed.rxCap]
    decide
  rw [irqThread, if_neg large]

theorem irqThread_more {dev : GxfpDev} (probed : Probed dev) {window : Window}
    {pieces : Nat → List Byte} {total count : Nat}
    (read : WindowRead (espiIrqReadStep dev window) pieces total count)
    (further : (count + 1) * ESPI_CHUNK_MAX < total) :
    irqThread dev window = ⟨(espiIrqReadStep dev window).dev, [true, false, false], none⟩ := by
  obtain ⟨complete, line, -⟩ := read.more further
  rw [irqThread_eq probed, line, complete, gpioSetReadDone_eq read.probed.gpioReadDone]
  simp

theorem irqThread_last {dev : GxfpDev} (probed : Probed dev) {window : Window}
    {pieces : Nat → List Byte} {total count : Nat} (positive : 0 < total)
    (read : WindowRead (espiIrqReadStep dev window) pieces total count)
    (enough : total ≤ (count + 1) * ESPI_CHUNK_MAX) :
    irqThread dev window =
      ⟨(espiIrqReadStep dev window).dev, [true, false],
        some ((joined pieces (count + 1)).take total)⟩ := by
  obtain ⟨complete, rxLen, line, -⟩ := read.last enough
  have buffer := read.buffer
  rw [Nat.min_eq_left enough] at buffer
  have nonzero : (total != 0) = true := bne_iff_ne.mpr (Nat.ne_of_gt positive)
  rw [irqThread_eq probed, line, complete, rxLen, read.ret,
    gpioSetReadDone_eq read.probed.gpioReadDone, buffer]
  simp [nonzero]

/-- Once the next window of a packet will be read into place, the remaining
interrupts complete the packet with one edge each. -/
theorem irqReceive_remaining {total : Nat} (positive : 0 < total) (remaining : Nat) :
    ∀ (dev : GxfpDev) (sensor : Sensor) (count : Nat), Probed dev → sensor.line = false →
      sensor.index = count → chunkCount ESPI_CHUNK_MAX total = count + (remaining + 1) →
      WindowRead (espiIrqReadStep dev sensor.window) sensor.pieceBytes total count →
      (irqReceive (remaining + 1) dev sensor).1 =
        some ((joined sensor.pieceBytes (chunkCount ESPI_CHUNK_MAX total)).take total) ∧
      (irqReceive (remaining + 1) dev sensor).2.2.edges = sensor.edges + (remaining + 1) := by
  have chunkPos : 0 < ESPI_CHUNK_MAX := by decide
  induction remaining with
  | zero =>
      intro dev sensor count probed low _ countEq read
      have enough := ((chunkCount_eq_succ_iff chunkPos).mp countEq).2
      rw [irqReceive, irqThread_last probed positive read enough, Sensor.driveAll_pulse low,
        countEq]
      exact ⟨rfl, rfl⟩
  | succ remaining ih =>
      intro dev sensor count probed low indexEq countEq read
      have further : (count + 1) * ESPI_CHUNK_MAX < total := by
        apply (lt_chunkCount_iff chunkPos _ _).mp
        omega
      obtain ⟨-, -, middle⟩ := read.more further
      rw [irqReceive, irqThread_more probed read further, Sensor.driveAll_pulse_low low]
      have next : WindowRead (espiIrqReadStep (espiIrqReadStep dev sensor.window).dev
          (sensor.pieces (sensor.index + 1))) sensor.pieceBytes total (count + 1) := by
        apply espiIrqReadStep_next read.probed middle sensor.pieceBytes_length
        · rw [indexEq]
          rfl
        · exact read.sofar sensor.pieceBytes_length further
      obtain ⟨packet, edges⟩ :=
        ih _ { sensor with index := sensor.index + 1, edges := sensor.edges + 1 } (count + 1)
          read.probed low (by rw [indexEq]) (by omega) next
      refine ⟨packet, edges.trans ?_⟩
      change sensor.edges + 1 + (remaining + 1) = sensor.edges + (remaining + 1 + 1)
      omega

/-- The interrupt path delivers the whole packet and gives one edge a piece. -/
theorem irqReceive_packet {dev : GxfpDev} (probed : Probed dev) (reset : AssemReset dev)
    {pieces : Nat → Window} {mpLen : Nat}
    (accepted : checkMpHead ((pieces 0).bytes.take 4) = some mpLen) :
    (irqReceive (chunkCount ESPI_CHUNK_MAX (4 + mpLen)) dev (Sensor.presenting pieces)).1 =
        some ((joined (fun index => (pieces index).bytes)
          (chunkCount ESPI_CHUNK_MAX (4 + mpLen))).take (4 + mpLen)) ∧
      (irqReceive (chunkCount ESPI_CHUNK_MAX (4 + mpLen)) dev
        (Sensor.presenting pieces)).2.2.edges = chunkCount ESPI_CHUNK_MAX (4 + mpLen) := by
  have chunkPos : 0 < ESPI_CHUNK_MAX := by decide
  have positive : 0 < 4 + mpLen := by omega
  obtain ⟨last, countEq⟩ : ∃ last, chunkCount ESPI_CHUNK_MAX (4 + mpLen) = last + 1 := by
    apply Nat.exists_eq_succ_of_ne_zero
    exact Nat.ne_of_gt ((lt_chunkCount_iff chunkPos _ _).mpr (by omega))
  have first : WindowRead (espiIrqReadStep dev (Sensor.presenting pieces).window)
      (Sensor.presenting pieces).pieceBytes (4 + mpLen) 0 :=
    espiIrqReadStep_first probed reset accepted rfl
  obtain ⟨packet, edges⟩ := irqReceive_remaining positive last _ _ 0 probed rfl rfl
    (countEq.trans (Nat.zero_add _).symm) first
  rw [countEq] at packet ⊢
  refine ⟨packet, edges.trans ?_⟩
  change 0 + (last + 1) = last + 1
  rw [Nat.zero_add]

/-! ## The synchronous path -/

/-- The length the unchecked head is read as is the one the check returns. -/
theorem checkMpHead_len {buf : List Byte} {mpLen : Nat}
    (checked : checkMpHead (buf.take 4) = some mpLen) :
    le16 (buf.getD 1 0) (buf.getD 2 0) = mpLen := by
  match buf with
  | [] | [_] | [_, _] | [_, _, _] => cases checked
  | flags :: low :: high :: ck :: rest =>
      simp only [List.take_succ_cons, List.take_zero, checkMpHead] at checked
      split at checked
      · cases checked
      · split at checked
        · cases checked
        · split at checked
          · cases checked
          · cases checked
            rfl

theorem espiRxStartPacket_unchecked {dev : GxfpDev} (probed : Probed dev) {window : Window}
    {mpLen rxCap : Nat} {rxBuf : List Byte}
    (accepted : checkMpHead (window.bytes.take 4) = some mpLen) (fits : 4 + mpLen ≤ rxCap) :
    espiRxStartPacket dev rxBuf rxCap false window =
      (memcpyAt rxBuf 0 window.bytes, .ok (4 + mpLen, min (4 + mpLen) ESPI_CHUNK_MAX)) := by
  have headEq : checkMpHead ((memcpyAt rxBuf 0 window.bytes).take 4) = some mpLen := by
    rw [take_memcpyAt_window _ _ (show 4 ≤ ESPI_CHUNK_MAX by decide)]
    exact accepted
  have inside : ¬ (4 + mpLen = 0 ∨ 4 + mpLen > rxCap) := by omega
  simp only [espiRxStartPacket, espiRxReadWindow_eq probed, Bool.false_eq_true, if_false,
    checkMpHead_len headEq, if_neg inside]

/-- The copy loop from the second window on, `count` windows in: it copies to
the end and raises the line before every further window but the first of
these, so it gives one edge less than it copies windows. -/
theorem espiReadAssembleLoop_edges {dev : GxfpDev} (probed : Probed dev) {dstCap total : Nat}
    (fits : total ≤ dstCap) (rounds : Nat) :
    ∀ (count : Nat) (dst : List Byte) (sensor : Sensor), sensor.line = false →
      count * ESPI_CHUNK_MAX < total → total ≤ count * ESPI_CHUNK_MAX + rounds →
      ∃ copied after, espiReadAssembleLoop dev dstCap total rounds (count * ESPI_CHUNK_MAX) dst
          sensor = (.ok copied, after) ∧
        after.line = false ∧
        after.edges + count + 1 = sensor.edges + chunkCount ESPI_CHUNK_MAX total := by
  have chunkPos : 0 < ESPI_CHUNK_MAX := by decide
  induction rounds with
  | zero =>
      intro count dst sensor _ before enough
      omega
  | succ rounds ih =>
      intro count dst sensor low before enough
      have tmpOk : ¬ (!dev.irq.rxTmp) = true := by simp [probed.rxTmp]
      have chunkFits : ¬ count * ESPI_CHUNK_MAX +
          (espiRxChunkCalc (total - count * ESPI_CHUNK_MAX)).chunk > dstCap := by
        change ¬ _ + min (total - count * ESPI_CHUNK_MAX) ESPI_CHUNK_MAX > dstCap
        omega
      rw [espiReadAssembleLoop, if_pos before]
      dsimp only
      rw [if_neg tmpOk, if_neg chunkFits, espiRxReadWindow_eq probed,
        gpioPulseReadDone_eq probed.gpioReadDone]
      dsimp only
      change ∃ copied after, espiReadAssembleLoop dev dstCap total rounds
        (count * ESPI_CHUNK_MAX + min (total - count * ESPI_CHUNK_MAX) ESPI_CHUNK_MAX) _
        (if count * ESPI_CHUNK_MAX + min (total - count * ESPI_CHUNK_MAX) ESPI_CHUNK_MAX < total
          then _ else _) = _ ∧ _
      by_cases further : (count + 1) * ESPI_CHUNK_MAX < total
      · have offEq : count * ESPI_CHUNK_MAX +
            min (total - count * ESPI_CHUNK_MAX) ESPI_CHUNK_MAX = (count + 1) * ESPI_CHUNK_MAX := by
          rw [Nat.succ_mul] at further ⊢
          omega
        rw [offEq, if_pos further, Sensor.driveAll_pulse low]
        obtain ⟨copied, after, loopEq, afterLow, edges⟩ := ih (count + 1) (memcpyAt dst
          (count * ESPI_CHUNK_MAX) (sensor.window.bytes.take
            (espiRxChunkCalc (total - count * ESPI_CHUNK_MAX)).chunk))
          { sensor with index := sensor.index + 1, edges := sensor.edges + 1 } low further
          (by rw [Nat.succ_mul]; omega)
        refine ⟨copied, after, loopEq, afterLow, ?_⟩
        change after.edges + (count + 1) + 1 = sensor.edges + 1 + _ at edges
        omega
      · have offEq : count * ESPI_CHUNK_MAX +
            min (total - count * ESPI_CHUNK_MAX) ESPI_CHUNK_MAX = total := by
          rw [Nat.succ_mul] at further
          omega
        have countEq : chunkCount ESPI_CHUNK_MAX total = count + 1 :=
          (chunkCount_eq_succ_iff chunkPos).mpr ⟨before, Nat.not_lt.mp further⟩
        rw [offEq, if_neg (Nat.lt_irrefl total), countEq]
        cases rounds with
        | zero => exact ⟨_, sensor, rfl, low, rfl⟩
        | succ rounds =>
            rw [espiReadAssembleLoop, if_neg (Nat.lt_irrefl total)]
            exact ⟨_, sensor, rfl, low, rfl⟩

theorem espiRead_eq {dev : GxfpDev} (probed : Probed dev) {rxCap : Nat} (sensor : Sensor)
    (large : ESPI_CHUNK_MAX ≤ rxCap) {mpLen : Nat}
    (accepted : checkMpHead (sensor.window.bytes.take 4) = some mpLen) (fits : 4 + mpLen ≤ rxCap)
    {copied : List Byte} {after : Sensor}
    (loopEq : espiReadAssembleLoop dev rxCap (4 + mpLen) (4 + mpLen)
      (min (4 + mpLen) ESPI_CHUNK_MAX)
      (memcpyAt (List.replicate rxCap 0) 0 sensor.window.bytes) sensor = (.ok copied, after)) :
    espiRead dev rxCap sensor = (.ok (copied, 4 + mpLen), after.driveAll [true, false]) := by
  have chunkPos : 0 < ESPI_CHUNK_MAX := by decide
  have mmioOk : ¬ (!dev.hw.mailboxMmio) = true := by simp [probed.mailboxMmio]
  rw [espiRead, if_neg (by omega), if_neg mmioOk, espiReadAssemble,
    if_neg (Nat.not_lt.mpr large), if_neg mmioOk, if_neg (Nat.not_lt.mpr probed.mailboxSize),
    espiRxStartPacket_unchecked probed accepted fits]
  dsimp only
  rw [loopEq, gpioPulseReadDone_eq probed.gpioReadDone]

/-- A packet that takes more than one window gets one edge too few. -/
theorem espiRead_edges_long {dev : GxfpDev} (probed : Probed dev) {rxCap : Nat}
    (large : ESPI_CHUNK_MAX ≤ rxCap) (pieces : Nat → Window) {mpLen : Nat}
    (accepted : checkMpHead ((pieces 0).bytes.take 4) = some mpLen) (fits : 4 + mpLen ≤ rxCap)
    (long : ESPI_CHUNK_MAX < 4 + mpLen) :
    (espiRead dev rxCap (Sensor.presenting pieces)).2.edges + 1 =
      chunkCount ESPI_CHUNK_MAX (4 + mpLen) := by
  have firstChunk : min (4 + mpLen) ESPI_CHUNK_MAX = 1 * ESPI_CHUNK_MAX := by omega
  obtain ⟨copied, after, loopEq, afterLow, edges⟩ :=
    espiReadAssembleLoop_edges probed fits (4 + mpLen) 1
      (memcpyAt (List.replicate rxCap 0) 0 (Sensor.presenting pieces).window.bytes)
      (Sensor.presenting pieces) rfl (by omega) (by omega)
  rw [← firstChunk] at loopEq
  rw [espiRead_eq probed (Sensor.presenting pieces) large accepted fits loopEq,
    Sensor.driveAll_pulse afterLow]
  change after.edges + 1 + 1 = 0 + _ at edges
  change after.edges + 1 + 1 = _
  omega

/-- A packet of a single window is read whole, with its one edge. -/
theorem espiRead_short {dev : GxfpDev} (probed : Probed dev) {rxCap : Nat}
    (large : ESPI_CHUNK_MAX ≤ rxCap) {pieces : Nat → Window} {mpLen : Nat}
    (accepted : checkMpHead ((pieces 0).bytes.take 4) = some mpLen) (fits : 4 + mpLen ≤ rxCap)
    (short : 4 + mpLen ≤ ESPI_CHUNK_MAX) :
    ∃ rxBuf, (espiRead dev rxCap (Sensor.presenting pieces)).1 = .ok (rxBuf, 4 + mpLen) ∧
      rxBuf.take (4 + mpLen) = (pieces 0).bytes.take (4 + mpLen) ∧
      (espiRead dev rxCap (Sensor.presenting pieces)).2.edges = 1 := by
  have loopEq : espiReadAssembleLoop dev rxCap (4 + mpLen) (4 + mpLen)
      (min (4 + mpLen) ESPI_CHUNK_MAX) (memcpyAt (List.replicate rxCap 0) 0
        (Sensor.presenting pieces).window.bytes) (Sensor.presenting pieces) =
      (.ok (memcpyAt (List.replicate rxCap 0) 0 (Sensor.presenting pieces).window.bytes),
        Sensor.presenting pieces) := by
    rw [Nat.min_eq_left short, Nat.add_comm 4 mpLen, espiReadAssembleLoop,
      if_neg (Nat.lt_irrefl _)]
  rw [espiRead_eq probed (Sensor.presenting pieces) large accepted fits loopEq,
    Sensor.driveAll_pulse rfl]
  exact ⟨_, rfl, take_memcpyAt_window _ _ short, rfl⟩

/-! ## Agreement -/

/-- Both paths deliver the whole packet that `pieces` starts with and give the
sensor one edge for every piece of it. -/
structure ReceivePathsAgree (dev : GxfpDev) (rxCap : Nat) (pieces : Nat → Window) (mpLen : Nat) :
    Prop where
  sync : ∃ rxBuf, (espiRead dev rxCap (Sensor.presenting pieces)).1 = .ok (rxBuf, 4 + mpLen) ∧
    rxBuf.take (4 + mpLen) = (joined (fun index => (pieces index).bytes)
      (chunkCount ESPI_CHUNK_MAX (4 + mpLen))).take (4 + mpLen)
  syncEdges : (espiRead dev rxCap (Sensor.presenting pieces)).2.edges =
    chunkCount ESPI_CHUNK_MAX (4 + mpLen)
  irq : (irqReceive (chunkCount ESPI_CHUNK_MAX (4 + mpLen)) dev (Sensor.presenting pieces)).1 =
    some ((joined (fun index => (pieces index).bytes)
      (chunkCount ESPI_CHUNK_MAX (4 + mpLen))).take (4 + mpLen))
  irqEdges : (irqReceive (chunkCount ESPI_CHUNK_MAX (4 + mpLen)) dev
    (Sensor.presenting pieces)).2.2.edges = chunkCount ESPI_CHUNK_MAX (4 + mpLen)

/-- The two receive paths agree exactly on the packets of a single window. -/
theorem receivePathsAgree_iff {dev : GxfpDev} (probed : Probed dev) (reset : AssemReset dev)
    {rxCap : Nat} (large : ESPI_CHUNK_MAX ≤ rxCap) {pieces : Nat → Window} {mpLen : Nat}
    (accepted : checkMpHead ((pieces 0).bytes.take 4) = some mpLen) (fits : 4 + mpLen ≤ rxCap) :
    ReceivePathsAgree dev rxCap pieces mpLen ↔ 4 + mpLen ≤ ESPI_CHUNK_MAX := by
  constructor
  · intro agree
    by_contra long
    have edges := espiRead_edges_long probed large pieces accepted fits (Nat.not_le.mp long)
    rw [agree.syncEdges] at edges
    exact Nat.succ_ne_self _ edges
  · intro short
    have countEq : chunkCount ESPI_CHUNK_MAX (4 + mpLen) = 0 + 1 := by
      apply (chunkCount_eq_succ_iff (by decide)).mpr
      rw [Nat.zero_mul, Nat.zero_add, Nat.one_mul]
      exact ⟨by omega, short⟩
    obtain ⟨rxBuf, syncEq, bytes, edges⟩ := espiRead_short probed large accepted fits short
    obtain ⟨irqPacket, irqEdges⟩ := irqReceive_packet probed reset accepted
    refine ⟨⟨rxBuf, syncEq, ?_⟩, ?_, irqPacket, irqEdges⟩
    · rw [countEq, joined_one]
      exact bytes
    · rw [countEq]
      exact edges

/-- An empty frame is received alike on both paths of a fresh device. -/
theorem receivePathsAgree_empty_frame :
    ReceivePathsAgree (platformProbe 0x1000 (List.replicate IRQ_RX_CAP 0)) ESPI_CHUNK_MAX
      (fun _ => emptyFrameWindow) 0 := by
  have probed : Probed (platformProbe 0x1000 (List.replicate IRQ_RX_CAP 0)) :=
    platformProbe_probed (by decide) (List.length_replicate ..)
  exact (receivePathsAgree_iff probed (platformProbe_assemReset _ _) (Nat.le_refl _) (by decide)
    (by decide)).mpr (by decide)

/-- The first window of a packet of `0xe01` bytes. -/
def longFrameWindow : Window where
  bytes := [0xA0, 0xfd, 0x0d, 0xaa] ++ List.replicate (ESPI_CHUNK_MAX - 4) 0
  length_eq := by
    rw [List.length_append, List.length_replicate]
    rfl

/-- One byte more than a window: the synchronous path gives one edge for two
pieces. -/
theorem not_receivePathsAgree_long_frame :
    checkMpHead (longFrameWindow.bytes.take 4) = some 0xdfd ∧
      4 + 0xdfd ≤ 0x1000 ∧
      ¬ ReceivePathsAgree (platformProbe 0x1000 (List.replicate IRQ_RX_CAP 0)) 0x1000
        (fun _ => longFrameWindow) 0xdfd := by
  have probed : Probed (platformProbe 0x1000 (List.replicate IRQ_RX_CAP 0)) :=
    platformProbe_probed (by decide) (List.length_replicate ..)
  have accepted : checkMpHead (longFrameWindow.bytes.take 4) = some 0xdfd := by decide
  refine ⟨accepted, by decide, ?_⟩
  intro agree
  have edges := espiRead_edges_long probed (show ESPI_CHUNK_MAX ≤ 0x1000 by decide)
    (fun _ => longFrameWindow) accepted (by decide) (by decide)
  rw [agree.syncEdges] at edges
  exact Nat.succ_ne_self _ edges

end Gxfp.Kernel
