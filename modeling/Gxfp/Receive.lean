import Gxfp.Kernel.Handshake
import Gxfp.Kernel.RxqReaders
import Gxfp.Lib.Packets
import Gxfp.Startup
import Mathlib.Data.List.Induction

/-!
# The receive path end to end

A frame of the sensor comes through the mailbox in windows, one for each
interrupt.  The interrupt thread assembles them under the device lock, releases
it and pushes the packet into the receive queue, from which the library reads
records.  Between these steps anything else may run: the start-up and writers under
the device lock, readers and flushes of the queue.

The assembly state of the device refines the assembler of `Lib.Packets`, and the
queue refines the queue of records, so what a reader gets is what the sensor has
sent, in order and at most once.
-/

namespace Gxfp

open Lib.Bytes
open Lib.Chunks
open Lib.Execution
open Lib.Packets
open Gxfp.Errno
open Gxfp.Kernel
open Gxfp.User

/-! ## The machine -/

/-- The driver with its receive queue; `pending` is the packet of an interrupt
thread that has given up the device lock and has not pushed it yet.  Only the
interrupt thread writes `rx_buf`, so the packet is still what was read under the
lock. -/
structure Receiver where
  tx : Transmitter
  pending : Option (List Byte)
  rxq : Rxq

/-- What can happen next. -/
inductive ReceiverAction
  /-- An interrupt finds the window in the mailbox.  The interrupt is masked until
  its thread has returned. -/
  | interrupt (window : Window)
  /-- The interrupt thread pushes its packet. -/
  | push (tsNs : Nat)
  /-- The driver's own exchanges; the start-up is over before the interrupt is
  enabled, which nothing below needs. -/
  | startup (host : CommandHost)
  | shutdown (host : CommandHost)
  | write (env : WriteEnv) (ubuf : List Byte)
  | callRead (tid : Tid) (count : Nat) (nonblock : Bool)
  | callFlush (tid : Tid)
  | run (tid : Tid) (fault : Bool)

/-- What is seen of a step: the window that was read, and the events of the
queue. -/
inductive ReceiverEvent
  | window (bytes : List Byte)
  | queue (event : RxqEvent)

/-- A step of the queue. -/
def queueStep (state : Receiver) (action : RxqAction) : Receiver × List ReceiverEvent :=
  let out := rxqStep state.rxq action
  ({ state with rxq := out.1 }, out.2.map .queue)

/-- One step. -/
def receiverStep (state : Receiver) : ReceiverAction → Receiver × List ReceiverEvent
  | .interrupt window =>
      match state.pending with
      | some _ => (state, [])
      | none =>
          let thread := irqThread state.tx.dev window
          ({ state with tx := { state.tx with dev := thread.dev }, pending := thread.push },
            [.window window.bytes])
  | .push tsNs =>
      match state.pending with
      | none => (state, [])
      | some buf => queueStep { state with pending := none } (.push buf tsNs)
  | .startup host => ({ state with tx := (startupSequence host ⟨state.tx, []⟩).2.tx }, [])
  | .shutdown host => ({ state with tx := (shutdownSequence host ⟨state.tx, []⟩).tx }, [])
  | .write env ubuf => ({ state with tx := (uapiWrite env state.tx ubuf).2 }, [])
  | .callRead tid count nonblock => queueStep state (.callRead tid count nonblock)
  | .callFlush tid => queueStep state (.callFlush tid)
  | .run tid fault => queueStep state (.run tid fault)

/-- The driver right after probe. -/
def receiverProbe (mailboxSize : Nat) (rxBuf : List Byte) : Receiver :=
  ⟨txProbe mailboxSize rxBuf, none, uapiRegister⟩

/-- The windows that were read. -/
def windowsRead (seen : List ReceiverEvent) : List (List Byte) :=
  seen.filterMap fun
    | .window bytes => some bytes
    | .queue _ => none

/-- The events of the queue. -/
def queueEvents (seen : List ReceiverEvent) : List RxqEvent :=
  seen.filterMap fun
    | .window _ => none
    | .queue event => some event

/-! ## Assembly -/

/-- The length of the packet that a window begins. -/
def announcedLength (window : List Byte) : Option Nat :=
  (checkMpHead (window.take 4)).map fun mpLen => 4 + mpLen

/-- The assembly state of a device and that of the assembler. -/
def Assembles (dev : GxfpDev) : Assembler Byte → Prop
  | none => AssemReset dev
  | some (total, sofar) =>
      ∃ pieces count, (∀ index, (pieces index).length = ESPI_CHUNK_MAX) ∧
        Assembling dev total count ∧ sofar = joined pieces count ∧
        dev.irq.rxBuf.take (count * ESPI_CHUNK_MAX) = sofar

/-- A window that is read into place is gathered. -/
theorem windowRead_gathers {dev : GxfpDev} (probed : Probed dev) {window : Window}
    {pieces : Nat → List Byte} (sized : ∀ index, (pieces index).length = ESPI_CHUNK_MAX)
    {total count : Nat} (positive : 0 < total)
    (read : WindowRead (espiIrqReadStep dev window) pieces total count) :
    Probed (irqThread dev window).dev ∧
      (irqThread dev window).push.toList = (gather total (joined pieces (count + 1))).2 ∧
      Assembles (irqThread dev window).dev (gather total (joined pieces (count + 1))).1 := by
  have length : (joined pieces (count + 1)).length = (count + 1) * ESPI_CHUNK_MAX :=
    joined_length sized (count + 1)
  by_cases further : (count + 1) * ESPI_CHUNK_MAX < total
  · rw [irqThread_more probed read further, gather, if_pos (by rw [length]; exact further)]
    obtain ⟨-, -, middle⟩ := read.more further
    exact ⟨read.probed, rfl, pieces, count + 1, sized, middle, rfl, read.sofar sized further⟩
  · have enough := Nat.not_lt.mp further
    rw [irqThread_last probed positive read enough, gather,
      if_neg (by rw [length]; exact further)]
    obtain ⟨-, -, -, reset⟩ := read.last enough
    exact ⟨read.probed, rfl, reset⟩

/-- Every interrupt is a step of the assembler. -/
theorem irqThread_assembles {dev : GxfpDev} (probed : Probed dev) {state : Assembler Byte}
    (assembles : Assembles dev state) (window : Window) :
    Probed (irqThread dev window).dev ∧
      (irqThread dev window).push.toList = (assemble announcedLength state window.bytes).2 ∧
      Assembles (irqThread dev window).dev (assemble announcedLength state window.bytes).1 := by
  cases state with
  | none =>
      cases checked : checkMpHead (window.bytes.take 4) with
      | none =>
          obtain ⟨ret, reset, nextProbed⟩ := espiIrqReadStep_rejected probed assembles checked
          rw [irqThread_eq probed, ret]
          simp only [assemble, announcedLength, checked, Option.map_none]
          exact ⟨nextProbed, rfl, reset⟩
      | some mpLen =>
          have read : WindowRead (espiIrqReadStep dev window) (fun _ => window.bytes) (4 + mpLen)
              0 := espiIrqReadStep_first probed assembles checked rfl
          have gathers := windowRead_gathers probed (fun _ => window.length_eq) (by omega) read
          rw [Nat.zero_add, joined_one] at gathers
          simp only [assemble, announcedLength, checked, Option.map_some]
          exact gathers
  | some middle =>
      obtain ⟨total, sofar⟩ := middle
      obtain ⟨pieces, count, sized, assembling, rfl, buffer⟩ := assembles
      have before : joined (Function.update pieces count window.bytes) count =
          joined pieces count := by
        unfold joined
        apply List.flatMap_congr
        intro index member
        rw [Function.update_of_ne (Nat.ne_of_lt (List.mem_range.mp member))]
      have nextSized : ∀ index,
          (Function.update pieces count window.bytes index).length = ESPI_CHUNK_MAX := by
        intro index
        by_cases same : index = count
        · rw [same, Function.update_self]
          exact window.length_eq
        · rw [Function.update_of_ne same]
          exact sized index
      have read : WindowRead (espiIrqReadStep dev window)
          (Function.update pieces count window.bytes) total count :=
        espiIrqReadStep_next probed assembling nextSized (Function.update_self ..)
          (buffer.trans before.symm)
      have gathers := windowRead_gathers probed nextSized
        (Nat.lt_of_le_of_lt (Nat.zero_le _) assembling.copied_lt) read
      rw [joined_succ, before, Function.update_self] at gathers
      exact gathers

/-! ## The whole machine -/

/-- What was seen of a run and what it has led to. -/
structure Received (seen : List ReceiverEvent) (state : Receiver) : Prop where
  probed : Probed state.tx.dev
  assembles : Assembles state.tx.dev
    (final (assemble announcedLength) none (windowsRead seen))
  pushed : pushedPackets (queueEvents seen) ++ state.pending.toList =
    events (assemble announcedLength) none (windowsRead seen)
  queue : ∃ spec hand left, Delivers (queueEvents seen) state.rxq spec hand left

theorem windowsRead_append (first second : List ReceiverEvent) :
    windowsRead (first ++ second) = windowsRead first ++ windowsRead second :=
  List.filterMap_append

theorem queueEvents_append (first second : List ReceiverEvent) :
    queueEvents (first ++ second) = queueEvents first ++ queueEvents second :=
  List.filterMap_append

theorem windowsRead_queue (queued : List RxqEvent) :
    windowsRead (queued.map .queue) = [] := by
  induction queued with
  | nil => rfl
  | cons event queued ih => exact ih

theorem queueEvents_queue (queued : List RxqEvent) :
    queueEvents (queued.map .queue) = queued := by
  induction queued with
  | nil => rfl
  | cons event queued ih => exact congrArg _ ih

/-- A step of the queue, with the packet that it pushes. -/
theorem Received.queued {seen : List ReceiverEvent} {state : Receiver}
    (received : Received seen state) (action : RxqAction) (pending : Option (List Byte))
    (pushes : pushedPackets (rxqStep state.rxq action).2 ++ pending.toList =
      state.pending.toList) :
    Received (seen ++ (queueStep { state with pending := pending } action).2)
      (queueStep { state with pending := pending } action).1 := by
  obtain ⟨spec, hand, left, delivers⟩ := received.queue
  have sameWindows : windowsRead (seen ++ (rxqStep state.rxq action).2.map .queue) =
      windowsRead seen := by
    rw [windowsRead_append, windowsRead_queue, List.append_nil]
  have nextEvents : queueEvents (seen ++ (rxqStep state.rxq action).2.map .queue) =
      queueEvents seen ++ (rxqStep state.rxq action).2 := by
    rw [queueEvents_append, queueEvents_queue]
  unfold queueStep
  refine ⟨received.probed, ?_, ?_, ?_⟩
  · dsimp only
    rw [sameWindows]
    exact received.assembles
  · dsimp only
    rw [sameWindows, nextEvents, pushedPackets_append, List.append_assoc, pushes]
    exact received.pushed
  · dsimp only
    rw [nextEvents]
    exact delivers.step action

/-- A step that touches neither the assembly nor the queue. -/
theorem Received.silent {seen : List ReceiverEvent} {state : Receiver}
    (received : Received seen state) : Received (seen ++ []) state := by
  rw [List.append_nil]
  exact received

/-- An interrupt is a step of the assembler. -/
theorem Received.interrupt {seen : List ReceiverEvent} {state : Receiver}
    (received : Received seen state) (window : Window) :
    Received (seen ++ (receiverStep state (.interrupt window)).2)
      (receiverStep state (.interrupt window)).1 := by
  unfold receiverStep
  cases pending : state.pending with
  | some buf => exact received.silent
  | none =>
      obtain ⟨probed, pushed, assembles⟩ :=
        irqThread_assembles received.probed received.assembles window
      have nextWindows : windowsRead (seen ++ [.window window.bytes]) =
          windowsRead seen ++ [window.bytes] := by
        rw [windowsRead_append]
        rfl
      have sameEvents : queueEvents (seen ++ [.window window.bytes]) = queueEvents seen := by
        rw [queueEvents_append]
        exact List.append_nil _
      have before := received.pushed
      rw [pending, Option.toList_none, List.append_nil] at before
      refine ⟨probed, ?_, ?_, ?_⟩
      · rw [nextWindows, final_append]
        exact assembles
      · rw [nextWindows, sameEvents, events_append, before, events_cons, events_nil,
          List.append_nil]
        exact congrArg _ pushed
      · rw [sameEvents]
        exact received.queue

/-- A write changes only the sequence number of the device. -/
theorem uapiWrite_resequenced (env : WriteEnv) (tx : Transmitter) (ubuf : List Byte) :
    Resequenced tx.dev (uapiWrite env tx ubuf).2.dev := by
  rcases uapiWrite_cases env tx ubuf with ⟨errno, refused⟩ | ⟨next, written, taken⟩
  · rw [refused]
    exact .refl _
  · have resequenced := espiWrite_resequenced env.tx tx
      (uapiMpLocal (TxPktHdr.ofBytes ubuf) (ubuf.drop TX_PKT_HDR_SIZE))
    rw [written] at resequenced
    rw [taken]
    exact resequenced

/-- While only the sequence number changes the assembly goes on where it was. -/
theorem Received.resequenced {seen : List ReceiverEvent} {state : Receiver}
    (received : Received seen state) {tx : Transmitter}
    (same : Resequenced state.tx.dev tx.dev) : Received (seen ++ []) { state with tx := tx } := by
  obtain ⟨seq16, devEq⟩ := same
  obtain ⟨probed, assembles, pushed, queue⟩ := received.silent
  refine ⟨?_, ?_, pushed, queue⟩
  · rw [devEq]
    exact ⟨probed.mailboxMmio, probed.mailboxSize, probed.gpioWriteDone, probed.gpioReadDone,
      probed.rxCap, probed.rxBuf, probed.rxTmp⟩
  · rw [devEq]
    cases assembler : final (assemble announcedLength) none (windowsRead (seen ++ [])) with
    | none =>
        rw [assembler] at assembles
        exact ⟨assembles.active, assembles.total, assembles.copied⟩
    | some middle =>
        rw [assembler] at assembles
        obtain ⟨pieces, count, sized, assembling, sofarEq, buffer⟩ := assembles
        refine ⟨pieces, count, sized, ?_, sofarEq, buffer⟩
        exact ⟨assembling.active, assembling.total_eq, assembling.copied_eq, assembling.count_pos,
          assembling.copied_lt, assembling.total_le⟩

/-- Every step keeps what was received. -/
theorem Received.step {seen : List ReceiverEvent} {state : Receiver}
    (received : Received seen state) (action : ReceiverAction) :
    Received (seen ++ (receiverStep state action).2) (receiverStep state action).1 := by
  cases action with
  | interrupt window => exact received.interrupt window
  | push tsNs =>
      unfold receiverStep
      cases pending : state.pending with
      | none => exact received.silent
      | some buf =>
          apply received.queued
          rw [pushedPackets_rxqStep, pending]
          rfl
  | startup host => exact received.resequenced (startupSequence_speaks host ⟨state.tx, []⟩).1
  | shutdown host => exact received.resequenced (shutdownSequence_speaks host ⟨state.tx, []⟩).1.1
  | write env ubuf => exact received.resequenced (uapiWrite_resequenced env state.tx ubuf)
  | callRead | callFlush | run =>
      apply received.queued _ state.pending
      rw [pushedPackets_rxqStep]
      rfl

/-- What is seen of a device from its probe on. -/
def receiverSeen (mailboxSize : Nat) (rxBuf : List Byte) (actions : List ReceiverAction) :
    List ReceiverEvent :=
  events receiverStep (receiverProbe mailboxSize rxBuf) actions

/-- Every run receives. -/
theorem receiverSeen_received {mailboxSize : Nat} {rxBuf : List Byte}
    (large : ESPI_RX_OFF + ESPI_CHUNK_MAX ≤ mailboxSize) (buffer : rxBuf.length = IRQ_RX_CAP)
    (actions : List ReceiverAction) :
    Received (receiverSeen mailboxSize rxBuf actions)
      (final receiverStep (receiverProbe mailboxSize rxBuf) actions) := by
  induction actions using List.reverseRecOn with
  | nil =>
      exact ⟨platformProbe_probed large buffer, platformProbe_assemReset mailboxSize rxBuf, rfl, _,
        _, _, uapiRegister_delivers⟩
  | append_singleton actions action ih =>
      have next := ih.step action
      unfold receiverSeen
      rw [events_append, final_append, events_cons, events_nil, List.append_nil, final_cons,
        final_nil]
      exact next

/-! ## What arrives -/

/-- A packet that a sender presents is one that the queue takes. -/
theorem parseMpFrame_presents {packet : List Byte} {windows : List (List Byte)}
    (presents : Presents announcedLength ESPI_CHUNK_MAX packet windows) :
    (parseMpFrame packet).isSome = true := by
  obtain ⟨⟨first, rest, rfl, announces⟩, sized, begins, -, -⟩ := presents
  obtain ⟨mpLen, checked, length⟩ := Option.map_eq_some_iff.mp announces
  have firstSize : first.length = ESPI_CHUNK_MAX := sized first List.mem_cons_self
  have head : packet.take 4 = first.take 4 := by
    rw [← begins, List.take_take, List.flatten_cons, Nat.min_eq_left (by omega),
      List.take_append_of_le_length (by rw [firstSize]; decide)]
  rw [parseMpFrame_of_checkMpHead (head ▸ checked) (Nat.le_of_eq length)]
  rfl

/-- So are all. -/
theorem parseMpFrame_presentsAll {packets : List (List Byte)}
    {presented : List (List (List Byte))}
    (presents : PresentsAll announcedLength ESPI_CHUNK_MAX packets presented) :
    ∀ packet ∈ packets, (parseMpFrame packet).isSome = true := by
  induction presents with
  | nil => simp
  | cons one others ih =>
      intro packet member
      rcases List.mem_cons.mp member with rfl | later
      · exact parseMpFrame_presents one
      · exact ih packet later

/-- The packets a sensor presents reach the readers of the device, whatever else
runs between and however the sensor fills up its last windows: the results of the
reads are contents of its packets, in order and each at most once.  Where all
windows were read and nothing was dropped, flushed or lost to a fault, the packets
are those returned, the one in a reader's hands, those queued and the one that the
interrupt thread is about to push. -/
theorem receive_faithful {mailboxSize : Nat} {rxBuf : List Byte}
    (large : ESPI_RX_OFF + ESPI_CHUNK_MAX ≤ mailboxSize) (buffer : rxBuf.length = IRQ_RX_CAP)
    (actions : List ReceiverAction) {packets : List (List Byte)}
    {presented : List (List (List Byte))}
    (presents : PresentsAll announcedLength ESPI_CHUNK_MAX packets presented)
    (arrived : windowsRead (receiverSeen mailboxSize rxBuf actions) <+: presented.flatten) :
    (∀ packet ∈ packets, (packetContent packet).isSome = true) ∧
      ((returnedData (queueEvents (receiverSeen mailboxSize rxBuf actions))).map
        readContent).Sublist (packets.map packetContent) ∧
      ((∀ event ∈ queueEvents (receiverSeen mailboxSize rxBuf actions), Lossless event) →
        windowsRead (receiverSeen mailboxSize rxBuf actions) = presented.flatten →
        ∃ hand waiting,
          ((final receiverStep (receiverProbe mailboxSize rxBuf) actions).rxq.mutex = none →
            hand = []) ∧
          (final receiverStep (receiverProbe mailboxSize rxBuf) actions).rxq.fifo.items =
            tapFormat.stream waiting ∧
          packets.map packetContent =
            (returnedData (queueEvents (receiverSeen mailboxSize rxBuf actions))).map readContent ++
              (hand ++ waiting).map (fun record : TapRecord => readContent record.encode) ++
              (final receiverStep (receiverProbe mailboxSize rxBuf) actions).pending.toList.map
                packetContent) := by
  have received := receiverSeen_received large buffer actions
  have parsed := parseMpFrame_presentsAll presents
  obtain ⟨spec, hand, left, delivers⟩ := received.queue
  obtain ⟨rest, split⟩ := arrived
  have emitted := (assemble_presented presents).1
  rw [← split, events_append, ← received.pushed] at emitted
  refine ⟨?_, ?_, ?_⟩
  · intro packet member
    rw [packetContent, Option.isSome_map]
    exact parsed packet member
  · apply delivers.returned.trans
    rw [← emitted, List.append_assoc, List.map_append]
    exact List.sublist_append_left _ _
  · intro lossless whole
    have nothing : rest = [] := List.self_eq_append_right.mp (whole.trans split.symm)
    rw [nothing, events_nil, List.append_nil] at emitted
    refine ⟨hand, spec.queue, delivers.hand_eq_nil, delivers.related.items, ?_⟩
    rw [← emitted, List.map_append, delivers.complete lossless]
    intro buf member
    apply parsed
    rw [← emitted]
    exact List.mem_append_left _ member

/-- A frame of type A without payload. -/
def emptyFrame : List Byte := [0xA0, 0x00, 0x00, 0xA0]

theorem emptyFrame_presented :
    PresentsAll announcedLength ESPI_CHUNK_MAX [emptyFrame] [[emptyFrameWindow.bytes]] := by
  refine .cons ⟨⟨_, [], rfl, rfl⟩, ?_, rfl, by decide, by decide⟩ .nil
  intro window member
  rw [List.mem_singleton.mp member]
  exact emptyFrameWindow.length_eq

/-- What a thread does with the queue. -/
def readerAction : RxqAction → Option ReceiverAction
  | .push _ _ => none
  | .callRead tid count nonblock => some (.callRead tid count nonblock)
  | .callFlush tid => some (.callFlush tid)
  | .run tid fault => some (.run tid fault)

/-- Threads see the queue alone. -/
theorem events_readerAction (state : Receiver) (actions : List RxqAction)
    (readers : List ReceiverAction) (same : actions.map readerAction = readers.map some) :
    events receiverStep state readers = (events rxqStep state.rxq actions).map .queue := by
  induction actions generalizing state readers with
  | nil =>
      cases readers with
      | nil => rfl
      | cons reader readers => cases same
  | cons action actions ih =>
      cases readers with
      | nil => cases same
      | cons reader readers =>
          obtain ⟨first, others⟩ := List.cons.inj same
          have stepped : receiverStep state reader = queueStep state action := by
            cases action with
            | push buf tsNs => cases first
            | callRead tid count nonblock | callFlush tid | run tid fault =>
                cases first
                rfl
          rw [events_cons, events_cons, stepped, ih _ _ others, List.map_append]
          rfl

/-- A frame arrives and a thread reads it. -/
def oneRead : List ReceiverAction :=
  [.interrupt emptyFrameWindow, .push 0, .callRead 1 64 false] ++
    List.replicate 7 (.run 1 false)

/-- The record of the frame. -/
def emptyRecord : TapRecord :=
  ⟨MP_TYPE_A, 0, [], by decide⟩

theorem receiverSeen_oneRead :
    receiverSeen 0x1000 (List.replicate IRQ_RX_CAP 0) oneRead =
      [.window emptyFrameWindow.bytes, .queue (.push emptyFrame (.queued emptyRecord)),
        .queue (.popped 1 emptyRecord.encode),
        .queue (.returned 1 (.data emptyRecord.encode))] := by
  have probed : Probed (platformProbe 0x1000 (List.replicate IRQ_RX_CAP 0)) :=
    platformProbe_probed (by decide) (List.length_replicate ..)
  obtain ⟨-, pushed, -⟩ := irqThread_assembles probed
    (show Assembles _ none from platformProbe_assemReset 0x1000 _) emptyFrameWindow
  have pending : (irqThread (platformProbe 0x1000 (List.replicate IRQ_RX_CAP 0))
      emptyFrameWindow).push = some emptyFrame := by
    have emitted := (assemble_presented emptyFrame_presented).1
    rw [List.flatten_cons, List.flatten_nil, List.append_nil, events_cons, events_nil,
      List.append_nil, ← pushed] at emitted
    exact Option.toList_eq_singleton_iff.mp emitted
  have stepped : receiverStep (receiverProbe 0x1000 (List.replicate IRQ_RX_CAP 0))
      (.interrupt emptyFrameWindow) =
        (⟨⟨(irqThread (platformProbe 0x1000 (List.replicate IRQ_RX_CAP 0)) emptyFrameWindow).dev,
          [], []⟩, some emptyFrame, uapiRegister⟩, [.window emptyFrameWindow.bytes]) := by
    rw [← pending]
    rfl
  unfold receiverSeen oneRead
  rw [List.cons_append, events_cons, stepped]
  generalize (irqThread (platformProbe 0x1000 (List.replicate IRQ_RX_CAP 0)) emptyFrameWindow).dev
    = dev
  have queued : events rxqStep uapiRegister
      ([.push emptyFrame 0, .callRead 1 64 false] ++ List.replicate 7 (.run 1 false)) =
        [.push emptyFrame (.queued emptyRecord), .popped 1 emptyRecord.encode,
          .returned 1 (.data emptyRecord.encode)] := by
    decide +kernel
  rw [List.cons_append, events_cons] at queued
  have mapped := congrArg (List.map ReceiverEvent.queue) queued
  rw [List.map_append] at mapped
  rw [List.cons_append, List.nil_append, List.cons_append, events_cons,
    events_readerAction _ ([.callRead 1 64 false] ++ List.replicate 7 (.run 1 false)) _ rfl]
  exact congrArg (ReceiverEvent.window emptyFrameWindow.bytes :: ·) mapped

/-- The read returns the content of the frame. -/
theorem receive_faithful_one_read :
    (returnedData (queueEvents (receiverSeen 0x1000 (List.replicate IRQ_RX_CAP 0) oneRead))).map
        readContent = [some (10, [])] ∧
      ((returnedData (queueEvents (receiverSeen 0x1000 (List.replicate IRQ_RX_CAP 0) oneRead))).map
        readContent).Sublist ([emptyFrame].map packetContent) := by
  constructor
  · rw [receiverSeen_oneRead]
    exact congrArg (fun content => [content]) (readContent_encode emptyRecord)
  · apply (receive_faithful (by decide) (List.length_replicate ..) oneRead emptyFrame_presented
      ?_).2.1
    rw [receiverSeen_oneRead]
    exact List.prefix_refl _

end Gxfp
