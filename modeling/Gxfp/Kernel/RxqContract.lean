import Gxfp.Kernel.Rxq
import Gxfp.User.Dev

/-!
# The record-queue contract of `/dev/gxfp`

`RecordQueue` says what the device file is for: a bounded queue of whole
records, each of which leaves it once, at the head, into the hands of one
reader.  The machine of `Gxfp.Kernel.Rxq`, which works on bytes and takes the
length of a record and the record itself in two critical sections, is shown to
produce only events that this queue accepts, for every interleaving.

The relation between the two levels gives every thread an assertion at its
program counter.  A reader past the peek holds `rxq_mutex`, and only a holder
pops or flushes, so the record it measured is still the first one.
-/

namespace Gxfp.Kernel

open Lib.Bytes
open Lib.Execution
open Gxfp.Errno
open Gxfp.User

/-! ## The abstract queue -/

/-- Whole records, and the record each reader has taken but not yet returned. -/
structure RecordQueue where
  queue : List TapRecord
  held : Tid → Option TapRecord

namespace RecordQueue

/-- The queue of a freshly registered device. -/
def empty : RecordQueue :=
  ⟨[], fun _ => none⟩

/-- Free room in bytes. -/
def free (spec : RecordQueue) : Nat :=
  RXQ_FIFO_BYTES - (tapFormat.stream spec.queue).length

end RecordQueue

/-- `record` carries the MP type and the payload of the packet in `buf`. -/
def fromPacket (buf : List Byte) (record : TapRecord) : Bool :=
  match parseMpFrame buf with
  | some mp => record.type == mp.flags >>> 4 && record.payload == mp.payload
  | none => false

/-- The results a reader may return, given the record it has taken.  A record
is lost to its reader only by a fault of the user buffer; every other error is
returned with nothing taken, and `-EIO` is never returned. -/
def returnable : Option TapRecord → ReadResult → Bool
  | some record, .data bytes => bytes == record.encode
  | some _, .error errno => errno == EFAULT
  | none, .zero => true
  | none, .error errno => errno == EAGAIN || errno == EMSGSIZE || errno == ENOMEM || errno == EINTR
  | _, _ => false

/-- One event of the abstract queue; `none` is an event it never shows. -/
def RecordQueue.accept (spec : RecordQueue) : RxqEvent → Option RecordQueue
  | .push buf .ignored => if (parseMpFrame buf).isNone then some spec else none
  | .push buf (.dropped record) =>
      if fromPacket buf record ∧ spec.free < record.encode.length then some spec else none
  | .push buf (.queued record) =>
      if fromPacket buf record ∧ record.encode.length ≤ spec.free then
        some { spec with queue := spec.queue ++ [record] }
      else
        none
  | .popped tid bytes =>
      match spec.queue with
      | [] => none
      | record :: rest =>
          if bytes = record.encode ∧ spec.held tid = none then
            some ⟨rest, Function.update spec.held tid (some record)⟩
          else
            none
  | .flushed => some { spec with queue := [] }
  | .returned tid result =>
      if returnable (spec.held tid) result then
        some { spec with held := Function.update spec.held tid none }
      else
        none

/-! ## Parsed packets -/

/-- The `U32_MAX` check of the push never fails: the record of a packet exists
and carries its type and payload. -/
theorem tapRecordOf_parsed {buf : List Byte} {mp : MpFrameParsed}
    (parsed : parseMpFrame buf = some mp) (tsNs : Nat) :
    ∃ record, tapRecordOf mp tsNs = some record ∧ fromPacket buf record = true := by
  have bounded : mp.payload.length < 4294967296 :=
    (parseMpFrame_payload_lt parsed).trans (by decide)
  refine ⟨⟨mp.flags >>> 4, tsNs, mp.payload, bounded⟩, ?_, ?_⟩
  · rw [tapRecordOf, dif_pos bounded]
  · simp [fromPacket, parsed]

/-! ## The simulation relation -/

/-- What a thread knows at its program counter. -/
def ThreadInv (mutex : Option Tid) (spec : RecordQueue) (tid : Tid) : RxqPc → Prop
  | .idle | .readLock _ _ | .flushLock => mutex ≠ some tid ∧ spec.held tid = none
  | .readWait _ _ | .readSleep _ _ | .flushReset | .flushUnlock =>
      mutex = some tid ∧ spec.held tid = none
  | .readPeek _ => mutex = some tid ∧ spec.held tid = none ∧ spec.queue ≠ []
  | .readAlloc need | .readPop need =>
      mutex = some tid ∧ spec.held tid = none ∧
        ∃ record rest, spec.queue = record :: rest ∧ need = record.encode.length
  | .readCopy need tmp =>
      mutex = some tid ∧ ∃ record, spec.held tid = some record ∧ tmp = record.encode ∧
        need = record.encode.length
  | .readUnlock result => mutex = some tid ∧ returnable (spec.held tid) result = true

/-- The byte machine in step with the record queue. -/
structure Related (rxq : Rxq) (spec : RecordQueue) : Prop where
  inited : rxq.inited = true
  size : rxq.fifo.size = RXQ_FIFO_BYTES
  items : rxq.fifo.items = tapFormat.stream spec.queue
  thread : ∀ tid, ThreadInv rxq.mutex spec tid (rxq.pc tid)

theorem Related.avail {rxq : Rxq} {spec : RecordQueue} (related : Related rxq spec) :
    rxq.fifo.avail = spec.free := by
  rw [Lib.Fifo.avail, related.size, related.items]
  rfl

/-- An empty byte queue means an empty record queue. -/
theorem Related.isEmpty_iff {rxq : Rxq} {spec : RecordQueue} (related : Related rxq spec) :
    rxq.fifo.isEmpty = true ↔ spec.queue = [] := by
  rw [Lib.Fifo.isEmpty, related.items, List.isEmpty_iff, tapFormat.stream_eq_nil_iff]

/-- A push only adds records behind those a reader may have measured. -/
theorem ThreadInv.append {mutex : Option Tid} {spec : RecordQueue} {tid : Tid} {pc : RxqPc}
    (inv : ThreadInv mutex spec tid pc) (record : TapRecord) :
    ThreadInv mutex { spec with queue := spec.queue ++ [record] } tid pc := by
  cases pc with
  | readPeek count => exact ⟨inv.1, inv.2.1, by simp⟩
  | readAlloc need | readPop need =>
      obtain ⟨owner, free, first, rest, queueEq, needEq⟩ := inv
      exact ⟨owner, free, first, rest ++ [record], by simp [queueEq], needEq⟩
  | _ => exact inv

/-- While another thread owns the mutex a thread only relies on the record it
does not hold. -/
theorem ThreadInv.other {mutex next : Option Tid} {spec new : RecordQueue} {tid owner : Tid}
    {pc : RxqPc} (inv : ThreadInv mutex spec tid pc) (owned : mutex = some owner)
    (different : tid ≠ owner) (nextOther : next ≠ some tid)
    (heldEq : new.held tid = spec.held tid) : ThreadInv next new tid pc := by
  have notOwner : mutex ≠ some tid := by
    intro same
    exact different (Option.some.inj (same.symm.trans owned))
  cases pc with
  | idle | readLock | flushLock => exact ⟨nextOther, heldEq.trans inv.2⟩
  | readWait | readSleep | readPeek | readAlloc | readPop | readCopy | readUnlock | flushReset
  | flushUnlock => exact absurd inv.1 notOwner

/-- Taking a free mutex does not disturb the other threads. -/
theorem ThreadInv.acquired {spec : RecordQueue} {tid owner : Tid} {pc : RxqPc}
    (inv : ThreadInv none spec tid pc) (different : tid ≠ owner) :
    ThreadInv (some owner) spec tid pc := by
  have nextOther : some owner ≠ some tid := by
    intro same
    exact different (Option.some.inj same).symm
  cases pc with
  | idle | readLock | flushLock => exact ⟨nextOther, inv.2⟩
  | readWait | readSleep | readPeek | readAlloc | readPop | readCopy | readUnlock | flushReset
  | flushUnlock => exact absurd inv.1 (Option.some_ne_none tid).symm

/-- Moving one thread to a program counter whose assertion holds. -/
theorem Related.goto {rxq : Rxq} {spec : RecordQueue} {tid : Tid} (pc : RxqPc)
    (related : Related rxq spec) (inv : ThreadInv rxq.mutex spec tid pc) :
    Related (rxq.goto tid pc) spec := by
  refine ⟨related.inited, related.size, related.items, ?_⟩
  intro other
  change ThreadInv rxq.mutex spec other (Function.update rxq.pc tid pc other)
  by_cases same : other = tid
  · subst other
    rw [Function.update_self]
    exact inv
  · rw [Function.update_of_ne same]
    exact related.thread other

/-- Moving one thread into the mutex it found free. -/
theorem Related.lock {rxq : Rxq} {spec : RecordQueue} {tid : Tid} (pc : RxqPc)
    (related : Related rxq spec) (unowned : rxq.mutex = none)
    (inv : ThreadInv (some tid) spec tid pc) :
    Related { rxq.goto tid pc with mutex := some tid } spec := by
  refine ⟨related.inited, related.size, related.items, ?_⟩
  intro other
  change ThreadInv (some tid) spec other (Function.update rxq.pc tid pc other)
  by_cases same : other = tid
  · subst other
    rw [Function.update_self]
    exact inv
  · rw [Function.update_of_ne same]
    have otherInv := related.thread other
    rw [unowned] at otherInv
    exact otherInv.acquired same

/-- The owner of the mutex changes the queue, and moves on or lets the mutex
go. -/
theorem Related.owner {rxq : Rxq} {spec new : RecordQueue} {tid : Tid} {pc : RxqPc}
    {fifo : Lib.Fifo Byte} {mutex : Option Tid} (related : Related rxq spec)
    (owned : rxq.mutex = some tid) (size : fifo.size = RXQ_FIFO_BYTES)
    (items : fifo.items = tapFormat.stream new.queue)
    (released : ∀ other, other ≠ tid → mutex ≠ some other)
    (heldEq : ∀ other, other ≠ tid → new.held other = spec.held other)
    (inv : ThreadInv mutex new tid pc) :
    Related ⟨fifo, rxq.inited, mutex, Function.update rxq.pc tid pc⟩ new := by
  refine ⟨related.inited, size, items, ?_⟩
  intro other
  change ThreadInv mutex new other (Function.update rxq.pc tid pc other)
  by_cases same : other = tid
  · subst other
    rw [Function.update_self]
    exact inv
  · rw [Function.update_of_ne same]
    exact (related.thread other).other owned same (released other same) (heldEq other same)

/-! ## One step of each kind -/

/-- The events of a step are accepted, and the two levels stay in step. -/
def Simulated (spec : RecordQueue) (out : Rxq × List RxqEvent) : Prop :=
  ∃ next, acceptAll RecordQueue.accept spec out.2 = some next ∧ Related out.1 next

theorem Related.silent {rxq : Rxq} {spec : RecordQueue} (related : Related rxq spec) :
    Simulated spec (rxq, []) :=
  ⟨spec, rfl, related⟩

theorem push_simulated {rxq : Rxq} {spec : RecordQueue} (related : Related rxq spec)
    (buf : List Byte) (tsNs : Nat) : Simulated spec (rxqStep rxq (.push buf tsNs)) := by
  simp only [rxqStep, uapiRxqPush, related.inited, if_true]
  cases parsed : parseMpFrame buf with
  | none =>
      refine ⟨spec, ?_, related⟩
      simp [RecordQueue.accept, parsed]
  | some mp =>
      obtain ⟨record, recordEq, carried⟩ := tapRecordOf_parsed parsed tsNs
      simp only [Option.bind_some, recordEq]
      by_cases full : rxq.fifo.avail < TAP_HDR_SIZE + record.payload.length
      · rw [if_pos full]
        rw [related.avail, ← record.encode_length] at full
        refine ⟨spec, ?_, related⟩
        simp [RecordQueue.accept, carried, full]
      · rw [if_neg full]
        have room : record.encode.length ≤ spec.free := by
          rw [← related.avail, record.encode_length]
          exact Nat.not_lt.mp full
        have fits : record.hdr.bytes.length + record.payload.length ≤ rxq.fifo.avail := by
          rw [record.hdr.bytes_length]
          exact Nat.not_lt.mp full
        refine ⟨{ spec with queue := spec.queue ++ [record] }, ?_, ?_⟩
        · simp [RecordQueue.accept, carried, room]
        · refine ⟨rfl, related.size, ?_, ?_⟩
          · change ((rxq.fifo.put record.hdr.bytes).put record.payload).items = _
            rw [Lib.Fifo.put_put_items fits, related.items, tapFormat.stream_append,
              tapFormat.stream_singleton]
            rfl
          · intro tid
            exact (related.thread tid).append record

theorem callRead_simulated {rxq : Rxq} {spec : RecordQueue} (related : Related rxq spec)
    (tid : Tid) (count : Nat) (nonblock : Bool) :
    Simulated spec (rxqStep rxq (.callRead tid count nonblock)) := by
  simp only [rxqStep]
  by_cases busy : rxq.pc tid ≠ .idle
  · rw [if_pos busy]
    exact related.silent
  · rw [if_neg busy, related.inited]
    have inv := related.thread tid
    rw [not_not.mp busy] at inv
    by_cases zero : count = 0
    · simp only [zero, Bool.not_true, Bool.false_eq_true, if_false, if_true]
      refine ⟨{ spec with held := Function.update spec.held tid none }, ?_, ?_⟩
      · simp [RecordQueue.accept, returnable, inv.2]
      · rw [← inv.2, Function.update_eq_self]
        exact related
    · simp only [zero, Bool.not_true, Bool.false_eq_true, if_false]
      exact (related.goto (.readLock count nonblock) inv).silent

theorem callFlush_simulated {rxq : Rxq} {spec : RecordQueue} (related : Related rxq spec)
    (tid : Tid) : Simulated spec (rxqStep rxq (.callFlush tid)) := by
  simp only [rxqStep]
  by_cases busy : rxq.pc tid ≠ .idle
  · rw [if_pos busy]
    exact related.silent
  · rw [if_neg busy]
    have inv := related.thread tid
    rw [not_not.mp busy] at inv
    exact (related.goto .flushLock inv).silent

/-- After the wait the queue is not empty. -/
theorem uapiWaitNonempty_inv {rxq : Rxq} {spec : RecordQueue} (related : Related rxq spec)
    {tid : Tid} (owned : rxq.mutex = some tid) (unheld : spec.held tid = none)
    (count : Nat) (nonblock : Bool) :
    ThreadInv rxq.mutex spec tid (uapiWaitNonempty rxq count nonblock) := by
  unfold uapiWaitNonempty
  simp only [related.inited, Bool.not_true, Bool.false_eq_true, if_false]
  by_cases nonempty : spec.queue = []
  · have isEmpty := related.isEmpty_iff.mpr nonempty
    simp only [isEmpty, Bool.not_true, Bool.false_eq_true, if_false]
    cases nonblock with
    | true => exact ⟨owned, by simp [unheld, returnable]⟩
    | false => exact ⟨owned, unheld⟩
  · have notEmpty : rxq.fifo.isEmpty = false := by
      rw [Bool.eq_false_iff]
      exact fun empty => nonempty (related.isEmpty_iff.mp empty)
    simp only [notEmpty, Bool.not_false, if_true]
    exact ⟨owned, unheld, nonempty⟩

/-- The peek measures the first record, and none of its `-EIO` exits is
taken. -/
theorem uapiPeekNeed_inv {rxq : Rxq} {spec : RecordQueue} (related : Related rxq spec)
    {tid : Tid} (owned : rxq.mutex = some tid) (unheld : spec.held tid = none)
    (nonempty : spec.queue ≠ []) (count : Nat) :
    ThreadInv rxq.mutex spec tid (uapiPeekNeed rxq count) := by
  obtain ⟨record, rest, queueEq⟩ := List.exists_cons_of_ne_nil nonempty
  have itemsEq : rxq.fifo.items = tapFormat.stream (record :: rest) := by
    rw [related.items, queueEq]
  have headerLe : TAP_HDR_SIZE ≤ rxq.fifo.items.length := by
    rw [itemsEq]
    exact tapFormat.headerSize_le_stream_length
  have peekLength : (rxq.fifo.peek TAP_HDR_SIZE).length = TAP_HDR_SIZE :=
    (List.length_take_of_le headerLe)
  -- the header of the stream is the header of its first record
  have peekEq : rxq.fifo.peek TAP_HDR_SIZE = record.hdr.bytes ++ [] := by
    rw [Lib.Fifo.peek, itemsEq, tapFormat.stream_cons, List.append_nil]
    change List.take TAP_HDR_SIZE ((record.hdr.bytes ++ record.payload) ++ _) = _
    rw [List.append_assoc, ← record.hdr.bytes_length, List.take_left]
  have needEq : TAP_HDR_SIZE + (TapHdr.ofBytes (rxq.fifo.peek TAP_HDR_SIZE)).len =
      record.encode.length := by
    rw [peekEq, TapHdr.ofBytes_len, record.encode_length]
    exact congrArg (TAP_HDR_SIZE + ·) (Nat.mod_eq_of_lt record.payload_lt)
  have whole : record.encode.length ≤ rxq.fifo.items.length := by
    rw [itemsEq, tapFormat.stream_cons, List.length_append]
    exact Nat.le_add_right _ _
  unfold uapiPeekNeed
  simp only [related.inited, Bool.not_true, Bool.false_eq_true, if_false, Lib.Fifo.len,
    Nat.not_lt.mpr headerLe, peekLength, ne_eq, not_true_eq_false, needEq, Nat.not_lt.mpr whole]
  by_cases short : count < record.encode.length
  · rw [if_pos short]
    exact ⟨owned, by simp [unheld, returnable]⟩
  · rw [if_neg short]
    exact ⟨owned, unheld, record, rest, queueEq, rfl⟩

/-- The pop takes exactly the measured record. -/
theorem readPop_simulated {rxq : Rxq} {spec : RecordQueue} (related : Related rxq spec)
    {tid : Tid} {need : Nat} (inv : ThreadInv rxq.mutex spec tid (.readPop need)) :
    Simulated spec ({ rxq.goto tid (.readCopy need (rxq.fifo.peek need)) with
      fifo := rxq.fifo.drop need }, [.popped tid (rxq.fifo.peek need)]) := by
  obtain ⟨owned, unheld, record, rest, queueEq, rfl⟩ := inv
  have itemsEq : rxq.fifo.items = tapFormat.stream (record :: rest) := by
    rw [related.items, queueEq]
  have peekEq : rxq.fifo.peek record.encode.length = record.encode := by
    rw [Lib.Fifo.peek, itemsEq]
    exact tapFormat.take_stream_cons record rest
  refine ⟨⟨rest, Function.update spec.held tid (some record)⟩, ?_, ?_⟩
  · simp [RecordQueue.accept, queueEq, peekEq, unheld]
  · rw [peekEq]
    refine related.owner owned related.size ?_ ?_ ?_ ?_
    · rw [Lib.Fifo.drop_items, itemsEq]
      exact tapFormat.drop_stream_cons record rest
    · intro other different same
      exact different (Option.some.inj (same.symm.trans owned))
    · intro other different
      exact Function.update_of_ne different _ _
    · exact ⟨owned, record, Function.update_self _ _ _, rfl, rfl⟩

/-- Leaving a call with a result the abstract queue allows. -/
theorem readUnlock_simulated {rxq : Rxq} {spec : RecordQueue} (related : Related rxq spec)
    {tid : Tid} {result : ReadResult}
    (inv : ThreadInv rxq.mutex spec tid (.readUnlock result)) :
    Simulated spec (rxq.unlock tid, [.returned tid result]) := by
  obtain ⟨owned, allowed⟩ := inv
  refine ⟨{ spec with held := Function.update spec.held tid none }, ?_, ?_⟩
  · simp [RecordQueue.accept, allowed]
  · refine related.owner owned related.size related.items ?_ ?_ ?_
    · intro other _
      exact (Option.some_ne_none other).symm
    · intro other different
      exact Function.update_of_ne different _ _
    · exact ⟨(Option.some_ne_none tid).symm, Function.update_self _ _ _⟩

theorem flushReset_simulated {rxq : Rxq} {spec : RecordQueue} (related : Related rxq spec)
    {tid : Tid} (inv : ThreadInv rxq.mutex spec tid .flushReset) :
    Simulated spec ({ rxq.goto tid .flushUnlock with fifo := rxq.fifo.reset }, [.flushed]) := by
  obtain ⟨owned, unheld⟩ := inv
  refine ⟨{ spec with queue := [] }, rfl, ?_⟩
  refine related.owner owned related.size rfl ?_ (fun _ _ => rfl) ⟨owned, unheld⟩
  intro other different same
  exact different (Option.some.inj (same.symm.trans owned))

theorem flushUnlock_simulated {rxq : Rxq} {spec : RecordQueue} (related : Related rxq spec)
    {tid : Tid} (inv : ThreadInv rxq.mutex spec tid .flushUnlock) :
    Simulated spec (rxq.unlock tid, []) := by
  obtain ⟨owned, unheld⟩ := inv
  refine ⟨spec, rfl, ?_⟩
  refine related.owner owned related.size related.items ?_ (fun _ _ => rfl) ?_
  · intro other _
    exact (Option.some_ne_none other).symm
  · exact ⟨(Option.some_ne_none tid).symm, unheld⟩

/-- A thread that was turned away before it had the mutex. -/
theorem interrupted_simulated {rxq : Rxq} {spec : RecordQueue} (related : Related rxq spec)
    {tid : Tid} (inv : ThreadInv rxq.mutex spec tid .idle) :
    Simulated spec (rxq.goto tid .idle, [.returned tid (.error EINTR)]) := by
  refine ⟨{ spec with held := Function.update spec.held tid none }, ?_, ?_⟩
  · simp [RecordQueue.accept, returnable, inv.2]
  · rw [← inv.2, Function.update_eq_self]
    exact related.goto .idle inv

theorem thread_simulated {rxq : Rxq} {spec : RecordQueue} (related : Related rxq spec)
    (tid : Tid) (fault : Bool) : Simulated spec (threadStep rxq tid fault) := by
  have inv := related.thread tid
  unfold threadStep
  cases pcEq : rxq.pc tid with
  | idle => exact related.silent
  | readLock count nonblock =>
      rw [pcEq] at inv
      dsimp only
      split
      · exact interrupted_simulated related inv
      · split
        · exact related.silent
        · rename_i unowned
          have mutexEq : rxq.mutex = none := Option.not_isSome_iff_eq_none.mp unowned
          exact (related.lock (.readWait count nonblock) mutexEq ⟨rfl, inv.2⟩).silent
  | readWait count nonblock =>
      rw [pcEq] at inv
      exact (related.goto _ (uapiWaitNonempty_inv related inv.1 inv.2 count nonblock)).silent
  | readSleep count nonblock =>
      rw [pcEq] at inv
      dsimp only
      split
      · exact (related.goto (.readUnlock (.error EINTR))
          ⟨inv.1, by simp [inv.2, returnable]⟩).silent
      · split
        · exact (related.goto (.readWait count nonblock) inv).silent
        · exact related.silent
  | readPeek count =>
      rw [pcEq] at inv
      exact (related.goto _ (uapiPeekNeed_inv related inv.1 inv.2.1 inv.2.2 count)).silent
  | readAlloc need =>
      rw [pcEq] at inv
      dsimp only
      split
      · exact (related.goto (.readUnlock (.error ENOMEM))
          ⟨inv.1, by simp [inv.2.1, returnable]⟩).silent
      · exact (related.goto (.readPop need) inv).silent
  | readPop need =>
      rw [pcEq] at inv
      simp only [related.inited, Bool.not_true, Bool.false_eq_true, if_false]
      have popped := readPop_simulated related inv
      simpa only [related.inited] using popped
  | readCopy need tmp =>
      rw [pcEq] at inv
      obtain ⟨owned, record, heldEq, rfl, rfl⟩ := inv
      simp only [ne_eq, not_true_eq_false, if_false]
      split
      · exact (related.goto (.readUnlock (.error EFAULT))
          ⟨owned, by simp [heldEq, returnable]⟩).silent
      · exact (related.goto (.readUnlock (.data record.encode))
          ⟨owned, by simp [heldEq, returnable]⟩).silent
  | readUnlock result =>
      rw [pcEq] at inv
      exact readUnlock_simulated related inv
  | flushLock =>
      rw [pcEq] at inv
      dsimp only
      split
      · exact (related.goto .idle inv).silent
      · split
        · exact related.silent
        · rename_i unowned
          have mutexEq : rxq.mutex = none := Option.not_isSome_iff_eq_none.mp unowned
          exact (related.lock .flushReset mutexEq ⟨rfl, inv.2⟩).silent
  | flushReset =>
      rw [pcEq] at inv
      dsimp only
      rw [if_pos related.inited]
      exact flushReset_simulated related inv
  | flushUnlock =>
      rw [pcEq] at inv
      exact flushUnlock_simulated related inv

/-- Every step of the byte machine is a step of the record queue. -/
theorem rxqStep_simulated (rxq : Rxq) (action : RxqAction) (spec : RecordQueue)
    (related : Related rxq spec) : Simulated spec (rxqStep rxq action) := by
  cases action with
  | push buf tsNs => exact push_simulated related buf tsNs
  | callRead tid count nonblock => exact callRead_simulated related tid count nonblock
  | callFlush tid => exact callFlush_simulated related tid
  | run tid fault => exact thread_simulated related tid fault

theorem uapiRegister_related : Related uapiRegister RecordQueue.empty where
  inited := rfl
  size := rfl
  items := rfl
  thread := fun tid => ⟨(Option.some_ne_none tid).symm, rfl⟩

/-! ## What accepted events say -/

/-- The records pushed into the queue, in order. -/
def queuedRecords (events : List RxqEvent) : List TapRecord :=
  events.filterMap fun
    | .push _ (.queued record) => some record
    | _ => none

/-- The byte strings popped from the queue, in order. -/
def poppedBytes (events : List RxqEvent) : List (List Byte) :=
  events.filterMap fun
    | .popped _ bytes => some bytes
    | _ => none

/-- One accepted event moves records only from the front of the queue, and
only into the hands of a reader or away by a flush. -/
theorem accept_conserves {spec next : RecordQueue} {event : RxqEvent}
    (accepted : spec.accept event = some next) :
    ∃ gone, spec.queue ++ queuedRecords [event] = gone ++ next.queue ∧
      (poppedBytes [event]).Sublist (gone.map TapRecord.encode) := by
  cases event with
  | push buf outcome =>
      refine ⟨[], ?_, by simp [poppedBytes]⟩
      cases outcome with
      | ignored =>
          simp only [RecordQueue.accept, Option.ite_none_right_eq_some,
            Option.some.injEq] at accepted
          simp [queuedRecords, accepted.2]
      | dropped record =>
          simp only [RecordQueue.accept, Option.ite_none_right_eq_some,
            Option.some.injEq] at accepted
          simp [queuedRecords, accepted.2]
      | queued record =>
          simp only [RecordQueue.accept, Option.ite_none_right_eq_some,
            Option.some.injEq] at accepted
          simp [queuedRecords, ← accepted.2]
  | popped tid bytes =>
      simp only [RecordQueue.accept] at accepted
      split at accepted
      · cases accepted
      · rename_i record rest queueEq
        simp only [Option.ite_none_right_eq_some, Option.some.injEq] at accepted
        obtain ⟨⟨bytesEq, -⟩, rfl⟩ := accepted
        exact ⟨[record], by simp [queuedRecords, queueEq], by simp [poppedBytes, bytesEq]⟩
  | flushed =>
      simp only [RecordQueue.accept, Option.some.injEq] at accepted
      exact ⟨spec.queue, by simp [queuedRecords, ← accepted], by simp [poppedBytes]⟩
  | returned tid result =>
      simp only [RecordQueue.accept, Option.ite_none_right_eq_some,
        Option.some.injEq] at accepted
      exact ⟨[], by simp [queuedRecords, ← accepted.2], by simp [poppedBytes]⟩

/-- Along accepted events the records ever queued are those gone, in order,
followed by those still queued; what was popped is a subsequence of those
gone. -/
theorem acceptAll_conserves {events : List RxqEvent} {spec next : RecordQueue}
    (accepted : acceptAll RecordQueue.accept spec events = some next) :
    ∃ gone, spec.queue ++ queuedRecords events = gone ++ next.queue ∧
      (poppedBytes events).Sublist (gone.map TapRecord.encode) := by
  induction events generalizing spec with
  | nil =>
      cases accepted
      exact ⟨[], by simp [queuedRecords], by simp [poppedBytes]⟩
  | cons event rest ih =>
      obtain ⟨middle, firstAccepted, restAccepted⟩ := Option.bind_eq_some_iff.mp accepted
      obtain ⟨firstGone, firstEq, firstSublist⟩ := accept_conserves firstAccepted
      obtain ⟨restGone, restEq, restSublist⟩ := ih restAccepted
      refine ⟨firstGone ++ restGone, ?_, ?_⟩
      · have split : queuedRecords (event :: rest) =
            queuedRecords [event] ++ queuedRecords rest := by
          simp only [queuedRecords, ← List.filterMap_append, List.singleton_append]
        rw [split, ← List.append_assoc, firstEq, List.append_assoc, restEq, List.append_assoc]
      · have split : poppedBytes (event :: rest) = poppedBytes [event] ++ poppedBytes rest := by
          simp only [poppedBytes, ← List.filterMap_append, List.singleton_append]
        rw [split, List.map_append]
        exact firstSublist.append restSublist

/-- A record some reader holds or that is queued. -/
def RecordQueue.Known (spec : RecordQueue) (record : TapRecord) : Prop :=
  record ∈ spec.queue ∨ ∃ tid, spec.held tid = some record

/-- An accepted event makes no record known but the one it queues. -/
theorem accept_known {spec next : RecordQueue} {event : RxqEvent}
    (accepted : spec.accept event = some next) {record : TapRecord} (known : next.Known record) :
    spec.Known record ∨ record ∈ queuedRecords [event] := by
  cases event with
  | push buf outcome =>
      cases outcome with
      | ignored | dropped =>
          simp only [RecordQueue.accept, Option.ite_none_right_eq_some,
            Option.some.injEq] at accepted
          rw [accepted.2]
          exact .inl known
      | queued new =>
          simp only [RecordQueue.accept, Option.ite_none_right_eq_some,
            Option.some.injEq] at accepted
          rw [← accepted.2] at known
          rcases known with member | heldBy
          · rcases List.mem_append.mp member with old | added
            · exact .inl (.inl old)
            · exact .inr (by simpa [queuedRecords] using added)
          · exact .inl (.inr heldBy)
  | popped tid bytes =>
      simp only [RecordQueue.accept] at accepted
      split at accepted
      · cases accepted
      · rename_i first rest queueEq
        simp only [Option.ite_none_right_eq_some, Option.some.injEq] at accepted
        rw [← accepted.2] at known
        left
        rcases known with member | ⟨other, heldEq⟩
        · exact .inl (queueEq ▸ List.mem_cons_of_mem first member)
        · by_cases same : other = tid
          · subst other
            simp only [Function.update_self, Option.some.injEq] at heldEq
            exact .inl (queueEq ▸ heldEq ▸ List.mem_cons_self)
          · simp only [Function.update_of_ne same] at heldEq
            exact .inr ⟨other, heldEq⟩
  | flushed =>
      simp only [RecordQueue.accept, Option.some.injEq] at accepted
      rw [← accepted] at known
      rcases known with member | heldBy
      · cases member
      · exact .inl (.inr heldBy)
  | returned tid result =>
      simp only [RecordQueue.accept, Option.ite_none_right_eq_some,
        Option.some.injEq] at accepted
      rw [← accepted.2] at known
      left
      rcases known with member | ⟨other, heldEq⟩
      · exact .inl member
      · by_cases same : other = tid
        · subst other
          simp at heldEq
        · simp only [Function.update_of_ne same] at heldEq
          exact .inr ⟨other, heldEq⟩

/-- Whatever an accepted run returns is allowed by what its reader held, and
the record returned was queued before. -/
theorem acceptAll_returned {events : List RxqEvent} {spec next : RecordQueue}
    (accepted : acceptAll RecordQueue.accept spec events = some next) {tid : Tid}
    {result : ReadResult} (member : RxqEvent.returned tid result ∈ events) :
    ∃ taken, returnable taken result = true ∧
      ∀ record, taken = some record → spec.Known record ∨ record ∈ queuedRecords events := by
  induction events generalizing spec with
  | nil => cases member
  | cons event rest ih =>
      obtain ⟨middle, firstAccepted, restAccepted⟩ := Option.bind_eq_some_iff.mp accepted
      have split : queuedRecords (event :: rest) = queuedRecords [event] ++ queuedRecords rest := by
        simp only [queuedRecords, ← List.filterMap_append, List.singleton_append]
      rcases List.mem_cons.mp member with rfl | later
      · refine ⟨spec.held tid, ?_, ?_⟩
        · simp only [RecordQueue.accept, Option.ite_none_right_eq_some] at firstAccepted
          exact firstAccepted.1
        · intro record heldEq
          exact .inl (.inr ⟨tid, heldEq⟩)
      · obtain ⟨taken, allowed, recordKnown⟩ := ih restAccepted later
        refine ⟨taken, allowed, ?_⟩
        intro record takenEq
        rw [split]
        rcases recordKnown record takenEq with known | queuedLater
        · rcases accept_known firstAccepted known with before | queuedNow
          · exact .inl before
          · exact .inr (List.mem_append_left _ queuedNow)
        · exact .inr (List.mem_append_right _ queuedLater)

/-- Nothing but the record a reader holds can be returned as data, and `-EIO`
cannot be returned at all. -/
theorem returnable_data {taken : Option TapRecord} {bytes : List Byte}
    (allowed : returnable taken (.data bytes) = true) :
    ∃ record, taken = some record ∧ bytes = record.encode := by
  cases taken with
  | none => simp [returnable] at allowed
  | some record => exact ⟨record, rfl, by simpa [returnable] using allowed⟩

theorem not_returnable_eio (taken : Option TapRecord) :
    returnable taken (.error EIO) = false := by
  cases taken <;> rfl

/-- The contract of `/dev/gxfp`, for every interleaving of pushes, reads and
flushes.  The events are those of a queue of whole records, the FIFO holds the
concatenation of exactly the queued records, records leave in the order they
came and at most once, no read returns `-EIO`, and what a read returns is an
earlier pushed record that the library's parser takes apart again. -/
theorem rxq_contract (actions : List RxqAction) :
    ∃ spec : RecordQueue,
      acceptAll RecordQueue.accept RecordQueue.empty (events rxqStep uapiRegister actions) =
        some spec ∧
      (final rxqStep uapiRegister actions).fifo.items = tapFormat.stream spec.queue ∧
      (∃ gone, queuedRecords (events rxqStep uapiRegister actions) = gone ++ spec.queue ∧
        (poppedBytes (events rxqStep uapiRegister actions)).Sublist
          (gone.map TapRecord.encode)) ∧
      (∀ tid, RxqEvent.returned tid (.error EIO) ∉ events rxqStep uapiRegister actions) ∧
      (∀ tid bytes, RxqEvent.returned tid (.data bytes) ∈ events rxqStep uapiRegister actions →
        ∃ record ∈ queuedRecords (events rxqStep uapiRegister actions),
          bytes = record.encode ∧
            ∃ hdr, parseTapRecord bytes = .ok (hdr, record.payload) ∧
              hdr.type = record.type.toNat) := by
  obtain ⟨spec, accepted, related⟩ :=
    acceptAll_final
      (fun rxq action spec (related : Related rxq spec) =>
        rxqStep_simulated rxq action spec related)
      uapiRegister_related actions
  refine ⟨spec, accepted, related.items, ?_, ?_, ?_⟩
  · simpa [RecordQueue.empty] using acceptAll_conserves accepted
  · intro tid member
    obtain ⟨taken, allowed, -⟩ := acceptAll_returned accepted member
    rw [not_returnable_eio] at allowed
    cases allowed
  · intro tid bytes member
    obtain ⟨taken, allowed, origin⟩ := acceptAll_returned accepted member
    obtain ⟨record, takenEq, rfl⟩ := returnable_data allowed
    have queued : record ∈ queuedRecords (events rxqStep uapiRegister actions) := by
      rcases origin record takenEq with known | queued
      · rcases known with member | ⟨other, heldEq⟩
        · cases member
        · cases heldEq
      · exact queued
    obtain ⟨hdr, parsed, typeEq, -⟩ := parseTapRecord_encode record
    exact ⟨record, queued, rfl, hdr, parsed, typeEq⟩

end Gxfp.Kernel
