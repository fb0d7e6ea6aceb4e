import Gxfp.Kernel.Proto
import Gxfp.Lib.Execution
import Gxfp.Lib.Fifo
import Gxfp.Uapi

/-!
# The receive queue of `/dev/gxfp`

Embeds `kernel/driver/gxfp_uapi_fifo.c` and the flush of
`kernel/driver/gxfp_uapi_ctrl.c` as a machine of threads.  Every critical
section under `rxq_lock` is one step; between two steps any other thread may
run.  A thread is in one call at a time, and its program counter says which
step of `gxfp_uapi_read` or of the flush ioctl comes next.  Steps that need
`rxq_mutex` while another thread holds it do nothing.

The `fault` flag of a step stands for what the environment decides: a signal
while waiting for the mutex or sleeping, a failing `kmalloc`, a faulting
`copy_to_user`.
-/

namespace Gxfp.Kernel

open Lib.Bytes
open Gxfp.Errno

/-- `GXFP_RXQ_FIFO_BYTES`. -/
def RXQ_FIFO_BYTES : Nat := 1024 * 1024

/-- Thread identity. -/
abbrev Tid := Nat

/-- What `read(2)` gives back. -/
inductive ReadResult
  /-- The zero of a `read` with `count == 0`. -/
  | zero
  | data (bytes : List Byte)
  | error (errno : Errno)
  deriving DecidableEq, Repr

/-- Where a thread stands in `gxfp_uapi_read` or in the flush ioctl. -/
inductive RxqPc
  | idle
  /-- At `mutex_lock_interruptible` of `gxfp_uapi_read`. -/
  | readLock (count : Nat) (nonblock : Bool)
  /-- At the loop head of `gxfp_uapi_wait_nonempty`. -/
  | readWait (count : Nat) (nonblock : Bool)
  /-- In `wait_event_interruptible`. -/
  | readSleep (count : Nat) (nonblock : Bool)
  /-- At `gxfp_uapi_peek_need`. -/
  | readPeek (count : Nat)
  /-- At `kmalloc(need)`. -/
  | readAlloc (need : Nat)
  /-- At `gxfp_uapi_pop_record`. -/
  | readPop (need : Nat)
  /-- After the pop, with the popped bytes in `tmp`. -/
  | readCopy (need : Nat) (tmp : List Byte)
  /-- At `out_unlock`. -/
  | readUnlock (result : ReadResult)
  /-- At `mutex_lock_interruptible` of the flush ioctl. -/
  | flushLock
  /-- At `gxfp_uapi_rxq_flush_locked`. -/
  | flushReset
  | flushUnlock
  deriving DecidableEq, Repr

/-- The `uapi` part of `struct gxfp_dev`, with the threads using it. -/
structure Rxq where
  fifo : Lib.Fifo Byte
  inited : Bool
  /-- The owner of `rxq_mutex`. -/
  mutex : Option Tid
  pc : Tid → RxqPc

/-- The queue after `gxfp_uapi_register`. -/
def uapiRegister : Rxq where
  fifo := Lib.Fifo.empty RXQ_FIFO_BYTES
  inited := true
  mutex := none
  pc := fun _ => .idle

/-- What became of one `gxfp_uapi_rxq_push_packet` call. -/
inductive PushOutcome
  /-- The buffer is no MP frame, or the queue is not there. -/
  | ignored
  /-- Not enough room (`rxq: drop need=… avail=…`). -/
  | dropped (record : TapRecord)
  | queued (record : TapRecord)
  deriving DecidableEq

/-- Observable events of the queue. -/
inductive RxqEvent
  | push (buf : List Byte) (outcome : PushOutcome)
  | popped (tid : Tid) (bytes : List Byte)
  | flushed
  | returned (tid : Tid) (result : ReadResult)
  deriving DecidableEq

/-- The record `gxfp_uapi_rxq_push` makes of a parsed frame; `none` is the
`U32_MAX` check. -/
def tapRecordOf (mp : MpFrameParsed) (tsNs : Nat) : Option TapRecord :=
  if bounded : mp.payload.length < 4294967296 then
    some ⟨mp.flags >>> 4, tsNs, mp.payload, bounded⟩
  else
    none

/-- `gxfp_uapi_rxq_push`. -/
def uapiRxqPush (rxq : Rxq) (buf : List Byte) (tsNs : Nat) : Rxq × PushOutcome :=
  if rxq.inited then
    match (parseMpFrame buf).bind fun mp => tapRecordOf mp tsNs with
    | none => (rxq, .ignored)
    | some record =>
        let need := TAP_HDR_SIZE + record.payload.length
        if rxq.fifo.avail < need then
          (rxq, .dropped record)
        else
          ({ rxq with fifo := (rxq.fifo.put record.hdr.bytes).put record.payload },
            .queued record)
  else
    (rxq, .ignored)

/-- Give up `rxq_mutex` and go back to `idle`. -/
def Rxq.unlock (rxq : Rxq) (tid : Tid) : Rxq :=
  { rxq with mutex := none, pc := Function.update rxq.pc tid .idle }

/-- Move one thread. -/
def Rxq.goto (rxq : Rxq) (tid : Tid) (pc : RxqPc) : Rxq :=
  { rxq with pc := Function.update rxq.pc tid pc }

/-- The critical section of `gxfp_uapi_wait_nonempty`, and what it leads to. -/
def uapiWaitNonempty (rxq : Rxq) (count : Nat) (nonblock : Bool) : RxqPc :=
  if !rxq.inited then
    .readUnlock (.error ENODEV)
  else if !rxq.fifo.isEmpty then
    .readPeek count
  else if nonblock then
    .readUnlock (.error EAGAIN)
  else
    .readSleep count nonblock

/-- The critical section of `gxfp_uapi_peek_need`, and what it leads to. -/
def uapiPeekNeed (rxq : Rxq) (count : Nat) : RxqPc :=
  if !rxq.inited then
    .readUnlock (.error ENODEV)
  else if rxq.fifo.len < TAP_HDR_SIZE then
    .readUnlock (.error EIO)
  else if (rxq.fifo.peek TAP_HDR_SIZE).length ≠ TAP_HDR_SIZE then
    .readUnlock (.error EIO)
  else
    let need := TAP_HDR_SIZE + (TapHdr.ofBytes (rxq.fifo.peek TAP_HDR_SIZE)).len
    if rxq.fifo.len < need then
      .readUnlock (.error EIO)
    else if count < need then
      .readUnlock (.error EMSGSIZE)
    else
      .readAlloc need

/-- One step of thread `tid`. -/
def threadStep (rxq : Rxq) (tid : Tid) (fault : Bool) : Rxq × List RxqEvent :=
  match rxq.pc tid with
  | .idle => (rxq, [])
  | .readLock count nonblock =>
      if fault then
        (rxq.goto tid .idle, [.returned tid (.error EINTR)])
      else if rxq.mutex.isSome then
        (rxq, [])
      else
        ({ rxq.goto tid (.readWait count nonblock) with mutex := some tid }, [])
  | .readWait count nonblock => (rxq.goto tid (uapiWaitNonempty rxq count nonblock), [])
  | .readSleep count nonblock =>
      if fault then
        (rxq.goto tid (.readUnlock (.error EINTR)), [])
      else if (rxq.inited && !rxq.fifo.isEmpty) || !rxq.inited then
        (rxq.goto tid (.readWait count nonblock), [])
      else
        (rxq, [])
  | .readPeek count => (rxq.goto tid (uapiPeekNeed rxq count), [])
  | .readAlloc need =>
      if fault then
        (rxq.goto tid (.readUnlock (.error ENOMEM)), [])
      else
        (rxq.goto tid (.readPop need), [])
  | .readPop need =>
      if !rxq.inited then
        (rxq.goto tid (.readUnlock (.error ENODEV)), [])
      else
        let tmp := rxq.fifo.peek need
        ({ rxq.goto tid (.readCopy need tmp) with fifo := rxq.fifo.drop need },
          [.popped tid tmp])
  | .readCopy need tmp =>
      if tmp.length ≠ need then
        (rxq.goto tid (.readUnlock (.error EIO)), [])
      else if fault then
        (rxq.goto tid (.readUnlock (.error EFAULT)), [])
      else
        (rxq.goto tid (.readUnlock (.data tmp)), [])
  | .readUnlock result => (rxq.unlock tid, [.returned tid result])
  | .flushLock =>
      if fault then
        (rxq.goto tid .idle, [])
      else if rxq.mutex.isSome then
        (rxq, [])
      else
        ({ rxq.goto tid .flushReset with mutex := some tid }, [])
  | .flushReset =>
      if rxq.inited then
        ({ rxq.goto tid .flushUnlock with fifo := rxq.fifo.reset }, [.flushed])
      else
        (rxq.goto tid .flushUnlock, [])
  | .flushUnlock => (rxq.unlock tid, [])

/-- What can happen next. -/
inductive RxqAction
  /-- The IRQ side pushes a buffer; `tsNs` is `ktime_get_ns()`. -/
  | push (buf : List Byte) (tsNs : Nat)
  /-- Thread `tid`, outside any call, enters `gxfp_uapi_read`. -/
  | callRead (tid : Tid) (count : Nat) (nonblock : Bool)
  /-- Thread `tid`, outside any call, enters `GXFP_IOCTL_FLUSH_RXQ`. -/
  | callFlush (tid : Tid)
  /-- Thread `tid` takes its next step. -/
  | run (tid : Tid) (fault : Bool)
  deriving DecidableEq, Repr

/-- One step of the whole machine. -/
def rxqStep (rxq : Rxq) : RxqAction → Rxq × List RxqEvent
  | .push buf tsNs =>
      let out := uapiRxqPush rxq buf tsNs
      (out.1, [.push buf out.2])
  | .callRead tid count nonblock =>
      if rxq.pc tid ≠ .idle then
        (rxq, [])
      else if !rxq.inited then
        (rxq, [.returned tid (.error ENODEV)])
      else if count = 0 then
        (rxq, [.returned tid .zero])
      else
        (rxq.goto tid (.readLock count nonblock), [])
  | .callFlush tid =>
      if rxq.pc tid ≠ .idle then
        (rxq, [])
      else
        (rxq.goto tid .flushLock, [])
  | .run tid fault => threadStep rxq tid fault

end Gxfp.Kernel
