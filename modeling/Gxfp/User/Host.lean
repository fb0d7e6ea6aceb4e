import Mathlib.Data.PNat.Notation
import Gxfp.User.Dev

/-!
# The library against its host

Everything the library obtains from the operating system is an answer of an
arbitrary `Env`: the results of `open`, `write`, `read` and `poll`, the clock,
the allocator and the texts of errors.  The answers are indexed by a counter
that every request advances, so that quantifying over environments quantifies
over every way the host and the sensor can behave.  What the library does is
kept as a trace, newest first.

The file also embeds the request loops of `src/cmd/goodix_xfer.c`.  The waiting
loop of the source ends at a deadline; the environment gives the rounds it runs
before that.
-/

namespace Gxfp.User

open Lib.Bytes
open Gxfp.Errno

/-- `enum gxfp_tls_hs_state`. -/
inductive TlsHsState
  | init
  | connecting
  | connected
  | capturing
  | done
  | error
  deriving DecidableEq, Repr

/-- What the library does, as seen from outside. -/
inductive Out
  | opened (fd : Nat)
  | closed (fd : Int)
  /-- One `write(2)` of `buf`, with its result or the negated error number. -/
  | write (buf : List Byte) (rc : Int)
  | flushed
  | waited
  | read
  /-- The error path of a session starts a device recovery; `service` is the
  state of its TLS service at that moment. -/
  | recovery (service : Option TlsHsState)
  deriving DecidableEq, Repr

/-- The world of the library: the number of requests made to the host, and the
trace. -/
structure Io where
  count : Nat
  trace : List Out
  deriving DecidableEq, Repr

namespace Io

/-- A request to the host that leaves no trace. -/
def tick (io : Io) : Io :=
  { io with count := io.count + 1 }

/-- A request to the host that does. -/
def emit (io : Io) (out : Out) : Io :=
  ⟨io.count + 1, out :: io.trace⟩

@[simp]
theorem tick_trace (io : Io) : io.tick.trace = io.trace :=
  rfl

@[simp]
theorem emit_trace (io : Io) (out : Out) : (io.emit out).trace = out :: io.trace :=
  rfl

end Io

/-- One round of the loop of `gxfp_goodix_wait_selected`. -/
inductive WaitRound
  /-- `poll(2)` timed out. -/
  | idle
  | pollFailed (errno : ℕ+)
  /-- `poll(2)` reported an error condition. -/
  | hangup
  | read (result : Except ℕ+ (List Byte))

/-- The answers of the host. -/
structure Env where
  openDev : Nat → Except ℕ+ Nat
  /-- How much of a buffer of the given length was written. -/
  write : Nat → Nat → Except ℕ+ Nat
  /-- The results of `read(2)` until it would block. -/
  reads : Nat → List (Except ℕ+ (List Byte))
  /-- The rounds of a waiting loop before the given timeout in milliseconds. -/
  wait : Nat → Int → List WaitRound
  clock : Nat → Int
  malloc : Nat → Bool
  /-- `strerror(3)` and the texts of the TLS library. -/
  strerror : Int → String
  tlsStrerror : Int → String

/-- A host that writes everything, reads nothing and whose clock stands at one
millisecond. -/
def steadyEnv : Env where
  openDev := fun _ => .ok 3
  write := fun _ length => .ok length
  reads := fun _ => []
  wait := fun _ _ => []
  clock := fun _ => 1
  malloc := fun _ => true
  strerror := fun _ => ""
  tlsStrerror := fun _ => ""

section Requests

variable (env : Env)

/-- `write(2)`. -/
def ioWrite (io : Io) (buf : List Byte) : Int × Io :=
  let rc : Int :=
    match env.write io.count buf.length with
    | .error errno => -(errno : Int)
    | .ok count => count
  (rc, io.emit (.write buf rc))

/-- `gxfp_dev_send_packet` on the host. -/
def hostSendPacket (fd : Int) (io : Io) (mpType : Byte) (payload : List Byte) : Int × Io :=
  devSendPacket (ioWrite env) fd (env.malloc io.count) io.tick mpType payload

/-- `gxfp_goodix_send_async` on the host. -/
def hostSendAsync (fd : Int) (io : Io) (cmd : Byte) (payload : List Byte) : Int × Io :=
  goodixSendAsync (ioWrite env) fd (env.malloc io.count) io.tick cmd payload

/-- `gxfp_monotonic_ms`. -/
def monotonicMs (io : Io) : Int × Io :=
  (env.clock io.count, io.tick)

/-- `gxfp_dev_flush_rxq`; no caller uses its result. -/
def devFlushRxq (fd : Int) (io : Io) : Io :=
  if fd < 0 then io else io.emit .flushed

/-- `gxfp_dev_read_record`, given the result of its `read(2)`. -/
def devReadRecord (result : Except ℕ+ (List Byte)) : Except Int (TapHdr × List Byte) :=
  match result with
  | .error errno => .error (-(errno : Int))
  | .ok [] => .error EAGAIN.rc
  | .ok data =>
      match parseTapRecord data with
      | .error errno => .error errno.rc
      | .ok record => .ok record

/-! ## Waiting for a frame -/

/-- The loop of `gxfp_goodix_wait_selected`: the record payload it copies out. -/
def goodixWaitLoop (fd : Int) (expectCmd : Byte) (rxCap : Nat) (selector : FrameParsed → Int) :
    List WaitRound → Except Int (List Byte)
  | [] => .error ETIMEDOUT.rc
  | round :: rounds =>
      if fd < 0 then
        .error EINVAL.rc
      else
        match round with
        | .idle => goodixWaitLoop fd expectCmd rxCap selector rounds
        | .hangup => .error EIO.rc
        | .pollFailed errno =>
            if -(errno : Int) = EAGAIN.rc then
              goodixWaitLoop fd expectCmd rxCap selector rounds
            else
              .error (-(errno : Int))
        | .read result =>
            match devReadRecord result with
            | .error rc =>
                if rc = EAGAIN.rc then
                  goodixWaitLoop fd expectCmd rxCap selector rounds
                else
                  .error rc
            | .ok (hdr, payload) =>
                if hdr.type ≠ GOODIX_MP_TYPE_CMD.toNat then
                  goodixWaitLoop fd expectCmd rxCap selector rounds
                else
                  match parseGoodixBody payload with
                  | none => goodixWaitLoop fd expectCmd rxCap selector rounds
                  | some frame =>
                      if frame.cmd ≠ expectCmd then
                        goodixWaitLoop fd expectCmd rxCap selector rounds
                      else if selector frame < 0 then
                        .error (selector frame)
                      else if selector frame = 0 then
                        goodixWaitLoop fd expectCmd rxCap selector rounds
                      else if payload.length > rxCap then
                        .error EMSGSIZE.rc
                      else
                        .ok payload

/-- `select_any_frame`, the selector used when none is given. -/
def selectAnyFrame (_ : FrameParsed) : Int :=
  1

/-- `gxfp_goodix_wait_selected`. -/
def goodixWaitSelected (fd : Int) (io : Io) (expectCmd : Byte) (rxCap : Nat) (timeoutMs : Int)
    (selector : FrameParsed → Int) : Except Int (List Byte) × Io :=
  if rxCap = 0 then
    (.error EINVAL.rc, io)
  else
    let timeoutMs := if timeoutMs > 0 then timeoutMs else 1000
    (goodixWaitLoop fd expectCmd rxCap selector (env.wait io.count timeoutMs), io.emit .waited)

/-- The attempts of `gxfp_goodix_request_selected`. -/
def goodixRequestLoop (fd : Int) (reqCmd expectCmd : Byte) (payload : List Byte) (rxCap : Nat)
    (timeoutMs : Int) (selector : FrameParsed → Int) : Nat → Io → Except Int (List Byte) × Io
  | 0, io => (.error ETIMEDOUT.rc, io)
  | attempts + 1, io =>
      let sent := hostSendAsync env fd io reqCmd payload
      if sent.1 ≠ 0 then
        (.error sent.1, sent.2)
      else
        let waited := goodixWaitSelected env fd sent.2 expectCmd rxCap timeoutMs selector
        match waited.1 with
        | .ok rx => (.ok rx, waited.2)
        | .error rc =>
            if rc = ETIMEDOUT.rc then
              goodixRequestLoop fd reqCmd expectCmd payload rxCap timeoutMs selector attempts
                waited.2
            else
              (.error rc, waited.2)

/-- `gxfp_goodix_request_selected`. -/
def goodixRequestSelected (fd : Int) (io : Io) (reqCmd expectCmd : Byte) (payload : List Byte)
    (rxCap tries : Nat) (timeoutMs : Int) (selector : FrameParsed → Int) :
    Except Int (List Byte) × Io :=
  if rxCap = 0 then
    (.error EINVAL.rc, io)
  else
    goodixRequestLoop env fd reqCmd expectCmd payload rxCap timeoutMs selector
      (if tries > 0 then tries else 1) io

end Requests

end Gxfp.User
