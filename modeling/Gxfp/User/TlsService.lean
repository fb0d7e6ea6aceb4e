import Gxfp.Lib.Interaction
import Gxfp.User.Cmd
import Gxfp.User.Plain

/-!
# The TLS service

Embeds `src/tls/tls_service.c` over an arbitrary TLS engine.  The engine itself
rests on a TLS library: it is a structure of operations that reach the sensor
only by handing records to the service's send callback, so its operations are
finite interactions whose queries are records.
-/

namespace Gxfp.User

open Lib
open Lib.Bytes
open Gxfp.Errno

/-! ## The engine -/

/-- The result of a handshake step or of a pull: success, `-EAGAIN`, or the
negated error of the TLS library or of the system. -/
inductive EngineResult (α : Type)
  | ok (value : α)
  | again
  | failed (code : ℕ+)
  deriving DecidableEq

namespace EngineResult

variable {α : Type}

/-- The integer the engine returns. -/
def rc : EngineResult α → Int
  | .ok _ => 1
  | .again => EAGAIN.rc
  | .failed code => -(code : Int)

theorem rc_one_or_neg (result : EngineResult α) : result.rc = 1 ∨ result.rc < 0 := by
  cases result with
  | ok value => exact Or.inl rfl
  | again => exact Or.inr (rc_neg EAGAIN)
  | failed code =>
      right
      have positive := code.pos
      change -(code : Int) < 0
      omega

end EngineResult

/-- The ways `gxfp_tls_engine_feed_cipher_record` can fail: an empty record, or
no room in the receive queue. -/
inductive FeedError
  | invalid
  | full
  deriving DecidableEq, Repr

/-- The integer it returns then. -/
def FeedError.rc : FeedError → Int
  | .invalid => EINVAL.rc
  | .full => ENOSPC.rc

theorem FeedError.rc_spec (error : FeedError) : error.rc < 0 ∧ error.rc ≠ EAGAIN.rc := by
  cases error <;> decide

/-- The interface of `src/tls/tls_engine.h`.  A pull that returns plaintext uses
up some of what is pending, so pulling comes to an end. -/
structure TlsEngine (E : Type) where
  create : Nat → Except ℕ+ E
  feedCipherRecord : E → List Byte → Except FeedError E
  handshakeStep : E → Interaction (List Byte) Int (EngineResult Unit × E)
  pullPlain : E → Interaction (List Byte) Int (EngineResult (List Byte) × E)
  pending : E → Nat
  pullPlain_pending : ∀ engine, (pullPlain engine).Always fun out =>
    ∀ plain, out.1 = .ok plain → pending out.2 < pending engine

/-! ## State -/

/-- `struct gxfp_tls_hs_cfg` without the log file. -/
structure TlsHsCfg where
  timeoutMs : Nat
  manualPendingRequest : Bool
  deriving DecidableEq, Repr

/-- `struct gxfp_tls_service_impl`; the device is an argument of the functions
that use it. -/
structure TlsServiceImpl (E : Type) where
  cfg : TlsHsCfg
  state : TlsHsState
  err : Int
  pendingCapture : Bool
  captureSent : Bool
  handshakeStartMs : Int
  lastPlainMs : Int
  lastTlsRxMs : Int
  engine : E
  img : PlainImageSink

/-- `struct gxfp_tls_service`: the implementation, or a null pointer. -/
abbrev TlsService (E : Type) := Option (TlsServiceImpl E)

/-- `GXFP5130_PSK_LEN`. -/
def PSK_LEN : Nat := 32

/-- The unsigned 32-bit difference of two times. -/
def elapsedMs (now start : Int) : Nat :=
  ((now - start) % 4294967296).toNat

section Service

variable {E : Type} (env : Env) (fd : Int) (engine : TlsEngine E)

/-- `send_tls_record_cb`. -/
def sendTlsRecordCb (io : Io) (record : List Byte) : Int × Io :=
  if record.length = 0 ∨ record.length > 0xFFFF then
    (EINVAL.rc, io)
  else
    hostSendPacket env fd io GOODIX_MP_TYPE_TLS record

/-- `gxfp_tls_service_state`. -/
def tlsServiceState (svc : TlsService E) : TlsHsState :=
  match svc with
  | none => .init
  | some impl => impl.state

/-! ## Start and end -/

/-- `gxfp_tls_service_init`. -/
def tlsServiceInit (io : Io) (svc : TlsService E) (cfg : TlsHsCfg) (psk : Option (List Byte)) :
    Int × TlsService E × Io :=
  match psk with
  | none => (EINVAL.rc, svc, io)
  | some psk =>
      if psk.length ≠ PSK_LEN then
        (EINVAL.rc, svc, io)
      else if svc.isSome then
        (EALREADY.rc, svc, io)
      else if !env.malloc io.count then
        (ENOMEM.rc, svc, io.tick)
      else
        let start := monotonicMs env io.tick
        match engine.create start.2.count with
        | .error code => (-(code : Int), svc, start.2.tick)
        | .ok created =>
            let io := devFlushRxq fd start.2.tick
            let sent := cmdTlsServerInit env fd io
            if sent.1 < 0 then
              (sent.1, svc, sent.2)
            else
              let now := monotonicMs env sent.2
              (0,
                some
                  { cfg := cfg
                    state := .connecting
                    err := 0
                    pendingCapture := false
                    captureSent := false
                    handshakeStartMs := now.1
                    lastPlainMs := start.1
                    lastTlsRxMs := start.1
                    engine := created
                    img := plainImageSinkReset },
                now.2)

/-- `gxfp_tls_service_free`. -/
def tlsServiceFree (_ : TlsService E) : TlsService E :=
  none

/-! ## Records -/

/-- `gxfp_tls_service_feed_tap_record`. -/
def tlsServiceFeedTapRecord (io : Io) (svc : TlsService E) (hdr : TapHdr) (payload : List Byte) :
    Int × TlsService E × Io :=
  match svc with
  | none => (EINVAL.rc, none, io)
  | some impl =>
      if hdr.type = GOODIX_MP_TYPE_TLS.toNat then
        let now := monotonicMs env io
        let impl := { impl with lastTlsRxMs := now.1 }
        match engine.feedCipherRecord impl.engine payload with
        | .error error => (error.rc, some { impl with err := error.rc, state := .error }, now.2)
        | .ok fed => (0, some { impl with engine := fed }, now.2)
      else
        (0, some impl, io)

/-- `gxfp_tls_service_request_capture`. -/
def tlsServiceRequestCapture (svc : TlsService E) : Int × TlsService E :=
  match svc with
  | none => (EINVAL.rc, none)
  | some impl =>
      if impl.state ≠ .connected ∧ impl.state ≠ .done then
        (EBUSY.rc, some impl)
      else
        (0,
          some
            { impl with
              pendingCapture := true
              captureSent := false
              img := plainImageSinkReset
              state := .connected })

/-! ## Steps -/

/-- `svc_mark_capture_started`. -/
def svcMarkCaptureStarted (io : Io) (impl : TlsServiceImpl E) : TlsServiceImpl E × Io :=
  let now := monotonicMs env io
  ({ impl with
      captureSent := true
      pendingCapture := false
      state := .capturing
      lastPlainMs := now.1
      lastTlsRxMs := now.1 },
    now.2)

/-- `svc_capture_timed_out`. -/
def svcCaptureTimedOut (io : Io) (impl : TlsServiceImpl E) : Bool × Io :=
  let now := monotonicMs env io
  (elapsedMs now.1 impl.lastPlainMs > impl.cfg.timeoutMs &&
      elapsedMs now.1 impl.lastTlsRxMs > impl.cfg.timeoutMs,
    now.2)

/-- Put the service into the error state, as every failing branch does. -/
def svcFail (impl : TlsServiceImpl E) (rc : Int) : TlsServiceImpl E :=
  { impl with err := rc, state := .error }

/-- The handshake branch of `gxfp_tls_service_step`. -/
def svcHandshakeStep (io : Io) (impl : TlsServiceImpl E) : Int × TlsServiceImpl E × Io :=
  let stepped := (engine.handshakeStep impl.engine).run (sendTlsRecordCb env fd) io
  let r := stepped.1.1.rc
  let impl := { impl with engine := stepped.1.2 }
  let io := stepped.2
  if r = 1 then
    (0,
      { impl with
        state := .connected
        pendingCapture := impl.pendingCapture || !impl.cfg.manualPendingRequest },
      io)
  else if r = EAGAIN.rc then
    let now := monotonicMs env io
    if elapsedMs now.1 impl.handshakeStartMs > impl.cfg.timeoutMs then
      (ETIMEDOUT.rc, svcFail impl ETIMEDOUT.rc, now.2)
    else
      (EAGAIN.rc, impl, now.2)
  else
    (r, svcFail impl r, io)

/-- The result of the pull loop of `gxfp_tls_service_step`: the value it returns
from the middle, if it does, and whether plaintext was seen. -/
structure PullLoop (E : Type) where
  ret : Option Int
  progressed : Bool
  impl : TlsServiceImpl E
  io : Io

/-- The pull loop of `gxfp_tls_service_step`.  It is given one round more than
the engine has pending. -/
def svcPullLoop : Nat → Io → TlsServiceImpl E → Bool → PullLoop E
  | 0, io, impl, progressed => ⟨none, progressed, impl, io⟩
  | rounds + 1, io, impl, progressed =>
      let pulled := (engine.pullPlain impl.engine).run (sendTlsRecordCb env fd) io
      let impl := { impl with engine := pulled.1.2 }
      let io := pulled.2
      match pulled.1.1 with
      | .ok plain =>
          let scanned := plainScanForNonpovImageChunks env io plain impl.img
          let now := monotonicMs env scanned.2
          let impl := { impl with img := scanned.1, lastPlainMs := now.1 }
          if impl.img.haveOneframe then
            ⟨some 1, true, { impl with state := .done }, now.2⟩
          else
            svcPullLoop rounds now.2 impl true
      | .again => ⟨none, progressed, impl, io⟩
      | .failed code =>
          if -(code : Int) = EAGAIN.rc then
            ⟨none, progressed, impl, io⟩
          else
            ⟨some (-(code : Int)), progressed, svcFail impl (-(code : Int)), io⟩

/-- The capture branch of `gxfp_tls_service_step`. -/
def svcCaptureStep (io : Io) (impl : TlsServiceImpl E) : Int × TlsServiceImpl E × Io :=
  let loop := svcPullLoop env fd engine (engine.pending impl.engine + 1) io impl false
  match loop.ret with
  | some r => (r, loop.impl, loop.io)
  | none =>
      if loop.progressed then
        (0, loop.impl, loop.io)
      else
        let timedOut := svcCaptureTimedOut env loop.io loop.impl
        if timedOut.1 then
          (ETIMEDOUT.rc, svcFail loop.impl ETIMEDOUT.rc, timedOut.2)
        else
          (EAGAIN.rc, loop.impl, timedOut.2)

/-- `gxfp_tls_service_step` on an existing implementation. -/
def svcStep (io : Io) (impl : TlsServiceImpl E) : Int × TlsServiceImpl E × Io :=
  match impl.state with
  | .error => (if impl.err ≠ 0 then impl.err else EIO.rc, impl, io)
  | .connecting => svcHandshakeStep env fd engine io impl
  | .connected =>
      if impl.pendingCapture && !impl.captureSent then
        let sent := cmdGetImage env fd io
        if sent.1 < 0 then
          (sent.1, svcFail impl sent.1, sent.2)
        else
          let started := svcMarkCaptureStarted env sent.2 impl
          svcCaptureStep env fd engine started.2 started.1
      else
        (EAGAIN.rc, impl, io)
  | .capturing => svcCaptureStep env fd engine io impl
  | .done => (1, impl, io)
  | .init => (EAGAIN.rc, impl, io)

/-- `gxfp_tls_service_step`. -/
def tlsServiceStep (io : Io) (svc : TlsService E) : Int × TlsService E × Io :=
  match svc with
  | none => (EINVAL.rc, none, io)
  | some impl =>
      let stepped := svcStep env fd engine io impl
      (stepped.1, some stepped.2.1, stepped.2.2)

/-! ## The image -/

/-- What `gxfp_tls_service_get_raw_image` returns. -/
structure RawImage (E : Type) where
  ret : Int
  hdr : List Byte
  body : Option (List Byte)
  svc : TlsService E
  io : Io

/-- `gxfp_tls_service_get_raw_image`. -/
def tlsServiceGetRawImage (io : Io) (svc : TlsService E) : RawImage E :=
  match svc with
  | none => ⟨EINVAL.rc, [], none, none, io⟩
  | some impl =>
      if !impl.img.haveOneframe then
        ⟨0, [], none, some impl, io⟩
      else
        let extracted := plainImageSinkExtract env io impl.img
        ⟨extracted.ret, extracted.hdr, extracted.body, some { impl with img := extracted.sink },
          extracted.io⟩

end Service

/-! ## The pull loop -/

/-- How the pull loop ends. -/
inductive PullEnd {E : Type} (before : TlsServiceImpl E) (loop : PullLoop E) : Prop
  | broke (ret : loop.ret = none) (state : loop.impl.state = before.state)
      (err : loop.impl.err = before.err)
  | image (ret : loop.ret = some 1) (state : loop.impl.state = .done)
      (held : loop.impl.img.haveOneframe = true)
  | failed (rc : Int) (ret : loop.ret = some rc) (negative : rc < 0) (definite : rc ≠ EAGAIN.rc)
      (state : loop.impl.state = .error) (err : loop.impl.err = rc)

section PullLoop

variable {E : Type} (env : Env) (fd : Int) (engine : TlsEngine E)

theorem svcPullLoop_end (rounds : Nat) (io : Io) (impl : TlsServiceImpl E) (progressed : Bool) :
    PullEnd impl (svcPullLoop env fd engine rounds io impl progressed) := by
  induction rounds generalizing io impl progressed with
  | zero => exact .broke rfl rfl rfl
  | succ rounds ih =>
      unfold svcPullLoop
      generalize (engine.pullPlain impl.engine).run (sendTlsRecordCb env fd) io = pulled
      rcases pulled with ⟨⟨result, next⟩, after⟩
      cases result with
      | again => exact .broke rfl rfl rfl
      | failed code =>
          dsimp only
          split
          · exact .broke rfl rfl rfl
          · rename_i definite
            have positive := code.pos
            exact .failed (-(code : Int)) rfl (by omega) definite rfl rfl
      | ok plain =>
          dsimp only
          split
          · rename_i held
            exact .image rfl rfl held
          · rcases ih _ _ true with ⟨ret, state, err⟩ | ⟨ret, state, held⟩ |
              ⟨rc, ret, negative, definite, state, err⟩
            · exact .broke ret state err
            · exact .image ret state held
            · exact .failed rc ret negative definite state err

/-- The rounds the loop is given are enough: with more of them it does the
same. -/
theorem svcPullLoop_rounds (extra rounds : Nat) (io : Io) (impl : TlsServiceImpl E)
    (progressed : Bool) (enough : engine.pending impl.engine < rounds) :
    svcPullLoop env fd engine (rounds + extra) io impl progressed =
      svcPullLoop env fd engine rounds io impl progressed := by
  induction rounds generalizing io impl progressed with
  | zero => exact absurd enough (Nat.not_lt_zero _)
  | succ rounds ih =>
      have decreases := Interaction.always_run (sendTlsRecordCb env fd)
        (engine.pullPlain_pending impl.engine) io
      rw [Nat.succ_add]
      unfold svcPullLoop
      generalize (engine.pullPlain impl.engine).run (sendTlsRecordCb env fd) io = pulled
        at decreases ⊢
      rcases pulled with ⟨⟨result, next⟩, after⟩
      cases result with
      | again => rfl
      | failed code => rfl
      | ok plain =>
          dsimp only
          split
          · rfl
          · apply ih
            exact (decreases plain rfl).trans_le (Nat.le_of_lt_succ enough)

end PullLoop

end Gxfp.User
