import Mathlib.Logic.Relation
import Gxfp.User.Sends
import Gxfp.User.TlsService

/-!
# What the TLS service can do

`ServiceMove` lists every change of a service together with what it leaves in
the trace.  Each function of the service is a sequence of such moves; a result
about all runs is then a property that every move preserves.
-/

namespace Gxfp.User

open Lib
open Lib.Bytes
open Gxfp.Errno

/-! ## Moves -/

/-- A service and the world around it. -/
abbrev ServiceWorld (E : Type) := TlsService E × Io

/-- One change of a service. -/
inductive ServiceMove {E : Type} : ServiceWorld E → ServiceWorld E → Prop
  /-- Entries of no importance to the service. -/
  | quiet {svc : TlsService E} {io next : Io} (quiet : io.Extends Out.Quiet next) :
      ServiceMove (svc, io) (svc, next)
  /-- The error path of the session starts a recovery. -/
  | recovery (svc : TlsService E) (io : Io) :
      ServiceMove (svc, io) (svc, io.emit (.recovery (svc.map TlsServiceImpl.state)))
  | free (svc : TlsService E) (io : Io) : ServiceMove (svc, io) (none, io)
  /-- A new service, right after its `TLS_SERVER_INIT` has been sent. -/
  | start {io : Io} {impl : TlsServiceImpl E} {out : Out} (connecting : impl.state = .connecting)
      (sent : out.sentCommand CMD_TLS_SERVER_INIT) :
      ServiceMove (none, io) (some impl, io.emit out)
  /-- A change that keeps the state and the error. -/
  | same {impl next : TlsServiceImpl E} (io : Io) (state : next.state = impl.state)
      (err : next.err = impl.err) : ServiceMove (some impl, io) (some next, io)
  | connect {impl next : TlsServiceImpl E} (io : Io) (connecting : impl.state = .connecting)
      (connected : next.state = .connected) : ServiceMove (some impl, io) (some next, io)
  | request {impl next : TlsServiceImpl E} (io : Io)
      (ready : impl.state = .connected ∨ impl.state = .done)
      (connected : next.state = .connected) : ServiceMove (some impl, io) (some next, io)
  | finish {impl next : TlsServiceImpl E} (io : Io) (capturing : impl.state = .capturing)
      (done : next.state = .done) : ServiceMove (some impl, io) (some next, io)
  | fail {impl next : TlsServiceImpl E} (io : Io) (error : next.state = .error)
      (negative : next.err < 0) (definite : next.err ≠ EAGAIN.rc) :
      ServiceMove (some impl, io) (some next, io)
  /-- `GET_IMAGE` goes out and the capture starts. -/
  | capture {impl next : TlsServiceImpl E} {io : Io} {out : Out}
      (connected : impl.state = .connected) (isCommand : out.isCommand CMD_GET_IMAGE)
      (capturing : next.state = .capturing) :
      ServiceMove (some impl, io) (some next, io.emit out)
  /-- The write of `GET_IMAGE` fails. -/
  | captureFail {impl next : TlsServiceImpl E} {io : Io} {out : Out}
      (connected : impl.state = .connected) (isCommand : out.isCommand CMD_GET_IMAGE)
      (error : next.state = .error) (negative : next.err < 0)
      (again : next.err = EAGAIN.rc → ∃ buf, out = .write buf EAGAIN.rc) :
      ServiceMove (some impl, io) (some next, io.emit out)

theorem ServiceMove.trace_suffix {E : Type} {before after : ServiceWorld E}
    (move : ServiceMove before after) : before.2.trace <:+ after.2.trace := by
  cases move with
  | quiet quiet =>
      obtain ⟨outs, traceEq, -⟩ := quiet
      exact ⟨outs, traceEq.symm⟩
  | recovery svc io => exact List.suffix_cons _ _
  | free svc io => exact List.suffix_refl _
  | start connecting sent => exact List.suffix_cons _ _
  | same io state err => exact List.suffix_refl _
  | connect io connecting connected => exact List.suffix_refl _
  | request io ready connected => exact List.suffix_refl _
  | finish io capturing done => exact List.suffix_refl _
  | fail io error negative definite => exact List.suffix_refl _
  | capture connected isCommand capturing => exact List.suffix_cons _ _
  | captureFail connected isCommand error negative again => exact List.suffix_cons _ _

/-- Any number of moves. -/
abbrev ServiceMoves {E : Type} : ServiceWorld E → ServiceWorld E → Prop :=
  Relation.ReflTransGen ServiceMove

namespace ServiceMoves

variable {E : Type} {svc next : TlsService E} {before middle after : ServiceWorld E}

theorem one (move : ServiceMove before after) : ServiceMoves before after :=
  Relation.ReflTransGen.single move

theorem quiet {io after : Io} (extended : io.Extends Out.Quiet after) :
    ServiceMoves (svc, io) (svc, after) :=
  one (.quiet extended)

/-- What every move preserves, any number of them preserves. -/
theorem preserves {invariant : ServiceWorld E → Prop}
    (preserved : ∀ before after, ServiceMove before after → invariant before → invariant after)
    (moves : ServiceMoves before after) (start : invariant before) : invariant after := by
  induction moves with
  | refl => exact start
  | tail _ move ih => exact preserved _ _ move ih

/-- The trace only grows. -/
theorem trace_suffix (moves : ServiceMoves before after) : before.2.trace <:+ after.2.trace := by
  induction moves with
  | refl => exact List.suffix_refl _
  | tail _ move ih => exact ih.trans move.trace_suffix

end ServiceMoves

/-! ## Starting a service -/

section Specs

variable {E : Type} (env : Env) (fd : Int) (engine : TlsEngine E)

/-- What `gxfp_tls_service_init` leaves in a new implementation. -/
structure FreshService (impl : TlsServiceImpl E) : Prop where
  state : impl.state = .connecting
  pendingCapture : impl.pendingCapture = false
  captureSent : impl.captureSent = false
  img : impl.img = plainImageSinkReset
  engine : ∃ index, engine.create index = .ok impl.engine

/-- What becomes of `gxfp_tls_service_init`. -/
inductive InitResult (svc : TlsService E) (io : Io) : Int × TlsService E × Io → Prop
  | failed {rc : Int} {next : Io} (negative : rc < 0) (quiet : io.Extends Out.Quiet next) :
      InitResult svc io (rc, svc, next)
  | started {impl : TlsServiceImpl E} {middle next : Io} {out : Out} (absent : svc = none)
      (fresh : FreshService engine impl) (quiet : io.Extends Out.Quiet middle)
      (sent : out.sentCommand CMD_TLS_SERVER_INIT)
      (trace : next.trace = (middle.emit out).trace) : InitResult svc io (0, some impl, next)

theorem tlsServiceInit_result (io : Io) (svc : TlsService E) (cfg : TlsHsCfg)
    (psk : Option (List Byte)) :
    InitResult engine svc io (tlsServiceInit env fd engine io svc cfg psk) := by
  unfold tlsServiceInit
  cases psk with
  | none => exact .failed (rc_neg EINVAL) (.refl io)
  | some psk =>
      dsimp only
      split
      · exact .failed (rc_neg EINVAL) (.refl io)
      · split
        · exact .failed (rc_neg EALREADY) (.refl io)
        · rename_i absent
          split
          · exact .failed (rc_neg ENOMEM) (Io.Extends.refl io).tick
          · cases created : engine.create (monotonicMs env io.tick).2.count with
            | error code =>
                have positive := code.pos
                exact .failed (by omega) (Io.Extends.refl io).tick.tick.tick
            | ok created' =>
                dsimp only
                have flushed : io.Extends Out.Quiet
                    (devFlushRxq fd (monotonicMs env io.tick).2.tick) :=
                  (Io.Extends.refl io).tick.tick.tick.trans (devFlushRxq_routine fd _)
                have result := hostSendAsync_result env fd
                  (devFlushRxq fd (monotonicMs env io.tick).2.tick) CMD_TLS_SERVER_INIT [0x00, 0x00]
                unfold cmdTlsServerInit
                generalize hostSendAsync env fd _ CMD_TLS_SERVER_INIT [0x00, 0x00] = sent
                  at result ⊢
                cases result with
                | refused errno definite =>
                    simp only [if_pos (rc_neg errno)]
                    exact .failed (rc_neg errno) flushed.tick
                | failed isCommand negative incomplete again =>
                    simp only [if_pos negative]
                    exact .failed negative (flushed.tick.emit
                      (quiet_of_incomplete ⟨_, isCommand⟩ (by decide) incomplete))
                | sent isCommand =>
                    simp only [Int.lt_irrefl, if_false]
                    refine .started (Option.not_isSome_iff_eq_none.mp absent)
                      ⟨rfl, rfl, rfl, rfl, _, created⟩ flushed.tick ⟨⟨_, isCommand⟩, _, rfl⟩ ?_
                    rfl

/-- A new service is configured as its starter says. -/
theorem tlsServiceInit_cfg {io : Io} {cfg : TlsHsCfg} {psk : Option (List Byte)}
    {impl : TlsServiceImpl E}
    (started : (tlsServiceInit env fd engine io none cfg psk).2.1 = some impl) :
    impl.cfg = cfg := by
  unfold tlsServiceInit at started
  cases psk with
  | none => cases started
  | some psk =>
      dsimp only at started
      split at started
      · cases started
      · split at started
        · cases started
        · split at started
          · cases started
          · split at started
            · cases started
            · split at started
              · cases started
              · cases started
                rfl

theorem tlsServiceInit_moves (io : Io) (svc : TlsService E) (cfg : TlsHsCfg)
    (psk : Option (List Byte)) :
    ServiceMoves (svc, io) (tlsServiceInit env fd engine io svc cfg psk).2 := by
  have result := tlsServiceInit_result env fd engine io svc cfg psk
  generalize tlsServiceInit env fd engine io svc cfg psk = out at result ⊢
  cases result with
  | failed negative quiet => exact .quiet quiet
  | started absent fresh quiet sent trace =>
      subst absent
      have started := (ServiceMoves.quiet quiet).tail (.start fresh.state sent)
      exact started.tail (.quiet ⟨[], trace, by simp⟩)

/-! ## Records and requests -/

theorem tlsServiceFeedTapRecord_moves (io : Io) (svc : TlsService E) (hdr : TapHdr)
    (payload : List Byte) :
    ServiceMoves (svc, io) (tlsServiceFeedTapRecord env engine io svc hdr payload).2 := by
  cases svc with
  | none => exact .refl
  | some impl =>
      unfold tlsServiceFeedTapRecord
      dsimp only
      split
      · have ticked : ServiceMoves (some impl, io) (some impl, (monotonicMs env io).2) :=
          .quiet (Io.Extends.refl io).tick
        split
        · rename_i error _
          exact ticked.tail (.fail _ rfl error.rc_spec.1 error.rc_spec.2)
        · exact ticked.tail (.same _ rfl rfl)
      · exact .refl

theorem tlsServiceRequestCapture_moves (io : Io) (svc : TlsService E) :
    ServiceMoves (svc, io) ((tlsServiceRequestCapture svc).2, io) := by
  cases svc with
  | none => exact .refl
  | some impl =>
      unfold tlsServiceRequestCapture
      dsimp only
      split
      · exact .refl
      · rename_i ready
        apply ServiceMoves.one
        refine .request io ?_ rfl
        by_cases connected : impl.state = .connected
        · exact Or.inl connected
        · exact Or.inr (by_contra fun notDone => ready ⟨connected, notDone⟩)

theorem tlsServiceGetRawImage_moves (io : Io) (svc : TlsService E) :
    ServiceMoves (svc, io)
      ((tlsServiceGetRawImage env io svc).svc, (tlsServiceGetRawImage env io svc).io) := by
  cases svc with
  | none => exact .refl
  | some impl =>
      unfold tlsServiceGetRawImage
      dsimp only
      split
      · exact .refl
      · have extracted : io.Extends Out.Quiet (plainImageSinkExtract env io impl.img).io := by
          unfold plainImageSinkExtract
          split
          · exact .refl io
          · split
            · exact .refl io
            · split
              · exact (Io.Extends.refl io).tick
              · exact (Io.Extends.refl io).tick
        exact (ServiceMoves.quiet extracted).tail (.same _ rfl rfl)

/-! ## Steps -/

section Routine

variable {allowed : Out → Prop}

section Scan

theorem plainImageSinkAppend_extends (io : Io) (sink : PlainImageSink) (payload : List Byte) :
    io.Extends allowed (plainImageSinkAppend env io sink payload).2.2 := by
  unfold plainImageSinkAppend
  split
  · exact .refl io
  · split
    · exact .refl io
    · split
      · exact .refl io
      · split
        · exact .refl io
        · split
          · exact (Io.Extends.refl io).tick
          · exact (Io.Extends.refl io).tick

theorem plainScanLoop_extends (rounds : Nat) (rest : List Byte) (sink : PlainImageSink) (io : Io) :
    io.Extends allowed (plainScanLoop env rounds rest sink io).2 := by
  induction rounds generalizing rest sink io with
  | zero => exact .refl io
  | succ rounds ih =>
      unfold plainScanLoop
      split
      · exact .refl io
      · split
        · exact ih _ _ _
        · rename_i frame _
          have appended : io.Extends allowed
              (if (frame.cmd >>> 4) &&& 0x0F = 2 ∧ frame.payload.length ≥ 5 ∧
                  frame.payload.getD 0 0 ≠ 0xAA then
                (plainImageSinkAppend env io sink frame.payload).2 else (sink, io)).2 := by
            split
            · exact plainImageSinkAppend_extends env io sink frame.payload
            · exact .refl io
          dsimp only
          split
          · exact appended.trans (ih _ _ _)
          · exact appended.trans (ih _ _ _)

theorem plainScan_extends (io : Io) (buf : List Byte) (sink : PlainImageSink) :
    io.Extends allowed (plainScanForNonpovImageChunks env io buf sink).2 := by
  unfold plainScanForNonpovImageChunks
  split
  · exact .refl io
  · exact plainScanLoop_extends env _ _ _ io

end Scan

variable [admits : Out.AdmitsRoutine allowed]

/-- Records of the TLS library are no commands. -/
theorem sendTlsRecordCb_routine (io : Io) (record : List Byte) :
    io.Extends allowed (sendTlsRecordCb env fd io record).2 := by
  unfold sendTlsRecordCb
  split
  · exact .refl io
  · have notCommand (rc : Int) : allowed (.write (devTxBuffer GOODIX_MP_TYPE_TLS record) rc) := by
      have flagsNe : (devTxBuffer GOODIX_MP_TYPE_TLS record).getD 0 0 ≠
          goodixMpFlagsFromType GOODIX_MP_TYPE_CMD := by
        change goodixMpFlagsFromType GOODIX_MP_TYPE_TLS ≠ goodixMpFlagsFromType GOODIX_MP_TYPE_CMD
        decide
      apply admits.record
      simp only [Out.command, if_neg flagsNe]
    have result := hostSendPacket_result env fd io GOODIX_MP_TYPE_TLS record
    generalize hostSendPacket env fd io GOODIX_MP_TYPE_TLS record = out at result ⊢
    cases result with
    | refused errno definite => exact (Io.Extends.refl io).tick
    | failed errno => exact (Io.Extends.refl io).tick.emit (notCommand _)
    | short count different => exact (Io.Extends.refl io).tick.emit (notCommand _)
    | sent => exact (Io.Extends.refl io).tick.emit (notCommand _)

/-- Whatever the TLS library does is routine. -/
theorem engine_routine {α : Type} (tree : Interaction (List Byte) Int α) (io : Io) :
    io.Extends allowed (tree.run (sendTlsRecordCb env fd) io).2 :=
  tree.run_preserves
    (fun _ record sofar => sofar.trans (sendTlsRecordCb_routine env fd _ record)) (.refl io)

theorem svcPullLoop_routine (rounds : Nat) (io : Io) (impl : TlsServiceImpl E)
    (progressed : Bool) :
    io.Extends allowed (svcPullLoop env fd engine rounds io impl progressed).io := by
  induction rounds generalizing io impl progressed with
  | zero => exact .refl io
  | succ rounds ih =>
      have pulled : io.Extends allowed _ := engine_routine env fd (engine.pullPlain impl.engine) io
      unfold svcPullLoop
      generalize (engine.pullPlain impl.engine).run (sendTlsRecordCb env fd) io = out at pulled ⊢
      rcases out with ⟨⟨result, next⟩, after⟩
      cases result with
      | again => exact pulled
      | failed code =>
          dsimp only
          split
          · exact pulled
          · exact pulled
      | ok plain =>
          have scanned := pulled.trans (plainScan_extends env after plain impl.img)
          dsimp only
          split
          · exact scanned.tick
          · exact scanned.tick.trans (ih _ _ true)

theorem tlsServiceInit_extends
    (admitsStart : ∀ out : Out, out.isCommand CMD_TLS_SERVER_INIT → allowed out) (io : Io)
    (svc : TlsService E) (cfg : TlsHsCfg) (psk : Option (List Byte)) :
    io.Extends allowed (tlsServiceInit env fd engine io svc cfg psk).2.2 := by
  unfold tlsServiceInit
  cases psk with
  | none => exact .refl io
  | some psk =>
      dsimp only
      split
      · exact .refl io
      · split
        · exact .refl io
        · split
          · exact (Io.Extends.refl io).tick
          · cases engine.create (monotonicMs env io.tick).2.count with
            | error code => exact (Io.Extends.refl io).tick.tick.tick
            | ok created =>
                have flushed : io.Extends allowed
                    (devFlushRxq fd (monotonicMs env io.tick).2.tick) :=
                  (Io.Extends.refl io).tick.tick.tick.trans (devFlushRxq_routine fd _)
                have sent := flushed.trans ((hostSendAsync_result env fd _ CMD_TLS_SERVER_INIT
                  [0x00, 0x00]).extends.mono admitsStart)
                dsimp only
                split
                · exact sent
                · exact sent.tick

theorem svcCaptureStep_routine (io : Io) (impl : TlsServiceImpl E) :
    io.Extends allowed (svcCaptureStep env fd engine io impl).2.2 := by
  have pulled : io.Extends allowed _ :=
    svcPullLoop_routine env fd engine (engine.pending impl.engine + 1) io impl false
  unfold svcCaptureStep
  dsimp only
  split
  · exact pulled
  · split
    · exact pulled
    · split
      · exact pulled.tick
      · exact pulled.tick

theorem svcHandshakeStep_routine (io : Io) (impl : TlsServiceImpl E) :
    io.Extends allowed (svcHandshakeStep env fd engine io impl).2.2 := by
  have stepped : io.Extends allowed _ :=
    engine_routine env fd (engine.handshakeStep impl.engine) io
  unfold svcHandshakeStep
  dsimp only
  split
  · exact stepped
  · split
    · split
      · exact stepped.tick
      · exact stepped.tick
    · exact stepped

/-- Beyond the routine, a step asks for an image. -/
theorem tlsServiceStep_extends
    (admitsImage : ∀ out : Out, out.isCommand CMD_GET_IMAGE → allowed out) (io : Io)
    (svc : TlsService E) : io.Extends allowed (tlsServiceStep env fd engine io svc).2.2 := by
  cases svc with
  | none => exact .refl io
  | some impl =>
      unfold tlsServiceStep svcStep
      dsimp only
      cases impl.state with
      | error => exact .refl io
      | done => exact .refl io
      | init => exact .refl io
      | connecting => exact svcHandshakeStep_routine env fd engine io impl
      | capturing => exact svcCaptureStep_routine env fd engine io impl
      | connected =>
          have asked := (hostSendAsync_result env fd io CMD_GET_IMAGE [0x01, 0x00]).extends
          have sent := asked.mono admitsImage
          dsimp only
          split
          · split
            · exact sent
            · exact sent.tick.trans (svcCaptureStep_routine env fd engine _ _)
          · exact .refl io

end Routine

theorem rc_ne_again {errno : Errno} (definite : errno ≠ EAGAIN) : errno.rc ≠ EAGAIN.rc := by
  cases errno with
  | EAGAIN => exact absurd rfl definite
  | _ => decide

theorem svcCaptureStep_moves (io : Io) {impl : TlsServiceImpl E}
    (capturing : impl.state = .capturing) :
    ServiceMoves (some impl, io)
      (some (svcCaptureStep env fd engine io impl).2.1,
        (svcCaptureStep env fd engine io impl).2.2) := by
  have ended := svcPullLoop_end env fd engine (engine.pending impl.engine + 1) io impl false
  have quiet : io.Extends Out.Quiet _ :=
    svcPullLoop_routine env fd engine (engine.pending impl.engine + 1) io impl false
  unfold svcCaptureStep
  dsimp only
  generalize svcPullLoop env fd engine (engine.pending impl.engine + 1) io impl false = loop
    at ended quiet ⊢
  have pulled : ServiceMoves (some impl, io) (some impl, loop.io) := .quiet quiet
  rcases ended with ⟨ret, state, err⟩ | ⟨ret, state, held⟩ |
    ⟨rc, ret, negative, definite, state, err⟩
  · rw [ret]
    have same : ServiceMoves (some impl, io) (some loop.impl, loop.io) :=
      pulled.tail (.same _ state err)
    dsimp only
    split
    · exact same
    · have ticked : ServiceMoves (some impl, io)
          (some loop.impl, (svcCaptureTimedOut env loop.io loop.impl).2) :=
        same.tail (.quiet (Io.Extends.refl loop.io).tick)
      split
      · exact ticked.tail (.fail _ rfl (rc_neg ETIMEDOUT) (rc_ne_again (by decide)))
      · exact ticked
  · rw [ret]
    exact pulled.tail (.finish _ capturing state)
  · rw [ret]
    rw [← err] at negative definite
    exact pulled.tail (.fail _ state negative definite)

theorem svcHandshakeStep_moves (io : Io) {impl : TlsServiceImpl E}
    (connecting : impl.state = .connecting) :
    ServiceMoves (some impl, io)
      (some (svcHandshakeStep env fd engine io impl).2.1,
        (svcHandshakeStep env fd engine io impl).2.2) := by
  have quiet : io.Extends Out.Quiet _ :=
    engine_routine env fd (engine.handshakeStep impl.engine) io
  unfold svcHandshakeStep
  generalize (engine.handshakeStep impl.engine).run (sendTlsRecordCb env fd) io = out at quiet ⊢
  have stepped : ServiceMoves (some impl, io) (some impl, out.2) := .quiet quiet
  have ticked : ServiceMoves (some impl, io) (some impl, (monotonicMs env out.2).2) :=
    .quiet quiet.tick
  dsimp only
  split
  · exact stepped.tail (.connect _ connecting rfl)
  · rename_i notOne
    split
    · split
      · exact ticked.tail (.fail _ rfl (rc_neg ETIMEDOUT) (rc_ne_again (by decide)))
      · exact ticked.tail (.same _ rfl rfl)
    · rename_i definite
      rcases out.1.1.rc_one_or_neg with one | negative
      · exact absurd one notOne
      · exact stepped.tail (.fail _ rfl negative definite)

theorem tlsServiceStep_moves (io : Io) (svc : TlsService E) :
    ServiceMoves (svc, io) (tlsServiceStep env fd engine io svc).2 := by
  cases svc with
  | none => exact .refl
  | some impl =>
      unfold tlsServiceStep svcStep
      dsimp only
      cases state : impl.state with
      | error => exact .refl
      | done => exact .refl
      | init => exact .refl
      | connecting => exact svcHandshakeStep_moves env fd engine io state
      | capturing => exact svcCaptureStep_moves env fd engine io state
      | connected =>
          dsimp only
          split
          · have ticked : ServiceMoves (some impl, io) (some impl, io.tick) :=
              .quiet (Io.Extends.refl io).tick
            have result := hostSendAsync_result env fd io CMD_GET_IMAGE [0x01, 0x00]
            unfold cmdGetImage
            generalize hostSendAsync env fd io CMD_GET_IMAGE [0x01, 0x00] = sent at result ⊢
            cases result with
            | refused errno definite =>
                simp only [if_pos (rc_neg errno)]
                exact ticked.tail (.fail _ rfl (rc_neg errno) (rc_ne_again definite))
            | failed isCommand negative incomplete again =>
                simp only [if_pos negative]
                exact ticked.tail (.captureFail state ⟨_, isCommand⟩ rfl negative again)
            | @sent buf isCommand =>
                simp only [Int.lt_irrefl, if_false]
                have started : ServiceMoves (some impl, io)
                    (some (svcMarkCaptureStarted env (io.tick.emit (.write buf buf.length)) impl).1,
                      (svcMarkCaptureStarted env (io.tick.emit (.write buf buf.length)) impl).2) :=
                  (ticked.tail (.capture state ⟨_, isCommand⟩ rfl)).tail
                    (.quiet (Io.Extends.refl _).tick)
                exact started.trans (svcCaptureStep_moves env fd engine _ rfl)
          · exact .refl

end Specs

end Gxfp.User
