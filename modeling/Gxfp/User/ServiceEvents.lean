import Gxfp.User.SessionLog

/-!
# What the TLS service logs

A step of the service logs nothing but a `GET_IMAGE`, and that only in the state
`CONNECTED` with a capture pending.  `ServiceStepped` has one case for each
branch of `gxfp_tls_service_step`, with what the step does to the flags and the
image sink; results about captures and activations read it and never the
service itself.
-/

namespace Gxfp.User

open Lib
open Lib.Bytes
open Gxfp.Errno

/-! ## The sink -/

/-- A sink that claims to hold a frame holds one that is not empty. -/
def PlainImageSink.Sound (sink : PlainImageSink) : Prop :=
  sink.haveOneframe = true → ∃ body, sink.body = some body ∧ body.length ≠ 0

theorem PlainImageSink.sound_of_empty {sink : PlainImageSink}
    (empty : sink.haveOneframe = false) : sink.Sound := by
  intro held
  rw [empty] at held
  cases held

section Sink

variable (env : Env)

/-- An accepted frame has room for its checksum. -/
theorem plainImageSinkAppend_sound (io : Io) {sink : PlainImageSink} (payload : List Byte)
    (sound : sink.Sound) : (plainImageSinkAppend env io sink payload).2.1.Sound := by
  unfold plainImageSinkAppend
  split
  · exact sound
  · split
    · exact sound
    · split
      · exact sound
      · split
        · exact sound
        · rename_i checked
          split
          · exact sound
          · intro _
            refine ⟨payload.drop 5, rfl, ?_⟩
            intro empty
            apply checked
            unfold imageCrcCheck
            rw [empty]
            rfl

theorem plainScanLoop_sound (rounds : Nat) (rest : List Byte) {sink : PlainImageSink} (io : Io)
    (sound : sink.Sound) : (plainScanLoop env rounds rest sink io).1.Sound := by
  induction rounds generalizing rest sink io with
  | zero => exact sound
  | succ rounds ih =>
      unfold plainScanLoop
      split
      · exact sound
      · split
        · exact ih _ _ sound
        · rename_i frame _
          have appended : (if (frame.cmd >>> 4) &&& 0x0F = 2 ∧ frame.payload.length ≥ 5 ∧
              frame.payload.getD 0 0 ≠ 0xAA then
                (plainImageSinkAppend env io sink frame.payload).2 else (sink, io)).1.Sound := by
            split
            · exact plainImageSinkAppend_sound env io frame.payload sound
            · exact sound
          dsimp only
          split
          · exact ih _ _ appended
          · exact ih _ _ appended

theorem plainScan_sound (io : Io) (buf : List Byte) {sink : PlainImageSink} (sound : sink.Sound) :
    (plainScanForNonpovImageChunks env io buf sink).1.Sound := by
  unfold plainScanForNonpovImageChunks
  split
  · exact sound
  · exact plainScanLoop_sound env _ _ io sound

end Sink

/-! ## Steps -/

section Steps

variable {E : Type} (env : Env) (fd : Int) (engine : TlsEngine E)

/-- What a running capture does to a service: the capture goes on, ends with a
frame, or fails. -/
structure CaptureRan (impl next : TlsServiceImpl E) : Prop where
  cfg : next.cfg = impl.cfg
  pending : next.pendingCapture = impl.pendingCapture
  state : next.state = .capturing ∨ (next.state = .done ∧ next.img.haveOneframe = true) ∨
    next.state = .error
  sink : impl.img.Sound → next.img.Sound

/-- `gxfp_tls_service_step` on an existing service, with what it logs. -/
inductive ServiceStepped (impl : TlsServiceImpl E) :
    List SessionEvent → TlsServiceImpl E → Prop
  | kept : ServiceStepped impl [] impl
  /-- The handshake; without a request of its own the service has none pending. -/
  | shook {next : TlsServiceImpl E} (connecting : impl.state = .connecting)
      (state : next.state = .connecting ∨ next.state = .connected ∨ next.state = .error)
      (cfg : next.cfg = impl.cfg)
      (pending : impl.cfg.manualPendingRequest = true → next.pendingCapture = impl.pendingCapture)
      (img : next.img = impl.img) : ServiceStepped impl [] next
  /-- `GET_IMAGE` cannot be sent. -/
  | refused {next : TlsServiceImpl E} (connected : impl.state = .connected)
      (state : next.state = .error) (cfg : next.cfg = impl.cfg) (img : next.img = impl.img) :
      ServiceStepped impl [] next
  /-- `GET_IMAGE` is sent and the capture runs. -/
  | asked {started next : TlsServiceImpl E} (connected : impl.state = .connected)
      (pending : impl.pendingCapture = true) (cfg : started.cfg = impl.cfg)
      (answered : started.pendingCapture = false) (img : started.img = impl.img)
      (ran : CaptureRan started next) : ServiceStepped impl [.getImage] next
  | ran {next : TlsServiceImpl E} (capturing : impl.state = .capturing)
      (ran : CaptureRan impl next) : ServiceStepped impl [] next

/-- What the pull loop keeps. -/
theorem svcPullLoop_kept (rounds : Nat) (io : Io) (impl : TlsServiceImpl E) (progressed : Bool) :
    (svcPullLoop env fd engine rounds io impl progressed).impl.cfg = impl.cfg ∧
      (svcPullLoop env fd engine rounds io impl progressed).impl.pendingCapture =
        impl.pendingCapture ∧
      (impl.img.Sound → (svcPullLoop env fd engine rounds io impl progressed).impl.img.Sound) := by
  induction rounds generalizing io impl progressed with
  | zero => exact ⟨rfl, rfl, id⟩
  | succ rounds ih =>
      unfold svcPullLoop
      generalize (engine.pullPlain impl.engine).run (sendTlsRecordCb env fd) io = pulled
      rcases pulled with ⟨⟨result, next⟩, after⟩
      cases result with
      | again => exact ⟨rfl, rfl, id⟩
      | failed code =>
          dsimp only
          split
          · exact ⟨rfl, rfl, id⟩
          · exact ⟨rfl, rfl, id⟩
      | ok plain =>
          dsimp only
          split
          · exact ⟨rfl, rfl, plainScan_sound env after plain⟩
          · obtain ⟨cfg, pending, sound⟩ := ih (monotonicMs env
              (plainScanForNonpovImageChunks env after plain impl.img).2).2 { impl with
                engine := next
                img := (plainScanForNonpovImageChunks env after plain impl.img).1
                lastPlainMs := (monotonicMs env
                  (plainScanForNonpovImageChunks env after plain impl.img).2).1 } true
            exact ⟨cfg, pending, fun before => sound (plainScan_sound env after plain before)⟩

theorem svcCaptureStep_ran (io : Io) {impl : TlsServiceImpl E}
    (capturing : impl.state = .capturing) :
    CaptureRan impl (svcCaptureStep env fd engine io impl).2.1 := by
  have ended := svcPullLoop_end env fd engine (engine.pending impl.engine + 1) io impl false
  obtain ⟨cfg, pending, sound⟩ :=
    svcPullLoop_kept env fd engine (engine.pending impl.engine + 1) io impl false
  unfold svcCaptureStep
  generalize svcPullLoop env fd engine (engine.pending impl.engine + 1) io impl false = loop
    at ended cfg pending sound ⊢
  dsimp only
  cases ended with
  | broke ret state err =>
      have still : loop.impl.state = .capturing := state.trans capturing
      rw [ret]
      dsimp only
      split
      · exact ⟨cfg, pending, Or.inl still, sound⟩
      · split
        · exact ⟨cfg, pending, Or.inr (Or.inr rfl), sound⟩
        · exact ⟨cfg, pending, Or.inl still, sound⟩
  | image ret state held =>
      rw [ret]
      exact ⟨cfg, pending, Or.inr (Or.inl ⟨state, held⟩), sound⟩
  | failed rc ret negative definite state err =>
      rw [ret]
      exact ⟨cfg, pending, Or.inr (Or.inr state), sound⟩

theorem svcHandshakeStep_stepped (io : Io) {impl : TlsServiceImpl E}
    (connecting : impl.state = .connecting) :
    ServiceStepped impl [] (svcHandshakeStep env fd engine io impl).2.1 := by
  unfold svcHandshakeStep
  generalize (engine.handshakeStep impl.engine).run (sendTlsRecordCb env fd) io = out
  dsimp only
  split
  · refine .shook connecting (Or.inr (Or.inl rfl)) rfl ?_ rfl
    intro manual
    rw [manual]
    exact Bool.or_false _
  · split
    · split
      · exact .shook connecting (Or.inr (Or.inr rfl)) rfl (fun _ => rfl) rfl
      · exact .shook connecting (Or.inl connecting) rfl (fun _ => rfl) rfl
    · exact .shook connecting (Or.inr (Or.inr rfl)) rfl (fun _ => rfl) rfl

/-- What a step of the service does and logs. -/
theorem tlsServiceStep_stepped (io : Io) (impl : TlsServiceImpl E) :
    ∃ next, (tlsServiceStep env fd engine io (some impl)).2.1 = some next ∧
      ServiceStepped impl (io.eventsSince (tlsServiceStep env fd engine io (some impl)).2.2)
        next := by
  refine ⟨_, rfl, ?_⟩
  dsimp only [tlsServiceStep]
  unfold svcStep
  cases state : impl.state with
  | error =>
      rw [Io.eventsSince_self]
      exact .kept
  | done =>
      rw [Io.eventsSince_self]
      exact .kept
  | init =>
      rw [Io.eventsSince_self]
      exact .kept
  | connecting =>
      have quiet : io.Extends Out.NoEvent _ := svcHandshakeStep_routine env fd engine io impl
      dsimp only
      rw [quiet.eventsSince]
      exact svcHandshakeStep_stepped env fd engine io state
  | capturing =>
      have quiet : io.Extends Out.NoEvent _ := svcCaptureStep_routine env fd engine io impl
      dsimp only
      rw [quiet.eventsSince]
      exact .ran state (svcCaptureStep_ran env fd engine io state)
  | connected =>
      dsimp only
      by_cases due : (impl.pendingCapture && !impl.captureSent) = true
      · rw [if_pos due]
        have pending : impl.pendingCapture = true := (Bool.and_eq_true_iff.mp due).1
        have result := hostSendAsync_result env fd io CMD_GET_IMAGE [0x01, 0x00]
        have grown := result.extends.trace_suffix
        unfold cmdGetImage
        rcases result.events (show commandEvent CMD_GET_IMAGE = some .getImage by decide) with
          ⟨negative, none⟩ | ⟨sent, asked⟩
        · rw [if_pos negative]
          dsimp only
          rw [none]
          exact .refused state rfl rfl rfl
        · rw [if_neg (by rw [sent]; exact Int.lt_irrefl 0)]
          generalize hostSendAsync env fd io CMD_GET_IMAGE [0x01, 0x00] = out at grown asked ⊢
          have ran := svcCaptureStep_ran env fd engine (svcMarkCaptureStarted env out.2 impl).2
            (show (svcMarkCaptureStarted env out.2 impl).1.state = .capturing from rfl)
          have quiet : out.2.Extends Out.NoEvent _ := (Io.Extends.refl out.2).tick.trans
            (svcCaptureStep_routine env fd engine (svcMarkCaptureStarted env out.2 impl).2
              (svcMarkCaptureStarted env out.2 impl).1)
          rw [Io.eventsSince_trans grown quiet.trace_suffix, asked, quiet.eventsSince,
            List.append_nil]
          exact @ServiceStepped.asked _ impl (svcMarkCaptureStarted env out.2 impl).1 _ state
            pending rfl rfl rfl ran
      · rw [if_neg due, Io.eventsSince_self]
        exact .kept

/-! ## Records and images -/

/-- A record changes nothing but the state, and that only to an error. -/
structure RecordFed (impl next : TlsServiceImpl E) : Prop where
  cfg : next.cfg = impl.cfg
  pending : next.pendingCapture = impl.pendingCapture
  sent : next.captureSent = impl.captureSent
  img : next.img = impl.img
  state : next.state = impl.state ∨ next.state = .error

theorem tlsServiceFeedTapRecord_fed (io : Io) (impl : TlsServiceImpl E) (hdr : TapHdr)
    (payload : List Byte) :
    ∃ next, (tlsServiceFeedTapRecord env engine io (some impl) hdr payload).2.1 = some next ∧
      RecordFed impl next := by
  unfold tlsServiceFeedTapRecord
  dsimp only
  split
  · split
    · exact ⟨_, rfl, rfl, rfl, rfl, rfl, Or.inr rfl⟩
    · exact ⟨_, rfl, rfl, rfl, rfl, rfl, Or.inl rfl⟩
  · exact ⟨_, rfl, rfl, rfl, rfl, rfl, Or.inl rfl⟩

/-- A granted request: the service was connected or done, and is connected with
a capture pending and an empty sink. -/
theorem tlsServiceRequestCapture_granted {svc : TlsService E}
    (granted : ¬ (tlsServiceRequestCapture svc).1 < 0) :
    ∃ impl, svc = some impl ∧ (tlsServiceRequestCapture svc).2 = some { impl with
      pendingCapture := true
      captureSent := false
      img := plainImageSinkReset
      state := .connected } := by
  cases svc with
  | none => exact absurd (rc_neg EINVAL) granted
  | some impl =>
      refine ⟨impl, rfl, ?_⟩
      unfold tlsServiceRequestCapture at granted ⊢
      dsimp only at granted ⊢
      split at granted
      · exact absurd (rc_neg EBUSY) granted
      · rename_i ready
        rw [if_neg ready]

/-- What taking the image does to a service. -/
structure ImageTaken (impl next : TlsServiceImpl E) : Prop where
  cfg : next.cfg = impl.cfg
  pending : next.pendingCapture = impl.pendingCapture
  state : next.state = impl.state
  sink : impl.img.Sound → next.img.Sound
  frame : next.img.haveOneframe = true → impl.img.haveOneframe = true

theorem tlsServiceGetRawImage_taken (io : Io) (impl : TlsServiceImpl E) :
    ∃ next, (tlsServiceGetRawImage env io (some impl)).svc = some next ∧ ImageTaken impl next := by
  unfold tlsServiceGetRawImage plainImageSinkExtract
  dsimp only
  split
  · exact ⟨_, rfl, rfl, rfl, rfl, id, id⟩
  · split
    · exact ⟨_, rfl, rfl, rfl, rfl, id, id⟩
    · split
      · exact ⟨_, rfl, rfl, rfl, rfl, id, id⟩
      · split
        · exact ⟨_, rfl, rfl, rfl, rfl, id, id⟩
        · refine ⟨_, rfl, rfl, rfl, rfl, ?_, ?_⟩
          · intro _
            exact PlainImageSink.sound_of_empty rfl
          · intro held
            cases held

/-- With memory for it, a frame that is there is handed out and not kept. -/
theorem tlsServiceGetRawImage_held {io : Io} {impl : TlsServiceImpl E}
    (memory : ∀ index, env.malloc index = true) (sound : impl.img.Sound)
    (held : impl.img.haveOneframe = true) :
    (tlsServiceGetRawImage env io (some impl)).ret = 1 ∧
      ∀ next, (tlsServiceGetRawImage env io (some impl)).svc = some next →
        next.img.haveOneframe = false := by
  obtain ⟨body, bodyEq, nonempty⟩ := sound held
  unfold tlsServiceGetRawImage plainImageSinkExtract
  simp only [held, bodyEq, nonempty, memory]
  constructor
  · rfl
  · rintro next nextEq
    cases nextEq
    rfl

end Steps

end Gxfp.User
