import Gxfp.Lib.Execution
import Gxfp.User.TlsSteps

/-!
# Where captured images come from

The TLS engine is taken as a channel that decrypts the records fed to it one
after the other, each under its number.  A service over such a channel is run
through any sequence of its calls.  The run keeps the number of records that
had been fed when the last `GET_IMAGE` was sent; an image is fresh if the record
it was found in came after that.

The service pulls plaintext only while it captures and stops at the first image
frame, so records can be left over when the next capture starts.  What decides
freshness is whether one of those holds an image.
-/

namespace Gxfp.User

open Lib
open Lib.Bytes
open Lib.Execution
open Gxfp.Errno

/-! ## Images in a chunk -/

/-- The scanner finds this image frame in a chunk, under some allocator. -/
def ImageFrom (plain hdr body : List Byte) : Prop :=
  ∃ env io, (plainScanForNonpovImageChunks env io plain plainImageSinkReset).1 =
    ⟨hdr, some body, true⟩

/-- The scanner finds an image frame in a chunk, under some allocator. -/
def HasImage (plain : List Byte) : Prop :=
  ∃ hdr body, ImageFrom plain hdr body

/-- A sink holds a frame. -/
def PlainImageSink.Holds (sink : PlainImageSink) : Prop :=
  ∃ hdr body, sink = ⟨hdr, some body, true⟩

theorem plainImageSinkAppend_sink (env : Env) (io : Io) (sink : PlainImageSink)
    (payload : List Byte) :
    (plainImageSinkAppend env io sink payload).2.1 = sink ∨
      (plainImageSinkAppend env io sink payload).2.1.Holds := by
  unfold plainImageSinkAppend
  split
  · exact Or.inl rfl
  · split
    · exact Or.inl rfl
    · split
      · exact Or.inl rfl
      · split
        · exact Or.inl rfl
        · split
          · exact Or.inl rfl
          · exact Or.inr ⟨_, _, rfl⟩

/-- A scan leaves the sink as it was or with a frame in it. -/
theorem plainScanLoop_sink (env : Env) (start : PlainImageSink) (rounds : Nat) :
    ∀ (rest : List Byte) (sink : PlainImageSink) (io : Io), sink = start ∨ sink.Holds →
      (plainScanLoop env rounds rest sink io).1 = start ∨
        (plainScanLoop env rounds rest sink io).1.Holds := by
  induction rounds with
  | zero =>
      intro rest sink io sofar
      exact sofar
  | succ rounds ih =>
      intro rest sink io sofar
      unfold plainScanLoop
      split
      · exact sofar
      · split
        · exact ih _ _ _ sofar
        · rename_i frame _
          dsimp only
          have appended : ∀ out : PlainImageSink × Io,
              out = (if (frame.cmd >>> 4) &&& 0x0F = 2 ∧ frame.payload.length ≥ 5 ∧
                  frame.payload.getD 0 0 ≠ 0xAA then
                (plainImageSinkAppend env io sink frame.payload).2 else (sink, io)) →
              out.1 = start ∨ out.1.Holds := by
            rintro out rfl
            split
            · rcases plainImageSinkAppend_sink env io sink frame.payload with same | holds
              · rw [same]
                exact sofar
              · exact Or.inr holds
            · exact sofar
          split
          · exact ih _ _ _ (appended _ rfl)
          · exact ih _ _ _ (appended _ rfl)

theorem plainScan_sink (env : Env) (io : Io) (plain : List Byte) (sink : PlainImageSink) :
    (plainScanForNonpovImageChunks env io plain sink).1 = sink ∨
      (plainScanForNonpovImageChunks env io plain sink).1.Holds := by
  unfold plainScanForNonpovImageChunks
  split
  · exact Or.inl rfl
  · exact plainScanLoop_sink env sink plain.length plain sink io (Or.inl rfl)

/-! ## The channel -/

/-- How a channel treats the records it is fed: what their decryption gives, and
how the handshake uses up those at the front of the queue. -/
structure Cipher where
  create : Nat → Except ℕ+ Unit
  handshake : List (Nat × List Byte) →
    Interaction (List Byte) Int (EngineResult Unit × Nat)
  decrypt : Nat → List Byte → EngineResult (List Byte)

/-- The state of a channel: the records not yet decrypted with their numbers,
the number of records fed so far, and the last chunk of plaintext with the
number of the record it came from. -/
structure Channel where
  queue : List (Nat × List Byte)
  fed : Nat
  last : Option (Nat × List Byte)

/-- The receive queue of the engine holds 256 KiB. -/
def RXQ_CAP : Nat := 256 * 1024

namespace Channel

/-- A channel before any record. -/
def empty : Channel :=
  ⟨[], 0, none⟩

/-- Number of bytes in the receive queue. -/
def queued (channel : Channel) : Nat :=
  (channel.queue.map fun record => record.2.length).sum

/-- Decrypt the next record that gives plaintext. -/
def pull (cipher : Cipher) (channel : Channel) :
    List (Nat × List Byte) → EngineResult (List Byte) × Channel
  | [] => (.again, { channel with queue := [] })
  | (number, record) :: rest =>
      match cipher.decrypt number record with
      | .ok plain => (.ok plain, { channel with queue := rest, last := some (number, plain) })
      | .again => pull cipher channel rest
      | .failed code => (.failed code, { channel with queue := rest })

end Channel

/-- What a pull can do. -/
structure ChannelPulled (cipher : Cipher) (before after : Channel)
    (result : EngineResult (List Byte)) : Prop where
  fed : after.fed = before.fed
  queue : after.queue ⊆ before.queue
  source : ∀ plain, result = .ok plain → ∃ number record, (number, record) ∈ before.queue ∧
    cipher.decrypt number record = .ok plain ∧ after.last = some (number, plain)

theorem Channel.pull_pulled (cipher : Cipher) (channel : Channel)
    (queue : List (Nat × List Byte)) (front : queue ⊆ channel.queue) :
    ChannelPulled cipher channel (Channel.pull cipher channel queue).2
      (Channel.pull cipher channel queue).1 := by
  induction queue with
  | nil =>
      refine ⟨rfl, List.nil_subset _, ?_⟩
      intro plain impossible
      cases impossible
  | cons head rest ih =>
      rcases head with ⟨number, record⟩
      have restFront : rest ⊆ channel.queue := fun _ member => front (List.mem_cons_of_mem _ member)
      unfold Channel.pull
      cases decrypted : cipher.decrypt number record with
      | ok plain =>
          refine ⟨rfl, restFront, ?_⟩
          intro other same
          cases same
          exact ⟨number, record, front List.mem_cons_self, decrypted, rfl⟩
      | again => exact ih restFront
      | failed code =>
          refine ⟨rfl, restFront, ?_⟩
          intro plain impossible
          cases impossible

theorem Channel.pull_length (cipher : Cipher) (channel : Channel) (queue : List (Nat × List Byte)) :
    ∀ plain, (Channel.pull cipher channel queue).1 = .ok plain →
      (Channel.pull cipher channel queue).2.queue.length < queue.length := by
  induction queue with
  | nil =>
      intro plain impossible
      cases impossible
  | cons head rest ih =>
      rcases head with ⟨number, record⟩
      unfold Channel.pull
      cases cipher.decrypt number record with
      | ok plain =>
          intro _ _
          exact Nat.lt_succ_self _
      | again =>
          intro plain pulled
          exact (ih plain pulled).trans (Nat.lt_succ_self _)
      | failed code =>
          intro plain impossible
          cases impossible

/-- The channel as an engine. -/
def channelEngine (cipher : Cipher) : TlsEngine Channel where
  create := fun index => (cipher.create index).map fun _ => Channel.empty
  feedCipherRecord := fun channel record =>
    if record.length = 0 then
      .error .invalid
    else if channel.queued + record.length > RXQ_CAP then
      .error .full
    else
      .ok { channel with
        queue := channel.queue ++ [(channel.fed, record)], fed := channel.fed + 1 }
  handshakeStep := fun channel =>
    (cipher.handshake channel.queue).map fun out =>
      (out.1, { channel with queue := channel.queue.drop out.2 })
  pullPlain := fun channel => .done (Channel.pull cipher channel channel.queue)
  pending := fun channel => channel.queue.length
  pullPlain_pending := fun channel => Channel.pull_length cipher channel channel.queue

/-! ## Runs of the service -/

/-- The calls of the service. -/
inductive ServiceCall
  | init (cfg : TlsHsCfg) (psk : List Byte)
  | free
  | feedTapRecord (hdr : TapHdr) (payload : List Byte)
  | requestCapture
  | step
  | getRawImage

/-- What a call returns; `hdr` and `body` are those of the image. -/
structure ServiceOut where
  ret : Int
  hdr : List Byte
  body : Option (List Byte)

/-- A service in a run.  `mark` is the number of records that had been fed when
the last `GET_IMAGE` was sent. -/
structure ServiceRun where
  svc : TlsService Channel
  io : Io
  mark : Nat

/-- The service is about to send `GET_IMAGE`. -/
def TlsServiceImpl.WillCapture {E : Type} (impl : TlsServiceImpl E) : Prop :=
  impl.state = .connected ∧ impl.pendingCapture = true ∧ impl.captureSent = false

instance {E : Type} (impl : TlsServiceImpl E) : Decidable impl.WillCapture :=
  inferInstanceAs (Decidable (_ ∧ _ ∧ _))

/-- The mark after a step: the number of records fed, if the step has sent
`GET_IMAGE`. -/
def markAfter (before after : TlsService Channel) (mark : Nat) : Nat :=
  match before, after with
  | some before, some after =>
      if before.WillCapture ∧ after.captureSent = true then before.engine.fed else mark
  | _, _ => mark

section Runs

variable (env : Env) (fd : Int) (cipher : Cipher)

/-- One call. -/
def serviceStep (run : ServiceRun) : ServiceCall → ServiceRun × ServiceOut
  | .init cfg psk =>
      let out := tlsServiceInit env fd (channelEngine cipher) run.io run.svc cfg (some psk)
      (⟨out.2.1, out.2.2, if out.1 = 0 then 0 else run.mark⟩, ⟨out.1, [], none⟩)
  | .free => (⟨tlsServiceFree run.svc, run.io, run.mark⟩, ⟨0, [], none⟩)
  | .feedTapRecord hdr payload =>
      let out := tlsServiceFeedTapRecord env (channelEngine cipher) run.io run.svc hdr payload
      (⟨out.2.1, out.2.2, run.mark⟩, ⟨out.1, [], none⟩)
  | .requestCapture =>
      let out := tlsServiceRequestCapture run.svc
      (⟨out.2, run.io, run.mark⟩, ⟨out.1, [], none⟩)
  | .step =>
      let out := tlsServiceStep env fd (channelEngine cipher) run.io run.svc
      (⟨out.2.1, out.2.2, markAfter run.svc out.2.1 run.mark⟩, ⟨out.1, [], none⟩)
  | .getRawImage =>
      let out := tlsServiceGetRawImage env run.io run.svc
      (⟨out.svc, out.io, run.mark⟩, ⟨out.ret, out.hdr, out.body⟩)

end Runs

/-- The image a call returned was found in a record that was fed after the last
`GET_IMAGE` had been sent. -/
def FreshImage (run : ServiceRun) (out : ServiceOut) : Prop :=
  ∃ impl number plain body, run.svc = some impl ∧ impl.engine.last = some (number, plain) ∧
    out.body = some body ∧ ImageFrom plain out.hdr body ∧ run.mark ≤ number

/-- No record left over in the engine decrypts to a chunk with an image. -/
def NoLeftoverImage (cipher : Cipher) (channel : Channel) : Prop :=
  ∀ number record plain, (number, record) ∈ channel.queue →
    cipher.decrypt number record = .ok plain → ¬ HasImage plain

/-! ## The invariant -/

/-- The invariant of a service whose captures start without leftover images. -/
structure CaptureInv (cipher : Cipher) (mark : Nat) (impl : TlsServiceImpl Channel) : Prop where
  numbered : ∀ number record, (number, record) ∈ impl.engine.queue → number < impl.engine.fed
  marked : mark ≤ impl.engine.fed
  /-- Before and while it captures the sink is empty. -/
  sink : impl.state = .connecting ∨ impl.state = .capturing ∨ impl.WillCapture →
    impl.img = plainImageSinkReset
  /-- While it captures, no record from before the request holds an image. -/
  stale : impl.state = .capturing → ∀ number record plain, (number, record) ∈ impl.engine.queue →
    cipher.decrypt number record = .ok plain → HasImage plain → mark ≤ number
  /-- An image in the sink is fresh. -/
  fresh : impl.img.haveOneframe = true → ∃ number plain body,
    impl.engine.last = some (number, plain) ∧ impl.img.body = some body ∧
      ImageFrom plain impl.img.hdr body ∧ mark ≤ number

/-- The invariant of a run. -/
def ServiceInv (cipher : Cipher) (run : ServiceRun) : Prop :=
  ∀ impl, run.svc = some impl → CaptureInv cipher run.mark impl

/-! ## The capture branch -/

/-- What pulling does to a capturing service: it stops with the sink still
empty, or with the image of one of the queued records in it. -/
structure CapturePulled (cipher : Cipher) (before after : TlsServiceImpl Channel) : Prop where
  fed : after.engine.fed = before.engine.fed
  queue : after.engine.queue ⊆ before.engine.queue
  sent : after.captureSent = before.captureSent
  outcome : (after.img = plainImageSinkReset ∧ (after.state = .capturing ∨ after.state = .error)) ∨
    (after.state = .done ∧ ∃ number record plain hdr body, (number, record) ∈ before.engine.queue ∧
      cipher.decrypt number record = .ok plain ∧ after.engine.last = some (number, plain) ∧
      after.img = ⟨hdr, some body, true⟩ ∧ ImageFrom plain hdr body)

/-- Pulling once more after a chunk without an image. -/
theorem CapturePulled.after {cipher : Cipher} {before middle after : TlsServiceImpl Channel}
    (fed : middle.engine.fed = before.engine.fed)
    (queue : middle.engine.queue ⊆ before.engine.queue)
    (sent : middle.captureSent = before.captureSent) (rest : CapturePulled cipher middle after) :
    CapturePulled cipher before after := by
  refine ⟨rest.fed.trans fed, fun _ member => queue (rest.queue member), rest.sent.trans sent, ?_⟩
  rcases rest.outcome with empty | ⟨done, number, record, plain, hdr, body, member, found⟩
  · exact Or.inl empty
  · exact Or.inr ⟨done, number, record, plain, hdr, body, queue member, found⟩

theorem svcPullLoop_pulled (env : Env) (fd : Int) (cipher : Cipher) (rounds : Nat) :
    ∀ (io : Io) (impl : TlsServiceImpl Channel) (progressed : Bool), impl.state = .capturing →
      impl.img = plainImageSinkReset →
      CapturePulled cipher impl
        (svcPullLoop env fd (channelEngine cipher) rounds io impl progressed).impl := by
  induction rounds with
  | zero =>
      intro io impl progressed capturing empty
      exact ⟨rfl, fun _ member => member, rfl, Or.inl ⟨empty, Or.inl capturing⟩⟩
  | succ rounds ih =>
      intro io impl progressed capturing empty
      have pulled :=
        Channel.pull_pulled cipher impl.engine impl.engine.queue (fun _ member => member)
      have pullEq : ((channelEngine cipher).pullPlain impl.engine).run (sendTlsRecordCb env fd) io =
          (Channel.pull cipher impl.engine impl.engine.queue, io) := rfl
      unfold svcPullLoop
      rw [pullEq]
      generalize Channel.pull cipher impl.engine impl.engine.queue = out at pulled ⊢
      rcases out with ⟨result, channel⟩
      cases result with
      | again => exact ⟨pulled.fed, pulled.queue, rfl, Or.inl ⟨empty, Or.inl capturing⟩⟩
      | failed code =>
          dsimp only
          split
          · exact ⟨pulled.fed, pulled.queue, rfl, Or.inl ⟨empty, Or.inl capturing⟩⟩
          · exact ⟨pulled.fed, pulled.queue, rfl, Or.inl ⟨empty, Or.inr rfl⟩⟩
      | ok plain =>
          obtain ⟨number, record, member, decrypted, lastEq⟩ := pulled.source plain rfl
          dsimp only
          simp only [empty]
          rcases plainScan_sink env io plain plainImageSinkReset with unchanged | ⟨hdr, body, found⟩
          · simp only [unchanged, if_neg (show ¬ plainImageSinkReset.haveOneframe = true by decide)]
            refine CapturePulled.after ?_ ?_ ?_ (ih _ _ true ?_ ?_)
            · exact pulled.fed
            · exact pulled.queue
            · rfl
            · exact capturing
            · rfl
          · simp only [found, if_true]
            exact ⟨pulled.fed, pulled.queue, rfl, Or.inr ⟨rfl, number, record, plain, hdr, body,
              member, decrypted, lastEq, rfl, env, io, found⟩⟩

theorem svcCaptureStep_pulled (env : Env) (fd : Int) (cipher : Cipher) (io : Io)
    {impl : TlsServiceImpl Channel} (capturing : impl.state = .capturing)
    (empty : impl.img = plainImageSinkReset) :
    CapturePulled cipher impl (svcCaptureStep env fd (channelEngine cipher) io impl).2.1 := by
  have pulled := svcPullLoop_pulled env fd cipher
    ((channelEngine cipher).pending impl.engine + 1) io impl false capturing empty
  have ended := svcPullLoop_end env fd (channelEngine cipher)
    ((channelEngine cipher).pending impl.engine + 1) io impl false
  unfold svcCaptureStep
  dsimp only
  generalize svcPullLoop env fd (channelEngine cipher) _ io impl false = loop at pulled ended ⊢
  split
  · exact pulled
  · rename_i broke
    split
    · exact pulled
    · split
      · rcases pulled.outcome with ⟨stillEmpty, -⟩ | ⟨done, -⟩
        · exact ⟨pulled.fed, pulled.queue, pulled.sent, Or.inl ⟨stillEmpty, Or.inr rfl⟩⟩
        · rcases ended with ⟨-, state, -⟩ | ⟨ret, -, -⟩ | ⟨rc, ret, -, -, -, -⟩
          · rw [state, capturing] at done
            cases done
          · rw [broke] at ret
            cases ret
          · rw [broke] at ret
            cases ret
      · exact pulled

/-! ## Every call keeps the invariant -/

theorem plainImageSinkReset_haveOneframe : plainImageSinkReset.haveOneframe = false :=
  rfl

/-- An empty sink holds no image to account for. -/
theorem fresh_of_empty {mark : Nat} {impl : TlsServiceImpl Channel}
    (empty : impl.img = plainImageSinkReset) (held : impl.img.haveOneframe = true) :
    ∃ number plain body, impl.engine.last = some (number, plain) ∧ impl.img.body = some body ∧
      ImageFrom plain impl.img.hdr body ∧ mark ≤ number := by
  rw [empty, plainImageSinkReset_haveOneframe] at held
  cases held

/-- A capture step keeps the invariant. -/
theorem CaptureInv.pulled {cipher : Cipher} {mark : Nat} {before after : TlsServiceImpl Channel}
    (inv : CaptureInv cipher mark before) (capturing : before.state = .capturing)
    (pulled : CapturePulled cipher before after) : CaptureInv cipher mark after := by
  constructor
  · intro number record member
    rw [pulled.fed]
    exact inv.numbered number record (pulled.queue member)
  · rw [pulled.fed]
    exact inv.marked
  · intro early
    rcases pulled.outcome with ⟨empty, -⟩ | ⟨done, -⟩
    · exact empty
    · rw [TlsServiceImpl.WillCapture, done] at early
      rcases early with impossible | impossible | ⟨impossible, -⟩
      · cases impossible
      · cases impossible
      · cases impossible
  · intro _ number record plain member
    exact inv.stale capturing number record plain (pulled.queue member)
  · intro held
    rcases pulled.outcome with ⟨empty, -⟩ |
      ⟨-, number, record, plain, hdr, body, member, decrypted, lastEq, imgEq, found⟩
    · exact fresh_of_empty empty held
    · refine ⟨number, plain, body, lastEq, ?_, ?_, ?_⟩
      · rw [imgEq]
      · rw [imgEq]
        exact found
      · exact inv.stale capturing number record plain member decrypted ⟨hdr, body, found⟩

/-- The invariant at the moment `GET_IMAGE` has been sent: everything fed so far
is from before the request. -/
theorem CaptureInv.start {cipher : Cipher} {mark : Nat} {before after : TlsServiceImpl Channel}
    (inv : CaptureInv cipher mark before) (willCapture : before.WillCapture)
    (clean : NoLeftoverImage cipher before.engine) (engine : after.engine = before.engine)
    (img : after.img = before.img) : CaptureInv cipher before.engine.fed after := by
  have empty : after.img = plainImageSinkReset :=
    img.trans (inv.sink (Or.inr (Or.inr willCapture)))
  constructor
  · rw [engine]
    exact inv.numbered
  · rw [engine]
  · intro _
    exact empty
  · intro _ number record plain member decrypted hasImage
    rw [engine] at member
    exact absurd hasImage (clean number record plain member decrypted)
  · exact fresh_of_empty empty

/-- A change that leaves the sink alone, only drops records and ends neither
capturing nor about to capture keeps the invariant. -/
theorem CaptureInv.settle {cipher : Cipher} {mark : Nat} {before after : TlsServiceImpl Channel}
    (inv : CaptureInv cipher mark before) (fed : after.engine.fed = before.engine.fed)
    (queue : after.engine.queue ⊆ before.engine.queue)
    (last : after.engine.last = before.engine.last) (img : after.img = before.img)
    (notCapturing : after.state ≠ .capturing)
    (sink : after.state = .connecting ∨ after.WillCapture → after.img = plainImageSinkReset) :
    CaptureInv cipher mark after := by
  constructor
  · intro number record member
    rw [fed]
    exact inv.numbered number record (queue member)
  · rw [fed]
    exact inv.marked
  · rintro (connecting | capturing | willCapture)
    · exact sink (Or.inl connecting)
    · exact absurd capturing notCapturing
    · exact sink (Or.inr willCapture)
  · intro capturing
    exact absurd capturing notCapturing
  · rw [last, img]
    exact inv.fresh

/-- The error state asks nothing of the sink. -/
theorem CaptureInv.error {cipher : Cipher} {mark : Nat} {before after : TlsServiceImpl Channel}
    (inv : CaptureInv cipher mark before) (fed : after.engine.fed = before.engine.fed)
    (queue : after.engine.queue ⊆ before.engine.queue)
    (last : after.engine.last = before.engine.last) (img : after.img = before.img)
    (error : after.state = .error) : CaptureInv cipher mark after := by
  refine inv.settle fed queue last img ?_ ?_
  · rw [error]
    decide
  · rw [TlsServiceImpl.WillCapture, error]
    rintro (impossible | ⟨impossible, -⟩)
    · cases impossible
    · cases impossible

section Calls

variable (env : Env) (fd : Int) (cipher : Cipher)

theorem svcHandshakeStep_inv (io : Io) {mark : Nat} {impl : TlsServiceImpl Channel}
    (connecting : impl.state = .connecting) (inv : CaptureInv cipher mark impl) :
    CaptureInv cipher mark (svcHandshakeStep env fd (channelEngine cipher) io impl).2.1 := by
  have empty := inv.sink (Or.inl connecting)
  have dropped :
      ((channelEngine cipher).handshakeStep impl.engine).run (sendTlsRecordCb env fd) io = _ :=
    Interaction.run_map _ _ _ io
  unfold svcHandshakeStep
  rw [dropped]
  generalize (cipher.handshake impl.engine.queue).run (sendTlsRecordCb env fd) io = out
  have front : impl.engine.queue.drop out.1.2 ⊆ impl.engine.queue := List.drop_subset _ _
  dsimp only
  split
  · refine inv.settle rfl front rfl rfl ?_ ?_
    · exact fun impossible => by cases impossible
    · intro _
      exact empty
  · split
    · split
      · exact inv.error rfl front rfl rfl rfl
      · refine inv.settle rfl front rfl rfl ?_ ?_
        · dsimp only
          rw [connecting]
          decide
        · intro _
          exact empty
    · exact inv.error rfl front rfl rfl rfl

/-- A step keeps the invariant if a capture it starts finds no leftover
image. -/
theorem svcStep_inv (io : Io) {mark : Nat} {impl : TlsServiceImpl Channel}
    (inv : CaptureInv cipher mark impl)
    (clean : impl.WillCapture → NoLeftoverImage cipher impl.engine) :
    CaptureInv cipher
      (markAfter (some impl) (some (svcStep env fd (channelEngine cipher) io impl).2.1) mark)
      (svcStep env fd (channelEngine cipher) io impl).2.1 := by
  by_cases willCapture : impl.WillCapture
  · obtain ⟨connected, pending, unsent⟩ := id willCapture
    unfold svcStep
    simp only [connected, pending, unsent, Bool.not_false, Bool.and_self, if_true]
    split
    · have unchanged : markAfter (some impl)
          (some (svcFail impl (cmdGetImage env fd io).1)) mark = mark := by
        simp [markAfter, svcFail, unsent]
      rw [unchanged]
      exact inv.error rfl (fun _ member => member) rfl rfl rfl
    · generalize startedEq : svcMarkCaptureStarted env (cmdGetImage env fd io).2 impl = started
      have capturing : started.1.state = .capturing := by rw [← startedEq]; rfl
      have sent : started.1.captureSent = true := by rw [← startedEq]; rfl
      have startInv : CaptureInv cipher impl.engine.fed started.1 := by
        rw [← startedEq]
        exact inv.start willCapture (clean willCapture) rfl rfl
      have pulled := svcCaptureStep_pulled env fd cipher started.2 capturing
        (startInv.sink (Or.inr (Or.inl capturing)))
      have marked : markAfter (some impl)
          (some (svcCaptureStep env fd (channelEngine cipher) started.2 started.1).2.1) mark =
          impl.engine.fed :=
        if_pos ⟨willCapture, pulled.sent.trans sent⟩
      rw [marked]
      exact startInv.pulled capturing pulled
  · have unchanged (after : TlsServiceImpl Channel) :
        markAfter (some impl) (some after) mark = mark :=
      if_neg fun sent => willCapture sent.1
    rw [unchanged]
    unfold svcStep
    cases state : impl.state with
    | error => exact inv
    | connecting => exact svcHandshakeStep_inv env fd cipher io state inv
    | connected =>
        dsimp only
        split
        · rename_i ready
          rw [Bool.and_eq_true, Bool.not_eq_true'] at ready
          exact absurd ⟨state, ready⟩ willCapture
        · exact inv
    | capturing =>
        exact inv.pulled state
          (svcCaptureStep_pulled env fd cipher io state (inv.sink (Or.inr (Or.inl state))))
    | done => exact inv
    | init => exact inv

/-- Feeding a record keeps the invariant: it is numbered after the mark. -/
theorem tlsServiceFeedTapRecord_inv (run : ServiceRun) (hdr : TapHdr) (payload : List Byte)
    (inv : ServiceInv cipher run) :
    ServiceInv cipher (serviceStep env fd cipher run (.feedTapRecord hdr payload)).1 := by
  intro after afterEq
  dsimp only [serviceStep] at afterEq ⊢
  cases svc : run.svc with
  | none =>
      rw [svc] at afterEq
      cases afterEq
  | some impl =>
      have implInv := inv impl svc
      rw [svc] at afterEq
      unfold tlsServiceFeedTapRecord channelEngine at afterEq
      dsimp only at afterEq
      split at afterEq
      · split at afterEq
        · cases afterEq
          exact implInv.error rfl (fun _ member => member) rfl rfl rfl
        · rename_i fedEngine fedEq
          split at fedEq
          · cases fedEq
          · split at fedEq
            · cases fedEq
            · cases fedEq
              cases afterEq
              constructor
              · intro number record member
                rcases List.mem_append.mp member with older | newest
                · exact (implInv.numbered number record older).trans (Nat.lt_succ_self _)
                · cases List.mem_singleton.mp newest
                  exact Nat.lt_succ_self _
              · exact implInv.marked.trans (Nat.le_succ _)
              · exact implInv.sink
              · intro capturing number record plain member
                rcases List.mem_append.mp member with older | newest
                · exact implInv.stale capturing number record plain older
                · cases List.mem_singleton.mp newest
                  intro _ _
                  exact implInv.marked
              · exact implInv.fresh
      · cases afterEq
        exact implInv

/-- A request empties the sink. -/
theorem tlsServiceRequestCapture_inv (run : ServiceRun) (inv : ServiceInv cipher run) :
    ServiceInv cipher (serviceStep env fd cipher run .requestCapture).1 := by
  intro after afterEq
  dsimp only [serviceStep] at afterEq ⊢
  cases svc : run.svc with
  | none =>
      rw [svc] at afterEq
      cases afterEq
  | some impl =>
      have implInv := inv impl svc
      rw [svc] at afterEq
      unfold tlsServiceRequestCapture at afterEq
      dsimp only at afterEq
      split at afterEq
      · cases afterEq
        exact implInv
      · cases afterEq
        constructor
        · exact implInv.numbered
        · exact implInv.marked
        · intro _
          rfl
        · intro impossible
          cases impossible
        · exact fresh_of_empty rfl

/-- Taking the image leaves nothing to account for. -/
theorem tlsServiceGetRawImage_inv (run : ServiceRun) (inv : ServiceInv cipher run) :
    ServiceInv cipher (serviceStep env fd cipher run .getRawImage).1 := by
  intro after afterEq
  dsimp only [serviceStep] at afterEq ⊢
  cases svc : run.svc with
  | none =>
      rw [svc] at afterEq
      cases afterEq
  | some impl =>
      have implInv := inv impl svc
      rw [svc] at afterEq
      unfold tlsServiceGetRawImage at afterEq
      dsimp only at afterEq
      split at afterEq
      · cases afterEq
        exact implInv
      · rename_i held
        unfold plainImageSinkExtract at afterEq
        split at afterEq
        · cases afterEq
          exact implInv
        · split at afterEq
          · cases afterEq
            exact implInv
          · split at afterEq
            · cases afterEq
              exact implInv
            · cases afterEq
              constructor
              · exact implInv.numbered
              · exact implInv.marked
              · intro early
                have empty := implInv.sink early
                rw [empty] at held
                exact absurd rfl held
              · exact implInv.stale
              · intro impossible
                cases impossible

/-- A new service has seen no record. -/
theorem tlsServiceInit_inv (run : ServiceRun) (cfg : TlsHsCfg) (psk : List Byte)
    (inv : ServiceInv cipher run) :
    ServiceInv cipher (serviceStep env fd cipher run (.init cfg psk)).1 := by
  have result := tlsServiceInit_result env fd (channelEngine cipher) run.io run.svc cfg (some psk)
  intro after afterEq
  dsimp only [serviceStep] at afterEq ⊢
  generalize tlsServiceInit env fd (channelEngine cipher) run.io run.svc cfg (some psk) = out
    at result afterEq ⊢
  cases result with
  | failed negative quiet =>
      rw [if_neg (by omega)]
      exact inv after afterEq
  | started absent fresh quiet sent trace =>
      cases afterEq
      obtain ⟨index, created⟩ := fresh.engine
      have engineEq : after.engine = Channel.empty := by
        dsimp only [channelEngine] at created
        cases createdEq : cipher.create index with
        | error code =>
            rw [createdEq] at created
            cases created
        | ok done =>
            rw [createdEq] at created
            exact (Except.ok.inj created).symm
      rw [if_pos rfl]
      constructor
      · intro number record member
        rw [engineEq] at member
        cases member
      · exact Nat.zero_le _
      · intro _
        exact fresh.img
      · intro capturing
        rw [fresh.state] at capturing
        cases capturing
      · exact fresh_of_empty fresh.img

/-! ## Runs -/

/-- A step that sends `GET_IMAGE` finds no leftover image in the engine. -/
def CapturesClean (transition : Transition ServiceRun ServiceCall ServiceOut) : Prop :=
  transition.input = .step → ∀ impl, transition.before.svc = some impl → impl.WillCapture →
    NoLeftoverImage cipher impl.engine

/-- What one call preserves. -/
theorem serviceStep_inv (run : ServiceRun) (call : ServiceCall) (inv : ServiceInv cipher run)
    (clean : CapturesClean cipher (stepTransition (serviceStep env fd cipher) run call)) :
    ServiceInv cipher (serviceStep env fd cipher run call).1 := by
  cases call with
  | init cfg psk => exact tlsServiceInit_inv env fd cipher run cfg psk inv
  | free =>
      intro after impossible
      cases impossible
  | feedTapRecord hdr payload => exact tlsServiceFeedTapRecord_inv env fd cipher run hdr payload inv
  | requestCapture => exact tlsServiceRequestCapture_inv env fd cipher run inv
  | step =>
      intro after afterEq
      dsimp only [serviceStep] at afterEq ⊢
      cases svc : run.svc with
      | none =>
          rw [svc] at afterEq
          cases afterEq
      | some impl =>
          rw [svc] at afterEq
          cases afterEq
          exact svcStep_inv env fd cipher run.io (inv impl svc) (clean rfl impl svc)
  | getRawImage => exact tlsServiceGetRawImage_inv env fd cipher run inv

/-- Under the invariant a returned image is fresh. -/
theorem getRawImage_fresh (run : ServiceRun) (inv : ServiceInv cipher run)
    (returned : (serviceStep env fd cipher run .getRawImage).2.ret = 1) :
    FreshImage run (serviceStep env fd cipher run .getRawImage).2 := by
  dsimp only [serviceStep] at returned ⊢
  cases svc : run.svc with
  | none =>
      rw [svc] at returned
      cases returned
  | some impl =>
      rw [svc] at returned
      unfold tlsServiceGetRawImage at returned ⊢
      dsimp only at returned ⊢
      split at returned
      · cases returned
      · rename_i held
        have haveOneframe : impl.img.haveOneframe = true := by simpa using held
        obtain ⟨number, plain, body, lastEq, bodyEq, found, marked⟩ :=
          (inv impl svc).fresh haveOneframe
        rw [if_neg held]
        unfold plainImageSinkExtract at returned ⊢
        rw [bodyEq] at returned ⊢
        dsimp only at returned ⊢
        split at returned
        · cases returned
        · rename_i nonempty
          split at returned
          · cases returned
          · rename_i allocated
            rw [if_neg nonempty, if_neg allocated]
            exact ⟨impl, number, plain, body, svc, lastEq, rfl, found, marked⟩

/-- In every run in which no capture starts with a leftover image, every image
returned was found in a record that was fed after its `GET_IMAGE` had been
sent. -/
theorem captured_images_fresh (io : Io) (calls : List ServiceCall)
    (clean : ∀ transition ∈ transitions (serviceStep env fd cipher) ⟨none, io, 0⟩ calls,
      CapturesClean cipher transition) :
    ∀ transition ∈ transitions (serviceStep env fd cipher) ⟨none, io, 0⟩ calls,
      transition.input = .getRawImage → transition.output.ret = 1 →
        FreshImage transition.before transition.output := by
  have start : ServiceInv cipher ⟨none, io, 0⟩ := by
    intro impl impossible
    cases impossible
  intro transition member isGet returned
  have inv := (transitions_invariant (serviceStep_inv env fd cipher) start clean transition
    member).1
  have stepEq := eq_stepTransition_of_mem member
  rw [isGet] at stepEq
  rw [stepEq] at returned ⊢
  exact getRawImage_fresh env fd cipher transition.before inv returned

end Calls

/-! ## Two runs -/

/-- A cipher that does not encrypt and whose handshake needs no record. -/
def clearCipher : Cipher where
  create := fun _ => .ok ()
  handshake := fun _ => .done (.ok (), 0)
  decrypt := fun _ record => .ok record

/-- The header of a TLS record. -/
def tlsHdr (length : Nat) : TapHdr :=
  ⟨length, GOODIX_MP_TYPE_TLS.toNat, 0, 0, Vector.replicate 16 0⟩

/-- An image frame whose body is only its checksum. -/
def imageFrame : List Byte :=
  [0x20, 0x0a, 0x00, 0x00, 0x00, 0x00, 0x00, 0x00, 0xff, 0xff, 0xff, 0xff, 0x84]

/-- The calls that connect the service and send its first `GET_IMAGE`. -/
def firstRequest : List ServiceCall :=
  [.init ⟨1000, true⟩ (List.replicate PSK_LEN 0), .step, .requestCapture, .step]

/-- A device that answers the request with one image frame. -/
def oneFrame : List ServiceCall :=
  [.feedTapRecord (tlsHdr 13) imageFrame, .step]

/-- A device that answers it with two, and the next request. -/
def twoFrames : List ServiceCall :=
  [.feedTapRecord (tlsHdr 13) imageFrame, .feedTapRecord (tlsHdr 13) imageFrame, .step,
    .getRawImage, .requestCapture, .step]

/-- The state of such a run. -/
def clearRun (more : List ServiceCall) : ServiceRun :=
  final (serviceStep steadyEnv 3 clearCipher) ⟨none, ⟨0, []⟩, 0⟩ (firstRequest ++ more)

/-- The image of a device that answers the request with one frame is fresh. -/
theorem captured_images_fresh_one_frame :
    (serviceStep steadyEnv 3 clearCipher (clearRun oneFrame) .getRawImage).2.ret = 1 ∧
      FreshImage (clearRun oneFrame)
        (serviceStep steadyEnv 3 clearCipher (clearRun oneFrame) .getRawImage).2 := by
  have returned :
      (serviceStep steadyEnv 3 clearCipher (clearRun oneFrame) .getRawImage).2.ret = 1 := by
    decide
  have emptyQueues : ∀ transition ∈ transitions (serviceStep steadyEnv 3 clearCipher)
      ⟨none, ⟨0, []⟩, 0⟩ (firstRequest ++ oneFrame ++ [.getRawImage]),
      ∀ impl ∈ transition.before.svc, impl.WillCapture → impl.engine.queue = [] := by
    decide
  have clean : ∀ transition ∈ transitions (serviceStep steadyEnv 3 clearCipher)
      ⟨none, ⟨0, []⟩, 0⟩ (firstRequest ++ oneFrame ++ [.getRawImage]),
      CapturesClean clearCipher transition := by
    intro transition member _ impl svc willCapture number record plain queued
    rw [emptyQueues transition member impl svc willCapture] at queued
    cases queued
  have last := stepTransition_mem_last (serviceStep steadyEnv 3 clearCipher)
    ⟨none, ⟨0, []⟩, 0⟩ (firstRequest ++ oneFrame) .getRawImage
  constructor
  · exact returned
  · exact captured_images_fresh steadyEnv 3 clearCipher ⟨0, []⟩ _ clean _ last rfl returned

/-- The second frame of such a device supplies the image of the next request,
although it was fed before that was sent. -/
theorem not_fresh_two_frames :
    (serviceStep steadyEnv 3 clearCipher (clearRun twoFrames) .getRawImage).2.ret = 1 ∧
      ¬ FreshImage (clearRun twoFrames)
        (serviceStep steadyEnv 3 clearCipher (clearRun twoFrames) .getRawImage).2 := by
  constructor
  · decide
  · rintro ⟨impl, number, plain, body, svc, lastEq, -, -, marked⟩
    have source : ∀ impl ∈ (clearRun twoFrames).svc,
        impl.engine.last = some (1, imageFrame) := by
      decide
    have mark : (clearRun twoFrames).mark = 2 := by decide
    have numberEq : some (number, plain) = some (1, imageFrame) :=
      lastEq.symm.trans (source impl svc)
    cases numberEq
    rw [mark] at marked
    exact absurd marked (by decide)

end Gxfp.User
