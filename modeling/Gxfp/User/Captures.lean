import Gxfp.User.Recovery
import Gxfp.User.ServiceEvents
import Gxfp.User.SessionHistory

/-!
# The books of captures

Every `GET_IMAGE` belongs to a granted request of its own, every decoded image
to a granted request of its own, and every image that is taken to a report of its
own.  What the session and its TLS service remember of a capture, the pending
flag, the state and the frame in the sink, is always covered by a request in the
log that has not been used; that is the invariant, and with memory for the frame
it leaves no way to the error 'capture finished but no image'.
-/

namespace Gxfp.User

open Lib
open Lib.Bytes
open Lib.Execution
open Lib.EventLog
open Lib.EventLog.Undertaking
open Gxfp.Errno

/-! ## Requests, images and reports -/

/-- From a granted request to the `GET_IMAGE` it is for. -/
def asking : Undertaking SessionEvent where
  begins := (· = .requested)
  stages := []
  ends := (· = .getImage)
  pairs := fun _ _ => True

/-- From a granted request to the decoded image, stored as the dark frame or
reported. -/
def imaging : Undertaking SessionEvent where
  begins := (· = .requested)
  stages := []
  ends := fun event => (∃ img, event = .darkStored img) ∨ ∃ img, event = .imageReady img
  pairs := fun _ _ => True

/-- From the report of an image to the call that takes it. -/
def taking : Undertaking SessionEvent where
  begins := fun event => ∃ img, event = .imageReady img
  stages := []
  ends := fun event => ∃ img, event = .taken img
  pairs := fun first last => ∃ img, first = .imageReady img ∧ last = .taken img

theorem not_imaging_ends {event : SessionEvent} (notDark : ∀ img, event ≠ .darkStored img)
    (notReady : ∀ img, event ≠ .imageReady img) : ¬ imaging.ends event := by
  rintro (⟨img, isDark⟩ | ⟨img, isReady⟩)
  · exact notDark img isDark
  · exact notReady img isReady

theorem taking_aside {event : SessionEvent} (notReady : ∀ img, event ≠ .imageReady img)
    (notTaken : ∀ img, event ≠ .taken img) : taking.Aside [event] := by
  apply aside_singleton
  · rintro ⟨img, isReady⟩
    exact notReady img isReady
  · rintro ⟨img, isTaken⟩
    exact notTaken img isTaken

/-- What the log of a session says about its captures. -/
structure CaptureBooks (log : List SessionEvent) : Prop where
  found : .noImage ∉ log
  asked : asking.Justified log
  imaged : imaging.Justified log
  taken : taking.Justified log

/-- The events that are not about a capture. -/
def SessionEvent.isUncounted : SessionEvent → Bool
  | .activated => true
  | .observed => true
  | .fdtUp => true
  | .upReport => true
  | .completed => true
  | _ => false

/-- Nothing of the log is about a capture. -/
def Uncounted (logged : List SessionEvent) : Prop :=
  ∀ event ∈ logged, event.isUncounted = true

theorem uncounted_nil : Uncounted [] := by
  intro event member
  cases member

theorem uncounted_singleton {event : SessionEvent} (uncounted : event.isUncounted = true) :
    Uncounted [event] := by
  intro other member
  rw [List.mem_singleton.mp member]
  exact uncounted

namespace Uncounted

variable {log logged : List SessionEvent}

theorem asking (uncounted : Uncounted logged) : asking.Aside logged := by
  intro event member
  have kind := uncounted event member
  constructor
  · rintro rfl
    cases kind
  · rintro rfl
    cases kind

theorem imaging (uncounted : Uncounted logged) : imaging.Aside logged := by
  intro event member
  have kind := uncounted event member
  constructor
  · rintro rfl
    cases kind
  · rintro (⟨img, rfl⟩ | ⟨img, rfl⟩)
    · cases kind
    · cases kind

theorem taking (uncounted : Uncounted logged) : taking.Aside logged := by
  intro event member
  have kind := uncounted event member
  constructor
  · rintro ⟨img, rfl⟩
    cases kind
  · rintro ⟨img, rfl⟩
    cases kind

theorem books (uncounted : Uncounted logged) (books : CaptureBooks log) :
    CaptureBooks (log ++ logged) := by
  constructor
  · intro member
    rcases List.mem_append.mp member with older | newer
    · exact books.found older
    · have kind := uncounted _ newer
      cases kind
  · exact books.asked.aside uncounted.asking
  · exact books.imaged.aside uncounted.imaging
  · exact books.taken.aside uncounted.taking

end Uncounted

namespace CaptureBooks

variable {log : List SessionEvent}

theorem nil : CaptureBooks [] := by
  constructor
  · exact List.not_mem_nil
  · exact asking.justified_nil
  · exact imaging.justified_nil
  · exact taking.justified_nil

/-- An event is entered; one that ends something is entered against what began
it. -/
theorem append (books : CaptureBooks log) {event : SessionEvent} (other : event ≠ .noImage)
    (asked : event = .getImage → asking.Begun [] log)
    (imaged : imaging.ends event → imaging.Begun [] log)
    (taken : ∀ img, event = .taken img → taking.BegunBy (.imageReady img) [] log) :
    CaptureBooks (log ++ [event]) := by
  constructor
  · intro member
    rcases List.mem_append.mp member with older | newest
    · exact books.found older
    · exact other (List.mem_singleton.mp newest).symm
  · apply books.asked.append
    intro ends
    obtain ⟨first, begun⟩ := asked ends
    exact ⟨first, trivial, begun⟩
  · apply books.imaged.append
    intro ends
    obtain ⟨first, begun⟩ := imaged ends
    exact ⟨first, trivial, begun⟩
  · apply books.taken.append
    rintro ⟨img, rfl⟩
    exact ⟨_, ⟨img, rfl, rfl⟩, taken img rfl⟩

theorem requested (books : CaptureBooks log) : CaptureBooks (log ++ [.requested]) := by
  have notImage : ¬ imaging.ends .requested :=
    not_imaging_ends (fun _ => SessionEvent.noConfusion) (fun _ => SessionEvent.noConfusion)
  apply books.append SessionEvent.noConfusion SessionEvent.noConfusion
  · intro ends
    exact absurd ends notImage
  · intro img ends
    cases ends

theorem getImage (books : CaptureBooks log) (begun : asking.Begun [] log) :
    CaptureBooks (log ++ [.getImage]) := by
  have notImage : ¬ imaging.ends .getImage :=
    not_imaging_ends (fun _ => SessionEvent.noConfusion) (fun _ => SessionEvent.noConfusion)
  apply books.append SessionEvent.noConfusion (fun _ => begun)
  · intro ends
    exact absurd ends notImage
  · intro img ends
    cases ends

theorem darkStored (books : CaptureBooks log) (begun : imaging.Begun [] log) (img : DecodedImage) :
    CaptureBooks (log ++ [.darkStored img]) := by
  apply books.append SessionEvent.noConfusion SessionEvent.noConfusion (fun _ => begun)
  intro other ends
  cases ends

theorem imageReady (books : CaptureBooks log) (begun : imaging.Begun [] log) (img : DecodedImage) :
    CaptureBooks (log ++ [.imageReady img]) := by
  apply books.append SessionEvent.noConfusion SessionEvent.noConfusion (fun _ => begun)
  intro other ends
  cases ends

theorem takenImage (books : CaptureBooks log) {img : DecodedImage}
    (begun : taking.BegunBy (.imageReady img) [] log) : CaptureBooks (log ++ [.taken img]) := by
  have notImage : ¬ imaging.ends (.taken img) :=
    not_imaging_ends (fun _ => SessionEvent.noConfusion) (fun _ => SessionEvent.noConfusion)
  apply books.append SessionEvent.noConfusion SessionEvent.noConfusion
  · intro ends
    exact absurd ends notImage
  · intro other same
    cases same
    exact begun

end CaptureBooks

section Captures

variable {E : Type} (env : Env) (engine : TlsEngine E)

/-! ## The service -/

/-- A handshake captures nothing. -/
theorem TlsHsState.captures_nothing {state : TlsHsState}
    (shook : state = .connecting ∨ state = .connected ∨ state = .error) :
    state ≠ .capturing ∧ state ≠ .done := by
  rcases shook with rfl | rfl | rfl
  · exact ⟨TlsHsState.noConfusion, TlsHsState.noConfusion⟩
  · exact ⟨TlsHsState.noConfusion, TlsHsState.noConfusion⟩
  · exact ⟨TlsHsState.noConfusion, TlsHsState.noConfusion⟩

/-- After a capture has run the service neither connects nor waits for a
request. -/
theorem CaptureRan.waits_no_more {impl next : TlsServiceImpl E} (ran : CaptureRan impl next) :
    next.state ≠ .connecting ∧ next.state ≠ .connected := by
  rcases ran.state with capturing | ⟨done, -⟩ | error
  · rw [capturing]
    exact ⟨TlsHsState.noConfusion, TlsHsState.noConfusion⟩
  · rw [done]
    exact ⟨TlsHsState.noConfusion, TlsHsState.noConfusion⟩
  · rw [error]
    exact ⟨TlsHsState.noConfusion, TlsHsState.noConfusion⟩

/-- What a service remembers of a capture is covered by a request. -/
structure TlsServiceImpl.Accounts (impl : TlsServiceImpl E) (log : List SessionEvent) : Prop where
  manual : impl.cfg.manualPendingRequest = true
  sink : impl.img.Sound
  connecting : impl.state = .connecting → impl.pendingCapture = false
  connected : impl.state = .connected → impl.pendingCapture = true →
    asking.Begun [] log ∧ imaging.Begun [] log
  capturing : impl.state = .capturing → imaging.Begun [] log
  done : impl.state = .done → impl.img.haveOneframe = true → imaging.Begun [] log

namespace TlsServiceImpl.Accounts

variable {impl next : TlsServiceImpl E} {log logged : List SessionEvent}

theorem aside (accounts : impl.Accounts log) (asked : asking.Aside logged)
    (imaged : imaging.Aside logged) : impl.Accounts (log ++ logged) := by
  constructor
  · exact accounts.manual
  · exact accounts.sink
  · exact accounts.connecting
  · intro connected pending
    obtain ⟨request, image⟩ := accounts.connected connected pending
    exact ⟨request.aside asked, image.aside imaged⟩
  · intro capturing
    exact (accounts.capturing capturing).aside imaged
  · intro done held
    exact (accounts.done done held).aside imaged

/-- A service in the state `ERROR` remembers nothing. -/
theorem of_error (manual : impl.cfg.manualPendingRequest = true) (sink : impl.img.Sound)
    (error : impl.state = .error) : impl.Accounts log := by
  constructor
  · exact manual
  · exact sink
  · intro connecting
    rw [error] at connecting
    cases connecting
  · intro connected
    rw [error] at connected
    cases connected
  · intro capturing
    rw [error] at capturing
    cases capturing
  · intro done
    rw [error] at done
    cases done

/-- A new service has no capture. -/
theorem of_fresh (fresh : FreshService engine impl)
    (manual : impl.cfg.manualPendingRequest = true) : impl.Accounts log := by
  constructor
  · exact manual
  · rw [fresh.img]
    exact PlainImageSink.sound_of_empty rfl
  · intro _
    exact fresh.pendingCapture
  · intro connected
    rw [fresh.state] at connected
    cases connected
  · intro capturing
    rw [fresh.state] at capturing
    cases capturing
  · intro done
    rw [fresh.state] at done
    cases done

/-- A capture that is over and whose frame is gone needs no request. -/
theorem emptied (accounts : impl.Accounts log) (done : impl.state = .done)
    (empty : impl.img.haveOneframe = false) (other : List SessionEvent) : impl.Accounts other := by
  constructor
  · exact accounts.manual
  · exact accounts.sink
  · intro connecting
    rw [done] at connecting
    cases connecting
  · intro connected
    rw [done] at connected
    cases connected
  · intro capturing
    rw [done] at capturing
    cases capturing
  · intro _ held
    rw [empty] at held
    cases held

/-- A running capture is covered by its request. -/
theorem ran (ran : CaptureRan impl next) (manual : impl.cfg.manualPendingRequest = true)
    (sink : impl.img.Sound) (begun : imaging.Begun [] log) : next.Accounts log := by
  constructor
  · rw [ran.cfg]
    exact manual
  · exact ran.sink sink
  · intro connecting
    exact absurd connecting ran.waits_no_more.1
  · intro connected
    exact absurd connected ran.waits_no_more.2
  · intro _
    exact begun
  · intro _ _
    exact begun

/-- A granted request covers the capture it is for. -/
theorem granted (accounts : impl.Accounts log) :
    TlsServiceImpl.Accounts { impl with
      pendingCapture := true
      captureSent := false
      img := plainImageSinkReset
      state := .connected } (log ++ [.requested]) := by
  constructor
  · exact accounts.manual
  · exact PlainImageSink.sound_of_empty rfl
  · intro connecting
    cases connecting
  · intro _ _
    exact ⟨⟨.requested, begunBy_append rfl log⟩, ⟨.requested, begunBy_append rfl log⟩⟩
  · intro capturing
    cases capturing
  · intro done
    cases done

theorem fed (fed : RecordFed impl next) (accounts : impl.Accounts log) : next.Accounts log := by
  have manual : next.cfg.manualPendingRequest = true := by
    rw [fed.cfg]
    exact accounts.manual
  have sink : next.img.Sound := by
    rw [fed.img]
    exact accounts.sink
  rcases fed.state with same | error
  · constructor
    · exact manual
    · exact sink
    · rw [same, fed.pending]
      exact accounts.connecting
    · rw [same, fed.pending]
      exact accounts.connected
    · rw [same]
      exact accounts.capturing
    · rw [same, fed.img]
      exact accounts.done
  · exact .of_error manual sink error

theorem taken (taken : ImageTaken impl next) (accounts : impl.Accounts log) :
    next.Accounts log := by
  constructor
  · rw [taken.cfg]
    exact accounts.manual
  · exact taken.sink accounts.sink
  · rw [taken.state, taken.pending]
    exact accounts.connecting
  · rw [taken.state, taken.pending]
    exact accounts.connected
  · rw [taken.state]
    exact accounts.capturing
  · intro done held
    rw [taken.state] at done
    exact accounts.done done (taken.frame held)

end TlsServiceImpl.Accounts

/-- A service that is done holds the frame. -/
def TlsServiceImpl.FrameHeld (impl : TlsServiceImpl E) : Prop :=
  impl.state = .done → impl.img.haveOneframe = true

theorem CaptureRan.frameHeld {impl next : TlsServiceImpl E} (ran : CaptureRan impl next) :
    next.FrameHeld := by
  intro done
  rcases ran.state with capturing | ⟨-, held⟩ | error
  · rw [capturing] at done
    cases done
  · exact held
  · rw [error] at done
    cases done

theorem ServiceStepped.frameHeld {impl next : TlsServiceImpl E} {logged : List SessionEvent}
    (stepped : ServiceStepped impl logged next) (held : impl.FrameHeld) : next.FrameHeld := by
  cases stepped with
  | kept => exact held
  | shook connecting state cfg pending img =>
      intro done
      exact absurd done (TlsHsState.captures_nothing state).2
  | refused connected state cfg img =>
      intro done
      rw [state] at done
      cases done
  | asked connected pending cfg answered img ran => exact ran.frameHeld
  | ran capturing ran => exact ran.frameHeld

/-- A step of the service keeps the books. -/
theorem ServiceStepped.accounts {impl next : TlsServiceImpl E} {log logged : List SessionEvent}
    (stepped : ServiceStepped impl logged next) (books : CaptureBooks log)
    (accounts : impl.Accounts log) :
    CaptureBooks (log ++ logged) ∧ next.Accounts (log ++ logged) ∧ taking.Aside logged := by
  cases stepped with
  | kept =>
      rw [List.append_nil]
      exact ⟨books, accounts, taking.aside_nil⟩
  | shook connecting state cfg pending img =>
      have manual : next.cfg.manualPendingRequest = true := by
        rw [cfg]
        exact accounts.manual
      have sink : next.img.Sound := by
        rw [img]
        exact accounts.sink
      have none : next.pendingCapture = false :=
        (pending accounts.manual).trans (accounts.connecting connecting)
      rw [List.append_nil]
      refine ⟨books, ?_, taking.aside_nil⟩
      constructor
      · exact manual
      · exact sink
      · intro _
        exact none
      · intro _ pending
        rw [none] at pending
        cases pending
      · intro capturing
        exact absurd capturing (TlsHsState.captures_nothing state).1
      · intro done
        exact absurd done (TlsHsState.captures_nothing state).2
  | refused connected state cfg img =>
      have manual : next.cfg.manualPendingRequest = true := by
        rw [cfg]
        exact accounts.manual
      have sink : next.img.Sound := by
        rw [img]
        exact accounts.sink
      rw [List.append_nil]
      exact ⟨books, .of_error manual sink state, taking.aside_nil⟩
  | @asked started _ connected pending cfg answered img ran =>
      obtain ⟨request, image⟩ := accounts.connected connected pending
      have manual : started.cfg.manualPendingRequest = true := by
        rw [cfg]
        exact accounts.manual
      have sink : started.img.Sound := by
        rw [img]
        exact accounts.sink
      have asideImaging : imaging.Aside [.getImage] :=
        aside_singleton SessionEvent.noConfusion
          (not_imaging_ends (fun _ => SessionEvent.noConfusion) (fun _ => SessionEvent.noConfusion))
      have asideTaking : taking.Aside [.getImage] :=
        taking_aside (fun _ => SessionEvent.noConfusion) (fun _ => SessionEvent.noConfusion)
      exact ⟨books.getImage request, .ran ran manual sink (image.aside asideImaging), asideTaking⟩
  | ran capturing ran =>
      have begun := accounts.capturing capturing
      rw [List.append_nil]
      exact ⟨books, .ran ran accounts.manual accounts.sink begun, taking.aside_nil⟩

/-! ## The session -/

/-- An entry that does not ask for an image. -/
def Out.NoGetImage (out : Out) : Prop :=
  out.event ≠ some .getImage

theorem Out.noGetImage_of_noEvent {out : Out} (noEvent : out.NoEvent) : out.NoGetImage := by
  intro getImage
  rw [NoEvent, getImage] at noEvent
  cases noEvent

theorem Out.noGetImage_of_fdtUp (out : Out) (isUp : out.isCommand CMD_FDT_UP) :
    out.NoGetImage := by
  obtain ⟨payload, commandEq⟩ := isUp
  intro getImage
  unfold event at getImage
  rw [commandEq] at getImage
  split at getImage
  · cases getImage
  · cases getImage

instance : Out.AdmitsRoutine Out.NoGetImage where
  command := fun isCommand notGetImage notStart notUp =>
    Out.noGetImage_of_noEvent (Out.AdmitsRoutine.command isCommand notGetImage notStart notUp)
  incomplete := fun isStart incomplete =>
    Out.noGetImage_of_noEvent (Out.AdmitsRoutine.incomplete isStart incomplete)
  record := fun none => Out.noGetImage_of_noEvent (Out.AdmitsRoutine.record none)
  flushed := Out.noGetImage_of_noEvent Out.AdmitsRoutine.flushed
  waited := Out.noGetImage_of_noEvent Out.AdmitsRoutine.waited
  read := Out.noGetImage_of_noEvent Out.AdmitsRoutine.read

theorem Io.Extends.uncounted {start io : Io} (extended : start.Extends Out.NoGetImage io) :
    Uncounted (start.eventsSince io) := by
  obtain ⟨outs, traceEq, noGetImage⟩ := extended
  intro event member
  obtain ⟨out, outMember, isEvent⟩ := Io.mem_eventsSince traceEq member
  rcases Out.event_cases isEvent with rfl | rfl
  · rfl
  · exact absurd isEvent (noGetImage out outMember)

theorem sessionSetFdtMode_uncounted (call : InCall E) (fdtMode : FdtMode) :
    Uncounted (call.io.eventsSince (sessionSetFdtMode env call fdtMode).io) := by
  have extended : call.io.Extends Out.NoGetImage _ := sessionSetFdtMode_extends env
    Out.noGetImage_of_fdtUp (fun _ => Out.noGetImage_of_noEvent rfl) call fdtMode
  exact extended.uncounted

/-- A session that waits for an image the service has captured can have it. -/
def SessionImpl.FrameHeld (impl : SessionImpl E) : Prop :=
  impl.mode.isCapture = true → ∀ service, impl.svc = some service → service.FrameHeld

/-- What a session remembers of captures is covered by the log. -/
structure SessionImpl.Accounts (impl : SessionImpl E) (log : List SessionEvent) : Prop where
  service : ∀ service, impl.svc = some service → service.Accounts log
  frame : impl.FrameHeld
  pending : ∀ img, impl.pendingImg = some img → taking.BegunBy (.imageReady img) [] log

/-- Service and pending image are the same, and a capture that is waited for was
waited for before. -/
structure SessionImpl.SameCapture (impl next : SessionImpl E) : Prop where
  svc : next.svc = impl.svc
  pendingImg : next.pendingImg = impl.pendingImg
  capture : next.mode.isCapture = true → impl.mode.isCapture = true

theorem SessionImpl.Accounts.aside {impl next : SessionImpl E} {log logged : List SessionEvent}
    (accounts : impl.Accounts log) (same : impl.SameCapture next) (uncounted : Uncounted logged) :
    next.Accounts (log ++ logged) := by
  constructor
  · intro service svcEq
    rw [same.svc] at svcEq
    exact (accounts.service service svcEq).aside uncounted.asking uncounted.imaging
  · intro capture service svcEq
    rw [same.svc] at svcEq
    exact accounts.frame (same.capture capture) service svcEq
  · intro img pending
    rw [same.pendingImg] at pending
    exact (accounts.pending img pending).aside uncounted.taking

theorem sessionSetFdtMode_sameCapture {call : InCall E} {mode : SessionMode}
    (noCapture : mode.isCapture = false) (fdtMode : FdtMode) :
    call.impl.SameCapture (sessionSetFdtMode env (call.setMode mode) fdtMode).impl := by
  have notCapture {conclusion : Prop} (capture : mode.isCapture = true) : conclusion := by
    rw [noCapture] at capture
    cases capture
  unfold sessionSetFdtMode
  split
  · exact ⟨rfl, rfl, notCapture⟩
  · dsimp only
    split
    · exact ⟨rfl, rfl, Bool.noConfusion⟩
    · exact ⟨rfl, rfl, notCapture⟩

/-- The invariant inside a call. -/
structure InCall.Accounts (call : InCall E) (log : List SessionEvent) : Prop where
  unreported : call.Unreported
  books : CaptureBooks log
  impl : call.impl.Accounts log

variable {env engine}

/-- A move that is not about a capture. -/
theorem InCall.Accounts.aside {before after : InCall E} {log logged : List SessionEvent}
    (accounts : before.Accounts log) (unreported : after.Unreported)
    (same : before.impl.SameCapture after.impl) (uncounted : Uncounted logged) :
    after.Accounts (log ++ logged) := by
  constructor
  · exact unreported
  · exact uncounted.books accounts.books
  · exact accounts.impl.aside same uncounted

/-- A granted request, entered after events that are not about a capture. -/
theorem InCall.Accounts.granted {before : InCall E} {log logged : List SessionEvent}
    {mode : SessionMode} (accounts : before.Accounts log)
    (granted : ¬ (tlsServiceRequestCapture before.impl.svc).1 < 0) (uncounted : Uncounted logged)
    (unreported : ((before.setSvc (tlsServiceRequestCapture before.impl.svc).2 before.io).setMode
      mode).Unreported) :
    ((before.setSvc (tlsServiceRequestCapture before.impl.svc).2 before.io).setMode mode).Accounts
      (log ++ (logged ++ [.requested])) := by
  obtain ⟨service, svcEq, requested⟩ := tlsServiceRequestCapture_granted granted
  have books := uncounted.books accounts.books
  have covered := (accounts.impl.service service svcEq).aside uncounted.asking uncounted.imaging
  have asideTaking : taking.Aside [.requested] :=
    taking_aside (fun _ => SessionEvent.noConfusion) (fun _ => SessionEvent.noConfusion)
  rw [← List.append_assoc]
  constructor
  · exact unreported
  · exact books.requested
  · constructor
    · intro next nextEq
      cases requested.symm.trans nextEq
      exact covered.granted
    · intro _ next nextEq done
      cases requested.symm.trans nextEq
      cases done
    · intro img pending
      exact ((accounts.impl.pending img pending).aside uncounted.taking).aside asideTaking

/-- A step of the service in a call. -/
theorem InCall.Accounts.service {before : InCall E} {log : List SessionEvent}
    (accounts : before.Accounts log)
    (unreported : (before.setSvc
      (tlsServiceStep env before.impl.fd engine before.io before.impl.svc).2.1
      (tlsServiceStep env before.impl.fd engine before.io before.impl.svc).2.2).Unreported) :
    (before.setSvc (tlsServiceStep env before.impl.fd engine before.io before.impl.svc).2.1
      (tlsServiceStep env before.impl.fd engine before.io before.impl.svc).2.2).Accounts
      (log ++ before.io.eventsSince
        (tlsServiceStep env before.impl.fd engine before.io before.impl.svc).2.2) := by
  cases svcEq : before.impl.svc with
  | none =>
      rw [svcEq] at unreported
      have none : tlsServiceStep env before.impl.fd engine before.io none =
          (EINVAL.rc, none, before.io) := rfl
      rw [none] at unreported ⊢
      rw [Io.eventsSince_self]
      exact accounts.aside unreported ⟨svcEq.symm, rfl, id⟩ uncounted_nil
  | some service =>
      rw [svcEq] at unreported
      obtain ⟨next, nextEq, stepped⟩ :=
        tlsServiceStep_stepped env before.impl.fd engine before.io service
      obtain ⟨books, covered, asideTaking⟩ :=
        stepped.accounts accounts.books (accounts.impl.service service svcEq)
      constructor
      · exact unreported
      · exact books
      · constructor
        · intro other otherEq
          cases nextEq.symm.trans otherEq
          exact covered
        · intro capture other otherEq
          cases nextEq.symm.trans otherEq
          exact stepped.frameHeld (accounts.impl.frame capture service svcEq)
        · intro img pending
          exact (accounts.impl.pending img pending).aside asideTaking

/-- A record for the service in a call. -/
theorem InCall.Accounts.record {before : InCall E} {log : List SessionEvent}
    (accounts : before.Accounts log) (hdr : TapHdr) (payload : List Byte)
    (unreported : (before.setSvc
      (tlsServiceFeedTapRecord env engine before.io before.impl.svc hdr payload).2.1
      (tlsServiceFeedTapRecord env engine before.io before.impl.svc hdr payload).2.2).Unreported) :
    (before.setSvc (tlsServiceFeedTapRecord env engine before.io before.impl.svc hdr payload).2.1
      (tlsServiceFeedTapRecord env engine before.io before.impl.svc hdr payload).2.2).Accounts
      log := by
  cases svcEq : before.impl.svc with
  | none =>
      rw [svcEq] at unreported
      have same := accounts.aside unreported ⟨svcEq.symm, rfl, id⟩ uncounted_nil
      rwa [List.append_nil] at same
  | some service =>
      rw [svcEq] at unreported
      obtain ⟨next, nextEq, fed⟩ :=
        tlsServiceFeedTapRecord_fed env engine before.io service hdr payload
      constructor
      · exact unreported
      · exact accounts.books
      · constructor
        · intro other otherEq
          cases nextEq.symm.trans otherEq
          exact (accounts.impl.service service svcEq).fed fed
        · intro capture other otherEq done
          cases nextEq.symm.trans otherEq
          rcases fed.state with same | error
          · rw [fed.img]
            exact accounts.impl.frame capture service svcEq (same.symm.trans done)
          · rw [error] at done
            cases done
        · exact accounts.impl.pending

/-- Every move keeps the books. -/
theorem SessionMove.accounts {before after : InCall E} {log logged : List SessionEvent}
    (move : SessionMove env engine before logged after) (accounts : before.Accounts log) :
    after.Accounts (log ++ logged) := by
  have unreported := move.unreported accounts.unreported
  cases move with
  | service running => exact accounts.service unreported
  | fail isOpen err target msg =>
      exact accounts.aside unreported ⟨rfl, rfl, Bool.noConfusion⟩ uncounted_nil
  | note same =>
      apply accounts.aside unreported ?_ uncounted_nil
      rw [same.impl]
      exact ⟨rfl, rfl, id⟩
  | @await mode fdtMode awaits isOpen working =>
      have noCapture : mode.isCapture = false := by
        cases awaits with
        | fingerOn => rfl
        | fingerOff => rfl
        | idle => rfl
        | ready => rfl
      exact accounts.aside unreported (sessionSetFdtMode_sameCapture env noCapture fdtMode)
        (sessionSetFdtMode_uncounted env (before.setMode mode) fdtMode)
  | observe activating seen =>
      have armed := sessionSetFdtMode_uncounted env (before.setMode .activatingWaitUp) .waitUp
      apply accounts.aside unreported (sessionSetFdtMode_sameCapture env rfl .waitUp)
      intro event member
      rcases List.mem_cons.mp member with rfl | later
      · rfl
      · exact armed event later
  | retry waiting nowMs =>
      have polled : before.io.Extends Out.NoGetImage _ :=
        (Io.Extends.refl before.io).tick.trans (fdtFlowPoll_extends env before.impl.fd
          Out.noGetImage_of_fdtUp before.io.tick before.impl.fdt nowMs)
      exact accounts.aside unreported ⟨rfl, rfl, id⟩ polled.uncounted
  | read running => exact accounts.aside unreported ⟨rfl, rfl, id⟩ uncounted_nil
  | feed running hdr payload => exact accounts.aside unreported ⟨rfl, rfl, id⟩ uncounted_nil
  | upReport waiting =>
      exact accounts.aside unreported ⟨rfl, rfl, id⟩ (uncounted_singleton rfl)
  | requestDark waiting granted =>
      exact accounts.granted granted (uncounted_singleton rfl) unreported
  | record running hdr payload =>
      rw [List.append_nil]
      exact accounts.record hdr payload unreported
  | requestImage ready granted => exact accounts.granted granted uncounted_nil unreported

/-! ## The end of a call -/

/-- The service after its frame was taken. -/
structure TlsServiceImpl.Emptied (impl : TlsServiceImpl E) (log : List SessionEvent) : Prop where
  accounts : impl.Accounts log
  done : impl.state = .done
  empty : impl.img.haveOneframe = false

theorem TlsServiceImpl.Emptied.append {impl : TlsServiceImpl E} {log : List SessionEvent}
    (emptied : impl.Emptied log) (logged : List SessionEvent) : impl.Emptied (log ++ logged) :=
  ⟨emptied.accounts.emptied emptied.done emptied.empty _, emptied.done, emptied.empty⟩

/-- The invariant at the end of a call: an image that is to be reported is
pending and covered by a request. -/
structure InCall.AccountsEnd (call : InCall E) (log : List SessionEvent) : Prop where
  books : CaptureBooks log
  service : ∀ service, call.impl.svc = some service → service.Accounts log
  frame : call.impl.FrameHeld
  pending : call.ev.imageReady = false → ∀ img, call.impl.pendingImg = some img →
    taking.BegunBy (.imageReady img) [] log
  ready : call.ev.imageReady = true → imaging.Begun [] log ∧ call.impl.pendingImg.isSome = true ∧
    ∀ service, call.impl.svc = some service → service.Emptied log

theorem InCall.Accounts.atEnd {call : InCall E} {log : List SessionEvent}
    (accounts : call.Accounts log) : call.AccountsEnd log := by
  constructor
  · exact accounts.books
  · exact accounts.impl.service
  · exact accounts.impl.frame
  · intro _
    exact accounts.impl.pending
  · intro ready
    rw [accounts.unreported.imageReady] at ready
    cases ready

theorem InCall.AccountsEnd.sameCore {before after : InCall E} {log : List SessionEvent}
    (accounts : before.AccountsEnd log) (same : before.SameCore after) : after.AccountsEnd log := by
  obtain ⟨books, service, frame, pending, ready⟩ := accounts
  rw [← same.impl] at service frame pending ready
  rw [← same.imageReady] at pending ready
  exact ⟨books, service, frame, pending, ready⟩

/-- A capture that is over has a frame, and with memory for it the frame is
handed out. -/
theorem InCall.Accounts.captured {call : InCall E} {log : List SessionEvent}
    (memory : ∀ index, env.malloc index = true) (accounts : call.Accounts log)
    (capture : call.impl.mode.isCapture = true) (done : tlsServiceState call.impl.svc = .done) :
    (tlsServiceGetRawImage env call.io call.impl.svc).ret = 1 ∧ imaging.Begun [] log ∧
      ∀ next, (tlsServiceGetRawImage env call.io call.impl.svc).svc = some next →
        next.Emptied log := by
  cases svcEq : call.impl.svc with
  | none =>
      rw [svcEq] at done
      cases done
  | some service =>
      rw [svcEq] at done
      have serviceDone : service.state = .done := done
      have covered := accounts.impl.service service svcEq
      have held := accounts.impl.frame capture service svcEq serviceDone
      obtain ⟨one, emptied⟩ := tlsServiceGetRawImage_held env memory covered.sink held
      obtain ⟨next, nextEq, taken⟩ := tlsServiceGetRawImage_taken env call.io service
      refine ⟨one, covered.done serviceDone held, ?_⟩
      intro other otherEq
      cases nextEq.symm.trans otherEq
      exact ⟨covered.taken taken, taken.state.trans serviceDone, emptied next nextEq⟩

/-- The end of a capture keeps the books, and it has an image. -/
theorem SessionFinish.accounts {before after : InCall E} {log logged : List SessionEvent}
    (memory : ∀ index, env.malloc index = true) (finish : SessionFinish env before logged after)
    (accounts : before.Accounts log) : after.AccountsEnd (log ++ logged) := by
  cases finish with
  | none =>
      rw [List.append_nil]
      exact accounts.atEnd
  | noImage capture done empty err target msg =>
      obtain ⟨one, -⟩ := accounts.captured memory capture done
      rw [one] at empty
      cases empty
  | failed capture done traceEq err target msg =>
      obtain ⟨-, -, emptied⟩ := accounts.captured memory capture done
      have ready : before.ev.imageReady = false := accounts.unreported.imageReady
      rw [List.append_nil]
      constructor
      · exact accounts.books
      · intro service svcEq
        exact (emptied service svcEq).accounts
      · intro capture
        cases capture
      · intro _
        exact accounts.impl.pending
      · intro reported
        cases ready.symm.trans reported
  | dark capture done img traceEq idle sameArm =>
      have isCapture : before.impl.mode.isCapture = true := by
        rw [capture]
        rfl
      obtain ⟨-, begun, emptied⟩ := accounts.captured memory isCapture done
      have ready : before.ev.imageReady = false := accounts.unreported.imageReady
      have asideTaking : taking.Aside [.darkStored img] :=
        taking_aside (fun _ => SessionEvent.noConfusion) (fun _ => SessionEvent.noConfusion)
      constructor
      · exact accounts.books.darkStored begun img
      · intro service svcEq
        exact ((emptied service svcEq).append _).accounts
      · intro capture
        cases capture
      · intro _ other pending
        exact (accounts.impl.pending other pending).aside asideTaking
      · intro reported
        cases ready.symm.trans reported
  | image capture done img traceEq =>
      have isCapture : before.impl.mode.isCapture = true := by
        rw [capture]
        rfl
      obtain ⟨-, begun, emptied⟩ := accounts.captured memory isCapture done
      rw [List.append_nil]
      constructor
      · exact accounts.books
      · intro service svcEq
        exact (emptied service svcEq).accounts
      · intro capture
        cases capture
      · intro unready
        cases unready
      · intro _
        exact ⟨begun, rfl, emptied⟩

theorem SessionRuns.accounts {before after : InCall E} {log logged : List SessionEvent}
    (memory : ∀ index, env.malloc index = true)
    (runs : SessionRuns env engine before logged after) (accounts : before.Accounts log) :
    after.AccountsEnd (log ++ logged) :=
  runs.preserves (fun _ _ _ _ move held => move.accounts held)
    (fun _ _ _ _ finish held => finish.accounts memory held)
    (fun _ _ _ same held => held.sameCore same) accounts

/-! ## Runs -/

/-- The invariant between two calls. -/
structure SessionRun.Accounts (run : SessionRun E) (log : List SessionEvent) : Prop where
  books : CaptureBooks log
  impl : ∀ impl, run.session = some impl → impl.Accounts log

/-- A session with an implementation keeps the books if the implementation
does. -/
theorem SessionRun.Accounts.of_impl {impl : SessionImpl E} {io : Io} {log : List SessionEvent}
    (books : CaptureBooks log) (kept : impl.Accounts log) :
    SessionRun.Accounts ⟨some impl, io⟩ log := by
  constructor
  · exact books
  · intro other otherEq
    cases otherEq
    exact kept

/-- What a call reports after its moves. -/
theorem InCall.AccountsEnd.reported {call : InCall E} {log : List SessionEvent}
    (accounts : call.AccountsEnd log) :
    SessionRun.Accounts ⟨some call.impl, call.io⟩ (log ++ call.reports) := by
  have completed :
      Uncounted (if call.ev.activateComplete then [SessionEvent.completed] else []) := by
    split
    · exact uncounted_singleton rfl
    · exact uncounted_nil
  unfold InCall.reports
  rw [← List.append_assoc]
  generalize (if call.ev.activateComplete then [SessionEvent.completed] else []) = complete
    at completed ⊢
  have books := completed.books accounts.books
  cases imageReady : call.ev.imageReady with
  | false =>
      rw [if_neg Bool.false_ne_true, List.append_nil]
      apply SessionRun.Accounts.of_impl books
      constructor
      · intro service svcEq
        exact (accounts.service service svcEq).aside completed.asking completed.imaging
      · exact accounts.frame
      · intro img pending
        exact (accounts.pending imageReady img pending).aside completed.taking
  | true =>
      obtain ⟨begun, isSome, emptied⟩ := accounts.ready imageReady
      obtain ⟨img, pendingEq⟩ := Option.isSome_iff_exists.mp isSome
      have still := begun.aside completed.imaging
      have begins : taking.begins (.imageReady img) := ⟨img, rfl⟩
      rw [if_pos rfl, pendingEq]
      apply SessionRun.Accounts.of_impl (books.imageReady still img)
      constructor
      · intro service svcEq
        exact (((emptied service svcEq).append complete).append [.imageReady img]).accounts
      · exact accounts.frame
      · intro other otherEq
        cases pendingEq.symm.trans otherEq
        exact begunBy_append begins (log ++ complete)

/-- A service that is kept or started again accounts for its captures. -/
theorem ServiceRearmed.accounts {impl : SessionImpl E} {io after : Io} {ret : Int}
    {svc : TlsService E} {log : List SessionEvent}
    (rearmed : ServiceRearmed env engine ⟨impl, sessionEventsClear, io⟩ ret svc after)
    (accounts : impl.Accounts log) :
    ∀ service, svc = some service → service.Accounts log := by
  cases rearmed with
  | kept working => exact accounts.service
  | replaced broken =>
      have result := tlsServiceInit_result env impl.fd engine (devFlushRxq impl.fd io) none
        ⟨20000, true⟩ impl.psk
      intro service svcEq
      have cfg := tlsServiceInit_cfg env impl.fd engine svcEq
      dsimp only at svcEq
      generalize tlsServiceInit env impl.fd engine (devFlushRxq impl.fd io) none ⟨20000, true⟩
        impl.psk = out at result svcEq
      cases result with
      | failed negative quiet => cases svcEq
      | started absent fresh quiet sent trace =>
          cases svcEq
          apply TlsServiceImpl.Accounts.of_fresh engine fresh
          rw [cfg]

/-- Every call keeps the books. -/
theorem SessionStepped.accounts {run after : SessionRun E} {log logged : List SessionEvent}
    (memory : ∀ index, env.malloc index = true)
    (stepped : SessionStepped env engine run logged after) (accounts : run.Accounts log) :
    after.Accounts (log ++ logged) := by
  cases stepped with
  | absent io =>
      rw [List.append_nil]
      constructor
      · exact accounts.books
      · intro impl implEq
        cases implEq
  | kept io =>
      rw [List.append_nil]
      exact ⟨accounts.books, accounts.impl⟩
  | @released impl io released =>
      rw [List.append_nil]
      apply SessionRun.Accounts.of_impl accounts.books
      constructor
      · intro service svcEq
        cases released.svc.symm.trans svcEq
      · intro _ service svcEq
        cases released.svc.symm.trans svcEq
      · intro img pending
        cases released.pendingImg.symm.trans pending
  | opened io ready svc fresh manual pendingImg =>
      rw [List.append_nil]
      apply SessionRun.Accounts.of_impl accounts.books
      constructor
      · intro service svcEq
        cases svc.symm.trans svcEq
        exact .of_fresh engine fresh manual
      · intro capture
        rw [ready] at capture
        cases capture
      · intro img pending
        cases pendingImg.symm.trans pending
  | @stopped impl io sessionEq =>
      apply SessionRun.Accounts.of_impl (uncounted_nil.books accounts.books)
      exact (accounts.impl impl sessionEq).aside ⟨rfl, rfl, Bool.noConfusion⟩ uncounted_nil
  | @activated impl ret svc io sessionEq rearmed notNegative =>
      have before := accounts.impl impl sessionEq
      have uncounted : Uncounted [.activated] := uncounted_singleton rfl
      apply SessionRun.Accounts.of_impl (uncounted.books accounts.books)
      constructor
      · intro service svcEq
        exact (rearmed.accounts before service svcEq).aside uncounted.asking uncounted.imaging
      · intro capture
        cases capture
      · intro img pending
        exact (before.pending img pending).aside uncounted.taking
  | @notActivated impl ret svc middle io sessionEq rearmed negative =>
      have before := accounts.impl impl sessionEq
      rw [List.append_nil]
      apply SessionRun.Accounts.of_impl accounts.books
      constructor
      · exact rearmed.accounts before
      · intro capture
        cases capture
      · exact before.pending
  | @ran impl _ _ sessionEq runs =>
      have start : InCall.Accounts ⟨impl, sessionEventsClear, run.io⟩ log :=
        ⟨.clear impl run.io, accounts.books, accounts.impl impl sessionEq⟩
      rw [← List.append_assoc]
      exact (runs.accounts memory start).reported
  | @taken impl img sessionEq pending =>
      have before := accounts.impl impl sessionEq
      have asideAsking : asking.Aside [.taken img] :=
        aside_singleton SessionEvent.noConfusion SessionEvent.noConfusion
      have asideImaging : imaging.Aside [.taken img] :=
        aside_singleton SessionEvent.noConfusion
          (not_imaging_ends (fun _ => SessionEvent.noConfusion) (fun _ => SessionEvent.noConfusion))
      apply SessionRun.Accounts.of_impl (accounts.books.takenImage (before.pending img pending))
      constructor
      · intro service svcEq
        exact (before.service service svcEq).aside asideAsking asideImaging
      · exact before.frame
      · intro image imageEq
        cases imageEq

variable (env engine)

/-- With memory for every frame: at every point of every call up to the end of a
capture, a session that waits for an image the service has captured can have it,
and the error 'capture finished but no image' never happens; every `GET_IMAGE`
has a granted request of its own, every dark frame and every reported image a
granted request of its own, and every image that is taken a report of its own. -/
theorem capture_accounting (memory : ∀ index, env.malloc index = true) (io : Io)
    (calls : List SessionCall) :
    (∀ impl, (final (sessionStep env engine) ⟨none, io⟩ calls).session = some impl →
        ∀ log middle, SessionMoves env engine
          ⟨impl, sessionEventsClear, (final (sessionStep env engine) ⟨none, io⟩ calls).io⟩ log
          middle → middle.impl.FrameHeld) ∧
      .noImage ∉ sessionLog env engine ⟨none, io⟩ calls ∧
      asking.Justified (sessionLog env engine ⟨none, io⟩ calls) ∧
      imaging.Justified (sessionLog env engine ⟨none, io⟩ calls) ∧
      taking.Justified (sessionLog env engine ⟨none, io⟩ calls) := by
  have start : SessionRun.Accounts (E := E) ⟨none, io⟩ [] := by
    constructor
    · exact .nil
    · intro impl implEq
      cases implEq
  have ended : (final (sessionStep env engine) ⟨none, io⟩ calls).Accounts
      (sessionLog env engine ⟨none, io⟩ calls) :=
    @final_log_preserved _ _ _ _ (sessionStep env engine) (sessionLogOf env engine)
      SessionRun.Accounts
      (fun run call log held => (sessionStep_stepped env engine run call).accounts memory held)
      ⟨none, io⟩ [] start calls
  refine ⟨?_, ended.books.found, ended.books.asked, ended.books.imaged, ended.books.taken⟩
  intro impl sessionEq log middle moves
  have inCall : InCall.Accounts ⟨impl, sessionEventsClear,
      (final (sessionStep env engine) ⟨none, io⟩ calls).io⟩
      (sessionLog env engine ⟨none, io⟩ calls) :=
    ⟨.clear impl _, ended.books, ended.impl impl sessionEq⟩
  exact (moves.preserves (fun _ _ _ _ move held => move.accounts held) inCall).impl.frame

end Captures

/-- An activation up to the capture of the dark frame: one request, one
`GET_IMAGE`. -/
theorem capture_accounting_dark_capture :
    sessionLog upEnv (channelEngine clearCipher) ⟨none, ⟨0, []⟩⟩
        (activateCalls ++ [.onFd 1 false]) =
      [.activated, .observed, .fdtUp, .upReport, .requested, .getImage] ∧
      asking.Justified [.activated, .observed, .fdtUp, .upReport, .requested, .getImage] := by
  have logEq : sessionLog upEnv (channelEngine clearCipher) ⟨none, ⟨0, []⟩⟩
      (activateCalls ++ [.onFd 1 false]) =
      [.activated, .observed, .fdtUp, .upReport, .requested, .getImage] := by
    decide +kernel
  obtain ⟨-, -, asked, -⟩ := capture_accounting upEnv (channelEngine clearCipher) (fun _ => rfl)
    ⟨0, []⟩ (activateCalls ++ [.onFd 1 false])
  rw [logEq] at asked
  exact ⟨logEq, asked⟩

end Gxfp.User
