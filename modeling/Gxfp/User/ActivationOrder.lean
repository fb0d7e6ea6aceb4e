import Gxfp.User.ServiceEvents
import Gxfp.User.SessionHistory

/-!
# The order of an activation

An activation is complete only after the handshake, a finger-up wait, a raised
finger, a request for an image and a dark frame, in this order and all since the
call that began it.  How far an activation has come can be read off the mode of
the session and, during the capture, off the state of the TLS service; that is
the invariant, and every move of a session either keeps it or passes the next
stage.
-/

namespace Gxfp.User

open Lib
open Lib.Bytes
open Lib.Execution
open Lib.EventLog
open Lib.EventLog.Undertaking
open Gxfp.Errno

/-! ## The stages -/

/-- An activation, from the call that begins it to the report of its end. -/
def activation : Undertaking SessionEvent where
  begins := (· = .activated)
  stages :=
    [(· = .observed), (· = .fdtUp), (· = .upReport), (· = .getImage),
      fun event => ∃ img, event = .darkStored img]
  ends := (· = .completed)
  pairs := fun _ _ => True

/-- What is left once the finger is waited for. -/
def activationFromReport : List (SessionEvent → Prop) :=
  [(· = .upReport), (· = .getImage), fun event => ∃ img, event = .darkStored img]

/-- What is left once the dark frame is asked for. -/
def activationFromRequest : List (SessionEvent → Prop) :=
  [(· = .getImage), fun event => ∃ img, event = .darkStored img]

/-- What is left while it is captured. -/
def activationFromCapture : List (SessionEvent → Prop) :=
  [fun event => ∃ img, event = .darkStored img]

/-- The events of the trace neither begin nor end an activation. -/
theorem Io.eventsSince_aside (start io : Io) : activation.Aside (start.eventsSince io) := by
  intro event member
  unfold Io.eventsSince at member
  obtain ⟨out, -, isEvent⟩ := List.mem_filterMap.mp (List.mem_reverse.mp member)
  rcases Out.event_cases isEvent with rfl | rfl
  · exact ⟨SessionEvent.noConfusion, SessionEvent.noConfusion⟩
  · exact ⟨SessionEvent.noConfusion, SessionEvent.noConfusion⟩

section Order

variable {E : Type} (env : Env) (engine : TlsEngine E)

/-! ## How far an activation has come -/

/-- How far the capture of the dark frame has come. -/
inductive DarkPhase (svc : TlsService E) (log : List SessionEvent) : Prop
  | asked {service : TlsServiceImpl E} (svcEq : svc = some service)
      (connected : service.state = .connected)
      (begun : activation.Begun activationFromRequest log)
  | captured {service : TlsServiceImpl E} (svcEq : svc = some service)
      (state : service.state = .capturing ∨ service.state = .done)
      (begun : activation.Begun activationFromCapture log)
  | failed {service : TlsServiceImpl E} (svcEq : svc = some service)
      (error : service.state = .error)

/-- How far the activation of a session has come. -/
structure SessionImpl.ActivationPhase (impl : SessionImpl E) (log : List SessionEvent) : Prop where
  tls : impl.mode = .activatingTls →
    activation.Begun activation.stages log ∧ impl.fdt.mode = .idle
  waitUp : impl.mode = .activatingWaitUp → activation.Begun activationFromReport log
  dark : impl.mode = .activatingDarkCapture → DarkPhase impl.svc log

/-- The session is not being activated. -/
def SessionMode.Inactive (mode : SessionMode) : Prop :=
  mode ≠ .activatingTls ∧ mode ≠ .activatingWaitUp ∧ mode ≠ .activatingDarkCapture

theorem SessionMode.inactive_failed : SessionMode.failed.Inactive :=
  ⟨SessionMode.noConfusion, SessionMode.noConfusion, SessionMode.noConfusion⟩

theorem SessionMode.inactive_idle : SessionMode.idle.Inactive :=
  ⟨SessionMode.noConfusion, SessionMode.noConfusion, SessionMode.noConfusion⟩

theorem SessionMode.inactive_ready : SessionMode.ready.Inactive :=
  ⟨SessionMode.noConfusion, SessionMode.noConfusion, SessionMode.noConfusion⟩

theorem Awaits.inactive {mode : SessionMode} {fdtMode : FdtMode} (awaits : Awaits mode fdtMode) :
    mode.Inactive := by
  cases awaits with
  | fingerOn => exact ⟨SessionMode.noConfusion, SessionMode.noConfusion, SessionMode.noConfusion⟩
  | fingerOff => exact ⟨SessionMode.noConfusion, SessionMode.noConfusion, SessionMode.noConfusion⟩
  | idle => exact SessionMode.inactive_idle
  | ready => exact SessionMode.inactive_ready

theorem DarkPhase.service {svc : TlsService E} {log : List SessionEvent}
    (phase : DarkPhase svc log) : ∃ service, svc = some service := by
  cases phase with
  | asked svcEq connected begun => exact ⟨_, svcEq⟩
  | captured svcEq state begun => exact ⟨_, svcEq⟩
  | failed svcEq error => exact ⟨_, svcEq⟩

theorem DarkPhase.aside {svc : TlsService E} {log logged : List SessionEvent}
    (phase : DarkPhase svc log) (aside : activation.Aside logged) :
    DarkPhase svc (log ++ logged) := by
  cases phase with
  | asked svcEq connected begun => exact .asked svcEq connected (begun.aside aside)
  | captured svcEq state begun => exact .captured svcEq state (begun.aside aside)
  | failed svcEq error => exact .failed svcEq error

namespace SessionImpl.ActivationPhase

variable {impl next : SessionImpl E} {log logged : List SessionEvent}

theorem of_inactive (inactive : impl.mode.Inactive) : impl.ActivationPhase log := by
  obtain ⟨notTls, notWaitUp, notDark⟩ := inactive
  constructor
  · intro tls
    exact absurd tls notTls
  · intro waitUp
    exact absurd waitUp notWaitUp
  · intro dark
    exact absurd dark notDark

/-- A change that passes no stage. -/
theorem aside (phase : impl.ActivationPhase log) (aside : activation.Aside logged)
    (mode : next.mode = impl.mode) (fdtMode : next.fdt.mode = impl.fdt.mode)
    (svc : next.svc = impl.svc) : next.ActivationPhase (log ++ logged) := by
  constructor
  · intro tls
    obtain ⟨begun, idle⟩ := phase.tls (mode.symm.trans tls)
    exact ⟨begun.aside aside, fdtMode.trans idle⟩
  · intro waitUp
    exact (phase.waitUp (mode.symm.trans waitUp)).aside aside
  · intro dark
    rw [svc]
    exact (phase.dark (mode.symm.trans dark)).aside aside

end SessionImpl.ActivationPhase

theorem DarkPhase.not_connecting {service : TlsServiceImpl E} {log : List SessionEvent}
    (phase : DarkPhase (some service) log) : service.state ≠ .connecting := by
  intro connecting
  cases phase with
  | asked svcEq connected begun =>
      cases svcEq
      cases connecting.symm.trans connected
  | captured svcEq state begun =>
      cases svcEq
      rcases state with capturing | done
      · cases connecting.symm.trans capturing
      · cases connecting.symm.trans done
  | failed svcEq error =>
      cases svcEq
      cases connecting.symm.trans error

/-- A service that is connected has yet to ask for the dark frame. -/
theorem DarkPhase.of_connected {service : TlsServiceImpl E} {log : List SessionEvent}
    (phase : DarkPhase (some service) log) (connected : service.state = .connected) :
    activation.Begun activationFromRequest log := by
  cases phase with
  | asked svcEq _ begun => exact begun
  | captured svcEq state begun =>
      cases svcEq
      rcases state with capturing | done
      · cases connected.symm.trans capturing
      · cases connected.symm.trans done
  | failed svcEq error =>
      cases svcEq
      cases connected.symm.trans error

/-- A service that captures or is done has asked for it. -/
theorem DarkPhase.of_captured {service : TlsServiceImpl E} {log : List SessionEvent}
    (phase : DarkPhase (some service) log)
    (captured : service.state = .capturing ∨ service.state = .done) :
    activation.Begun activationFromCapture log := by
  cases phase with
  | asked svcEq connected begun =>
      cases svcEq
      rcases captured with capturing | done
      · cases connected.symm.trans capturing
      · cases connected.symm.trans done
  | captured svcEq _ begun => exact begun
  | failed svcEq error =>
      cases svcEq
      rcases captured with capturing | done
      · cases error.symm.trans capturing
      · cases error.symm.trans done

theorem CaptureRan.darkPhase {service next : TlsServiceImpl E} {log : List SessionEvent}
    (ran : CaptureRan service next) (begun : activation.Begun activationFromCapture log) :
    DarkPhase (some next) log := by
  rcases ran.state with capturing | ⟨done, -⟩ | error
  · exact .captured rfl (Or.inl capturing) begun
  · exact .captured rfl (Or.inr done) begun
  · exact .failed rfl error

/-- A step of the service carries the capture of the dark frame on. -/
theorem ServiceStepped.darkPhase {service next : TlsServiceImpl E}
    {log logged : List SessionEvent} (stepped : ServiceStepped service logged next)
    (phase : DarkPhase (some service) log) : DarkPhase (some next) (log ++ logged) := by
  cases stepped with
  | kept => exact phase.aside activation.aside_nil
  | shook connecting state cfg pending img => exact absurd connecting phase.not_connecting
  | refused connected state cfg img => exact .failed rfl state
  | asked connected pending cfg answered img ran =>
      have begun := phase.of_connected connected
      have captured : activation.Begun activationFromCapture (log ++ [.getImage]) :=
        begun.next SessionEvent.noConfusion SessionEvent.noConfusion rfl
      exact ran.darkPhase captured
  | ran capturing ran =>
      have begun := phase.of_captured (Or.inl capturing)
      exact ran.darkPhase (begun.aside activation.aside_nil)

theorem RecordFed.darkPhase {service next : TlsServiceImpl E} {log : List SessionEvent}
    (fed : RecordFed service next) (phase : DarkPhase (some service) log) :
    DarkPhase (some next) log := by
  rcases fed.state with same | error
  · cases phase with
    | asked svcEq connected begun =>
        cases svcEq
        exact .asked rfl (same.trans connected) begun
    | captured svcEq state begun =>
        cases svcEq
        rw [← same] at state
        exact .captured rfl state begun
    | failed svcEq error =>
        cases svcEq
        exact .failed rfl (same.trans error)
  · exact .failed rfl error

/-- A finger-up wait that begins in the idle flow sends one `FDT_UP`, or the
session fails. -/
theorem sessionSetFdtMode_waitUp {call : InCall E} (isOpen : call.impl.mode ≠ .closed)
    (idle : call.impl.fdt.mode = .idle) :
    (sessionSetFdtMode env call .waitUp).impl.mode = .failed ∨
      call.io.eventsSince (sessionSetFdtMode env call .waitUp).io = [.fdtUp] := by
  have result := fdtFlowSetMode_modeSet env call.impl.fd call.io call.impl.fdt .waitUp
  rw [sessionSetFdtMode_of_open env .waitUp isOpen]
  generalize fdtFlowSetMode env call.impl.fd call.io call.impl.fdt .waitUp = out at result ⊢
  by_cases negative : out.1 < 0
  · rw [if_pos negative]
    exact Or.inl rfl
  rw [if_neg negative]
  right
  cases result with
  | kept same =>
      rw [idle] at same
      cases same
  | idle isIdle => cases isIdle
  | notModed cmd modedResult failed => exact absurd failed negative
  | notArmed cmd modedResult armedResult failed => exact absurd failed negative
  | @armed _ _ moded armed next after modedResult modedSent armedResult armedSent reached traceEq
      clocked =>
      have quiet : call.io.Extends Out.NoEvent moded.2 :=
        modedResult.routine (by decide) (by decide) (by decide)
      have grown : moded.2.trace <:+ after.trace := by
        rw [traceEq]
        exact armedResult.extends.trace_suffix
      have logged : moded.2.eventsSince after = [.fdtUp] := by
        rcases armedResult.events (show commandEvent CMD_FDT_UP = some .fdtUp by decide) with
          ⟨failed, -⟩ | ⟨-, sent⟩
        · exact absurd failed armedSent
        · rw [← sent]
          unfold Io.eventsSince
          rw [traceEq]
      change call.io.eventsSince after = _
      rw [Io.eventsSince_trans quiet.trace_suffix grown, quiet.eventsSince, logged]
      rfl

/-! ## Inside a call -/

/-- The invariant inside a call. -/
structure InCall.Ordered (call : InCall E) (log : List SessionEvent) : Prop where
  unreported : call.Unreported
  justified : activation.Justified log
  phase : call.impl.ActivationPhase log

variable {env engine}

theorem SessionMove.aside {before after : InCall E} {logged : List SessionEvent}
    (move : SessionMove env engine before logged after) : activation.Aside logged := by
  cases move with
  | service running => exact Io.eventsSince_aside _ _
  | fail isOpen err target msg => exact activation.aside_nil
  | note same => exact activation.aside_nil
  | await awaits isOpen working => exact Io.eventsSince_aside _ _
  | observe activating seen =>
      exact (Io.eventsSince_aside _ _).cons SessionEvent.noConfusion SessionEvent.noConfusion
  | retry waiting nowMs => exact Io.eventsSince_aside _ _
  | read running => exact activation.aside_nil
  | feed running hdr payload => exact activation.aside_nil
  | upReport waiting => exact aside_singleton SessionEvent.noConfusion SessionEvent.noConfusion
  | requestDark waiting granted =>
      exact (aside_singleton SessionEvent.noConfusion SessionEvent.noConfusion).cons
        SessionEvent.noConfusion SessionEvent.noConfusion
  | record running hdr payload => exact activation.aside_nil
  | requestImage ready granted =>
      exact aside_singleton SessionEvent.noConfusion SessionEvent.noConfusion

/-- A change of the service that passes no stage but carries the capture on. -/
theorem SessionImpl.ActivationPhase.setSvc {impl : SessionImpl E} {log logged : List SessionEvent}
    {svc : TlsService E} (phase : impl.ActivationPhase log) (aside : activation.Aside logged)
    (dark : ∀ service, impl.svc = some service → DarkPhase (some service) log →
      DarkPhase svc (log ++ logged)) :
    SessionImpl.ActivationPhase { impl with svc := svc } (log ++ logged) := by
  constructor
  · intro tls
    obtain ⟨begun, idle⟩ := phase.tls tls
    exact ⟨begun.aside aside, idle⟩
  · intro waitUp
    exact (phase.waitUp waitUp).aside aside
  · intro capture
    have before := phase.dark capture
    obtain ⟨service, svcEq⟩ := before.service
    rw [svcEq] at before
    exact dark service svcEq before

/-- The end of the handshake passes two stages, or the session fails. -/
theorem SessionImpl.ActivationPhase.observed {before : InCall E} {log : List SessionEvent}
    (phase : before.impl.ActivationPhase log) (activating : before.impl.mode = .activatingTls) :
    (sessionSetFdtMode env (before.setMode .activatingWaitUp) .waitUp).impl.ActivationPhase
      (log ++ (.observed :: before.io.eventsSince
        (sessionSetFdtMode env (before.setMode .activatingWaitUp) .waitUp).io)) := by
  obtain ⟨begun, idle⟩ := phase.tls activating
  have opens : (before.setMode .activatingWaitUp).impl.mode ≠ .closed := SessionMode.noConfusion
  rcases sessionSetFdtMode_waitUp env opens idle with failed | logged
  · apply SessionImpl.ActivationPhase.of_inactive
    rw [failed]
    exact SessionMode.inactive_failed
  · rcases sessionSetFdtMode_cases env (before.setMode .activatingWaitUp) .waitUp with
      kept | failed
    · have mode := kept.mode
      have observed : activation.Begun _ (log ++ [.observed]) :=
        begun.next SessionEvent.noConfusion SessionEvent.noConfusion rfl
      have armed : activation.Begun _ (log ++ [.observed] ++ [.fdtUp]) :=
        observed.next SessionEvent.noConfusion SessionEvent.noConfusion rfl
      have passed : activation.Begun activationFromReport (log ++ (.observed ::
          before.io.eventsSince
            (sessionSetFdtMode env (before.setMode .activatingWaitUp) .waitUp).io)) := by
        change before.io.eventsSince _ = _ at logged
        rw [logged, List.append_cons]
        exact armed
      constructor
      · intro tls
        rw [mode] at tls
        cases tls
      · intro _
        exact passed
      · intro dark
        rw [mode] at dark
        cases dark
    · apply SessionImpl.ActivationPhase.of_inactive
      rw [failed.mode]
      exact SessionMode.inactive_failed

/-- Every move keeps the phase or passes its stage. -/
theorem SessionMove.activationPhase {before after : InCall E} {log logged : List SessionEvent}
    (move : SessionMove env engine before logged after)
    (phase : before.impl.ActivationPhase log) : after.impl.ActivationPhase (log ++ logged) := by
  have aside := move.aside
  cases move with
  | service running =>
      apply phase.setSvc aside
      intro service svcEq dark
      obtain ⟨next, nextEq, stepped⟩ :=
        tlsServiceStep_stepped env before.impl.fd engine before.io service
      rw [svcEq, nextEq]
      exact stepped.darkPhase dark
  | fail isOpen err target msg => exact .of_inactive SessionMode.inactive_failed
  | note same =>
      rw [same.impl]
      exact phase.aside aside rfl rfl rfl
  | @await mode fdtMode awaits isOpen working =>
      apply SessionImpl.ActivationPhase.of_inactive
      rcases sessionSetFdtMode_cases env (before.setMode mode) fdtMode with kept | failed
      · rw [kept.mode]
        exact awaits.inactive
      · rw [failed.mode]
        exact SessionMode.inactive_failed
  | observe activating seen => exact phase.observed activating
  | retry waiting nowMs =>
      exact phase.aside aside rfl
        (fdtFlowPoll_mode env before.impl.fd before.io.tick before.impl.fdt nowMs) rfl
  | read running => exact phase.aside aside rfl rfl rfl
  | feed running hdr payload =>
      exact phase.aside aside rfl
        (fdtFlowFeedRecord_flow env before.impl.fd before.io before.impl.fdt hdr payload).1 rfl
  | upReport waiting => exact phase.aside aside rfl rfl rfl
  | requestDark waiting granted =>
      obtain ⟨service, -, requested⟩ := tlsServiceRequestCapture_granted granted
      have reported : activation.Begun _ (log ++ [.upReport]) :=
        (phase.waitUp waiting).next SessionEvent.noConfusion SessionEvent.noConfusion rfl
      have asked : activation.Begun _ (log ++ [.upReport] ++ [.requested]) :=
        reported.aside (aside_singleton SessionEvent.noConfusion SessionEvent.noConfusion)
      rw [List.append_assoc] at asked
      constructor
      · intro tls
        cases tls
      · intro waitUp
        cases waitUp
      · intro _
        exact .asked requested rfl asked
  | record running hdr payload =>
      apply phase.setSvc aside
      intro service svcEq dark
      obtain ⟨next, nextEq, fed⟩ :=
        tlsServiceFeedTapRecord_fed env engine before.io service hdr payload
      rw [svcEq, nextEq]
      exact (fed.darkPhase dark).aside aside
  | requestImage ready granted =>
      exact .of_inactive
        ⟨SessionMode.noConfusion, SessionMode.noConfusion, SessionMode.noConfusion⟩

theorem SessionMove.ordered {before after : InCall E} {log logged : List SessionEvent}
    (move : SessionMove env engine before logged after) (ordered : before.Ordered log) :
    after.Ordered (log ++ logged) := by
  constructor
  · exact move.unreported ordered.unreported
  · exact ordered.justified.aside move.aside
  · exact move.activationPhase ordered.phase

/-- The invariant at the end of a call: a complete activation has passed all
stages and leaves the session idle with a dark frame. -/
structure InCall.OrderedEnd (call : InCall E) (log : List SessionEvent) : Prop where
  justified : activation.Justified log
  phase : call.impl.ActivationPhase log
  complete : call.ev.activateComplete = true →
    activation.Begun [] log ∧ call.impl.mode = .idle ∧ call.impl.dark.isSome = true ∧
      call.impl.fdt.mode = .idle

theorem InCall.OrderedEnd.of_incomplete {call : InCall E} {log : List SessionEvent}
    (justified : activation.Justified log) (phase : call.impl.ActivationPhase log)
    (incomplete : call.ev.activateComplete = false) : call.OrderedEnd log := by
  constructor
  · exact justified
  · exact phase
  · intro complete
    rw [incomplete] at complete
    cases complete

theorem InCall.OrderedEnd.sameCore {before after : InCall E} {log : List SessionEvent}
    (ordered : before.OrderedEnd log) (same : before.SameCore after) : after.OrderedEnd log := by
  obtain ⟨justified, phase, complete⟩ := ordered
  rw [← same.impl, ← same.activateComplete] at complete
  rw [← same.impl] at phase
  exact ⟨justified, phase, complete⟩

/-- A capture that is done in the activation has been asked for. -/
theorem DarkPhase.done {svc : TlsService E} {log : List SessionEvent} (phase : DarkPhase svc log)
    (done : tlsServiceState svc = .done) : activation.Begun activationFromCapture log := by
  obtain ⟨service, rfl⟩ := phase.service
  exact phase.of_captured (Or.inr done)

theorem SessionFinish.orderedEnd {before after : InCall E} {log logged : List SessionEvent}
    (finish : SessionFinish env before logged after) (ordered : before.Ordered log) :
    after.OrderedEnd (log ++ logged) := by
  obtain ⟨unreported, justified, phase⟩ := ordered
  cases finish with
  | none =>
      rw [List.append_nil]
      exact .of_incomplete justified phase unreported.activateComplete
  | noImage capture done empty err target msg =>
      have aside : activation.Aside [.noImage] :=
        aside_singleton SessionEvent.noConfusion SessionEvent.noConfusion
      exact .of_incomplete (justified.aside aside)
        (.of_inactive SessionMode.inactive_failed) unreported.activateComplete
  | failed capture done traceEq err target msg =>
      exact .of_incomplete (justified.aside activation.aside_nil)
        (.of_inactive SessionMode.inactive_failed) unreported.activateComplete
  | dark capture done img traceEq idle sameArm =>
      have aside : activation.Aside [.darkStored img] :=
        aside_singleton SessionEvent.noConfusion SessionEvent.noConfusion
      have begun := (phase.dark capture).done done
      have passed : activation.Begun [] (log ++ [.darkStored img]) :=
        begun.next SessionEvent.noConfusion SessionEvent.noConfusion ⟨img, rfl⟩
      constructor
      · exact justified.aside aside
      · exact .of_inactive SessionMode.inactive_idle
      · intro _
        exact ⟨passed, rfl, rfl, idle⟩
  | image capture done img traceEq =>
      exact .of_incomplete (justified.aside activation.aside_nil)
        (.of_inactive SessionMode.inactive_idle) unreported.activateComplete

theorem SessionRuns.orderedEnd {before after : InCall E} {log logged : List SessionEvent}
    (runs : SessionRuns env engine before logged after) (ordered : before.Ordered log) :
    after.OrderedEnd (log ++ logged) :=
  runs.preserves (fun _ _ _ _ move held => move.ordered held)
    (fun _ _ _ _ finish held => finish.orderedEnd held)
    (fun _ _ _ same held => held.sameCore same) ordered

/-! ## Runs -/

/-- The invariant between two calls. -/
structure SessionRun.Ordered (run : SessionRun E) (log : List SessionEvent) : Prop where
  justified : activation.Justified log
  phase : ∀ impl, run.session = some impl → impl.ActivationPhase log

/-- What a call reports after its moves. -/
theorem InCall.OrderedEnd.reported {call : InCall E} {log : List SessionEvent}
    (ordered : call.OrderedEnd log) :
    SessionRun.Ordered ⟨some call.impl, call.io⟩ (log ++ call.reports) := by
  obtain ⟨justified, phase, complete⟩ := ordered
  have images : activation.Aside (if call.ev.imageReady then
      call.impl.pendingImg.toList.map SessionEvent.imageReady else []) := by
    split
    · intro event member
      obtain ⟨img, -, rfl⟩ := List.mem_map.mp member
      exact ⟨SessionEvent.noConfusion, SessionEvent.noConfusion⟩
    · exact activation.aside_nil
  unfold InCall.reports
  cases completed : call.ev.activateComplete with
  | false =>
      constructor
      · exact justified.aside images
      · intro impl implEq
        cases implEq
        exact phase.aside images rfl rfl rfl
  | true =>
      obtain ⟨⟨first, begun⟩, mode, -⟩ := complete completed
      have ended : activation.Justified (log ++ [.completed]) :=
        justified.append fun _ => ⟨first, trivial, begun⟩
      rw [if_pos rfl, ← List.append_assoc]
      constructor
      · exact ended.aside images
      · intro impl implEq
        cases implEq
        apply SessionImpl.ActivationPhase.of_inactive
        rw [mode]
        exact SessionMode.inactive_idle

theorem SessionStepped.ordered {run after : SessionRun E} {log logged : List SessionEvent}
    (stepped : SessionStepped env engine run logged after) (ordered : run.Ordered log) :
    after.Ordered (log ++ logged) := by
  have inactive {impl : SessionImpl E} (io : Io) (inactive : impl.mode.Inactive) :
      SessionRun.Ordered ⟨some impl, io⟩ (log ++ []) := by
    constructor
    · exact ordered.justified.aside activation.aside_nil
    · intro other otherEq
      cases otherEq
      exact .of_inactive inactive
  cases stepped with
  | absent io =>
      constructor
      · exact ordered.justified.aside activation.aside_nil
      · intro impl implEq
        cases implEq
  | kept io =>
      rw [List.append_nil]
      exact ⟨ordered.justified, ordered.phase⟩
  | released io released =>
      apply inactive
      rw [released.mode]
      exact ⟨SessionMode.noConfusion, SessionMode.noConfusion, SessionMode.noConfusion⟩
  | opened io ready svc fresh manual pendingImg =>
      apply inactive
      rw [ready]
      exact SessionMode.inactive_ready
  | stopped io sessionEq => exact inactive io SessionMode.inactive_ready
  | activated sessionEq rearmed notNegative =>
      have begun : activation.Begun activation.stages (log ++ [.activated]) :=
        ⟨.activated, begunBy_append rfl log⟩
      constructor
      · apply ordered.justified.append
        intro ends
        cases ends
      · intro impl implEq
        cases implEq
        constructor
        · intro _
          exact ⟨begun, rfl⟩
        · intro waitUp
          cases waitUp
        · intro dark
          cases dark
  | notActivated io sessionEq rearmed negative => exact inactive io SessionMode.inactive_failed
  | @ran impl _ _ sessionEq runs =>
      have start : InCall.Ordered ⟨impl, sessionEventsClear, run.io⟩ log :=
        ⟨.clear impl run.io, ordered.justified, ordered.phase impl sessionEq⟩
      rw [← List.append_assoc]
      exact (runs.orderedEnd start).reported
  | @taken impl img sessionEq pending =>
      have aside : activation.Aside [.taken img] :=
        aside_singleton SessionEvent.noConfusion SessionEvent.noConfusion
      constructor
      · exact ordered.justified.aside aside
      · intro other otherEq
        cases otherEq
        exact (ordered.phase impl sessionEq).aside aside rfl rfl rfl

/-! ## Reports -/

/-- A complete activation leaves the session idle, with a dark frame and an idle
flow. -/
def CompletesIdle (step : Transition (SessionRun E) SessionCall SessionOut) : Prop :=
  step.output.ev.activateComplete = true → ∃ impl, step.after.session = some impl ∧
    impl.mode = .idle ∧ impl.dark.isSome = true ∧ impl.fdt.mode = .idle

theorem SessionRuns.completesIdle {before after : InCall E} {logged : List SessionEvent}
    (runs : SessionRuns env engine before logged after) (unreported : before.Unreported)
    (complete : after.ev.activateComplete = true) :
    after.impl.mode = .idle ∧ after.impl.dark.isSome = true ∧ after.impl.fdt.mode = .idle := by
  obtain ⟨middle, moved, finished, ended, moves, finish, same, -⟩ := runs
  have notYet := (moves.unreported unreported).activateComplete
  rw [same.activateComplete] at complete
  rw [same.impl]
  cases finish with
  | none =>
      rw [notYet] at complete
      cases complete
  | noImage capture done empty err target msg =>
      have reported : middle.ev.activateComplete = true := complete
      rw [notYet] at reported
      cases reported
  | failed capture done traceEq err target msg =>
      have reported : middle.ev.activateComplete = true := complete
      rw [notYet] at reported
      cases reported
  | dark capture done img traceEq idle sameArm => exact ⟨rfl, rfl, idle⟩
  | image capture done img traceEq =>
      have reported : middle.ev.activateComplete = true := complete
      rw [notYet] at reported
      cases reported

theorem SessionRun.within_completesIdle (run : SessionRun E) (call : SessionCall) (absent : Int)
    (body : InCall E → Int × InCall E)
    (idle : ∀ impl io, (body ⟨impl, sessionEventsClear, io⟩).2.ev.activateComplete = true →
      (body ⟨impl, sessionEventsClear, io⟩).2.impl.mode = .idle ∧
        (body ⟨impl, sessionEventsClear, io⟩).2.impl.dark.isSome = true ∧
        (body ⟨impl, sessionEventsClear, io⟩).2.impl.fdt.mode = .idle) :
    CompletesIdle ⟨run, call, (run.within absent body).2, (run.within absent body).1⟩ := by
  rcases run with ⟨session, io⟩
  cases session with
  | none =>
      intro complete
      cases complete
  | some impl =>
      intro complete
      exact ⟨_, rfl, idle impl io complete⟩

variable (env engine)

theorem sessionStep_completesIdle (run : SessionRun E) (call : SessionCall) :
    CompletesIdle (stepTransition (sessionStep env engine) run call) := by
  have incomplete {call : InCall E} {conclusion : Prop} (unreported : call.Unreported)
      (complete : call.ev.activateComplete = true) : conclusion := by
    rw [unreported.activateComplete] at complete
    cases complete
  have cleaned (goal : CleanupGoal) (resetMcu : Bool) (call : InCall E)
      (clear : call.ev.activateComplete = false) :
      (sessionBeginCleanup env call goal resetMcu).ev.activateComplete = false := by
    have spec : SessionCleansUp Out.Quiet call _ goal :=
      sessionBeginCleanup_spec env call goal resetMcu
    cases spec with
    | closed _ closed same => exact same.activateComplete.trans clear
    | stopped isOpen same => exact same.activateComplete.trans clear
    | released isOpen used same => exact same.activateComplete.trans clear
  cases call with
  | init =>
      intro complete
      dsimp only [stepTransition, sessionStep] at complete
      split at complete
      · cases complete
      · cases complete
  | dispose =>
      intro complete
      dsimp only [stepTransition, sessionStep] at complete
      split at complete
      · cases complete
      · cases complete
  | openPath devPath psk errbufLen =>
      intro complete
      cases complete
  | requestClose resetMcu =>
      apply SessionRun.within_completesIdle
      intro impl io complete
      rw [cleaned .close resetMcu _ rfl] at complete
      cases complete
  | requestDeactivate =>
      apply SessionRun.within_completesIdle
      intro impl io complete
      rw [cleaned .deactivate false _ rfl] at complete
      cases complete
  | activate =>
      apply SessionRun.within_completesIdle
      intro impl io complete
      exact incomplete (sessionActivate_unreported env engine (.clear impl io) rfl) complete
  | changeState state =>
      apply SessionRun.within_completesIdle
      intro impl io complete
      exact incomplete ((sessionChangeState_steps env engine _ state).unreported (.clear impl io))
        complete
  | onFd condition actionCancelled =>
      apply SessionRun.within_completesIdle
      intro impl io complete
      exact (sessionOnFd_runs env engine _ condition actionCancelled).completesIdle
        (.clear impl io) complete
  | pump actionCancelled =>
      apply SessionRun.within_completesIdle
      intro impl io complete
      exact (sessionPump_runs env engine _ actionCancelled).completesIdle (.clear impl io) complete
  | takeImage =>
      intro complete
      rcases run with ⟨session, io⟩
      cases session with
      | none => cases complete
      | some impl => cases complete

/-- Every report of a complete activation belongs to an activation of its own
and comes after all stages of it, in their order; at that moment the session is
idle, with a dark frame and an idle flow. -/
theorem activation_in_order (io : Io) (calls : List SessionCall) :
    activation.Justified (sessionLog env engine ⟨none, io⟩ calls) ∧
      ∀ step ∈ transitions (sessionStep env engine) ⟨none, io⟩ calls, CompletesIdle step := by
  constructor
  · have start : SessionRun.Ordered (E := E) ⟨none, io⟩ [] := by
      constructor
      · exact activation.justified_nil
      · intro impl implEq
        cases implEq
    have ended := @final_log_preserved _ _ _ _ (sessionStep env engine) (sessionLogOf env engine)
      SessionRun.Ordered
      (fun run call log held => (sessionStep_stepped env engine run call).ordered held)
      ⟨none, io⟩ [] start calls
    exact ended.justified
  · intro step member
    rw [eq_stepTransition_of_mem member]
    exact sessionStep_completesIdle env engine step.before step.input

end Order

end Gxfp.User
