import Gxfp.Lib.EventLog
import Gxfp.User.SessionModes

/-!
# The log of a session

What the runs of a session are about, as events in the order in which they
happen: the commands that arm the sensor and ask for an image, taken from the
trace; the places of `session.c` where the handshake is seen to be over, a
finger-up report is acted on, a capture is asked for and a dark frame is stored;
and what the calls report to their caller.

Each log function follows the function of the session it is named after and
runs on the same intermediate states.
-/

namespace Gxfp.User

open Lib
open Lib.Bytes
open Lib.Execution
open Lib.EventLog
open Gxfp.Errno

/-! ## Events -/

/-- An event of a session. -/
inductive SessionEvent
  /-- `gxfp_session_activate` has returned 0. -/
  | activated
  /-- The TLS service was seen to be connected or done. -/
  | observed
  /-- A complete `FDT_UP` command. -/
  | fdtUp
  /-- A record with an UP event was fed in the mode `ACTIVATING_WAIT_UP`. -/
  | upReport
  /-- `gxfp_tls_service_request_capture` has succeeded. -/
  | requested
  /-- A complete `GET_IMAGE` command. -/
  | getImage
  /-- The error 'capture finished but no image'. -/
  | noImage
  /-- A decoded image was stored as the dark frame. -/
  | darkStored (img : DecodedImage)
  /-- `activate_complete` was reported. -/
  | completed
  /-- `image_ready` was reported for this image. -/
  | imageReady (img : DecodedImage)
  /-- `gxfp_session_take_image` has returned this image. -/
  | taken (img : DecodedImage)
  deriving DecidableEq, Repr

/-- The event of an entry of the trace. -/
def Out.event (out : Out) : Option SessionEvent :=
  if out.isComplete then
    match out.command with
    | some (cmd, _) =>
        if cmd = CMD_FDT_UP then
          some .fdtUp
        else if cmd = CMD_GET_IMAGE then
          some .getImage
        else
          none
    | none => none
  else
    none

/-- The events in the trace since `start`, oldest first. -/
def Io.eventsSince (start io : Io) : List SessionEvent :=
  ((io.trace.take (io.trace.length - start.trace.length)).filterMap Out.event).reverse

/-- The trace has two kinds of events. -/
theorem Out.event_cases {out : Out} {event : SessionEvent} (isEvent : out.event = some event) :
    event = .fdtUp ∨ event = .getImage := by
  unfold Out.event at isEvent
  split at isEvent
  · split at isEvent
    · split at isEvent
      · cases isEvent
        exact Or.inl rfl
      · split at isEvent
        · cases isEvent
          exact Or.inr rfl
        · cases isEvent
    · cases isEvent
  · cases isEvent

/-- An entry that is no event. -/
def Out.NoEvent (out : Out) : Prop :=
  out.event = none

theorem Io.eventsSince_eq {start io : Io} {outs : List Out}
    (traceEq : io.trace = outs ++ start.trace) :
    start.eventsSince io = (outs.filterMap Out.event).reverse := by
  unfold eventsSince
  rw [traceEq, List.length_append, Nat.add_sub_cancel, List.take_left]

theorem Io.mem_eventsSince {start io : Io} {outs : List Out}
    (traceEq : io.trace = outs ++ start.trace) {event : SessionEvent}
    (member : event ∈ start.eventsSince io) :
    ∃ out ∈ outs, out.event = some event := by
  rw [eventsSince_eq traceEq] at member
  exact List.mem_filterMap.mp (List.mem_reverse.mp member)

@[simp]
theorem Io.eventsSince_self (io : Io) : io.eventsSince io = [] := by
  have traceEq : io.trace = [] ++ io.trace := rfl
  exact eventsSince_eq traceEq

theorem Io.eventsSince_trans {start middle io : Io} (first : start.trace <:+ middle.trace)
    (second : middle.trace <:+ io.trace) :
    start.eventsSince io = start.eventsSince middle ++ middle.eventsSince io := by
  obtain ⟨older, olderEq⟩ := first
  obtain ⟨newer, newerEq⟩ := second
  have allEq : io.trace = (newer ++ older) ++ start.trace := by
    rw [← newerEq, ← olderEq, List.append_assoc]
  rw [eventsSince_eq allEq, eventsSince_eq olderEq.symm, eventsSince_eq newerEq.symm,
    List.filterMap_append, List.reverse_append]

theorem Io.Extends.eventsSince {start io : Io} (extended : start.Extends Out.NoEvent io) :
    start.eventsSince io = [] := by
  obtain ⟨outs, traceEq, none⟩ := extended
  rw [Io.eventsSince_eq traceEq, List.filterMap_eq_nil_iff.mpr none, List.reverse_nil]

theorem Out.noEvent_of_command {cmd : Byte} {out : Out} (isCommand : out.isCommand cmd)
    (notUp : cmd ≠ CMD_FDT_UP) (notGetImage : cmd ≠ CMD_GET_IMAGE) : out.NoEvent := by
  obtain ⟨payload, commandEq⟩ := isCommand
  unfold NoEvent event
  rw [commandEq]
  split
  · dsimp only
    rw [if_neg notUp, if_neg notGetImage]
  · rfl

theorem Out.noEvent_of_incomplete {out : Out} (incomplete : ∀ buf, out ≠ .write buf buf.length) :
    out.NoEvent := by
  have notComplete : ¬ out.isComplete = true := by
    intro complete
    obtain ⟨buf, same⟩ := isComplete_iff.mp complete
    exact incomplete buf same
  unfold NoEvent event
  rw [if_neg notComplete]

theorem Out.noEvent_of_command_none {out : Out} (none : out.command = none) : out.NoEvent := by
  unfold NoEvent event
  rw [none]
  split
  · rfl
  · rfl

instance : Out.AdmitsRoutine Out.NoEvent where
  command := fun isCommand notGetImage _ notUp => Out.noEvent_of_command isCommand notUp notGetImage
  incomplete := fun _ incomplete => Out.noEvent_of_incomplete incomplete
  record := Out.noEvent_of_command_none
  flushed := rfl
  waited := rfl
  read := rfl

/-- The event of a complete command. -/
def commandEvent (cmd : Byte) : Option SessionEvent :=
  if cmd = CMD_FDT_UP then
    some .fdtUp
  else if cmd = CMD_GET_IMAGE then
    some .getImage
  else
    none

/-- A command with an event fails and logs nothing, or is sent and logs it. -/
theorem SendResult.events {io : Io} {cmd : Byte} {payload : List Byte} {out : Int × Io}
    {event : SessionEvent} (result : SendResult io cmd payload out)
    (isEvent : commandEvent cmd = some event) :
    (out.1 < 0 ∧ io.eventsSince out.2 = []) ∨ (out.1 = 0 ∧ io.eventsSince out.2 = [event]) := by
  cases result with
  | refused errno definite =>
      have quiet : io.Extends Out.NoEvent io.tick := (Io.Extends.refl io).tick
      exact Or.inl ⟨rc_neg errno, quiet.eventsSince⟩
  | @failed out _ isCommand negative incomplete again =>
      have quiet : io.Extends Out.NoEvent (io.tick.emit out) :=
        (Io.Extends.refl io).tick.emit (Out.noEvent_of_incomplete incomplete)
      exact Or.inl ⟨negative, quiet.eventsSince⟩
  | @sent buf isCommand =>
      have complete : (Out.write buf buf.length).isComplete = true :=
        Out.isComplete_iff.mpr ⟨buf, rfl⟩
      have logged : (Out.write buf buf.length).event = some event := by
        rw [← isEvent, Out.event, if_pos complete, isCommand]
        rfl
      have traceEq : (io.tick.emit (.write buf buf.length)).trace =
          [.write buf buf.length] ++ io.trace := rfl
      right
      constructor
      · rfl
      · rw [Io.eventsSince_eq traceEq, List.filterMap_cons_some logged]
        rfl

theorem Io.Extends.trace_suffix {allowed : Out → Prop} {start io : Io}
    (extended : start.Extends allowed io) : start.trace <:+ io.trace := by
  obtain ⟨outs, traceEq, -⟩ := extended
  exact ⟨outs, traceEq.symm⟩

section Log

variable {E : Type} (env : Env) (engine : TlsEngine E)

/-! ## Ticks -/

/-- What `session_maybe_finish_activation` logs. -/
def sessionMaybeFinishActivationLog (call : InCall E) : List SessionEvent :=
  if call.impl.mode ≠ .activatingTls then
    []
  else if tlsServiceState call.impl.svc ≠ .connected ∧ tlsServiceState call.impl.svc ≠ .done then
    []
  else
    .observed :: call.io.eventsSince (sessionMaybeFinishActivation env call).io

/-- What `session_finalize_capture` logs. -/
def sessionFinalizeCaptureLog (call : InCall E) : List SessionEvent :=
  if tlsServiceState call.impl.svc ≠ .done then
    []
  else
    let raw := tlsServiceGetRawImage env call.io call.impl.svc
    let call := call.setSvc raw.svc raw.io
    if raw.ret ≤ 0 then
      [.noImage]
    else
      let decoded := decodeImage env call.io (raw.body.getD [])
      let call := { call with io := decoded.2 }
      match decoded.1 with
      | .error _ => []
      | .ok img =>
          if call.impl.mode = .activatingDarkCapture then
            if (sessionSetDarkFromImage env call img).1 < 0 then [] else [.darkStored img]
          else
            []

/-- What the part of `gxfp_session_pump` after the finger-up retry logs. -/
def sessionPumpEndLog (call : InCall E) : List SessionEvent :=
  if call.impl.mode.isCapture then sessionFinalizeCaptureLog env call else []

/-- What `gxfp_session_pump` logs. -/
def sessionPumpLog (call : InCall E) (actionCancelled : Bool) : List SessionEvent :=
  if call.impl.mode.isStopped then
    []
  else if actionCancelled && call.impl.mode.isCancellable then
    []
  else
    let polled := sessionPollTls env engine call
    call.io.eventsSince polled.io ++
      if polled.ev.sessionError then
        []
      else
        let finished := sessionMaybeFinishActivation env polled
        sessionMaybeFinishActivationLog env polled ++
          if finished.ev.sessionError then
            []
          else
            let flowed := sessionPollFdt env finished
            finished.io.eventsSince flowed.2.io ++
              if flowed.1 < 0 then [] else sessionPumpEndLog env flowed.2

/-! ## Records -/

/-- What the request for a dark frame logs. -/
def sessionRequestDarkLog (call : InCall E) (events : FdtEvents) : List SessionEvent :=
  if call.impl.mode = .activatingWaitUp ∧ events.up then
    if (tlsServiceRequestCapture call.impl.svc).1 < 0 then [.upReport] else [.upReport, .requested]
  else
    []

/-- What one record logs. -/
def sessionOnRecordLog (call : InCall E) (hdr : TapHdr) (payload : List Byte) :
    List SessionEvent :=
  let fed := fdtFlowFeedRecord env call.impl.fd call.io call.impl.fdt hdr payload
  let call := call.setFdt fed.flow fed.io
  if fed.ret < 0 ∧ fed.ret ≠ EAGAIN.rc then
    []
  else
    sessionRequestDarkLog (sessionFingerEvents call fed.events) fed.events

/-- What the loop of `gxfp_session_on_fd` logs. -/
def sessionOnFdLoopLog : List (Except ℕ+ (List Byte)) → InCall E → List SessionEvent
  | results, call =>
      if !call.impl.tapIoBuf then
        []
      else if call.impl.fd < 0 then
        []
      else
        match results with
        | [] => []
        | result :: results =>
            match devReadRecord result with
            | .error _ => []
            | .ok (hdr, payload) =>
                let handled := sessionOnRecord env engine call hdr payload
                sessionOnRecordLog env call hdr payload ++
                  if handled.1 then sessionOnFdLoopLog results handled.2 else []

/-- What `gxfp_session_on_fd` logs. -/
def sessionOnFdLog (call : InCall E) (condition : UInt32) (actionCancelled : Bool) :
    List SessionEvent :=
  if call.impl.mode.isStopped then
    []
  else if condition &&& SESSION_IO_BAD ≠ 0 then
    []
  else
    let results := env.reads call.io.count
    let reading := { call with io := call.io.emit .read }
    sessionOnFdLoopLog env engine results reading ++
      sessionPumpLog env engine (sessionOnFdLoop env engine results reading) actionCancelled

/-! ## State changes -/

/-- What `gxfp_session_change_state` logs. -/
def sessionChangeStateLog (call : InCall E) (state : SessionState) : List SessionEvent :=
  if !sessionModeHasIo call.impl ∨ call.impl.mode = .failed then
    []
  else
    match state with
    | .capture =>
        if call.impl.mode ≠ .idle ∧ call.impl.mode ≠ .waitFingerOn then
          []
        else if (tlsServiceRequestCapture call.impl.svc).1 < 0 then
          []
        else
          [.requested]
    | _ => call.io.eventsSince (sessionChangeState env call state).io

/-! ## Runs -/

/-- What happens inside a call. -/
def sessionInnerLog (run : SessionRun E) (call : SessionCall) : List SessionEvent :=
  match run.session with
  | none => run.io.eventsSince (sessionStep env engine run call).1.io
  | some impl =>
      match call with
      | .changeState state => sessionChangeStateLog env ⟨impl, sessionEventsClear, run.io⟩ state
      | .onFd condition actionCancelled =>
          sessionOnFdLog env engine ⟨impl, sessionEventsClear, run.io⟩ condition actionCancelled
      | .pump actionCancelled =>
          sessionPumpLog env engine ⟨impl, sessionEventsClear, run.io⟩ actionCancelled
      | _ => run.io.eventsSince (sessionStep env engine run call).1.io

/-- What a call reports to its caller. -/
def sessionReports (step : Transition (SessionRun E) SessionCall SessionOut) : List SessionEvent :=
  (if step.input = .activate ∧ step.output.ret = 0 then [.activated] else []) ++
    (if step.output.ev.activateComplete then [.completed] else []) ++
    (if step.output.ev.imageReady then
      ((step.after.session.bind SessionImpl.pendingImg).toList.map .imageReady)
    else
      []) ++
    step.output.image.toList.map .taken

/-- The log of one call. -/
def sessionLogOf (step : Transition (SessionRun E) SessionCall SessionOut) : List SessionEvent :=
  sessionInnerLog env engine step.before step.input ++ sessionReports step

/-- The log of a run. -/
def sessionLog (start : SessionRun E) (calls : List SessionCall) : List SessionEvent :=
  (transitions (sessionStep env engine) start calls).flatMap (sessionLogOf env engine)

end Log

end Gxfp.User
