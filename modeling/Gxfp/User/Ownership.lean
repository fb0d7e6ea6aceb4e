import Gxfp.User.Capture
import Gxfp.User.SessionCalls

/-!
# What a session owns

The trace tells when the device file is opened, used and closed; `Io.device`
reads it and rejects a second open, a close of something else and any use of a
closed device.  A session that is not closed owns the device under its own
descriptor, and a closed one owns nothing.

The calls of a session use the device only while they hold it: inside a call the
descriptor stays, and the entries of the trace are reads, writes and waits.
`gxfp_session_init` is a constructor.  It forgets the session it is applied to,
so the results are about runs that apply it to no open session.
-/

namespace Gxfp.User

open Lib
open Lib.Bytes
open Lib.Execution
open Lib.EventLog
open Gxfp.Errno

/-! ## The device file -/

/-- The device file after one more entry of the trace; `none` is a misuse. -/
def deviceAfter (device : Option Int) : Out → Option (Option Int)
  | .opened fd => if device = none then some (some fd) else none
  | .closed fd => if device = some fd then some none else none
  | .write .. | .flushed | .waited | .read | .recovery _ =>
      if device = none then none else some device

/-- The descriptor under which the device file is open, if it is, unless the
trace misuses it. -/
def Io.device (io : Io) : Option (Option Int) :=
  io.trace.foldr (fun out before => before.bind fun device => deviceAfter device out) (some none)

/-- An entry that uses the open device. -/
def Out.IsUse : Out → Prop
  | .opened _ | .closed _ => False
  | .write .. | .flushed | .waited | .read | .recovery _ => True

theorem Out.isUse_of_command {cmd : Byte} {out : Out} (isCommand : out.isCommand cmd) :
    out.IsUse := by
  obtain ⟨payload, commandEq⟩ := isCommand
  cases out with
  | write buf rc => trivial
  | opened fd => cases commandEq
  | closed fd => cases commandEq
  | flushed => trivial
  | waited => trivial
  | read => trivial
  | recovery service => trivial

instance : Out.AdmitsRoutine Out.IsUse where
  command := fun isCommand _ _ _ => Out.isUse_of_command isCommand
  incomplete := fun isCommand _ => Out.isUse_of_command isCommand
  record := fun _ => trivial
  flushed := trivial
  waited := trivial
  read := trivial

theorem deviceAfter_use {out : Out} (isUse : out.IsUse) (fd : Int) :
    deviceAfter (some fd) out = some (some fd) := by
  cases out with
  | opened fd => exact isUse.elim
  | closed fd => exact isUse.elim
  | write buf rc => rfl
  | flushed => rfl
  | waited => rfl
  | read => rfl
  | recovery service => rfl

theorem Io.device_emit {io : Io} {device : Option Int} (before : io.device = some device)
    (out : Out) : (io.emit out).device = deviceAfter device out := by
  change Option.bind io.device _ = _
  rw [before]
  rfl

theorem Io.device_of_trace {io after : Io} (traceEq : after.trace = io.trace) :
    after.device = io.device := by
  unfold Io.device
  rw [traceEq]

theorem Io.device_opened {io : Io} (closed : io.device = some none) (fd : Nat) :
    (io.emit (.opened fd)).device = some (some (fd : Int)) := by
  rw [Io.device_emit closed]
  rfl

theorem Io.device_closed {io : Io} {fd : Int} (isOpen : io.device = some (some fd)) :
    (io.emit (.closed fd)).device = some none := by
  rw [Io.device_emit isOpen]
  exact if_pos rfl

/-- Uses leave an open device open. -/
theorem Io.Extends.device {io after : Io} {fd : Int} (used : io.Extends Out.IsUse after)
    (isOpen : io.device = some (some fd)) : after.device = some (some fd) := by
  obtain ⟨outs, traceEq, uses⟩ := used
  have usedDevice : (Io.mk 0 (outs ++ io.trace)).device = some (some fd) := by
    clear traceEq
    induction outs with
    | nil => exact isOpen
    | cons out outs ih =>
        have before := ih fun other member => uses other (List.mem_cons_of_mem _ member)
        have next := Io.device_emit before out
        rw [deviceAfter_use (uses out List.mem_cons_self)] at next
        exact next
  rw [← usedDevice]
  exact Io.device_of_trace traceEq

/-- How often the device file was opened. -/
def Io.opens (io : Io) : Nat :=
  io.trace.countP fun out => match out with
    | .opened _ => true
    | _ => false

/-- How often it was closed. -/
def Io.closes (io : Io) : Nat :=
  io.trace.countP fun out => match out with
    | .closed _ => true
    | _ => false

/-- Every open has its own close, but for the one that still holds. -/
theorem Io.opens_eq {io : Io} {device : Option Int} (legal : io.device = some device) :
    io.opens = io.closes + if device.isSome then 1 else 0 := by
  rcases io with ⟨count, trace⟩
  induction trace generalizing device with
  | nil =>
      cases legal
      rfl
  | cons out trace ih =>
      obtain ⟨before, legalBefore, after⟩ := Option.bind_eq_some_iff.mp legal
      have counted := ih legalBefore
      unfold opens closes at counted ⊢
      rw [List.countP_cons, List.countP_cons]
      cases out with
      | opened fd =>
          cases before with
          | none =>
              cases after
              simpa using counted
          | some owner => cases after
      | closed fd =>
          obtain ⟨rfl, same⟩ := Option.ite_none_right_eq_some.mp after
          cases same
          simpa using counted
      | write buf rc =>
          obtain ⟨-, same⟩ := Option.ite_none_left_eq_some.mp after
          cases same
          exact counted
      | flushed =>
          obtain ⟨-, same⟩ := Option.ite_none_left_eq_some.mp after
          cases same
          exact counted
      | waited =>
          obtain ⟨-, same⟩ := Option.ite_none_left_eq_some.mp after
          cases same
          exact counted
      | read =>
          obtain ⟨-, same⟩ := Option.ite_none_left_eq_some.mp after
          cases same
          exact counted
      | recovery service =>
          obtain ⟨-, same⟩ := Option.ite_none_left_eq_some.mp after
          cases same
          exact counted

section Ownership

variable {E : Type} (env : Env) (engine : TlsEngine E)

/-! ## Inside a call -/

/-- A part of a call that neither opens nor closes the device: an open session
stays open and uses it, a closed one is left alone. -/
structure InCall.Uses (before after : InCall E) : Prop where
  stays : before.impl.mode ≠ .closed → after.impl.mode ≠ .closed
  fd : after.impl.fd = before.impl.fd
  used : before.io.Extends Out.IsUse after.io
  untouched : before.impl.mode = .closed → after.impl = before.impl ∧ after.io = before.io

namespace InCall.Uses

variable {before middle after : InCall E}

theorem sameCore (same : before.SameCore after) : before.Uses after := by
  constructor
  · rw [same.impl]
    exact id
  · rw [same.impl]
  · rw [same.io]
    exact .refl _
  · intro _
    exact ⟨same.impl, same.io⟩

theorem trans (first : before.Uses middle) (second : middle.Uses after) : before.Uses after := by
  constructor
  · intro isOpen
    exact second.stays (first.stays isOpen)
  · exact second.fd.trans first.fd
  · exact first.used.trans second.used
  · intro closed
    obtain ⟨implEq, ioEq⟩ := first.untouched closed
    have stillClosed : middle.impl.mode = .closed := by
      rw [implEq]
      exact closed
    obtain ⟨lastImpl, lastIo⟩ := second.untouched stillClosed
    exact ⟨lastImpl.trans implEq, lastIo.trans ioEq⟩

/-- A part of an open call that keeps the descriptor. -/
theorem of_open (isOpen : before.impl.mode ≠ .closed) (stays : after.impl.mode ≠ .closed)
    (fd : after.impl.fd = before.impl.fd) (used : before.io.Extends Out.IsUse after.io) :
    before.Uses after :=
  ⟨fun _ => stays, fd, used, fun closed => absurd closed isOpen⟩

end InCall.Uses

theorem sessionSetError_used (call : InCall E) (err : Int) (target : ErrorTarget) (msg : String) :
    call.io.Extends Out.IsUse (sessionSetError env call err target msg).io :=
  sessionSetError_extends env (fun _ => trivial) call err target msg

theorem sessionSetFdtMode_uses {call : InCall E} (isOpen : call.impl.mode ≠ .closed)
    (fdtMode : FdtMode) : call.Uses (sessionSetFdtMode env call fdtMode) := by
  have used : call.io.Extends Out.IsUse _ := sessionSetFdtMode_extends env
    (fun _ isUp => Out.isUse_of_command isUp) (fun _ => trivial) call fdtMode
  rw [sessionSetFdtMode_of_open env fdtMode isOpen] at used ⊢
  split at used
  · rename_i negative
    rw [if_pos negative]
    exact .of_open isOpen SessionMode.noConfusion rfl used
  · rename_i notNegative
    rw [if_neg notNegative]
    exact .of_open isOpen isOpen rfl used

/-- A change of mode and of the FDT flow. -/
theorem sessionSetFdtMode_setMode_uses {call : InCall E} {mode : SessionMode}
    (isOpen : call.impl.mode ≠ .closed) (opens : mode ≠ .closed) (fdtMode : FdtMode) :
    call.Uses (sessionSetFdtMode env (call.setMode mode) fdtMode) := by
  have moded : call.Uses (call.setMode mode) := .of_open isOpen opens rfl (.refl call.io)
  exact moded.trans (sessionSetFdtMode_uses env opens fdtMode)

theorem SessionMove.uses {before after : InCall E} {logged : List SessionEvent}
    (move : SessionMove env engine before logged after) : before.Uses after := by
  cases move with
  | service running =>
      have isOpen := SessionMode.open_of_running running
      have used : before.io.Extends Out.IsUse _ :=
        tlsServiceStep_extends env before.impl.fd engine
          (fun _ isImage => Out.isUse_of_command isImage) before.io before.impl.svc
      exact .of_open isOpen isOpen rfl used
  | fail isOpen err target msg =>
      exact .of_open isOpen SessionMode.noConfusion rfl
        (sessionSetError_used env before err target msg)
  | note same => exact .sameCore same
  | await awaits isOpen working =>
      cases awaits with
      | fingerOn =>
          exact sessionSetFdtMode_setMode_uses env isOpen SessionMode.noConfusion .waitDown
      | fingerOff =>
          exact sessionSetFdtMode_setMode_uses env isOpen SessionMode.noConfusion .waitUp
      | idle => exact sessionSetFdtMode_setMode_uses env isOpen SessionMode.noConfusion .idle
      | ready => exact sessionSetFdtMode_setMode_uses env isOpen SessionMode.noConfusion .idle
  | observe activating seen =>
      have isOpen : before.impl.mode ≠ .closed := by
        rw [activating]
        exact SessionMode.noConfusion
      exact sessionSetFdtMode_setMode_uses env isOpen SessionMode.noConfusion .waitUp
  | retry waiting nowMs =>
      have isOpen : before.impl.mode ≠ .closed := by
        rcases waiting with fingerOff | activating
        · rw [fingerOff]
          exact SessionMode.noConfusion
        · rw [activating]
          exact SessionMode.noConfusion
      have used : before.io.Extends Out.IsUse _ :=
        (Io.Extends.refl before.io).tick.trans (fdtFlowPoll_extends env before.impl.fd
          (fun _ isUp => Out.isUse_of_command isUp) before.io.tick before.impl.fdt nowMs)
      exact .of_open isOpen isOpen rfl used
  | read running =>
      have isOpen := SessionMode.open_of_running running
      exact .of_open isOpen isOpen rfl ((Io.Extends.refl before.io).emit trivial)
  | feed running hdr payload =>
      have isOpen := SessionMode.open_of_running running
      exact .of_open isOpen isOpen rfl
        (fdtFlowFeedRecord_routine env before.impl.fd before.io before.impl.fdt hdr payload)
  | upReport waiting => exact .sameCore (.refl before)
  | requestDark waiting granted =>
      have isOpen : before.impl.mode ≠ .closed := by
        rw [waiting]
        exact SessionMode.noConfusion
      exact .of_open isOpen SessionMode.noConfusion rfl (.refl before.io)
  | record running hdr payload =>
      have isOpen := SessionMode.open_of_running running
      have traceEq :=
        tlsServiceFeedTapRecord_trace env engine before.io before.impl.svc hdr payload
      exact .of_open isOpen isOpen rfl ⟨[], traceEq, by simp⟩
  | requestImage ready granted =>
      have isOpen : before.impl.mode ≠ .closed := by
        rcases ready with idle | waiting
        · rw [idle]
          exact SessionMode.noConfusion
        · rw [waiting]
          exact SessionMode.noConfusion
      exact .of_open isOpen SessionMode.noConfusion rfl (.refl before.io)

theorem SessionMode.open_of_capture {mode : SessionMode} (capture : mode.isCapture = true) :
    mode ≠ .closed := by
  rintro rfl
  cases capture

theorem SessionFinish.uses {before after : InCall E} {logged : List SessionEvent}
    (finish : SessionFinish env before logged after) : before.Uses after := by
  cases finish with
  | none => exact .sameCore (.refl before)
  | noImage capture done empty err target msg =>
      have taken : before.io.Extends Out.IsUse
          (tlsServiceGetRawImage env before.io before.impl.svc).io :=
        ⟨[], tlsServiceGetRawImage_trace env before.io before.impl.svc, by simp⟩
      exact .of_open (SessionMode.open_of_capture capture) SessionMode.noConfusion rfl
        (taken.trans (sessionSetError_used env (before.setSvc _ _) err target msg))
  | @failed capture done io traceEq err target msg =>
      have decoded : before.io.Extends Out.IsUse io := ⟨[], traceEq, by simp⟩
      exact .of_open (SessionMode.open_of_capture capture) SessionMode.noConfusion rfl
        (decoded.trans (sessionSetError_used env (before.setSvc _ io) err target msg))
  | dark capture done img traceEq idle sameArm =>
      have isOpen : before.impl.mode ≠ .closed := by
        rw [capture]
        exact SessionMode.noConfusion
      exact .of_open isOpen SessionMode.noConfusion rfl ⟨[], traceEq, by simp⟩
  | image capture done img traceEq =>
      have isOpen : before.impl.mode ≠ .closed := by
        rw [capture]
        exact SessionMode.noConfusion
      exact .of_open isOpen SessionMode.noConfusion rfl ⟨[], traceEq, by simp⟩

theorem SessionMoves.uses {before after : InCall E} {logged : List SessionEvent}
    (moves : SessionMoves env engine before logged after) : before.Uses after := by
  induction moves with
  | refl => exact .sameCore (.refl before)
  | tail _ last ih => exact ih.trans (last.uses env engine)

theorem SessionRuns.uses {before after : InCall E} {logged : List SessionEvent}
    (runs : SessionRuns env engine before logged after) : before.Uses after := by
  obtain ⟨middle, moved, finished, ended, moves, finish, same, -⟩ := runs
  exact ((moves.uses env engine).trans (finish.uses env)).trans (.sameCore same)

theorem sessionActivate_uses {call : InCall E} (clear : call.ev.sessionError = false) :
    call.Uses (sessionActivate env engine call).2 := by
  have spec := sessionActivate_spec env engine clear
  generalize sessionActivate env engine call = out at spec ⊢
  rcases out with ⟨ret, after⟩
  dsimp only at spec ⊢
  cases spec with
  | closed closed => exact .sameCore (.refl call)
  | failed isOpen rearmed negative msg =>
      have used : call.io.Extends Out.IsUse _ :=
        rearmed.extends env engine fun _ isStart => Out.isUse_of_command isStart
      exact .of_open isOpen SessionMode.noConfusion rfl
        (used.trans (sessionSetError_used env (call.setSvc _ _) ret .activate msg))
  | @activated _ svc io _ isOpen rearmed notNegative same =>
      have used : call.io.Extends Out.IsUse io :=
        rearmed.extends env engine fun _ isStart => Out.isUse_of_command isStart
      have activated : call.Uses ⟨call.impl.activated svc, call.ev, io⟩ :=
        .of_open isOpen SessionMode.noConfusion rfl used
      exact activated.trans (.sameCore same)

/-! ## Runs -/

/-- There is no session, or it is closed. -/
def SessionRun.IsClosed (run : SessionRun E) : Prop :=
  ∀ impl, run.session = some impl → impl.mode = .closed

/-- The descriptor of the device that a session owns. -/
def Session.device (session : Session E) : Option Int :=
  match session with
  | none => none
  | some impl => if impl.mode = .closed then none else some impl.fd

/-- What a session owns between two calls. -/
structure SessionRun.Owns (run : SessionRun E) : Prop where
  device : run.io.device = some run.session.device
  descriptor : ∀ impl, run.session = some impl → impl.mode ≠ .closed → ∃ fd : Nat, impl.fd = fd
  released : ∀ impl, run.session = some impl → impl.mode = .closed → impl.Released

namespace SessionRun.Owns

variable {impl : SessionImpl E} {io : Io}

theorem absent (closed : io.device = some none) : SessionRun.Owns (E := E) ⟨none, io⟩ := by
  constructor
  · exact closed
  · intro impl implEq
    cases implEq
  · intro impl implEq
    cases implEq

theorem closed (released : impl.Released) (closed : io.device = some none) :
    SessionRun.Owns ⟨some impl, io⟩ := by
  constructor
  · have device : Session.device (some impl) = none := if_pos released.mode
    rw [device]
    exact closed
  · intro other otherEq isOpen
    cases otherEq
    exact absurd released.mode isOpen
  · intro other otherEq _
    cases otherEq
    exact released

theorem opened {fd : Nat} (isOpen : impl.mode ≠ .closed) (fdEq : impl.fd = fd)
    (device : io.device = some (some (fd : Int))) : SessionRun.Owns ⟨some impl, io⟩ := by
  constructor
  · have owned : Session.device (some impl) = some impl.fd := if_neg isOpen
    rw [owned, fdEq]
    exact device
  · intro other otherEq _
    cases otherEq
    exact ⟨fd, fdEq⟩
  · intro other otherEq closed
    cases otherEq
    exact absurd closed isOpen

/-- An open session owns the device under its descriptor. -/
theorem open_device (owns : SessionRun.Owns ⟨some impl, io⟩) (isOpen : impl.mode ≠ .closed) :
    ∃ fd : Nat, impl.fd = fd ∧ io.device = some (some (fd : Int)) := by
  obtain ⟨fd, fdEq⟩ := owns.descriptor impl rfl isOpen
  have owned : Session.device (some impl) = some impl.fd := if_neg isOpen
  have device := owns.device
  dsimp only at device
  rw [owned, fdEq] at device
  exact ⟨fd, fdEq, device⟩

theorem closed_device (owns : SessionRun.Owns ⟨some impl, io⟩) (closed : impl.mode = .closed) :
    io.device = some none := by
  have owned : Session.device (some impl) = none := if_pos closed
  have device := owns.device
  dsimp only at device
  rw [owned] at device
  exact device

/-- A call that only uses the device leaves it to its owner. -/
theorem uses {after : InCall E} (owns : SessionRun.Owns ⟨some impl, io⟩)
    (uses : InCall.Uses ⟨impl, sessionEventsClear, io⟩ after) :
    SessionRun.Owns ⟨some after.impl, after.io⟩ := by
  by_cases closed : impl.mode = .closed
  · obtain ⟨implEq, ioEq⟩ := uses.untouched closed
    rw [implEq, ioEq]
    exact owns
  · obtain ⟨fd, fdEq, device⟩ := owns.open_device closed
    exact opened (uses.stays closed) (uses.fd.trans fdEq) (uses.used.device device)

/-- A session that gives up its device leaves it closed. -/
theorem release (owns : SessionRun.Owns ⟨some impl, io⟩) :
    (sessionResetRuntime impl io).2.device = some none := by
  by_cases closed : impl.mode = .closed
  · rw [sessionResetRuntime_closed closed]
    exact owns.closed_device closed
  · obtain ⟨fd, fdEq, device⟩ := owns.open_device closed
    rw [sessionResetRuntime_open closed fdEq]
    exact Io.device_closed device

theorem released_device {session : Session E} (owns : SessionRun.Owns ⟨session, io⟩) :
    (session.released io).device = some none := by
  cases session with
  | none => exact owns.device
  | some impl => exact owns.release

end SessionRun.Owns

/-- A call on an implementation that only uses the device. -/
theorem SessionRun.within_owns {run : SessionRun E} (owns : run.Owns) (absent : Int)
    (body : InCall E → Int × InCall E)
    (uses : ∀ impl io, InCall.Uses ⟨impl, sessionEventsClear, io⟩
      (body ⟨impl, sessionEventsClear, io⟩).2) : (run.within absent body).1.Owns := by
  rcases run with ⟨session, io⟩
  cases session with
  | none => exact owns
  | some impl => exact owns.uses (uses impl io)

theorem sessionBeginCleanup_owns {impl : SessionImpl E} {io : Io}
    (owns : SessionRun.Owns ⟨some impl, io⟩) (goal : CleanupGoal) (resetMcu : Bool) :
    SessionRun.Owns
      ⟨some (sessionBeginCleanup env ⟨impl, sessionEventsClear, io⟩ goal resetMcu).impl,
        (sessionBeginCleanup env ⟨impl, sessionEventsClear, io⟩ goal resetMcu).io⟩ := by
  have spec : SessionCleansUp Out.IsUse ⟨impl, sessionEventsClear, io⟩ _ goal :=
    sessionBeginCleanup_spec env ⟨impl, sessionEventsClear, io⟩ goal resetMcu
  generalize sessionBeginCleanup env ⟨impl, sessionEventsClear, io⟩ goal resetMcu = next
    at spec ⊢
  cases spec with
  | closed _ closed same => exact owns.uses (.sameCore same)
  | stopped isOpen same =>
      have stopped : InCall.Uses ⟨impl, sessionEventsClear, io⟩
          (InCall.setMode ⟨impl, sessionEventsClear, io⟩ .ready) :=
        .of_open isOpen SessionMode.noConfusion rfl (.refl io)
      exact owns.uses (stopped.trans (.sameCore same))
  | @released middle isOpen used same =>
      have stopped : InCall.Uses ⟨impl, sessionEventsClear, io⟩
          ⟨(InCall.setMode ⟨impl, sessionEventsClear, io⟩ .ready).impl, sessionEventsClear,
            middle⟩ := .of_open isOpen SessionMode.noConfusion rfl used
      have device := (owns.uses stopped).release
      rw [same.impl, same.io]
      exact .closed (sessionResetRuntime_released _ middle) device

theorem sessionOpen_owns {run : SessionRun E} (owns : run.Owns) (devPath : String)
    (psk : List Byte) (errbufLen : Nat) :
    SessionRun.Owns
      ⟨(sessionOpen env engine run.session run.io devPath psk errbufLen).session,
        (sessionOpen env engine run.session run.io devPath psk errbufLen).io⟩ := by
  have cleared := owns.released_device
  have spec : SessionOpens engine Out.IsUse run.session run.io psk _ :=
    sessionOpen_spec env engine (fun _ isStart => Out.isUse_of_command isStart) run.session run.io
      devPath psk errbufLen
  generalize sessionOpen env engine run.session run.io devPath psk errbufLen = out at spec ⊢
  cases spec with
  | refused noPsk => exact owns
  | noMemory hasPsk absent =>
      have device := owns.device
      rw [absent] at device ⊢
      exact .absent ((Io.device_of_trace run.io.tick_trace).trans device)
  | noDevice hasPsk negative sessionEq released trace =>
      rw [sessionEq]
      exact .closed released ((Io.device_of_trace trace).trans cleared)
  | @failed _ _ fd _ hasPsk negative sessionEq released used closed =>
      have device := used.device (Io.device_opened cleared fd)
      rw [sessionEq, closed]
      exact .closed released (Io.device_closed device)
  | @opened _ _ fd _ hasPsk zero sessionEq ready fdEq svc fresh manual unused dark pendingImg
      used =>
      have isOpen {impl : SessionImpl E} (ready : impl.mode = .ready) : impl.mode ≠ .closed := by
        rw [ready]
        exact SessionMode.noConfusion
      rw [sessionEq]
      exact .opened (isOpen ready) fdEq (used.device (Io.device_opened cleared fd))

/-- Every call keeps what the session owns in order, provided that the
constructor is applied to no open session. -/
theorem sessionStep_owns {run : SessionRun E} (owns : run.Owns) {call : SessionCall}
    (constructs : call = .init → run.IsClosed) : (sessionStep env engine run call).1.Owns := by
  cases call with
  | init =>
      have device : run.io.device = some none := by
        have closed := constructs rfl
        rcases run with ⟨session, io⟩
        cases session with
        | none => exact owns.device
        | some impl => exact owns.closed_device (closed impl rfl)
      unfold sessionStep
      rcases sessionEnsureImpl_cases (E := E) env none run.io with ⟨-, ensured⟩ |
        ⟨made, next, ensured, madeEq | ⟨-, released⟩, cleared⟩
      · rw [ensured]
        exact .absent device
      · cases madeEq
      · rw [ensured]
        rw [sessionResetRuntime_closed released.mode] at cleared
        exact .closed released ((Io.device_of_trace cleared).trans device)
  | dispose =>
      rcases run with ⟨session, io⟩
      cases session with
      | none => exact owns
      | some impl => exact .absent owns.release
  | openPath devPath psk errbufLen => exact sessionOpen_owns env engine owns devPath psk errbufLen
  | requestClose resetMcu =>
      rcases run with ⟨session, io⟩
      cases session with
      | none => exact owns
      | some impl => exact sessionBeginCleanup_owns env owns .close resetMcu
  | requestDeactivate =>
      rcases run with ⟨session, io⟩
      cases session with
      | none => exact owns
      | some impl => exact sessionBeginCleanup_owns env owns .deactivate false
  | activate =>
      apply SessionRun.within_owns owns
      intro impl io
      exact sessionActivate_uses env engine rfl
  | changeState state =>
      apply SessionRun.within_owns owns
      intro impl io
      exact (sessionChangeState_steps env engine _ state).uses env engine
  | onFd condition actionCancelled =>
      apply SessionRun.within_owns owns
      intro impl io
      exact (sessionOnFd_runs env engine _ condition actionCancelled).uses env engine
  | pump actionCancelled =>
      apply SessionRun.within_owns owns
      intro impl io
      exact (sessionPump_runs env engine _ actionCancelled).uses env engine
  | takeImage =>
      rcases run with ⟨session, io⟩
      cases session with
      | none => exact owns
      | some impl =>
          dsimp only [sessionStep, sessionTakeImage]
          cases pending : impl.pendingImg with
          | none => exact owns
          | some img =>
              have isOpen : impl.mode ≠ .closed := by
                intro closed
                rw [(owns.released impl rfl closed).pendingImg] at pending
                cases pending
              obtain ⟨fd, fdEq, device⟩ := owns.open_device isOpen
              exact .opened isOpen fdEq device

/-- A closed session does nothing to the device, unless it is opened. -/
theorem sessionStep_closed {run : SessionRun E} (closed : run.IsClosed) {call : SessionCall}
    (notOpen : ∀ devPath psk errbufLen, call ≠ .openPath devPath psk errbufLen) :
    (sessionStep env engine run call).1.io.trace = run.io.trace := by
  have untouched (absent : Int) (body : InCall E → Int × InCall E)
      (uses : ∀ impl io, InCall.Uses ⟨impl, sessionEventsClear, io⟩
        (body ⟨impl, sessionEventsClear, io⟩).2) :
      (run.within absent body).1.io.trace = run.io.trace := by
    rcases run with ⟨session, io⟩
    cases session with
    | none => rfl
    | some impl => exact congrArg Io.trace ((uses impl io).untouched (closed impl rfl)).2
  have cleaned (goal : CleanupGoal) (resetMcu : Bool) :
      (run.within 0 fun call => (0, sessionBeginCleanup env call goal resetMcu)).1.io.trace =
        run.io.trace := by
    rcases run with ⟨session, io⟩
    cases session with
    | none => rfl
    | some impl =>
        have spec : SessionCleansUp Out.IsUse ⟨impl, sessionEventsClear, io⟩ _ goal :=
          sessionBeginCleanup_spec env ⟨impl, sessionEventsClear, io⟩ goal resetMcu
        dsimp only [SessionRun.within]
        generalize sessionBeginCleanup env ⟨impl, sessionEventsClear, io⟩ goal resetMcu = next
          at spec ⊢
        cases spec with
        | closed _ _ same => exact congrArg Io.trace same.io
        | stopped isOpen same => exact absurd (closed impl rfl) isOpen
        | released isOpen used same => exact absurd (closed impl rfl) isOpen
  cases call with
  | init =>
      unfold sessionStep
      rcases sessionEnsureImpl_cases (E := E) env none run.io with ⟨-, ensured⟩ |
        ⟨made, next, ensured, madeEq | ⟨-, released⟩, cleared⟩
      · rw [ensured]
        rfl
      · cases madeEq
      · rw [ensured]
        rw [sessionResetRuntime_closed released.mode] at cleared
        exact cleared
  | dispose =>
      rcases run with ⟨session, io⟩
      cases session with
      | none => rfl
      | some impl => exact congrArg Io.trace (sessionResetRuntime_closed (closed impl rfl) io)
  | openPath devPath psk errbufLen => exact absurd rfl (notOpen devPath psk errbufLen)
  | requestClose resetMcu => exact cleaned .close resetMcu
  | requestDeactivate => exact cleaned .deactivate false
  | activate => exact untouched EINVAL.rc _ fun _ _ => sessionActivate_uses env engine rfl
  | changeState state =>
      exact untouched 0 _ fun _ _ => (sessionChangeState_steps env engine _ state).uses env engine
  | onFd condition actionCancelled =>
      exact untouched 0 _ fun _ _ =>
        (sessionOnFd_runs env engine _ condition actionCancelled).uses env engine
  | pump actionCancelled =>
      exact untouched 0 _ fun _ _ => (sessionPump_runs env engine _ actionCancelled).uses env engine
  | takeImage =>
      rcases run with ⟨session, io⟩
      cases session with
      | none => rfl
      | some impl => rfl

/-- What a session owns after a call, and what the call did to the device. -/
structure OwnedStep (step : Transition (SessionRun E) SessionCall SessionOut) : Prop where
  /-- The device is open, under the descriptor of the session, exactly if the
  session is not closed. -/
  device : step.after.io.device = some step.after.session.device
  opens : step.after.io.opens =
    step.after.io.closes + if step.after.session.device.isSome then 1 else 0
  released : ∀ impl, step.after.session = some impl → impl.mode = .closed →
    impl.svc = none ∧ impl.psk = none ∧ impl.dark = none ∧ impl.pendingImg = none
  closed : step.before.IsClosed →
    (∀ devPath psk errbufLen, step.input ≠ .openPath devPath psk errbufLen) →
    step.after.io.trace = step.before.io.trace
  openError : ∀ devPath psk errbufLen, step.input = .openPath devPath psk errbufLen →
    step.output.ret ≠ 0 →
    if psk.length = 0 then step.after = step.before else step.after.IsClosed

theorem sessionOpen_error {run : SessionRun E} {devPath : String} {psk : List Byte}
    {errbufLen : Nat}
    (failed : (sessionStep env engine run (.openPath devPath psk errbufLen)).2.ret ≠ 0) :
    if psk.length = 0 then
      (sessionStep env engine run (.openPath devPath psk errbufLen)).1 = run
    else
      (sessionStep env engine run (.openPath devPath psk errbufLen)).1.IsClosed := by
  have spec : SessionOpens engine Out.IsUse run.session run.io psk _ :=
    sessionOpen_spec env engine (fun _ isStart => Out.isUse_of_command isStart) run.session run.io
      devPath psk errbufLen
  have closed {impl : SessionImpl E} {session : Session E} (io : Io) (released : impl.Released)
      (sessionEq : session = some impl) : SessionRun.IsClosed ⟨session, io⟩ := by
    intro other otherEq
    rw [sessionEq] at otherEq
    cases otherEq
    exact released.mode
  dsimp only [sessionStep] at failed ⊢
  generalize sessionOpen env engine run.session run.io devPath psk errbufLen = out
    at spec failed ⊢
  cases spec with
  | refused noPsk => rw [if_pos noPsk]
  | noMemory hasPsk absent =>
      rw [if_neg hasPsk]
      intro impl implEq
      rw [absent] at implEq
      cases implEq
  | noDevice hasPsk negative sessionEq released trace =>
      rw [if_neg hasPsk]
      exact closed out.io released sessionEq
  | failed hasPsk negative sessionEq released used _ =>
      rw [if_neg hasPsk]
      exact closed out.io released sessionEq
  | opened hasPsk zero sessionEq ready fdEq svc fresh manual unused dark pendingImg used =>
      exact absurd zero failed

/-- What a session owns in every run in which the constructor is applied to no
open session: the device is open exactly if the session is not closed, every
open has its one close, a closed session holds nothing and does nothing to the
device, and an open that fails leaves the session closed, but for the argument
check, which leaves it as it is. -/
theorem session_ownership (count : Nat) (calls : List SessionCall)
    (constructs : ∀ step ∈ transitions (sessionStep env engine) ⟨none, ⟨count, []⟩⟩ calls,
      step.input = .init → step.before.IsClosed) :
    ∀ step ∈ transitions (sessionStep env engine) ⟨none, ⟨count, []⟩⟩ calls, OwnedStep step := by
  intro step member
  have owns := @transitions_invariant _ _ _ (sessionStep env engine) SessionRun.Owns
    (fun step => step.input = .init → step.before.IsClosed)
    (fun run call held good => sessionStep_owns env engine held good) ⟨none, ⟨count, []⟩⟩ calls
    (.absent rfl) constructs step member
  have stepEq := eq_stepTransition_of_mem member
  constructor
  · exact owns.2.device
  · exact Io.opens_eq owns.2.device
  · intro impl implEq closed
    have released := owns.2.released impl implEq closed
    exact ⟨released.svc, released.psk, released.dark, released.pendingImg⟩
  · intro closed notOpen
    rw [stepEq]
    exact sessionStep_closed env engine closed notOpen
  · intro devPath psk errbufLen inputEq failed
    rw [stepEq] at failed ⊢
    rw [inputEq] at failed ⊢
    exact sessionOpen_error env engine failed

end Ownership

/-- Calls that open a session twice: the second open has no key. -/
def reopenCalls : List SessionCall :=
  [.init, .openPath "/dev/gxfp" (List.replicate PSK_LEN 0) 0, .openPath "/dev/gxfp" [] 0]

/-- The argument check rejects an open without touching the open session, and
the session goes on to own the device. -/
theorem session_ownership_reopened :
    ∃ step ∈ transitions (sessionStep steadyEnv (channelEngine clearCipher)) ⟨none, ⟨0, []⟩⟩
        reopenCalls,
      step.output.ret = EINVAL.rc ∧ step.after.io.device = some (some 3) ∧ OwnedStep step := by
  have constructs : ∀ step ∈ transitions (sessionStep steadyEnv (channelEngine clearCipher))
      ⟨none, ⟨0, []⟩⟩ reopenCalls, step.input = .init → step.before.IsClosed := by
    intro step member isInit
    unfold reopenCalls at member
    rw [transitions_cons, transitions_cons, transitions_cons, transitions_nil] at member
    rcases List.mem_cons.mp member with rfl | later
    · intro impl implEq
      cases implEq
    · rcases List.mem_cons.mp later with rfl | last
      · cases isInit
      · rw [List.mem_singleton.mp last] at isInit
        cases isInit
  have last := stepTransition_mem_last (sessionStep steadyEnv (channelEngine clearCipher))
    ⟨none, ⟨0, []⟩⟩ [.init, .openPath "/dev/gxfp" (List.replicate PSK_LEN 0) 0]
    (.openPath "/dev/gxfp" [] 0)
  refine ⟨_, last, ?_, ?_, session_ownership _ _ 0 reopenCalls constructs _ last⟩
  · decide +kernel
  · decide +kernel

/-- An open that returns an error can leave a session open, and a constructor
can leave the device open behind a closed session. -/
theorem not_every_session_owned :
    (∃ step ∈ transitions (sessionStep steadyEnv (channelEngine clearCipher)) ⟨none, ⟨0, []⟩⟩
        reopenCalls,
      step.input = .openPath "/dev/gxfp" [] 0 ∧ step.output.ret = EINVAL.rc ∧
        step.after.session.map SessionImpl.mode = some .ready) ∧
      ∃ run, run = final (sessionStep steadyEnv (channelEngine clearCipher)) ⟨none, ⟨0, []⟩⟩
          [.init, .openPath "/dev/gxfp" (List.replicate PSK_LEN 0) 0, .init] ∧
        run.session.map SessionImpl.mode = some .closed ∧ run.io.device = some (some 3) := by
  constructor
  · have last := stepTransition_mem_last (sessionStep steadyEnv (channelEngine clearCipher))
      ⟨none, ⟨0, []⟩⟩ [.init, .openPath "/dev/gxfp" (List.replicate PSK_LEN 0) 0]
      (.openPath "/dev/gxfp" [] 0)
    refine ⟨_, last, rfl, ?_, ?_⟩
    · decide +kernel
    · decide +kernel
  · refine ⟨_, rfl, ?_, ?_⟩
    · decide +kernel
    · decide +kernel

end Gxfp.User
