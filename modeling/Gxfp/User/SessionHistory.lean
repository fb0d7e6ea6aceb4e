import Gxfp.User.SessionErrors

/-!
# Calls and their logs

`SessionStepped` lists what one call can do to a session together with what it
logs: the ways out of the calls that open, close and activate, and the moves of
the calls in between with what they report at their end.  A result about the
log of every run is proved for each of these once.
-/

namespace Gxfp.User

open Lib
open Lib.Bytes
open Lib.Execution
open Lib.EventLog
open Gxfp.Errno

section History

variable {E : Type} (env : Env) (engine : TlsEngine E)

/-- What a call reports at its end beside errors. -/
def InCall.reports (call : InCall E) : List SessionEvent :=
  (if call.ev.activateComplete then [.completed] else []) ++
    if call.ev.imageReady then call.impl.pendingImg.toList.map .imageReady else []

/-- One call of a session, with what it logs. -/
inductive SessionStepped (run : SessionRun E) : List SessionEvent → SessionRun E → Prop
  /-- There is no session afterwards. -/
  | absent (io : Io) : SessionStepped run [] ⟨none, io⟩
  | kept (io : Io) : SessionStepped run [] ⟨run.session, io⟩
  /-- The session is closed, or a new one is made. -/
  | released {impl : SessionImpl E} (io : Io) (released : impl.Released) :
      SessionStepped run [] ⟨some impl, io⟩
  | opened {impl : SessionImpl E} {service : TlsServiceImpl E} (io : Io)
      (ready : impl.mode = .ready) (svc : impl.svc = some service)
      (fresh : FreshService engine service) (manual : service.cfg.manualPendingRequest = true)
      (pendingImg : impl.pendingImg = none) : SessionStepped run [] ⟨some impl, io⟩
  | stopped {impl : SessionImpl E} (io : Io) (sessionEq : run.session = some impl) :
      SessionStepped run [] ⟨some { impl with mode := .ready }, io⟩
  /-- `gxfp_session_activate` returns 0. -/
  | activated {impl : SessionImpl E} {ret : Int} {svc : TlsService E} {io : Io}
      (sessionEq : run.session = some impl)
      (rearmed : ServiceRearmed env engine ⟨impl, sessionEventsClear, run.io⟩ ret svc io)
      (notNegative : ¬ ret < 0) :
      SessionStepped run [.activated] ⟨some (impl.activated svc), io⟩
  /-- It returns an error. -/
  | notActivated {impl : SessionImpl E} {ret : Int} {svc : TlsService E} {middle : Io} (io : Io)
      (sessionEq : run.session = some impl)
      (rearmed : ServiceRearmed env engine ⟨impl, sessionEventsClear, run.io⟩ ret svc middle)
      (negative : ret < 0) :
      SessionStepped run [] ⟨some { impl with svc := svc, mode := .failed }, io⟩
  /-- A tick, a record or a change of state. -/
  | ran {impl : SessionImpl E} {log : List SessionEvent} {after : InCall E}
      (sessionEq : run.session = some impl)
      (runs : SessionRuns env engine ⟨impl, sessionEventsClear, run.io⟩ log after) :
      SessionStepped run (log ++ after.reports) ⟨some after.impl, after.io⟩
  | taken {impl : SessionImpl E} {img : DecodedImage} (sessionEq : run.session = some impl)
      (pending : impl.pendingImg = some img) :
      SessionStepped run [.taken img] ⟨some { impl with pendingImg := none }, run.io⟩

/-! ## Calls without events -/

theorem sessionResetRuntime_noEvent (impl : SessionImpl E) (io : Io) :
    io.Extends Out.NoEvent (sessionResetRuntime impl io).2 := by
  unfold sessionResetRuntime devClose
  dsimp only
  split
  · split
    · exact (Io.Extends.refl io).emit (Out.noEvent_of_command_none rfl)
    · exact .refl io
  · exact .refl io

theorem Session.released_noEvent (session : Session E) (io : Io) :
    io.Extends Out.NoEvent (session.released io) := by
  cases session with
  | none => exact .refl io
  | some impl => exact sessionResetRuntime_noEvent impl io

/-- An open logs nothing. -/
theorem SessionOpens.noEvent {session : Session E} {io : Io} {psk : List Byte} {out : OpenOut E}
    (opens : SessionOpens engine Out.NoEvent session io psk out) :
    io.Extends Out.NoEvent out.io := by
  have released := session.released_noEvent io
  have opened (fd : Nat) : io.Extends Out.NoEvent ((session.released io).emit (.opened fd)) :=
    released.emit (Out.noEvent_of_command_none rfl)
  cases opens with
  | refused noPsk => exact .refl io
  | noMemory hasPsk absent => exact (Io.Extends.refl io).tick
  | noDevice hasPsk negative sessionEq _ trace =>
      obtain ⟨outs, traceEq, all⟩ := released
      exact ⟨outs, trace.trans traceEq, all⟩
  | failed hasPsk negative sessionEq _ used closed =>
      rw [closed]
      exact ((opened _).trans used).emit (Out.noEvent_of_command_none rfl)
  | opened hasPsk zero sessionEq ready fdEq svc fresh manual unused dark pendingImg used =>
      exact (opened _).trans used

theorem noEvent_of_tlsServerInit (out : Out) (isStart : out.isCommand CMD_TLS_SERVER_INIT) :
    out.NoEvent :=
  Out.noEvent_of_command isStart (by decide) (by decide)

/-- The calls that open, close and activate log what they send. -/
theorem sessionInnerLog_of_still {run : SessionRun E} {call : SessionCall}
    (still : call.advances = false) :
    sessionInnerLog env engine run call =
      run.io.eventsSince (sessionStep env engine run call).1.io := by
  unfold sessionInnerLog
  cases run.session with
  | none => rfl
  | some impl =>
      cases call with
      | changeState state => cases still
      | onFd condition actionCancelled => cases still
      | pump actionCancelled => cases still
      | _ => rfl

/-- What such a call logs when it sends nothing of interest. -/
theorem sessionLogOf_of_still {run : SessionRun E} {call : SessionCall}
    (still : call.advances = false)
    (quiet : run.io.Extends Out.NoEvent (sessionStep env engine run call).1.io) :
    sessionLogOf env engine (stepTransition (sessionStep env engine) run call) =
      sessionReports (stepTransition (sessionStep env engine) run call) := by
  have inner : sessionInnerLog env engine run call = _ := sessionInnerLog_of_still env engine still
  rw [quiet.eventsSince] at inner
  change sessionInnerLog env engine run call ++ _ = _
  rw [inner, List.nil_append]

/-- The reports of a call other than a successful activation. -/
theorem sessionReports_eq {step : Transition (SessionRun E) SessionCall SessionOut}
    {after : InCall E} (notActivated : step.input = .activate → step.output.ret ≠ 0)
    (ev : step.output.ev = after.ev) (sessionEq : step.after.session = some after.impl)
    (noImage : step.output.image = none) : sessionReports step = after.reports := by
  have notBoth : ¬ (step.input = .activate ∧ step.output.ret = 0) := by
    rintro ⟨isActivate, zero⟩
    exact notActivated isActivate zero
  unfold sessionReports InCall.reports
  rw [if_neg notBoth, ev, sessionEq, noImage]
  simp

theorem InCall.reports_of_clear {call : InCall E} (notComplete : call.ev.activateComplete = false)
    (notReady : call.ev.imageReady = false) : call.reports = [] := by
  unfold InCall.reports
  rw [notComplete, notReady]
  rfl

/-- A call that reports nothing. -/
theorem sessionReports_nil {step : Transition (SessionRun E) SessionCall SessionOut}
    (notActivated : step.input = .activate → step.output.ret ≠ 0)
    (notComplete : step.output.ev.activateComplete = false)
    (notReady : step.output.ev.imageReady = false) (noImage : step.output.image = none) :
    sessionReports step = [] := by
  have notBoth : ¬ (step.input = .activate ∧ step.output.ret = 0) := by
    rintro ⟨isActivate, zero⟩
    exact notActivated isActivate zero
  unfold sessionReports
  rw [if_neg notBoth, notComplete, notReady, noImage]
  rfl

/-! ## Every call -/

/-- A call that advances an existing session. -/
theorem sessionStepped_ran {impl : SessionImpl E} {io : Io} {call : SessionCall}
    {log : List SessionEvent} {after : InCall E} (notActivate : call ≠ .activate)
    (stepEq : sessionStep env engine ⟨some impl, io⟩ call =
      (⟨some after.impl, after.io⟩, ⟨0, after.ev, none, none⟩))
    (innerEq : sessionInnerLog env engine ⟨some impl, io⟩ call = log)
    (runs : SessionRuns env engine ⟨impl, sessionEventsClear, io⟩ log after) :
    SessionStepped env engine ⟨some impl, io⟩
      (sessionLogOf env engine (stepTransition (sessionStep env engine) ⟨some impl, io⟩ call))
      (sessionStep env engine ⟨some impl, io⟩ call).1 := by
  have reportsEq : sessionReports
      (stepTransition (sessionStep env engine) ⟨some impl, io⟩ call) = after.reports := by
    apply sessionReports_eq
    · intro isActivate
      exact absurd isActivate notActivate
    · dsimp only [stepTransition]
      rw [stepEq]
    · dsimp only [stepTransition]
      rw [stepEq]
    · dsimp only [stepTransition]
      rw [stepEq]
  have logEq : sessionLogOf env engine
      (stepTransition (sessionStep env engine) ⟨some impl, io⟩ call) = log ++ after.reports := by
    unfold sessionLogOf
    rw [reportsEq]
    exact congrArg (· ++ after.reports) innerEq
  rw [logEq, stepEq]
  exact .ran rfl runs

/-- A call that finds no session. -/
theorem sessionStepped_none {io : Io} {call : SessionCall} {ret : Int}
    (failed : call = .activate → ret ≠ 0)
    (stepEq : sessionStep env engine ⟨none, io⟩ call =
      (⟨none, io⟩, ⟨ret, sessionEventsClear, none, none⟩)) :
    SessionStepped env engine ⟨none, io⟩
      (sessionLogOf env engine (stepTransition (sessionStep env engine) ⟨none, io⟩ call))
      (sessionStep env engine ⟨none, io⟩ call).1 := by
  have reportsEq :
      sessionReports (stepTransition (sessionStep env engine) ⟨none, io⟩ call) = [] := by
    apply sessionReports_nil
    · intro isActivate
      dsimp only [stepTransition]
      rw [stepEq]
      exact failed isActivate
    · dsimp only [stepTransition]
      rw [stepEq]
      rfl
    · dsimp only [stepTransition]
      rw [stepEq]
      rfl
    · dsimp only [stepTransition]
      rw [stepEq]
  have innerEq : sessionInnerLog env engine ⟨none, io⟩ call = [] := by
    unfold sessionInnerLog
    dsimp only
    rw [stepEq]
    exact Io.eventsSince_self io
  have logEq : sessionLogOf env engine (stepTransition (sessionStep env engine) ⟨none, io⟩ call) =
      [] := by
    unfold sessionLogOf
    rw [reportsEq, List.append_nil]
    exact innerEq
  rw [logEq, stepEq]
  exact .kept io

/-- A cleanup call on an existing session. -/
theorem sessionStepped_cleanup {impl : SessionImpl E} {io : Io} {call : SessionCall}
    {next : InCall E} {goal : CleanupGoal} (still : call.advances = false)
    (notActivate : call ≠ .activate)
    (stepEq : sessionStep env engine ⟨some impl, io⟩ call =
      (⟨some next.impl, next.io⟩, ⟨0, next.ev, none, none⟩))
    (spec : SessionCleansUp Out.NoEvent ⟨impl, sessionEventsClear, io⟩ next goal) :
    SessionStepped env engine ⟨some impl, io⟩
      (sessionLogOf env engine (stepTransition (sessionStep env engine) ⟨some impl, io⟩ call))
      (sessionStep env engine ⟨some impl, io⟩ call).1 := by
  have quiet : io.Extends Out.NoEvent next.io := by
    cases spec with
    | closed _ closed same =>
        rw [same.io]
        exact .refl io
    | stopped isOpen same =>
        rw [same.io]
        exact .refl io
    | released isOpen used same =>
        rw [same.io]
        exact used.trans (sessionResetRuntime_noEvent _ _)
  have clear : next.ev.activateComplete = false ∧ next.ev.imageReady = false := by
    cases spec with
    | closed _ closed same => exact ⟨same.activateComplete, same.imageReady⟩
    | stopped isOpen same => exact ⟨same.activateComplete, same.imageReady⟩
    | released isOpen used same => exact ⟨same.activateComplete, same.imageReady⟩
  have reportsEq : sessionReports
      (stepTransition (sessionStep env engine) ⟨some impl, io⟩ call) = next.reports := by
    apply sessionReports_eq
    · intro isActivate
      exact absurd isActivate notActivate
    · dsimp only [stepTransition]
      rw [stepEq]
    · dsimp only [stepTransition]
      rw [stepEq]
    · dsimp only [stepTransition]
      rw [stepEq]
  rw [sessionLogOf_of_still env engine still (by rw [stepEq]; exact quiet), reportsEq,
    InCall.reports_of_clear clear.1 clear.2, stepEq]
  cases spec with
  | closed _ closed same =>
      rw [same.impl]
      exact .kept next.io
  | stopped isOpen same =>
      rw [same.impl]
      exact .stopped next.io rfl
  | @released middle isOpen used same =>
      rw [same.impl]
      exact .released next.io (sessionResetRuntime_released _ middle)

theorem sessionStepped_open (run : SessionRun E) (devPath : String) (psk : List Byte)
    (errbufLen : Nat) :
    SessionStepped env engine run
      (sessionLogOf env engine
        (stepTransition (sessionStep env engine) run (.openPath devPath psk errbufLen)))
      (sessionStep env engine run (.openPath devPath psk errbufLen)).1 := by
  have spec : SessionOpens engine Out.NoEvent run.session run.io psk _ :=
    sessionOpen_spec env engine noEvent_of_tlsServerInit run.session run.io devPath psk errbufLen
  have quiet := spec.noEvent
  have reportsEq : sessionReports
      (stepTransition (sessionStep env engine) run (.openPath devPath psk errbufLen)) = [] := by
    apply sessionReports_nil
    · intro isActivate
      cases isActivate
    · rfl
    · rfl
    · rfl
  rw [sessionLogOf_of_still env engine rfl quiet, reportsEq]
  dsimp only [sessionStep]
  generalize sessionOpen env engine run.session run.io devPath psk errbufLen = out at spec ⊢
  cases spec with
  | refused noPsk => exact .kept run.io
  | noMemory hasPsk absent => exact .kept run.io.tick
  | noDevice hasPsk negative sessionEq released trace =>
      rw [sessionEq]
      exact .released out.io released
  | failed hasPsk negative sessionEq released used closed =>
      rw [sessionEq]
      exact .released out.io released
  | opened hasPsk zero sessionEq ready fdEq svc fresh manual unused dark pendingImg used =>
      rw [sessionEq]
      exact .opened out.io ready svc fresh manual pendingImg

theorem sessionStepped_activate (impl : SessionImpl E) (io : Io) :
    SessionStepped env engine ⟨some impl, io⟩
      (sessionLogOf env engine (stepTransition (sessionStep env engine) ⟨some impl, io⟩ .activate))
      (sessionStep env engine ⟨some impl, io⟩ .activate).1 := by
  have stepEq : sessionStep env engine ⟨some impl, io⟩ .activate =
      (⟨some (sessionActivate env engine ⟨impl, sessionEventsClear, io⟩).2.impl,
        (sessionActivate env engine ⟨impl, sessionEventsClear, io⟩).2.io⟩,
        ⟨(sessionActivate env engine ⟨impl, sessionEventsClear, io⟩).1,
          (sessionActivate env engine ⟨impl, sessionEventsClear, io⟩).2.ev, none, none⟩) := rfl
  have spec := sessionActivate_spec env engine
    (show (⟨impl, sessionEventsClear, io⟩ : InCall E).ev.sessionError = false from rfl)
  have unreported := sessionActivate_unreported env engine (InCall.Unreported.clear impl io) rfl
  have inner : sessionInnerLog env engine ⟨some impl, io⟩ .activate = _ :=
    sessionInnerLog_of_still env engine rfl
  unfold sessionLogOf
  dsimp only [stepTransition]
  rw [inner, stepEq]
  generalize sessionActivate env engine ⟨impl, sessionEventsClear, io⟩ = out at spec unreported ⊢
  rcases out with ⟨ret, after⟩
  dsimp only at spec unreported ⊢
  unfold sessionReports
  dsimp only
  rw [unreported.activateComplete, unreported.imageReady]
  cases spec with
  | closed closed =>
      rw [Io.eventsSince_self, if_neg (by decide)]
      exact .kept io
  | @failed _ svc middle isOpen rearmed negative msg =>
      have quiet : io.Extends Out.NoEvent middle :=
        rearmed.extends env engine noEvent_of_tlsServerInit
      have failed := quiet.trans (sessionSetError_extends env (fun _ => rfl)
        (InCall.setSvc ⟨impl, sessionEventsClear, io⟩ svc middle) ret .activate msg)
      rw [failed.eventsSince, if_neg (fun both => Int.ne_of_lt negative both.2)]
      exact @SessionStepped.notActivated _ env engine _ impl ret svc middle _ rfl rearmed negative
  | @activated _ svc middle _ isOpen rearmed notNegative same =>
      have quiet : io.Extends Out.NoEvent middle :=
        rearmed.extends env engine noEvent_of_tlsServerInit
      rw [same.io, same.impl, quiet.eventsSince, if_pos ⟨rfl, rfl⟩]
      exact .activated rfl rearmed notNegative

theorem sessionStepped_init (session : Option (SessionImpl E)) (io : Io) :
    SessionStepped env engine ⟨session, io⟩
      (sessionLogOf env engine (stepTransition (sessionStep env engine) ⟨session, io⟩ .init))
      (sessionStep env engine ⟨session, io⟩ .init).1 := by
  have reportsEq : sessionReports
      (stepTransition (sessionStep env engine) ⟨session, io⟩ .init) = [] := by
    unfold stepTransition sessionStep
    rcases sessionEnsureImpl_cases (E := E) env none io with ⟨-, ensured⟩ |
      ⟨made, next, ensured, -, -⟩
    · rw [ensured]
      rfl
    · rw [ensured]
      rfl
  rcases sessionEnsureImpl_cases (E := E) env none io with ⟨-, ensured⟩ |
    ⟨made, next, ensured, madeEq | ⟨-, released⟩, cleared⟩
  · have stepEq : (sessionStep env engine ⟨session, io⟩ .init).1 = ⟨none, io.tick⟩ := by
      unfold sessionStep
      rw [ensured]
    have quiet : io.Extends Out.NoEvent io.tick := (Io.Extends.refl io).tick
    rw [sessionLogOf_of_still env engine rfl (by rw [stepEq]; exact quiet), reportsEq, stepEq]
    exact .absent io.tick
  · cases madeEq
  · have stepEq : (sessionStep env engine ⟨session, io⟩ .init).1 = ⟨some made, next⟩ := by
      unfold sessionStep
      rw [ensured]
    rw [sessionResetRuntime_closed released.mode] at cleared
    have quiet : io.Extends Out.NoEvent next := ⟨[], cleared, by simp⟩
    rw [sessionLogOf_of_still env engine rfl (by rw [stepEq]; exact quiet), reportsEq, stepEq]
    exact .released next released

theorem sessionStepped_takeImage (impl : SessionImpl E) (io : Io) :
    SessionStepped env engine ⟨some impl, io⟩
      (sessionLogOf env engine (stepTransition (sessionStep env engine) ⟨some impl, io⟩ .takeImage))
      (sessionStep env engine ⟨some impl, io⟩ .takeImage).1 := by
  rw [sessionLogOf_of_still env engine rfl (Io.Extends.refl io)]
  unfold sessionReports stepTransition
  cases pending : impl.pendingImg with
  | none =>
      have stepEq : sessionStep env engine ⟨some impl, io⟩ .takeImage =
          (⟨some impl, io⟩, ⟨ENOENT.rc, sessionEventsClear, none, none⟩) := by
        simp only [sessionStep, sessionTakeImage, pending]
      rw [stepEq]
      exact .kept io
  | some img =>
      have stepEq : sessionStep env engine ⟨some impl, io⟩ .takeImage =
          (⟨some { impl with pendingImg := none }, io⟩,
            ⟨0, sessionEventsClear, none, some img⟩) := by
        simp only [sessionStep, sessionTakeImage, pending]
      rw [stepEq]
      exact .taken rfl pending

/-- What every call does and logs. -/
theorem sessionStep_stepped (run : SessionRun E) (call : SessionCall) :
    SessionStepped env engine run
      (sessionLogOf env engine (stepTransition (sessionStep env engine) run call))
      (sessionStep env engine run call).1 := by
  rcases run with ⟨session, io⟩
  cases call with
  | init => exact sessionStepped_init env engine session io
  | dispose =>
      cases session with
      | none => exact sessionStepped_none env engine (by simp) rfl
      | some impl =>
          have quiet := sessionResetRuntime_noEvent impl io
          rw [sessionLogOf_of_still env engine rfl quiet]
          exact .absent _
  | openPath devPath psk errbufLen => exact sessionStepped_open env engine _ devPath psk errbufLen
  | requestClose resetMcu =>
      cases session with
      | none => exact sessionStepped_none env engine (by simp) rfl
      | some impl =>
          exact sessionStepped_cleanup env engine rfl (by simp) rfl
            (sessionBeginCleanup_spec env ⟨impl, sessionEventsClear, io⟩ .close resetMcu)
  | requestDeactivate =>
      cases session with
      | none => exact sessionStepped_none env engine (by simp) rfl
      | some impl =>
          exact sessionStepped_cleanup env engine rfl (by simp) rfl
            (sessionBeginCleanup_spec env ⟨impl, sessionEventsClear, io⟩ .deactivate false)
  | activate =>
      cases session with
      | none =>
          exact sessionStepped_none env engine (fun _ => Int.ne_of_lt (rc_neg EINVAL)) rfl
      | some impl => exact sessionStepped_activate env engine impl io
  | changeState state =>
      cases session with
      | none => exact sessionStepped_none env engine (by simp) rfl
      | some impl =>
          exact sessionStepped_ran env engine (by simp) rfl rfl
            (SessionMoves.runs (sessionChangeState_steps env engine _ state))
  | onFd condition actionCancelled =>
      cases session with
      | none => exact sessionStepped_none env engine (by simp) rfl
      | some impl =>
          exact sessionStepped_ran env engine (by simp) rfl rfl
            (sessionOnFd_runs env engine _ condition actionCancelled)
  | pump actionCancelled =>
      cases session with
      | none => exact sessionStepped_none env engine (by simp) rfl
      | some impl =>
          exact sessionStepped_ran env engine (by simp) rfl rfl
            (sessionPump_runs env engine _ actionCancelled)
  | takeImage =>
      cases session with
      | none => exact sessionStepped_none env engine (by simp) rfl
      | some impl => exact sessionStepped_takeImage env engine impl io

end History

end Gxfp.User
