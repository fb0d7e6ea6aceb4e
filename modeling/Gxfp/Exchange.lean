import Gxfp.Kernel.Cmd
import Gxfp.Transmit

/-!
# The command exchange of the driver

`gxfp_cmd_xfer` trusts nothing it reads: a response counts only when it is a
whole frame of the expected command with a correct checksum, and only then is
the memory of the caller written.

One attempt sends the request at most once and leaves that memory alone unless
it is the last one; the loop makes at most as many attempts as it was given.
-/

namespace Gxfp

open Lib.Bytes
open Gxfp.Errno
open Gxfp.Kernel

/-! ## What is accepted -/

/-- Mailbox writes that all carry one frame. -/
def Carry (frame : List Byte) (writes : List (List Byte)) : Prop :=
  ∀ write ∈ writes, ∃ seq16, write = espiTxBuffer seq16 frame

/-- One attempt sends the request at most once, and what it receives is read from
its own sensor. -/
theorem espiXfer_spec (attempt : AttemptEnv) (state : Transmitter) (frame : List Byte)
    (rxCap : Nat) :
    (∃ sent, (espiXfer attempt state frame rxCap).2.writes = state.writes ++ sent ∧
        sent.length ≤ 1 ∧ Carry frame sent) ∧
      ∀ received, (espiXfer attempt state frame rxCap).1 = .ok received →
        (espiRead (espiXfer attempt state frame rxCap).2.dev rxCap attempt.sensor).1 =
          .ok received := by
  unfold espiXfer
  rcases espiWrite_cases attempt.kmalloc state frame with ⟨errno, refused⟩ | ⟨_, line, written⟩
  · rw [refused]
    refine ⟨⟨[], (List.append_nil _).symm, Nat.zero_le 1, fun write member => nomatch member⟩, ?_⟩
    intro received failed
    cases failed
  · rw [written]
    refine ⟨⟨_, rfl, Nat.le_refl 1, ?_⟩, fun received read => read⟩
    intro write member
    exact ⟨_, List.mem_singleton.mp member⟩

/-! ## The loop -/

/-- What an exchange of at most `left` attempts does: success means that the last
response was accepted, failure that the memory of the caller is as it was. -/
structure XferSpec (env : XferEnv) (req : XferReq) (frame : List Byte) (left : Nat)
    (state : XferState) (done : Option Errno × XferState) : Prop where
  accepted : done.1 = none → ∃ rx rxLen p,
    0 < done.2.attempts ∧
      (espiRead done.2.tx.dev MAILBOX_MIN_SIZE (env.attempt (done.2.attempts - 1)).sensor).1 =
        .ok (rx, rxLen) ∧
      xferFrame req rx rxLen = some p ∧
      (state.out.respPayload.isSome → p.payloadLen ≤ req.respPayloadCap) ∧
      done.2.out = state.out.store p
  failed : done.1 ≠ none → done.2.out = state.out
  attempts : done.2.attempts ≤ state.attempts + left
  sent : ∃ sent, done.2.tx.writes = state.tx.writes ++ sent ∧ sent.length ≤ left ∧
    Carry frame sent

/-- An attempt whose response was refused, and the attempts after it. -/
theorem XferSpec.again {env : XferEnv} {req : XferReq} {frame : List Byte} {left : Nat}
    {state next : XferState} {done : Option Errno × XferState}
    (rest : XferSpec env req frame left next done) (sameOut : next.out = state.out)
    (attempts : next.attempts = state.attempts + 1) {sent : List (List Byte)}
    (writes : next.tx.writes = state.tx.writes ++ sent) (once : sent.length ≤ 1)
    (carried : Carry frame sent) :
    XferSpec env req frame (left + 1) state done := by
  obtain ⟨later, laterWrites, laterLength, laterCarried⟩ := rest.sent
  refine ⟨?_, ?_, ?_, ⟨sent ++ later, ?_, ?_, ?_⟩⟩
  · intro success
    rw [← sameOut]
    exact rest.accepted success
  · intro failure
    rw [rest.failed failure, sameOut]
  · have := rest.attempts
    omega
  · rw [laterWrites, writes, List.append_assoc]
  · rw [List.length_append]
    omega
  · intro write member
    rcases List.mem_append.mp member with early | late
    · exact carried write early
    · exact laterCarried write late

theorem xferLoop_spec (env : XferEnv) (req : XferReq) (frame : List Byte) (left : Nat)
    (state : XferState) :
    XferSpec env req frame left state (xferLoop env req frame left state) := by
  induction left generalizing state with
  | zero =>
      refine ⟨(fun success => nomatch success), fun _ => rfl, Nat.le_refl _, [], ?_, Nat.le_refl 0,
        fun write member => nomatch member⟩
      exact (List.append_nil _).symm
  | succ left ih =>
      obtain ⟨⟨sent, writes, once, carried⟩, read⟩ :=
        espiXfer_spec (env.attempt state.attempts) state.tx frame MAILBOX_MIN_SIZE
      have rest := ih ⟨(espiXfer (env.attempt state.attempts) state.tx frame MAILBOX_MIN_SIZE).2,
        state.out, state.attempts + 1⟩
      rw [xferLoop]
      dsimp only
      split
      · exact rest.again rfl rfl writes once carried
      · next rx rxLen received =>
          split
          · exact rest.again rfl rfl writes once carried
          · next p frameEq =>
              split
              · refine ⟨(fun success => nomatch success), fun _ => rfl, ?_,
                  ⟨sent, writes, by omega, carried⟩⟩
                exact Nat.add_le_add_left (Nat.succ_pos left) _
              · next fits =>
                  refine ⟨?_, fun failure => absurd rfl failure, ?_,
                    ⟨sent, writes, by omega, carried⟩⟩
                  · intro _
                    refine ⟨rx, rxLen, p, Nat.succ_pos _, read _ received, frameEq, ?_, rfl⟩
                    intro present
                    exact Nat.not_lt.mp fun tooLong => fits ⟨present, tooLong⟩
                  · exact Nat.add_le_add_left (Nat.succ_pos left) _

/-! ## The exchange -/

/-- The frame of a request as the driver sends it. -/
def IsRequestFrame (reqCmd : Byte) (reqPayload frame : List Byte) : Prop :=
  ∃ body, Kernel.goodixBuildFrame reqCmd reqPayload TX_BUFFER_SIZE = .ok body ∧
    mpBuildFrame MP_TYPE_A body TX_BUFFER_SIZE = .ok frame

/-- An exchange that failed before its loop. -/
theorem xferSpec_refused (env : XferEnv) (req : XferReq) (frame : List Byte) (left : Nat)
    (state : XferState) (errno : Errno) : XferSpec env req frame left state (some errno, state) :=
  ⟨(fun success => nomatch success), fun _ => rfl, Nat.le_add_right _ _, [],
    (List.append_nil _).symm, Nat.zero_le _, fun _ member => nomatch member⟩

/-- `gxfp_xfer`, with the frame of its request where it sends one. -/
theorem xfer_spec (env : XferEnv) (req : XferReq) (state : XferState) :
    ∃ frame,
      (IsRequestFrame req.reqCmd req.reqPayload frame ∨
        (xfer env req state).2.tx.writes = state.tx.writes) ∧
        XferSpec env req frame (max req.tries 1) state (xfer env req state) := by
  have refused (errno : Errno) : ∃ frame,
      (IsRequestFrame req.reqCmd req.reqPayload frame ∨ state.tx.writes = state.tx.writes) ∧
        XferSpec env req frame (max req.tries 1) state (some errno, state) :=
    ⟨[], .inr rfl, xferSpec_refused env req [] _ state errno⟩
  unfold xfer xferChecked
  split
  · exact refused EINVAL
  split
  · exact refused EINVAL
  split
  · exact refused ENOMEM
  split
  · exact refused ENOMEM
  split
  · exact refused ENOMEM
  split
  · next errno _ => exact refused errno
  · next body built =>
      split
      · next errno _ => exact refused errno
      · next frame framed =>
          refine ⟨frame, .inl ⟨body, built, framed⟩, ?_⟩
          have tries : (if req.tries ≠ 0 then req.tries else 1) = max req.tries 1 := by
            split <;> omega
          rw [tries]
          exact xferLoop_spec env req frame _ state

end Gxfp
