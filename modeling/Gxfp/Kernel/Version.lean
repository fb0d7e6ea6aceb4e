import Gxfp.Kernel.Cmd
import Mathlib.Data.List.GetD
import Mathlib.Data.List.TakeWhile

/-!
# The firmware version

Embeds `kernel/cmd/gxfp_cmd_version.c`.  The response is received into a buffer
on the stack that is not initialised; `gxfp_extract_ascii_version` then reads
from it until a byte that is not printable or the end of the result, without
asking how much was received.

So the version depends on the sensor alone only for responses that stop the scan
themselves.
-/

namespace Gxfp.Kernel

open Lib.Bytes
open Gxfp.Errno

/-! ## The functions -/

def CMD_FIRMWARE_VERSION : Byte := 0xA8
def MAX_VERSION_RAW : Nat := 512
def MAX_VERSION_ASCII : Nat := 32
def DEFAULT_RETRY_COUNT : Nat := 8

/-- A byte that does not end a version. -/
def printable (ch : Byte) : Bool :=
  !(ch = 0 ∨ ch < 0x20 ∨ ch > 0x7e)

/-- The loop of `gxfp_extract_ascii_version` with the given number of rounds
left: its counter and the output. -/
def extractAsciiLoop (data : List Byte) : Nat → Nat → List Byte → Nat × List Byte
  | 0, j, out => (j, out)
  | left + 1, j, out =>
      let ch := data.getD j 0
      if ch = 0 ∨ ch < 0x20 ∨ ch > 0x7e then
        (j, out)
      else
        extractAsciiLoop data left (j + 1) (out.set j ch)

/-- `gxfp_extract_ascii_version`. -/
def extractAsciiVersion (data out : List Byte) (outLen : Nat) : Bool × List Byte :=
  if outLen = 0 then
    (false, out)
  else
    let scanned := extractAsciiLoop data (outLen - 1) 0 (out.set 0 0)
    (scanned.1 != 0, scanned.2.set scanned.1 0)

/-- `struct gxfp_get_version_result`. -/
structure GetVersionResult where
  status : UInt32
  gpioStatus : UInt32
  txStatus : UInt32
  rxStatus : UInt32
  bytesRead : UInt32
  versionAscii : List Byte
  raw : List Byte
  deriving DecidableEq, Repr

/-- The conversion of an error to `__u32`. -/
def errnoStatus (errno : Errno) : UInt32 :=
  UInt32.ofInt errno.rc

/-- `gxfp_do_get_version`; `payload` is what the buffer on the stack held
before. -/
def doGetVersion (env : XferEnv) (tx : Transmitter) (payload : List Byte) :
    Option Errno × GetVersionResult :=
  let all (errno : Errno) : GetVersionResult :=
    ⟨errnoStatus errno, errnoStatus errno, errnoStatus errno, errnoStatus errno, 0,
      List.replicate MAX_VERSION_ASCII 0, List.replicate MAX_VERSION_RAW 0⟩
  if !tx.dev.hw.mailboxMmio ∨ tx.dev.hw.mailboxSize < MAILBOX_MIN_SIZE then
    (some ENODEV, all ENODEV)
  else
    let done := cmdXfer env tx CMD_FIRMWARE_VERSION [0x01] CMD_FIRMWARE_VERSION (some payload)
      MAX_VERSION_RAW (some 0) DEFAULT_RETRY_COUNT
    let out := { all EIO with txStatus := 0, gpioStatus := 0 }
    match done.ret with
    | some errno =>
        (some errno, { out with rxStatus := errnoStatus errno, status := errnoStatus errno })
    | none =>
        let payload := done.respPayload.getD payload
        let rxLen := done.outRespPayloadLen.getD 0
        let bytesRead := min rxLen MAX_VERSION_RAW
        let ascii := (extractAsciiVersion payload out.versionAscii MAX_VERSION_ASCII).2
        let status := if ascii.getD 0 0 = 0 then errnoStatus ENODATA else 0
        (none,
          { out with
            rxStatus := 0
            bytesRead := UInt32.ofNat bytesRead
            raw := memcpyAt out.raw 0 (payload.take bytesRead)
            versionAscii := ascii
            status := status })

/-! ## The scan -/

theorem printable_eq_false_iff (ch : Byte) :
    printable ch = false ↔ ch = 0 ∨ ch < 0x20 ∨ ch > 0x7e := by
  rw [printable, Bool.not_eq_false', decide_eq_true_iff]

/-- The loop copies the printable bytes it comes to. -/
theorem extractAsciiLoop_eq (data front : List Byte) (left zeros : Nat) (room : left ≤ zeros) :
    let taken := ((data.drop front.length).takeWhile printable).take left
    extractAsciiLoop data left front.length (front ++ List.replicate zeros 0) =
      (front.length + taken.length,
        front ++ taken ++ List.replicate (zeros - taken.length) 0) := by
  induction left generalizing front zeros with
  | zero => simp [extractAsciiLoop]
  | succ left ih =>
      rw [extractAsciiLoop]
      dsimp only
      cases rest : data.drop front.length with
      | nil =>
          have ended : data.getD front.length 0 = 0 :=
            List.getD_eq_default _ _ (List.drop_eq_nil_iff.mp rest)
          rw [if_pos (.inl ended)]
          simp
      | cons ch later =>
          have here : data.getD front.length 0 = ch := by
            rw [List.getD_eq_getElem?_getD, ← Nat.add_zero front.length, ← List.getElem?_drop, rest]
            rfl
          have laterEq : data.drop (front ++ [ch]).length = later := by
            rw [List.length_append, List.length_singleton, ← List.drop_drop, rest]
            rfl
          rw [here, List.takeWhile_cons]
          by_cases stops : ch = 0 ∨ ch < 0x20 ∨ ch > 0x7e
          · rw [if_pos stops, (printable_eq_false_iff ch).mpr stops]
            simp
          · have goes : printable ch = true := by
              rw [← Bool.not_eq_false, printable_eq_false_iff]
              exact stops
            obtain ⟨zeros, rfl⟩ : ∃ more, zeros = more + 1 := ⟨zeros - 1, by omega⟩
            have stored : (front ++ List.replicate (zeros + 1) 0).set front.length ch =
                (front ++ [ch]) ++ List.replicate zeros 0 := by
              rw [List.replicate_succ, List.set_append_right _ _ (Nat.le_refl _), Nat.sub_self,
                List.set_cons_zero, List.append_assoc]
              rfl
            have step := ih (front ++ [ch]) zeros (by omega)
            rw [laterEq, List.length_append, List.length_singleton] at step
            rw [if_neg stops, goes, stored, step]
            simp
            omega

/-- The version that the scan finds in a buffer. -/
def scannedVersion (data : List Byte) : List Byte :=
  (data.takeWhile printable).take (MAX_VERSION_ASCII - 1)

theorem scannedVersion_length_lt (data : List Byte) :
    (scannedVersion data).length < MAX_VERSION_ASCII :=
  Nat.lt_of_le_of_lt (List.length_take_le _ _) (by decide)

theorem extractAsciiVersion_eq (data : List Byte) :
    (extractAsciiVersion data (List.replicate MAX_VERSION_ASCII 0) MAX_VERSION_ASCII).2 =
      scannedVersion data ++
        List.replicate (MAX_VERSION_ASCII - (scannedVersion data).length) 0 := by
  have scan := extractAsciiLoop_eq data [] (MAX_VERSION_ASCII - 1) MAX_VERSION_ASCII (by decide)
  dsimp only at scan
  rw [List.length_nil, List.drop_zero, List.nil_append, List.nil_append, Nat.zero_add] at scan
  have short := scannedVersion_length_lt data
  unfold extractAsciiVersion
  rw [if_neg (by decide)]
  change (extractAsciiLoop data (MAX_VERSION_ASCII - 1) 0
      (List.replicate MAX_VERSION_ASCII 0)).2.set
    (extractAsciiLoop data (MAX_VERSION_ASCII - 1) 0 (List.replicate MAX_VERSION_ASCII 0)).1 0 = _
  rw [scan]
  change (scannedVersion data ++ List.replicate (MAX_VERSION_ASCII - (scannedVersion data).length)
    0).set (scannedVersion data).length 0 = _
  obtain ⟨more, moreEq⟩ : ∃ more, MAX_VERSION_ASCII - (scannedVersion data).length = more + 1 :=
    ⟨MAX_VERSION_ASCII - (scannedVersion data).length - 1, by omega⟩
  rw [moreEq, List.set_append_right _ _ (Nat.le_refl _), Nat.sub_self, List.replicate_succ,
    List.set_cons_zero]

/-- A version tells where it ends. -/
theorem extractAsciiVersion_inj {first second : List Byte}
    (same : (extractAsciiVersion first (List.replicate MAX_VERSION_ASCII 0) MAX_VERSION_ASCII).2 =
      (extractAsciiVersion second (List.replicate MAX_VERSION_ASCII 0) MAX_VERSION_ASCII).2) :
    scannedVersion first = scannedVersion second := by
  have back (data : List Byte) :
      (extractAsciiVersion data (List.replicate MAX_VERSION_ASCII 0)
        MAX_VERSION_ASCII).2.takeWhile printable = scannedVersion data := by
    rw [extractAsciiVersion_eq, List.takeWhile_append_of_pos]
    · cases zeros : MAX_VERSION_ASCII - (scannedVersion data).length with
      | zero => simp
      | succ zeros => simp [List.replicate_succ, printable]
    · intro ch member
      exact List.mem_takeWhile_imp (List.mem_of_mem_take member)
  rw [← back first, ← back second, same]

/-! ## The received bytes -/

/-- A response after which the scan stops by itself: long enough to fill the
version, or with a byte that ends it. -/
def StopsScan (response : List Byte) : Prop :=
  MAX_VERSION_ASCII - 1 ≤ response.length ∨ ∃ ch ∈ response, printable ch = false

/-- Behind such a response nothing is looked at. -/
theorem scannedVersion_append {response : List Byte} (stops : StopsScan response)
    (stale : List Byte) : scannedVersion (response ++ stale) = scannedVersion response := by
  unfold scannedVersion
  rw [List.takeWhile_append]
  split
  · next all =>
      have whole : response.takeWhile printable = response :=
        (List.takeWhile_prefix printable).eq_of_length all
      rcases stops with long | ⟨ch, member, ends⟩
      · rw [List.take_append_of_le_length long, whole]
      · rw [← whole] at member
        rw [List.mem_takeWhile_imp member] at ends
        cases ends
  · rfl

/-- Behind any other response the scan goes on. -/
theorem scannedVersion_stale {response : List Byte} (open_ : ¬ StopsScan response)
    (stale : List Byte) :
    scannedVersion (response ++ stale) =
      response ++ (stale.takeWhile printable).take (MAX_VERSION_ASCII - 1 - response.length) := by
  obtain ⟨short, plain⟩ := not_or.mp open_
  have all : ∀ ch ∈ response, printable ch = true := by
    intro ch member
    rw [← Bool.not_eq_false]
    exact fun ends => plain ⟨ch, member, ends⟩
  unfold scannedVersion
  rw [List.takeWhile_append_of_pos all, List.take_append,
    List.take_of_length_le (Nat.le_of_lt (Nat.not_le.mp short))]

/-! ## The exchange -/

/-- A run that does not look at the memory it may write: whatever the response
buffer holds, it ends in the same way and stores the same frame or none. -/
def Uniform (run : XferOut → Option Errno × XferState) : Prop :=
  ∃ ret tx attempts, ∃ stored : Option FrameParsed, (ret = none ↔ stored.isSome) ∧
    ∀ out : XferOut, out.respPayload.isSome →
      run out = (ret, ⟨tx, stored.elim out out.store, attempts⟩)

theorem Uniform.congr {run other : XferOut → Option Errno × XferState} (uniform : Uniform other)
    (same : ∀ out : XferOut, out.respPayload.isSome → run out = other out) : Uniform run := by
  obtain ⟨ret, tx, attempts, stored, ended, eq⟩ := uniform
  refine ⟨ret, tx, attempts, stored, ended, ?_⟩
  intro out present
  rw [same out present, eq out present]

theorem uniform_fails (errno : Errno) (tx : Transmitter) (attempts : Nat) :
    Uniform fun out => (some errno, ⟨tx, out, attempts⟩) :=
  ⟨some errno, tx, attempts, none, by simp, fun _ _ => rfl⟩

theorem uniform_stores (p : FrameParsed) (tx : Transmitter) (attempts : Nat) :
    Uniform fun out => (none, ⟨tx, out.store p, attempts⟩) :=
  ⟨none, tx, attempts, some p, by simp, fun _ _ => rfl⟩

theorem xferLoop_uniform (env : XferEnv) (req : XferReq) (frame : List Byte) (left attempts : Nat)
    (tx : Transmitter) :
    Uniform fun out => xferLoop env req frame left ⟨tx, out, attempts⟩ := by
  induction left generalizing tx attempts with
  | zero => exact uniform_fails ETIMEDOUT tx attempts
  | succ left ih =>
      simp only [xferLoop]
      cases (espiXfer (env.attempt attempts) tx frame MAILBOX_MIN_SIZE).1 with
      | error errno => exact ih _ _
      | ok received =>
          obtain ⟨rx, rxLen⟩ := received
          dsimp only
          cases xferFrame req rx rxLen with
          | none => exact ih _ _
          | some p =>
              dsimp only
              by_cases long : p.payloadLen > req.respPayloadCap
              · apply (uniform_fails EMSGSIZE _ _).congr
                intro out present
                rw [if_pos ⟨present, long⟩]
              · apply (uniform_stores p _ _).congr
                intro out present
                rw [if_neg fun both => long both.2]

theorem xferChecked_uniform (env : XferEnv) (req : XferReq) (attempts : Nat) (tx : Transmitter) :
    Uniform fun out => xferChecked env req ⟨tx, out, attempts⟩ := by
  unfold xferChecked
  split
  · exact uniform_fails ENOMEM tx attempts
  split
  · exact uniform_fails ENOMEM tx attempts
  split
  · exact uniform_fails ENOMEM tx attempts
  split
  · exact uniform_fails _ tx attempts
  split
  · exact uniform_fails _ tx attempts
  · exact xferLoop_uniform env req _ _ attempts tx

theorem xfer_uniform (env : XferEnv) (req : XferReq) (attempts : Nat) (tx : Transmitter)
    (room : req.respPayloadCap ≠ 0) : Uniform fun out => xfer env req ⟨tx, out, attempts⟩ := by
  apply (xferChecked_uniform env req attempts tx).congr
  intro out present
  have pointer : ¬ (out.respPayload.isNone ∧ req.respPayloadCap ≠ 0) := by
    rw [Option.isNone_iff_eq_none]
    rintro ⟨absent, _⟩
    rw [absent] at present
    cases present
  unfold xfer
  rw [if_neg fun both => room both.2, if_neg pointer]

/-- The result of `gxfp_cmd_xfer` for any contents of the response buffer. -/
theorem cmdXfer_uniform (env : XferEnv) (tx : Transmitter) (reqCmd : Byte)
    (reqPayload : List Byte) (expectCmd : Byte) {respPayloadCap : Nat} (room : respPayloadCap ≠ 0)
    (outLen tries : Nat) :
    ∃ ret txAfter attempts, ∃ response : Option (List Byte), (ret = none ↔ response.isSome) ∧
      ∀ resp : List Byte,
        cmdXfer env tx reqCmd reqPayload expectCmd (some resp) respPayloadCap (some outLen) tries =
          ⟨ret, some (response.elim resp fun payload => memcpyAt resp 0 payload),
            some (response.elim outLen List.length), txAfter, attempts⟩ := by
  obtain ⟨ret, txAfter, attempts, stored, ended, eq⟩ :=
    xfer_uniform env ⟨reqCmd, reqPayload, expectCmd, true, respPayloadCap, tries⟩ 0 tx room
  refine ⟨ret, txAfter, attempts, stored.map FrameParsed.payload, ?_, ?_⟩
  · rw [ended, Option.isSome_map]
  · intro resp
    have usable : ¬ ((some resp).isNone ∨ respPayloadCap = 0) := by
      simp [room]
    have done := eq ⟨some resp, some outLen, some ⟨false, 0, 0, [], 0⟩⟩ rfl
    dsimp only at done
    unfold cmdXfer
    rw [if_neg usable, done]
    cases stored with
    | none => rfl
    | some p => rfl

/-! ## The version -/

/-- The payload that the sensor answers `gxfp_do_get_version` with, if the
exchange succeeds. -/
def versionResponse (env : XferEnv) (tx : Transmitter) : Option (List Byte) :=
  if !tx.dev.hw.mailboxMmio ∨ tx.dev.hw.mailboxSize < MAILBOX_MIN_SIZE then
    none
  else
    let done := cmdXfer env tx CMD_FIRMWARE_VERSION [0x01] CMD_FIRMWARE_VERSION
      (some (List.replicate MAX_VERSION_RAW 0)) MAX_VERSION_RAW (some 0) DEFAULT_RETRY_COUNT
    if done.ret.isNone then
      done.respPayload.map fun resp => resp.take (done.outRespPayloadLen.getD 0)
    else
      none

/-- The version and the status are those of the response with whatever the buffer
held behind it, or do not depend on the buffer. -/
theorem doGetVersion_cases (env : XferEnv) (tx : Transmitter) :
    (versionResponse env tx = none ∧ ∃ result, ∀ stack, doGetVersion env tx stack = result) ∨
      ∃ response, versionResponse env tx = some response ∧ ∀ stack,
        (doGetVersion env tx stack).2.versionAscii =
            (extractAsciiVersion (response ++ stack.drop response.length)
              (List.replicate MAX_VERSION_ASCII 0) MAX_VERSION_ASCII).2 ∧
          (doGetVersion env tx stack).2.status =
            if (doGetVersion env tx stack).2.versionAscii.getD 0 0 = 0 then
              errnoStatus ENODATA
            else
              0 := by
  obtain ⟨ret, txAfter, attempts, response, ended, eq⟩ :=
    cmdXfer_uniform env tx CMD_FIRMWARE_VERSION [0x01] CMD_FIRMWARE_VERSION
      (show MAX_VERSION_RAW ≠ 0 by decide) 0 DEFAULT_RETRY_COUNT
  unfold versionResponse doGetVersion
  by_cases absent : !tx.dev.hw.mailboxMmio ∨ tx.dev.hw.mailboxSize < MAILBOX_MIN_SIZE
  · simp only [if_pos absent]
    exact .inl ⟨trivial, _, fun _ => rfl⟩
  · simp only [if_neg absent, eq]
    cases response with
    | none =>
        cases ret with
        | none => simp at ended
        | some errno => exact .inl ⟨rfl, _, fun _ => rfl⟩
    | some response =>
        cases ret with
        | some errno => simp at ended
        | none =>
            refine .inr ⟨response, ?_, ?_⟩
            · simp [memcpyAt]
            · intro stack
              constructor
              · simp [memcpyAt]
              · rfl

theorem stopsScan_iff (response : List Byte) :
    StopsScan response ↔
      31 ≤ response.length ∨ ∃ ch ∈ response, ch < 0x20 ∨ 0x7e < ch := by
  unfold StopsScan
  apply or_congr_right
  apply exists_congr
  intro ch
  rw [printable_eq_false_iff]
  apply and_congr_right
  intro _
  constructor
  · rintro (rfl | low | high)
    · exact .inl (by decide)
    · exact .inl low
    · exact .inr high
  · exact .inr

/-- An answer that does not stop the scan lets two contents of the buffer show. -/
theorem scannedVersion_leaks {response : List Byte} (open_ : ¬ StopsScan response) :
    scannedVersion (response ++ (List.replicate MAX_VERSION_RAW 0x41).drop response.length) ≠
      scannedVersion (response ++ (List.replicate MAX_VERSION_RAW 0).drop response.length) := by
  have short : response.length < 31 := Nat.not_le.mp (not_or.mp open_).1
  rw [scannedVersion_stale open_, scannedVersion_stale open_, List.drop_replicate,
    List.drop_replicate]
  obtain ⟨more, moreEq⟩ : ∃ more, MAX_VERSION_RAW - response.length = more + 1 :=
    ⟨511 - response.length, by unfold MAX_VERSION_RAW; omega⟩
  obtain ⟨room, roomEq⟩ : ∃ room, MAX_VERSION_ASCII - 1 - response.length = room + 1 :=
    ⟨30 - response.length, by unfold MAX_VERSION_ASCII; omega⟩
  rw [moreEq, roomEq, List.replicate_succ, List.replicate_succ, List.takeWhile_cons,
    List.takeWhile_cons]
  intro same
  have lengths := congrArg List.length same
  simp [printable] at lengths

/-- The version and the status do not depend on what the buffer on the stack held
exactly if the sensor's answer fills the version or has a byte in it that is not
printable. -/
theorem doGetVersion_independent_iff (env : XferEnv) (tx : Transmitter) :
    (∀ stack other : List Byte, stack.length = MAX_VERSION_RAW → other.length = MAX_VERSION_RAW →
      (doGetVersion env tx stack).2.versionAscii = (doGetVersion env tx other).2.versionAscii ∧
        (doGetVersion env tx stack).2.status = (doGetVersion env tx other).2.status) ↔
      ∀ response, versionResponse env tx = some response →
        31 ≤ response.length ∨ ∃ ch ∈ response, ch < 0x20 ∨ 0x7e < ch := by
  rcases doGetVersion_cases env tx with ⟨none, result, same⟩ | ⟨response, some_, version⟩
  · rw [none]
    refine iff_of_true ?_ (fun response same => nomatch same)
    intro stack other _ _
    rw [same stack, same other]
    exact ⟨rfl, rfl⟩
  · constructor
    · intro independent answer isAnswer
      rw [some_] at isAnswer
      cases isAnswer
      rw [← stopsScan_iff]
      by_contra open_
      have shown := (independent (List.replicate MAX_VERSION_RAW 0x41)
        (List.replicate MAX_VERSION_RAW 0) List.length_replicate List.length_replicate).1
      rw [(version _).1, (version _).1] at shown
      exact scannedVersion_leaks open_ (extractAsciiVersion_inj shown)
    · intro stops stack other _ _
      have stop := (stopsScan_iff response).mpr (stops response some_)
      have sameVersion : (doGetVersion env tx stack).2.versionAscii =
          (doGetVersion env tx other).2.versionAscii := by
        rw [(version stack).1, (version other).1, extractAsciiVersion_eq, extractAsciiVersion_eq,
          scannedVersion_append stop, scannedVersion_append stop]
      refine ⟨sameVersion, ?_⟩
      rw [(version stack).2, (version other).2, sameVersion]

/-- An exchange whose every attempt is answered with two printable bytes. -/
def versionEnv : XferEnv :=
  ⟨true, true, true, fun _ => ⟨true, .presenting fun _ => versionWindow⟩⟩

/-- Behind such an answer the version goes on with what the buffer on the stack
held. -/
theorem doGetVersion_stale :
    versionResponse versionEnv (txProbe 0x1000 []) = some [0x31, 0x32] ∧
      ¬ ∀ stack other : List Byte, stack.length = MAX_VERSION_RAW →
        other.length = MAX_VERSION_RAW →
        (doGetVersion versionEnv (txProbe 0x1000 []) stack).2.versionAscii =
            (doGetVersion versionEnv (txProbe 0x1000 []) other).2.versionAscii ∧
          (doGetVersion versionEnv (txProbe 0x1000 []) stack).2.status =
            (doGetVersion versionEnv (txProbe 0x1000 []) other).2.status := by
  have zeros : (doGetVersion versionEnv (txProbe 0x1000 [])
      (List.replicate MAX_VERSION_RAW 0)).2.versionAscii =
        [0x31, 0x32] ++ List.replicate 30 0 := by
    decide +kernel
  have letters : (doGetVersion versionEnv (txProbe 0x1000 [])
      (List.replicate MAX_VERSION_RAW 0x41)).2.versionAscii =
        [0x31, 0x32] ++ List.replicate 29 0x41 ++ [0] := by
    decide +kernel
  refine ⟨by decide +kernel, ?_⟩
  intro independent
  have same := (independent (List.replicate MAX_VERSION_RAW 0)
    (List.replicate MAX_VERSION_RAW 0x41) List.length_replicate List.length_replicate).1
  rw [zeros, letters] at same
  exact absurd same (by decide)

end Gxfp.Kernel
