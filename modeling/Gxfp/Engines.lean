import Gxfp.Exchange
import Gxfp.User.Host

/-!
# The two request engines

The driver and the library speak the same protocol with an engine each.  The
driver takes a response only with a correct checksum.  The library parses the
checksum of a response too, but `gxfp_goodix_wait_selected` never looks at the
result: it returns the first record of the expected command that its selector
takes.

So the library returns what the driver would accept exactly for the streams
whose first such record is intact.
-/

namespace Gxfp

open Lib.Bytes
open Gxfp.Errno
open Gxfp.User

/-! ## Rounds of a wait -/

/-- A read that a wait passes over: nothing to read, another type of record, no
whole frame, another command, or a frame that the selector does not want. -/
def ReadSkipped (expectCmd : Byte) (selector : User.FrameParsed → Int) :
    Except Int (TapHdr × List Byte) → Prop
  | .error rc => rc = EAGAIN.rc
  | .ok (hdr, payload) =>
      hdr.type = GOODIX_MP_TYPE_CMD.toNat → ∀ frame, User.parseGoodixBody payload = some frame →
        frame.cmd = expectCmd → selector frame = 0

/-- A round that a wait passes over. -/
def Skipped (expectCmd : Byte) (selector : User.FrameParsed → Int) : WaitRound → Prop
  | .idle => True
  | .hangup => False
  | .pollFailed errno => -(errno : Int) = EAGAIN.rc
  | .read result => ReadSkipped expectCmd selector (devReadRecord result)

/-- A round whose record has the type of a command and holds a frame of the
expected command that the selector takes. -/
structure Selected (expectCmd : Byte) (selector : User.FrameParsed → Int) (round : WaitRound)
    (payload : List Byte) (frame : User.FrameParsed) : Prop where
  record : ∃ result hdr, round = .read result ∧ devReadRecord result = .ok (hdr, payload) ∧
    hdr.type = GOODIX_MP_TYPE_CMD.toNat
  parsed : User.parseGoodixBody payload = some frame
  cmd : frame.cmd = expectCmd
  taken : 0 < selector frame

section Wait

variable {fd : Int} (opened : ¬ fd < 0) {expectCmd : Byte} {rxCap : Nat}
variable {selector : User.FrameParsed → Int} {round : WaitRound} {rounds : List WaitRound}

include opened

theorem goodixWaitLoop_skipped (skipped : Skipped expectCmd selector round) :
    goodixWaitLoop fd expectCmd rxCap selector (round :: rounds) =
      goodixWaitLoop fd expectCmd rxCap selector rounds := by
  cases round with
  | idle => rw [goodixWaitLoop, if_neg opened]
  | hangup => cases skipped
  | pollFailed errno =>
      rw [goodixWaitLoop, if_neg opened]
      exact if_pos skipped
  | read result =>
      rw [goodixWaitLoop, if_neg opened]
      change ReadSkipped expectCmd selector (devReadRecord result) at skipped
      cases outcome : devReadRecord result with
      | error rc =>
          rw [outcome] at skipped
          exact if_pos skipped
      | ok record =>
          obtain ⟨hdr, payload⟩ := record
          rw [outcome] at skipped
          dsimp only
          by_cases type : hdr.type = GOODIX_MP_TYPE_CMD.toNat
          · rw [if_neg (not_not.mpr type)]
            cases parsed : User.parseGoodixBody payload with
            | none => rfl
            | some frame =>
                dsimp only
                by_cases cmd : frame.cmd = expectCmd
                · have zero := skipped type frame parsed cmd
                  rw [if_neg (not_not.mpr cmd), if_neg (by omega), if_pos zero]
                · rw [if_pos cmd]
          · rw [if_pos type]

theorem goodixWaitLoop_selected {payload : List Byte} {frame : User.FrameParsed}
    (selected : Selected expectCmd selector round payload frame)
    (fits : payload.length ≤ rxCap) :
    goodixWaitLoop fd expectCmd rxCap selector (round :: rounds) = .ok payload := by
  obtain ⟨result, hdr, rfl, outcome, type⟩ := selected.record
  have taken := selected.taken
  rw [goodixWaitLoop, if_neg opened]
  simp only [outcome, type, ne_eq, not_true_eq_false, if_false, selected.parsed, selected.cmd]
  rw [if_neg (by omega), if_neg (by omega), if_neg (Nat.not_lt.mpr fits)]

/-- What a record means for a wait that succeeds. -/
theorem goodixWaitLoop_record_ok {result : Except ℕ+ (List Byte)} {hdr : TapHdr}
    {payload rx : List Byte} (outcome : devReadRecord result = .ok (hdr, payload))
    (returned : goodixWaitLoop fd expectCmd rxCap selector (.read result :: rounds) = .ok rx) :
    (ReadSkipped expectCmd selector (.ok (hdr, payload)) ∧
        goodixWaitLoop fd expectCmd rxCap selector rounds = .ok rx) ∨
      ∃ frame, Selected expectCmd selector (.read result) rx frame ∧ rx.length ≤ rxCap := by
  rw [goodixWaitLoop, if_neg opened] at returned
  simp only [outcome] at returned
  by_cases type : hdr.type = GOODIX_MP_TYPE_CMD.toNat
  swap
  · rw [if_pos type] at returned
    exact .inl ⟨fun same => absurd same type, returned⟩
  rw [if_neg (not_not.mpr type)] at returned
  cases parsed : User.parseGoodixBody payload with
  | none =>
      rw [parsed] at returned
      refine .inl ⟨?_, returned⟩
      intro _ frame other
      rw [parsed] at other
      cases other
  | some frame =>
      simp only [parsed] at returned
      -- a skipped record is one whose only frame is not taken
      have skip (untaken : frame.cmd = expectCmd → selector frame = 0) :
          ReadSkipped expectCmd selector (.ok (hdr, payload)) := by
        intro _ other otherParsed same
        rw [parsed] at otherParsed
        cases otherParsed
        exact untaken same
      by_cases cmd : frame.cmd = expectCmd
      swap
      · rw [if_pos cmd] at returned
        exact .inl ⟨skip fun same => absurd same cmd, returned⟩
      rw [if_neg (not_not.mpr cmd)] at returned
      by_cases refused : selector frame < 0
      · rw [if_pos refused] at returned
        cases returned
      rw [if_neg refused] at returned
      by_cases zero : selector frame = 0
      · rw [if_pos zero] at returned
        exact .inl ⟨skip fun _ => zero, returned⟩
      rw [if_neg zero] at returned
      by_cases long : payload.length > rxCap
      · rw [if_pos long] at returned
        cases returned
      rw [if_neg long] at returned
      cases returned
      exact .inr ⟨frame, ⟨⟨result, hdr, rfl, outcome, type⟩, parsed, cmd, by omega⟩,
        Nat.not_lt.mp long⟩

/-- What a round means for a wait that succeeds. -/
theorem goodixWaitLoop_cons_ok {rx : List Byte}
    (returned : goodixWaitLoop fd expectCmd rxCap selector (round :: rounds) = .ok rx) :
    (Skipped expectCmd selector round ∧
        goodixWaitLoop fd expectCmd rxCap selector rounds = .ok rx) ∨
      ∃ frame, Selected expectCmd selector round rx frame ∧ rx.length ≤ rxCap := by
  cases round with
  | idle =>
      rw [goodixWaitLoop, if_neg opened] at returned
      exact .inl ⟨trivial, returned⟩
  | hangup =>
      rw [goodixWaitLoop, if_neg opened] at returned
      cases returned
  | pollFailed errno =>
      rw [goodixWaitLoop, if_neg opened] at returned
      by_cases again : -(errno : Int) = EAGAIN.rc
      · rw [if_pos again] at returned
        exact .inl ⟨again, returned⟩
      · rw [if_neg again] at returned
        cases returned
  | read result =>
      change (ReadSkipped expectCmd selector (devReadRecord result) ∧ _) ∨ _
      cases outcome : devReadRecord result with
      | ok record => exact goodixWaitLoop_record_ok opened outcome returned
      | error rc =>
          rw [goodixWaitLoop, if_neg opened] at returned
          simp only [outcome] at returned
          by_cases again : rc = EAGAIN.rc
          · rw [if_pos again] at returned
            exact .inl ⟨again, returned⟩
          · rw [if_neg again] at returned
            cases returned

end Wait

theorem goodixWaitLoop_closed {fd : Int} (closed : fd < 0) {expectCmd : Byte} {rxCap : Nat}
    {selector : User.FrameParsed → Int} {rounds : List WaitRound} {rx : List Byte} :
    goodixWaitLoop fd expectCmd rxCap selector rounds ≠ .ok rx := by
  cases rounds with
  | nil => exact nofun
  | cons round rounds =>
      rw [goodixWaitLoop.eq_def]
      dsimp only
      rw [if_pos closed]
      exact nofun

/-! ## Streams -/

/-- A stream ends a wait with the record of one of its rounds, and passes over
all the rounds before it. -/
structure Returned (expectCmd : Byte) (rxCap : Nat) (selector : User.FrameParsed → Int)
    (rounds : List WaitRound) (rx : List Byte) (frame : User.FrameParsed) : Prop where
  first : ∃ before round after, rounds = before ++ round :: after ∧
    (∀ earlier ∈ before, Skipped expectCmd selector earlier) ∧
    Selected expectCmd selector round rx frame
  fits : rx.length ≤ rxCap

theorem goodixWaitLoop_eq_ok_iff {fd : Int} (opened : ¬ fd < 0) {expectCmd : Byte} {rxCap : Nat}
    {selector : User.FrameParsed → Int} {rounds : List WaitRound} {rx : List Byte} :
    goodixWaitLoop fd expectCmd rxCap selector rounds = .ok rx ↔
      ∃ frame, Returned expectCmd rxCap selector rounds rx frame := by
  constructor
  · intro returned
    induction rounds with
    | nil => cases returned
    | cons round rounds ih =>
        rcases goodixWaitLoop_cons_ok opened returned with ⟨skipped, later⟩ | ⟨frame, here, fits⟩
        · obtain ⟨frame, ⟨before, last, after, split, passed, selected⟩, fits⟩ := ih later
          refine ⟨frame, ⟨round :: before, last, after, by rw [split]; rfl, ?_, selected⟩, fits⟩
          intro earlier member
          rcases List.mem_cons.mp member with rfl | deeper
          · exact skipped
          · exact passed earlier deeper
        · exact ⟨frame, ⟨[], round, rounds, rfl, (fun _ member => nomatch member), here⟩, fits⟩
  · rintro ⟨frame, ⟨before, round, after, rfl, passed, selected⟩, fits⟩
    induction before with
    | nil => exact goodixWaitLoop_selected opened selected fits
    | cons earlier before ih =>
        rw [List.cons_append, goodixWaitLoop_skipped opened (passed earlier List.mem_cons_self)]
        exact ih fun deeper member => passed deeper (List.mem_cons_of_mem _ member)

/-- The first record of a stream that a wait takes, if it fits, has a correct
checksum. -/
def FirstTakenIntact (expectCmd : Byte) (rxCap : Nat) (selector : User.FrameParsed → Int)
    (rounds : List WaitRound) : Prop :=
  ∀ before round after payload frame, rounds = before ++ round :: after →
    (∀ earlier ∈ before, Skipped expectCmd selector earlier) →
    Selected expectCmd selector round payload frame → payload.length ≤ rxCap →
    frame.protoChecksumOk = true

/-- A record body that the engine of the driver accepts. -/
def KernelAccepts (expectCmd : Byte) (body : List Byte) : Prop :=
  ∃ p, Kernel.parseGoodixBody body = some p ∧ p.protoChecksumOk = true ∧ p.cmd = expectCmd

/-- What is to be shown of a wait over a stream: a returned record was selected
after all earlier ones had been passed over, and the engine of the driver accepts
its frame, the checksum included. -/
def WaitSound (expectCmd : Byte) (rxCap : Nat) (selector : User.FrameParsed → Int)
    (rounds : List WaitRound) (result : Except Int (List Byte)) : Prop :=
  ∀ rx, result = .ok rx → ∃ frame, Returned expectCmd rxCap selector rounds rx frame ∧
    frame.protoChecksumOk = true ∧ KernelAccepts expectCmd rx

theorem waitSound_iff {fd : Int} (opened : ¬ fd < 0) (expectCmd : Byte) (rxCap : Nat)
    (selector : User.FrameParsed → Int) (rounds : List WaitRound) :
    WaitSound expectCmd rxCap selector rounds
        (goodixWaitLoop fd expectCmd rxCap selector rounds) ↔
      FirstTakenIntact expectCmd rxCap selector rounds := by
  constructor
  · intro sound before round after payload frame split passed selected fits
    have returned := (goodixWaitLoop_eq_ok_iff opened).mpr
      ⟨frame, ⟨before, round, after, split, passed, selected⟩, fits⟩
    obtain ⟨other, ⟨⟨_, _, _, _, _, otherSelected⟩, _⟩, intact, _⟩ := sound payload returned
    have sameFrame := selected.parsed.symm.trans otherSelected.parsed
    cases sameFrame
    exact intact
  · intro intact rx returned
    obtain ⟨frame, ⟨before, round, after, split, passed, selected⟩, fits⟩ :=
      (goodixWaitLoop_eq_ok_iff opened).mp returned
    have checksum := intact before round after rx frame split passed selected fits
    refine ⟨frame, ⟨⟨before, round, after, split, passed, selected⟩, fits⟩, checksum,
      frame.toKernel, ?_, checksum, selected.cmd⟩
    rw [parseGoodixBody_toKernel, selected.parsed]
    rfl

/-! ## The library -/

/-- The timeout that `gxfp_goodix_wait_selected` uses. -/
def effectiveTimeout (timeoutMs : Int) : Int :=
  if timeoutMs > 0 then timeoutMs else 1000

section Library

variable (env : Env) (fd : Int) (expectCmd : Byte) (rxCap : Nat) (timeoutMs : Int)
variable (selector : User.FrameParsed → Int)

theorem goodixWaitSelected_sound (io : Io) :
    WaitSound expectCmd rxCap selector (env.wait io.count (effectiveTimeout timeoutMs))
        (goodixWaitSelected env fd io expectCmd rxCap timeoutMs selector).1 ↔
      fd < 0 ∨ FirstTakenIntact expectCmd rxCap selector
        (env.wait io.count (effectiveTimeout timeoutMs)) := by
  unfold goodixWaitSelected
  by_cases noRoom : rxCap = 0
  · rw [if_pos noRoom]
    refine iff_of_true (fun rx returned => nomatch returned) (.inr ?_)
    intro _ _ _ payload frame _ _ selected fits
    have empty : payload = [] := List.length_eq_zero_iff.mp (by omega)
    have parsed := selected.parsed
    rw [empty] at parsed
    cases parsed
  · rw [if_neg noRoom]
    by_cases closed : fd < 0
    · refine iff_of_true ?_ (.inl closed)
      intro rx returned
      exact absurd returned (goodixWaitLoop_closed closed)
    · rw [or_iff_right closed]
      exact waitSound_iff closed expectCmd rxCap selector _

/-- A request returns what one of its waits returns. -/
theorem goodixRequestLoop_ok {reqCmd : Byte} {payload rx : List Byte} {attempts : Nat} {io : Io}
    (returned : (goodixRequestLoop env fd reqCmd expectCmd payload rxCap timeoutMs selector attempts
      io).1 = .ok rx) :
    ∃ waitIo, (goodixWaitSelected env fd waitIo expectCmd rxCap timeoutMs selector).1 = .ok rx := by
  induction attempts generalizing io with
  | zero => cases returned
  | succ attempts ih =>
      rw [goodixRequestLoop] at returned
      dsimp only at returned
      split at returned
      · cases returned
      · split at returned
        · next waited =>
            cases returned
            exact ⟨_, waited⟩
        · split at returned
          · exact ih returned
          · cases returned

/-- `gxfp_goodix_wait_selected` returns only what the driver would accept exactly
for streams whose first taken record is intact (or on a closed device), and
`gxfp_goodix_request_selected` does so when all its waits meet such streams. -/
theorem goodixWaitSelected_sound_iff (io : Io) :
    (WaitSound expectCmd rxCap selector (env.wait io.count (effectiveTimeout timeoutMs))
        (goodixWaitSelected env fd io expectCmd rxCap timeoutMs selector).1 ↔
      fd < 0 ∨ FirstTakenIntact expectCmd rxCap selector
        (env.wait io.count (effectiveTimeout timeoutMs))) ∧
      ((∀ count, FirstTakenIntact expectCmd rxCap selector
          (env.wait count (effectiveTimeout timeoutMs))) →
        ∀ (reqCmd : Byte) (payload rx : List Byte) (tries : Nat),
          (goodixRequestSelected env fd io reqCmd expectCmd payload rxCap tries timeoutMs
            selector).1 = .ok rx →
          ∃ count frame,
            Returned expectCmd rxCap selector (env.wait count (effectiveTimeout timeoutMs)) rx
                frame ∧
              frame.protoChecksumOk = true ∧ KernelAccepts expectCmd rx) := by
  refine ⟨goodixWaitSelected_sound env fd expectCmd rxCap timeoutMs selector io, ?_⟩
  intro intact reqCmd payload rx tries returned
  unfold goodixRequestSelected at returned
  split at returned
  · cases returned
  · obtain ⟨waitIo, waited⟩ :=
      goodixRequestLoop_ok env fd expectCmd rxCap timeoutMs selector returned
    have sound := (goodixWaitSelected_sound env fd expectCmd rxCap timeoutMs selector waitIo).mpr
      (.inr (intact waitIo.count))
    exact ⟨waitIo.count, sound rx waited⟩

end Library

/-! ## A corrupted response -/

/-- A command record of one payload byte with a checksum of zero, where `0x1f`
would be correct. -/
def corruptedRecord : List Byte :=
  [5, 0, 0, 0, GOODIX_MP_TYPE_CMD, 0, 0, 0] ++ List.replicate 32 0 ++ [0x82, 2, 0, 7, 0]

/-- A host whose waits read that record. -/
def corruptedEnv : Env :=
  { steadyEnv with wait := fun _ _ => [.read (.ok corruptedRecord)] }

/-- The wait returns the corrupted record. -/
theorem goodixWaitSelected_corrupted :
    (goodixWaitSelected corruptedEnv 3 ⟨0, []⟩ 0x82 64 1000 selectAnyFrame).1 =
        .ok [0x82, 2, 0, 7, 0] ∧
      (User.parseGoodixBody [0x82, 2, 0, 7, 0]).map User.FrameParsed.protoChecksumOk =
        some false ∧
      ¬ WaitSound 0x82 64 selectAnyFrame (corruptedEnv.wait 0 (effectiveTimeout 1000))
        (goodixWaitSelected corruptedEnv 3 ⟨0, []⟩ 0x82 64 1000 selectAnyFrame).1 := by
  have returned : (goodixWaitSelected corruptedEnv 3 ⟨0, []⟩ 0x82 64 1000 selectAnyFrame).1 =
      .ok [0x82, 2, 0, 7, 0] := by
    rfl
  have wrong : (User.parseGoodixBody [0x82, 2, 0, 7, 0]).map User.FrameParsed.protoChecksumOk =
      some false := by
    decide +kernel
  refine ⟨returned, wrong, ?_⟩
  intro sound
  obtain ⟨frame, ⟨⟨_, _, _, _, _, selected⟩, _⟩, intact, _⟩ := sound _ returned
  rw [selected.parsed, Option.map_some, intact] at wrong
  cases wrong

end Gxfp
