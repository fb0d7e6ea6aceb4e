import Gxfp.User.DecoderMilan

/-!
# Buffer accesses of the Milan decoder

`gxfp_decode_milan` accepts every positive geometry.  Its loop tests only that
the next sample lies inside the image before it stores two or four of them, so
whether a group fits has to follow from the geometry.  The accesses of a call
are written down here as a list, and the bounds are proved about that list.

A number of rows that is a multiple of four has groups only.  Any other number
except one has a period, one column or two, in which groups of four and one
pair fit exactly, and a last half period breaks off before its end.  A single
row has no place for the pair, and its last group can pass the end.
-/

namespace Gxfp.User

open Lib.Bytes
open Lib.Chunks

/-! ## The accesses of a call -/

/-- An access to one element of a buffer of `gxfp_decode_milan`. -/
inductive MilanAccess
  | readPayload (index : Nat)
  | writePu (index : Nat)
  | readPu (index : Nat)
  | writeColMajor (index : Nat)
  | readColMajor (index : Nat)
  | writeRowMajor (index : Nat)
  deriving DecidableEq, Repr

/-- The access is inside its buffer. -/
def MilanAccess.InBounds (payloadLen rows cols : Nat) : MilanAccess → Prop
  | .readPayload index => index < payloadLen
  | .writePu index => index < milanTake rows * cols
  | .readPu index => index < milanTake rows * cols
  | .writeColMajor index => index < rows * cols
  | .readColMajor index => index < rows * cols
  | .writeRowMajor index => index < rows * cols

instance (payloadLen rows cols : Nat) :
    DecidablePred (MilanAccess.InBounds payloadLen rows cols)
  | .readPayload _ => Nat.decLt _ _
  | .writePu _ => Nat.decLt _ _
  | .readPu _ => Nat.decLt _ _
  | .writeColMajor _ => Nat.decLt _ _
  | .readColMajor _ => Nat.decLt _ _
  | .writeRowMajor _ => Nat.decLt _ _

/-- The copies of the blocks. -/
def milanCopyAccesses (rows cols : Nat) : List MilanAccess :=
  (List.range cols).flatMap fun c =>
    (List.range (milanTake rows)).flatMap fun off =>
      [.readPayload (c * milanStride rows + off), .writePu (c * milanTake rows + off)]

/-- One step of the walk that does not break. -/
def milanStepAccesses (rows : Nat) (loop : MilanLoop) : List MilanAccess :=
  if loop.outI % rows + 2 = rows then
    [.readPu loop.inI, .readPu (loop.inI + 1), .readPu (loop.inI + 3),
      .writeColMajor loop.outI, .writeColMajor (loop.outI + 1)]
  else
    [.readPu loop.inI, .readPu (loop.inI + 1), .readPu (loop.inI + 2), .readPu (loop.inI + 3),
      .readPu (loop.inI + 4), .readPu (loop.inI + 5), .writeColMajor loop.outI,
      .writeColMajor (loop.outI + 1), .writeColMajor (loop.outI + 2),
      .writeColMajor (loop.outI + 3)]

/-- The walk, along the steps of `milanLoop`. -/
def milanLoopAccesses (rows total : Nat) (pu : List Byte) : Nat → MilanLoop → List MilanAccess
  | 0, _ => []
  | rounds + 1, loop =>
      if loop.inI < pu.length ∧ loop.outI < total then
        match milanLoopStep rows pu loop with
        | none => []
        | some next => milanStepAccesses rows loop ++ milanLoopAccesses rows total pu rounds next
      else
        []

/-- The transposition. -/
def milanTransposeAccesses (rows cols : Nat) : List MilanAccess :=
  (List.range rows).flatMap fun r =>
    (List.range cols).flatMap fun c =>
      [.readColMajor (c * rows + r), .writeRowMajor (r * cols + c)]

/-- The accesses of `gxfp_decode_milan`, as far as the call gets. -/
def milanAccesses (env : Env) (io : Io) (payload : List Byte) (rows cols : Nat) :
    List MilanAccess :=
  if payload.length < milanStride rows * cols then
    []
  else if env.malloc io.count = false then
    []
  else if env.malloc (io.count + 1) = false then
    milanCopyAccesses rows cols
  else
    let pu := milanPu rows cols payload
    let walked := milanLoopAccesses rows (rows * cols) pu pu.length
      ⟨0, 0, List.replicate (rows * cols) 0⟩
    if (milanFinal rows cols payload).outI ≠ rows * cols then
      milanCopyAccesses rows cols ++ walked
    else if env.malloc (io.count + 2) = false then
      milanCopyAccesses rows cols ++ walked
    else
      milanCopyAccesses rows cols ++ walked ++ milanTransposeAccesses rows cols

/-! ## The walk ends by itself -/

/-- Where a step leads. -/
theorem milanLoopStep_positions {rows : Nat} {pu : List Byte} {loop next : MilanLoop}
    (stepped : milanLoopStep rows pu loop = some next) :
    (loop.outI % rows + 2 = rows ∧ loop.inI + 4 ≤ pu.length ∧ next.outI = loop.outI + 2 ∧
        next.inI = loop.inI + 4) ∨
      (loop.outI % rows + 2 ≠ rows ∧ loop.inI + 6 ≤ pu.length ∧ next.outI = loop.outI + 4 ∧
        next.inI = loop.inI + 6) := by
  rw [milanLoopStep_eq] at stepped
  by_cases pair : loop.outI % rows + 2 = rows
  · rw [if_pos pair] at stepped
    by_cases inside : loop.inI + 4 ≤ pu.length
    · rw [if_pos inside] at stepped
      cases stepped
      exact .inl ⟨pair, inside, rfl, rfl⟩
    · rw [if_neg inside] at stepped
      cases stepped
  · rw [if_neg pair] at stepped
    by_cases inside : loop.inI + 6 ≤ pu.length
    · rw [if_pos inside] at stepped
      cases stepped
      exact .inr ⟨pair, inside, rfl, rfl⟩
    · rw [if_neg inside] at stepped
      cases stepped

/-- Every step moves the input on. -/
theorem milanLoopStep_forward {rows : Nat} {pu : List Byte} {loop next : MilanLoop}
    (stepped : milanLoopStep rows pu loop = some next) : loop.inI < next.inI := by
  rcases milanLoopStep_positions stepped with ⟨_, _, _, moved⟩ | ⟨_, _, _, moved⟩
  · omega
  · omega

section Rounds

variable {rows total : Nat} {pu : List Byte} {loop next : MilanLoop} (rounds : Nat)

theorem milanLoop_done (ended : ¬ (loop.inI < pu.length ∧ loop.outI < total)) :
    milanLoop rows total pu rounds loop = loop ∧
      milanLoopAccesses rows total pu rounds loop = [] := by
  cases rounds with
  | zero => exact ⟨rfl, rfl⟩
  | succ rounds => exact ⟨if_neg ended, if_neg ended⟩

theorem milanLoop_break (stopped : milanLoopStep rows pu loop = none) :
    milanLoop rows total pu rounds loop = loop ∧
      milanLoopAccesses rows total pu rounds loop = [] := by
  cases rounds with
  | zero => exact ⟨rfl, rfl⟩
  | succ rounds => simp only [milanLoop, milanLoopAccesses, stopped, ite_self, and_self]

theorem milanLoop_step (going : loop.inI < pu.length ∧ loop.outI < total)
    (stepped : milanLoopStep rows pu loop = some next) :
    milanLoop rows total pu (rounds + 1) loop = milanLoop rows total pu rounds next ∧
      milanLoopAccesses rows total pu (rounds + 1) loop =
        milanStepAccesses rows loop ++ milanLoopAccesses rows total pu rounds next := by
  constructor
  · rw [milanLoop, if_pos going, stepped]
  · rw [milanLoopAccesses, if_pos going, stepped]

/-- As many rounds as there are bytes left are enough: one more changes neither
the result nor the accesses. -/
theorem milanLoop_rounds_enough (loop : MilanLoop)
    (enoughRounds : pu.length ≤ rounds + loop.inI) :
    milanLoop rows total pu (rounds + 1) loop = milanLoop rows total pu rounds loop ∧
      milanLoopAccesses rows total pu (rounds + 1) loop =
        milanLoopAccesses rows total pu rounds loop := by
  induction rounds generalizing loop with
  | zero =>
      have ended : ¬ (loop.inI < pu.length ∧ loop.outI < total) := by omega
      exact milanLoop_done 1 ended
  | succ rounds ih =>
      by_cases going : loop.inI < pu.length ∧ loop.outI < total
      · cases stepped : milanLoopStep rows pu loop with
        | none =>
            rw [(milanLoop_break _ stepped).1, (milanLoop_break _ stepped).2,
              (milanLoop_break _ stepped).1, (milanLoop_break _ stepped).2]
            exact ⟨rfl, rfl⟩
        | some next =>
            have forward := milanLoopStep_forward stepped
            obtain ⟨same, sameAccesses⟩ := ih next (by omega)
            rw [(milanLoop_step (rounds + 1) going stepped).1,
              (milanLoop_step (rounds + 1) going stepped).2,
              (milanLoop_step rounds going stepped).1,
              (milanLoop_step rounds going stepped).2, same, sameAccesses]
            exact ⟨rfl, rfl⟩
      · rw [(milanLoop_done _ going).1, (milanLoop_done _ going).2, (milanLoop_done _ going).1,
          (milanLoop_done _ going).2]
        exact ⟨rfl, rfl⟩

/-! ## Bounds from an invariant -/

/-- A step reads inside the buffer, and stores inside the image if it ends
there. -/
theorem milanStepAccesses_inBounds {payloadLen cols : Nat}
    (puLength : pu.length = milanTake rows * cols)
    (stepped : milanLoopStep rows pu loop = some next) (fits : next.outI ≤ rows * cols) :
    ∀ access ∈ milanStepAccesses rows loop, access.InBounds payloadLen rows cols := by
  unfold milanStepAccesses
  rcases milanLoopStep_positions stepped with ⟨pair, inside, moved, _⟩ | ⟨pair, inside, moved, _⟩
  · rw [if_pos pair]
    simp only [List.forall_mem_cons, MilanAccess.InBounds, List.not_mem_nil, false_implies,
      implies_true, and_true]
    omega
  · rw [if_neg pair]
    simp only [List.forall_mem_cons, MilanAccess.InBounds, List.not_mem_nil, false_implies,
      implies_true, and_true]
    omega

/-- An invariant under which no step passes the end of the image keeps the whole
walk inside the buffers. -/
theorem milanLoopAccesses_inBounds {payloadLen cols : Nat}
    (puLength : pu.length = milanTake rows * cols) {Inv : MilanLoop → Prop}
    (kept : ∀ loop next, Inv loop → loop.outI < rows * cols →
      milanLoopStep rows pu loop = some next → Inv next ∧ next.outI ≤ rows * cols)
    (loop : MilanLoop) (invariant : Inv loop) :
    ∀ access ∈ milanLoopAccesses rows (rows * cols) pu rounds loop,
      access.InBounds payloadLen rows cols := by
  induction rounds generalizing loop with
  | zero =>
      intro access member
      cases member
  | succ rounds ih =>
      intro access member
      by_cases going : loop.inI < pu.length ∧ loop.outI < rows * cols
      · cases stepped : milanLoopStep rows pu loop with
        | none =>
            rw [(milanLoop_break _ stepped).2] at member
            cases member
        | some next =>
            obtain ⟨nextInvariant, fits⟩ := kept loop next invariant going.2 stepped
            rw [(milanLoop_step rounds going stepped).2, List.mem_append] at member
            rcases member with now | later
            · exact milanStepAccesses_inBounds puLength stepped fits access now
            · exact ih next nextInvariant access later
      · rw [(milanLoop_done _ going).2] at member
        cases member

end Rounds

/-! ## Geometries -/

section Geometry

variable {rows cols : Nat} {pu : List Byte} {loop next : MilanLoop}

/-- With a multiple of four rows there are groups of four only. -/
theorem milan_fours_kept (shape : rows % 4 = 0) (aligned : loop.outI % 4 = 0)
    (before : loop.outI < rows * cols) (stepped : milanLoopStep rows pu loop = some next) :
    next.outI % 4 = 0 ∧ next.outI ≤ rows * cols := by
  have four : 4 ∣ rows := Nat.dvd_of_mod_eq_zero shape
  have inColumn : loop.outI % rows % 4 = loop.outI % 4 := Nat.mod_mod_of_dvd _ four
  have total : rows * cols % 4 = 0 := Nat.mod_eq_zero_of_dvd (Nat.dvd_mul_right_of_dvd four cols)
  rcases milanLoopStep_positions stepped with ⟨pair, _, _, _⟩ | ⟨_, _, moved, _⟩
  · omega
  · omega

/-- The samples of a period: one column or, with an odd number of rows, two. -/
def milanPeriod (rows : Nat) : Nat :=
  if rows % 2 = 0 then rows else 2 * rows

/-- The walk before group `group` of period `turn`. -/
structure MilanTurn (rows : Nat) (loop : MilanLoop) (turn group : Nat) : Prop where
  outI : loop.outI = turn * milanPeriod rows + 4 * group
  inI : loop.inI = turn * milanTake (milanPeriod rows) + 6 * group
  inPeriod : 4 * group + 2 ≤ milanPeriod rows

theorem milanPeriod_mod (notFour : rows % 4 ≠ 0) : milanPeriod rows % 4 = 2 := by
  unfold milanPeriod
  split
  · omega
  · omega

/-- The pair is taken at the end of a period and nowhere else. -/
theorem MilanTurn.pair_iff {turn group : Nat} (aligned : MilanTurn rows loop turn group)
    (rowsGt : 1 < rows) :
    loop.outI % rows + 2 = rows ↔ 4 * group + 2 = milanPeriod rows := by
  have inPeriod := aligned.inPeriod
  have outI := aligned.outI
  unfold milanPeriod at inPeriod outI ⊢
  by_cases even : rows % 2 = 0
  · rw [if_pos even] at inPeriod outI ⊢
    have position : loop.outI % rows = 4 * group := by
      rw [outI, Nat.mul_comm, Nat.mul_add_mod, Nat.mod_eq_of_lt (by omega)]
    rw [position]
  · rw [if_neg even] at inPeriod outI ⊢
    have wrapped : loop.outI % rows = 4 * group % rows := by
      rw [outI, show turn * (2 * rows) + 4 * group = rows * (2 * turn) + 4 * group by ring,
        Nat.mul_add_mod]
    rcases Nat.lt_or_ge (4 * group) rows with first | second
    · rw [wrapped, Nat.mod_eq_of_lt first]
      omega
    · rw [wrapped, Nat.mod_eq_sub_mod second, Nat.mod_eq_of_lt (by omega)]
      omega

/-- The image and the buffer are whole periods and, with an odd number of rows
and of columns, half a period. -/
theorem milan_turns (rows cols : Nat) :
    ∃ turns, (rows * cols = turns * milanPeriod rows ∧
        milanTake rows * cols = turns * milanTake (milanPeriod rows)) ∨
      (rows % 2 = 1 ∧ rows * cols = turns * milanPeriod rows + rows ∧
        milanTake rows * cols = turns * milanTake (milanPeriod rows) + milanTake rows) := by
  unfold milanPeriod
  by_cases even : rows % 2 = 0
  · rw [if_pos even]
    exact ⟨cols, .inl ⟨Nat.mul_comm _ _, Nat.mul_comm _ _⟩⟩
  · have double : milanTake (2 * rows) = 2 * milanTake rows := by
      unfold milanTake
      omega
    rw [if_neg even, double]
    rcases Nat.even_or_odd' cols with ⟨turns, rfl | rfl⟩
    · exact ⟨turns, .inl ⟨by ring, by ring⟩⟩
    · exact ⟨turns, .inr ⟨by omega, by ring, by ring⟩⟩

/-- A step stays in its period, and leads to the next group or the next
period. -/
theorem MilanTurn.step {turn group : Nat} (aligned : MilanTurn rows loop turn group)
    (rowsGt : 1 < rows) (notFour : rows % 4 ≠ 0)
    (stepped : milanLoopStep rows pu loop = some next) :
    (∃ nextTurn nextGroup, MilanTurn rows next nextTurn nextGroup) ∧
      next.outI ≤ turn * milanPeriod rows + milanPeriod rows := by
  have pairIff := aligned.pair_iff rowsGt
  have modFour := milanPeriod_mod notFour
  have outI := aligned.outI
  have inI := aligned.inI
  have inPeriod := aligned.inPeriod
  have takePeriod : milanTake (milanPeriod rows) = milanPeriod rows * 3 / 2 + 1 := rfl
  rcases milanLoopStep_positions stepped with ⟨pair, _, out, input⟩ | ⟨pair, _, out, input⟩
  · have atEnd := pairIff.mp pair
    refine ⟨⟨turn + 1, 0, ⟨?_, ?_, ?_⟩⟩, by omega⟩
    · rw [Nat.succ_mul]
      omega
    · rw [Nat.succ_mul]
      omega
    · omega
  · have notEnd := fun atEnd => pair (pairIff.mpr atEnd)
    refine ⟨⟨turn, group + 1, ⟨?_, ?_, ?_⟩⟩, ?_⟩
    · omega
    · omega
    · omega
    · omega

/-- In the half period at the end only groups fit, and they end inside. -/
theorem MilanTurn.half_fits {turns group : Nat} (aligned : MilanTurn rows loop turns group)
    (rowsGt : 1 < rows) (odd : rows % 2 = 1)
    (puLength : pu.length = turns * milanTake (milanPeriod rows) + milanTake rows)
    (before : loop.outI < turns * milanPeriod rows + rows)
    (stepped : milanLoopStep rows pu loop = some next) :
    next.outI ≤ turns * milanPeriod rows + rows := by
  have pairIff := aligned.pair_iff rowsGt
  have period : milanPeriod rows = 2 * rows := if_neg (by omega)
  have takeRows : milanTake rows = rows * 3 / 2 + 1 := rfl
  have outI := aligned.outI
  have inI := aligned.inI
  rcases milanLoopStep_positions stepped with ⟨pair, _, _, _⟩ | ⟨_, inside, out, _⟩
  · have atEnd := pairIff.mp pair
    omega
  · omega

/-- With any other number of rows above one no step passes the end. -/
theorem milan_turn_kept (rowsGt : 1 < rows) (notFour : rows % 4 ≠ 0)
    (puLength : pu.length = milanTake rows * cols)
    (aligned : ∃ turn group, MilanTurn rows loop turn group)
    (before : loop.outI < rows * cols) (stepped : milanLoopStep rows pu loop = some next) :
    (∃ turn group, MilanTurn rows next turn group) ∧ next.outI ≤ rows * cols := by
  obtain ⟨turn, group, aligned⟩ := aligned
  obtain ⟨nextAligned, inPeriod⟩ := aligned.step rowsGt notFour stepped
  refine ⟨nextAligned, ?_⟩
  have outI := aligned.outI
  have whole : ∀ turns, turn < turns →
      turn * milanPeriod rows + milanPeriod rows ≤ turns * milanPeriod rows := by
    intro turns earlier
    rw [← Nat.succ_mul]
    exact Nat.mul_le_mul_right _ earlier
  have beyond : ∀ turns, turns ≤ turn → turns * milanPeriod rows ≤ turn * milanPeriod rows :=
    fun turns later => Nat.mul_le_mul_right _ later
  obtain ⟨turns, ⟨total, _⟩ | ⟨odd, total, puTotal⟩⟩ := milan_turns rows cols
  · rcases Nat.lt_or_ge turn turns with earlier | later
    · have ends := whole turns earlier
      omega
    · have starts := beyond turns later
      omega
  · rcases Nat.lt_trichotomy turn turns with earlier | rfl | later
    · have ends := whole turns earlier
      omega
    · rw [total] at before ⊢
      exact aligned.half_fits rowsGt odd (by rw [puLength, puTotal]) before stepped
    · have starts := beyond (turns + 1) later
      have period : milanPeriod rows = 2 * rows := if_neg (by omega)
      rw [Nat.succ_mul] at starts
      omega

/-- A single row has groups of four only. -/
theorem milan_row_step (stepped : milanLoopStep 1 pu loop = some next) :
    loop.inI + 6 ≤ pu.length ∧ next.outI = loop.outI + 4 ∧ next.inI = loop.inI + 6 := by
  rcases milanLoopStep_positions stepped with ⟨pair, _, _, _⟩ | ⟨_, inside, out, input⟩
  · omega
  · exact ⟨inside, out, input⟩

/-- The numbers of columns for which the groups of a single row end inside. -/
theorem milan_row_kept (puLength : pu.length = milanTake 1 * cols)
    (fits : cols % 4 = 0 ∨ cols < 3 ∨ cols = 5)
    (aligned : ∃ group, loop.outI = 4 * group ∧ loop.inI = 6 * group)
    (before : loop.outI < 1 * cols) (stepped : milanLoopStep 1 pu loop = some next) :
    (∃ group, next.outI = 4 * group ∧ next.inI = 6 * group) ∧ next.outI ≤ 1 * cols := by
  obtain ⟨group, outI, inI⟩ := aligned
  obtain ⟨inside, out, input⟩ := milan_row_step stepped
  have take : milanTake 1 = 2 := rfl
  rw [take] at puLength
  refine ⟨⟨group + 1, by omega, by omega⟩, ?_⟩
  omega

/-- With six bytes left a single row takes another group. -/
theorem milan_row_accesses (rounds : Nat) (inside : loop.inI + 6 ≤ pu.length)
    (before : loop.outI < 1 * cols) :
    ∃ next, next.outI = loop.outI + 4 ∧ next.inI = loop.inI + 6 ∧
      milanLoopAccesses 1 (1 * cols) pu (rounds + 1) loop =
        milanStepAccesses 1 loop ++ milanLoopAccesses 1 (1 * cols) pu rounds next := by
  have noPair : ¬ loop.outI % 1 + 2 = 1 := by omega
  have stepped := milanLoopStep_eq 1 pu loop
  rw [if_neg noPair, if_pos inside] at stepped
  exact ⟨_, rfl, rfl, (milanLoop_step rounds ⟨by omega, before⟩ stepped).2⟩

/-- For the others the walk reaches the group that passes the end. -/
theorem milan_row_passes (puLength : pu.length = milanTake 1 * cols)
    (passes : ¬ (cols % 4 = 0 ∨ cols < 3 ∨ cols = 5)) (left rounds : Nat) {group : Nat}
    (reaches : group + left = cols / 4) (outI : loop.outI = 4 * group)
    (inI : loop.inI = 6 * group) (enoughRounds : left < rounds) :
    .writeColMajor (4 * (cols / 4) + 3) ∈ milanLoopAccesses 1 (1 * cols) pu rounds loop := by
  have take : milanTake 1 = 2 := rfl
  rw [take] at puLength
  induction left generalizing rounds loop group with
  | zero =>
      obtain ⟨rounds, rfl⟩ := Nat.exists_eq_succ_of_ne_zero (Nat.ne_of_gt enoughRounds)
      obtain ⟨next, _, _, accesses⟩ := @milan_row_accesses cols pu loop rounds (by omega) (by omega)
      have noPair : ¬ loop.outI % 1 + 2 = 1 := by omega
      have last : 4 * (cols / 4) + 3 = loop.outI + 3 := by omega
      rw [accesses, milanStepAccesses, if_neg noPair, last]
      simp
  | succ left ih =>
      have roundsLeft : rounds ≠ 0 := Nat.ne_of_gt (Nat.zero_lt_of_lt enoughRounds)
      obtain ⟨rounds, rfl⟩ := Nat.exists_eq_succ_of_ne_zero roundsLeft
      obtain ⟨next, out, input, accesses⟩ :=
        @milan_row_accesses cols pu loop rounds (by omega) (by omega)
      rw [accesses]
      apply List.mem_append_right
      apply @ih next rounds (group + 1)
      · omega
      · omega
      · omega
      · omega

end Geometry

/-! ## Whole calls -/

theorem milanCopyAccesses_inBounds {rows cols : Nat} {payload : List Byte}
    (enough : milanStride rows * cols ≤ payload.length) :
    ∀ access ∈ milanCopyAccesses rows cols, access.InBounds payload.length rows cols := by
  intro access member
  obtain ⟨c, cMem, inCopy⟩ := List.mem_flatMap.mp member
  obtain ⟨off, offMem, here⟩ := List.mem_flatMap.mp inCopy
  have cLt := List.mem_range.mp cMem
  have offLt := List.mem_range.mp offMem
  have copied := milan_copy_inside enough cLt
  have pieceEnd := @column_end_le (milanTake rows) cols c cLt
  simp only [List.mem_cons, List.not_mem_nil, or_false] at here
  rcases here with rfl | rfl
  · dsimp only [MilanAccess.InBounds]
    omega
  · dsimp only [MilanAccess.InBounds]
    omega

theorem milanTransposeAccesses_inBounds (payloadLen rows cols : Nat) :
    ∀ access ∈ milanTransposeAccesses rows cols, access.InBounds payloadLen rows cols := by
  intro access member
  obtain ⟨r, rMem, inRow⟩ := List.mem_flatMap.mp member
  obtain ⟨c, cMem, here⟩ := List.mem_flatMap.mp inRow
  have rLt := List.mem_range.mp rMem
  have cLt := List.mem_range.mp cMem
  have columnEnd := @column_end_le rows cols c cLt
  have rowEnd := @column_end_le cols rows r rLt
  rw [Nat.mul_comm cols rows] at rowEnd
  simp only [List.mem_cons, List.not_mem_nil, or_false] at here
  rcases here with rfl | rfl
  · dsimp only [MilanAccess.InBounds]
    omega
  · dsimp only [MilanAccess.InBounds]
    omega

/-- The walk stays inside for every geometry but some single rows. -/
theorem milan_walk_inBounds {rows cols : Nat} {payload : List Byte} (rowsPos : 0 < rows)
    (enough : milanStride rows * cols ≤ payload.length)
    (fits : rows ≠ 1 ∨ cols % 4 = 0 ∨ cols < 3 ∨ cols = 5) (rounds : Nat) :
    ∀ access ∈ milanLoopAccesses rows (rows * cols) (milanPu rows cols payload) rounds
      ⟨0, 0, List.replicate (rows * cols) 0⟩, access.InBounds payload.length rows cols := by
  have puLength : (milanPu rows cols payload).length = milanTake rows * cols := by
    rw [milanPu_length enough, Nat.mul_comm]
  by_cases single : rows = 1
  · subst single
    have fitsRow : cols % 4 = 0 ∨ cols < 3 ∨ cols = 5 := by
      rcases fits with notSingle | fits
      · exact absurd rfl notSingle
      · exact fits
    apply milanLoopAccesses_inBounds rounds puLength
      (fun _ _ aligned before stepped => milan_row_kept puLength fitsRow aligned before stepped)
    exact ⟨0, rfl, rfl⟩
  · by_cases fours : rows % 4 = 0
    · apply milanLoopAccesses_inBounds rounds puLength
        (fun _ _ aligned before stepped => milan_fours_kept fours aligned before stepped)
      rfl
    · have rowsGt : 1 < rows := by omega
      apply milanLoopAccesses_inBounds rounds puLength
        (fun _ _ aligned before stepped =>
          milan_turn_kept rowsGt fours puLength aligned before stepped)
      refine ⟨0, 0, ⟨?_, ?_, ?_⟩⟩
      · rw [Nat.zero_mul]
      · rw [Nat.zero_mul]
      · have modFour := milanPeriod_mod fours
        omega

/-- A call that gets to the walk performs its accesses. -/
theorem walked_mem_milanAccesses {env : Env} {io : Io} {payload : List Byte} {rows cols : Nat}
    (enough : ¬ payload.length < milanStride rows * cols)
    (allocated : env.malloc io.count ≠ false) (allocatedAgain : env.malloc (io.count + 1) ≠ false)
    {access : MilanAccess}
    (member : access ∈ milanLoopAccesses rows (rows * cols) (milanPu rows cols payload)
      (milanPu rows cols payload).length ⟨0, 0, List.replicate (rows * cols) 0⟩) :
    access ∈ milanAccesses env io payload rows cols := by
  unfold milanAccesses
  rw [if_neg enough, if_neg allocated, if_neg allocatedAgain]
  dsimp only
  split
  · exact List.mem_append_right _ member
  · split
    · exact List.mem_append_right _ member
    · exact List.mem_append_left _ (List.mem_append_right _ member)

/-- A call whose copies and walk stay inside stays inside. -/
theorem milanAccesses_inBounds_of_parts {env : Env} {io : Io} {payload : List Byte}
    {rows cols : Nat}
    (copied : milanStride rows * cols ≤ payload.length →
      ∀ access ∈ milanCopyAccesses rows cols, access.InBounds payload.length rows cols)
    (walked : milanStride rows * cols ≤ payload.length → env.malloc io.count ≠ false →
      env.malloc (io.count + 1) ≠ false →
      ∀ access ∈ milanLoopAccesses rows (rows * cols) (milanPu rows cols payload)
        (milanPu rows cols payload).length ⟨0, 0, List.replicate (rows * cols) 0⟩,
        access.InBounds payload.length rows cols) :
    ∀ access ∈ milanAccesses env io payload rows cols,
      access.InBounds payload.length rows cols := by
  intro access member
  unfold milanAccesses at member
  split at member
  · cases member
  · rename_i long
    have enough := Nat.not_lt.mp long
    split at member
    · cases member
    · rename_i allocated
      split at member
      · exact copied enough access member
      · rename_i allocatedAgain
        have both : ∀ access ∈ milanCopyAccesses rows cols ++
            milanLoopAccesses rows (rows * cols) (milanPu rows cols payload)
              (milanPu rows cols payload).length ⟨0, 0, List.replicate (rows * cols) 0⟩,
            access.InBounds payload.length rows cols :=
          List.forall_mem_append.mpr
            ⟨copied enough, walked enough allocated allocatedAgain⟩
        dsimp only at member
        split at member
        · exact both access member
        · split at member
          · exact both access member
          · rcases List.mem_append.mp member with earlier | transposed
            · exact both access earlier
            · exact milanTransposeAccesses_inBounds payload.length rows cols access transposed

/-- `gxfp_decode_milan` stays inside its buffers exactly when the call ends
before the walk, the image has more than one row, or its single row is one that
groups of four fill or never pass. -/
theorem milanAccesses_inBounds_iff (env : Env) (io : Io) (payload : List Byte) {rows cols : Nat}
    (rowsPos : 1 ≤ rows) :
    (∀ access ∈ milanAccesses env io payload rows cols,
        access.InBounds payload.length rows cols) ↔
      payload.length < (rows + 2) * 3 / 2 * cols ∨ env.malloc io.count = false ∨
        env.malloc (io.count + 1) = false ∨ rows ≠ 1 ∨ cols % 4 = 0 ∨ cols < 3 ∨ cols = 5 := by
  constructor
  · intro inBounds
    by_contra reaches
    simp only [not_or] at reaches
    obtain ⟨long, allocated, allocatedAgain, single, passes⟩ := reaches
    obtain rfl : rows = 1 := not_not.mp single
    have enough : milanStride 1 * cols ≤ payload.length := Nat.not_lt.mp long
    have puLength : (milanPu 1 cols payload).length = milanTake 1 * cols := by
      rw [milanPu_length enough, Nat.mul_comm]
    have rounds : cols / 4 < (milanPu 1 cols payload).length := by
      rw [puLength, show milanTake 1 = 2 from rfl]
      omega
    have passing : MilanAccess.writeColMajor (4 * (cols / 4) + 3) ∈
        milanLoopAccesses 1 (1 * cols) (milanPu 1 cols payload) (milanPu 1 cols payload).length
          ⟨0, 0, List.replicate (1 * cols) 0⟩ := by
      apply milan_row_passes puLength (not_or.mpr ⟨passes.1, not_or.mpr passes.2⟩) (cols / 4) _
        (Nat.zero_add _) rfl rfl rounds
    have outside := inBounds _ (walked_mem_milanAccesses long allocated allocatedAgain passing)
    dsimp only [MilanAccess.InBounds] at outside
    omega
  · intro fits
    apply milanAccesses_inBounds_of_parts milanCopyAccesses_inBounds
    intro enough allocated allocatedAgain
    have fitsShape : rows ≠ 1 ∨ cols % 4 = 0 ∨ cols < 3 ∨ cols = 5 := by
      rcases fits with short | failed | failedAgain | fitsShape
      · exact absurd enough (Nat.not_le.mpr short)
      · exact absurd failed allocated
      · exact absurd failedAgain allocatedAgain
      · exact fitsShape
    exact milan_walk_inBounds rowsPos enough fitsShape _

/-- The call with three columns of one row: it stores behind the end of an array
of three samples. -/
theorem milanAccesses_one_by_three :
    ¬ ∀ (env : Env) (io : Io) (payload : List Byte) (rows cols : Nat), 1 ≤ rows → 1 ≤ cols →
      ∀ access ∈ milanAccesses env io payload rows cols,
        access.InBounds payload.length rows cols := by
  intro inBounds
  have outside := inBounds steadyEnv ⟨0, []⟩ (List.replicate 12 0) 1 3 (by decide) (by decide)
    (.writeColMajor 3) (by decide +kernel)
  exact absurd outside (by decide)

/-- A single row of four columns is filled by one group. -/
theorem milanAccesses_one_by_four :
    1 ≤ 1 ∧ ∀ access ∈ milanAccesses steadyEnv ⟨0, []⟩ (List.replicate 16 0) 1 4,
      access.InBounds (List.replicate 16 (0 : Byte)).length 1 4 :=
  ⟨by decide, (milanAccesses_inBounds_iff steadyEnv ⟨0, []⟩ (List.replicate 16 0)
    (by decide)).mpr (.inr (.inr (.inr (.inr (.inl (by decide))))))⟩

end Gxfp.User
