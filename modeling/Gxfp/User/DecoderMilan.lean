import Gxfp.Lib.Chunks
import Gxfp.User.Samples

/-!
# Decoding of Milan images

A Milan payload is one block for each column: groups of four samples in six
bytes, and where the number of rows leaves two, a last pair in four bytes.
`gxfp_decode_milan` copies the used part of every block into one buffer, walks
through that buffer with both step sizes, and transposes the result.

With `rows % 4 = 2` a column is some groups and one pair, so the walk is at a
block boundary whenever it is at a column boundary, and every pixel is the
sample of its own column.
-/

namespace Gxfp.User

open Lib.Bytes
open Lib.Chunks
open Gxfp.Errno
/-! ## Geometry -/

/-- The bytes of a block. -/
def milanStride (rows : Nat) : Nat :=
  (rows + 2) * 3 / 2

/-- The bytes of a block that are copied. -/
def milanTake (rows : Nat) : Nat :=
  rows * 3 / 2 + 1

/-- Block `c` of a payload. -/
def milanBlock (rows : Nat) (payload : List Byte) (c : Nat) : List Byte :=
  (payload.drop (c * milanStride rows)).take (milanStride rows)

/-- The copied parts of all blocks. -/
def milanPu (rows cols : Nat) (payload : List Byte) : List Byte :=
  joined (fun c => (payload.drop (c * milanStride rows)).take (milanTake rows)) cols

theorem milanTake_le_stride (rows : Nat) : milanTake rows ≤ milanStride rows := by
  unfold milanTake milanStride
  omega

section Compaction

variable {rows cols : Nat} {payload : List Byte}
  (enough : milanStride rows * cols ≤ payload.length)

include enough

/-- A copy stays inside the payload. -/
theorem milan_copy_inside {c : Nat} (cLt : c < cols) :
    c * milanStride rows + milanTake rows ≤ payload.length := by
  calc c * milanStride rows + milanTake rows
      ≤ c * milanStride rows + milanStride rows :=
        Nat.add_le_add_left (milanTake_le_stride rows) _
    _ = (c + 1) * milanStride rows := (Nat.succ_mul _ _).symm
    _ ≤ cols * milanStride rows := Nat.mul_le_mul_right _ cLt
    _ = milanStride rows * cols := Nat.mul_comm _ _
    _ ≤ payload.length := enough

theorem milan_piece_length {c : Nat} (cLt : c < cols) :
    ((payload.drop (c * milanStride rows)).take (milanTake rows)).length = milanTake rows := by
  have inside := milan_copy_inside enough cLt
  rw [List.length_take, List.length_drop]
  omega

theorem milanPu_length : (milanPu rows cols payload).length = cols * milanTake rows :=
  joined_length_of_lt fun _ cLt => milan_piece_length enough cLt

/-- The buffer holds the front of every block. -/
theorem milanPu_getD {c off : Nat} (cLt : c < cols) (offLt : off < milanTake rows) :
    (milanPu rows cols payload).getD (c * milanTake rows + off) 0 =
      (milanBlock rows payload c).getD off 0 := by
  have offStride := Nat.lt_of_lt_of_le offLt (milanTake_le_stride rows)
  have atOff : (milanPu rows cols payload)[c * milanTake rows + off]? =
      (milanBlock rows payload c)[off]? := by
    rw [milanPu, getElem?_joined (fun _ cLt => milan_piece_length enough cLt) cLt offLt,
      milanBlock, List.getElem?_take_of_lt offLt, List.getElem?_take_of_lt offStride]
  rw [List.getD_eq_getElem?_getD, List.getD_eq_getElem?_getD, atOff]

end Compaction

/-! ## One step of the walk -/

/-- The samples at a position of the buffer. -/
def milanGroup (pu : List Byte) (inI : Nat) : List UInt16 :=
  let b (index : Nat) : Byte := pu.getD (inI + index) 0
  unpackSample4 (b 0) (b 1) (b 2) (b 3) (b 4) (b 5)

/-- A sample of a column by its group. -/
theorem packedSample_drop (pu : List Byte) (start group : Nat) {off : Nat} (offLt : off < 4) :
    packedSample (pu.drop start) (4 * group + off) =
      (milanGroup pu (start + 6 * group)).getD off 0 := by
  have quotient : (4 * group + off) / 4 = group := by omega
  have remainder : (4 * group + off) % 4 = off := by omega
  have shifted : ∀ index, (pu.drop start).getD (group * 6 + index) 0 =
      pu.getD (start + 6 * group + index) 0 := by
    intro index
    rw [List.getD_eq_getElem?_getD, List.getD_eq_getElem?_getD, List.getElem?_drop,
      Nat.mul_comm 6 group, Nat.add_assoc]
  unfold packedSample milanGroup
  simp only [quotient, remainder, shifted]

/-- All a step of the walk can do. -/
theorem milanLoopStep_eq (rows : Nat) (pu : List Byte) (loop : MilanLoop) :
    milanLoopStep rows pu loop =
      if loop.outI % rows + 2 = rows then
        if loop.inI + 4 ≤ pu.length then
          some
            ⟨loop.outI + 2, loop.inI + 4,
              storeSamples loop.colMajor loop.outI ((milanGroup pu loop.inI).take 2)⟩
        else
          none
      else if loop.inI + 6 ≤ pu.length then
        some
          ⟨loop.outI + 4, loop.inI + 6,
            storeSamples loop.colMajor loop.outI ((milanGroup pu loop.inI).take 4)⟩
      else
        none := by
  unfold milanLoopStep
  by_cases pair : loop.outI % rows + 2 = rows
  · rw [if_pos pair, if_pos pair]
    by_cases fits : loop.inI + 4 ≤ pu.length
    · rw [if_neg (Nat.not_lt.mpr fits), if_pos fits]
      rfl
    · rw [if_pos (Nat.not_le.mp fits), if_neg fits]
  · rw [if_neg pair, if_neg pair]
    by_cases fits : loop.inI + 6 ≤ pu.length
    · rw [if_neg (Nat.not_lt.mpr fits), if_pos fits]
      rfl
    · rw [if_pos (Nat.not_le.mp fits), if_neg fits]

theorem storeSamples_length (pixels : List UInt16) (index : Nat) (samples : List UInt16) :
    (storeSamples pixels index samples).length = pixels.length := by
  induction samples generalizing pixels index with
  | nil => rfl
  | cons sample samples ih => rw [storeSamples, ih, List.length_set]

theorem storeSamples_before {pixels : List UInt16} {index position : Nat}
    {samples : List UInt16} (before : position < index) :
    (storeSamples pixels index samples)[position]? = pixels[position]? := by
  induction samples generalizing pixels index with
  | nil => rfl
  | cons sample samples ih =>
      rw [storeSamples, ih (Nat.lt_succ_of_lt before),
        List.getElem?_set_ne (Nat.ne_of_gt before)]

theorem storeSamples_at {pixels : List UInt16} {index off : Nat} {samples : List UInt16}
    (offLt : off < samples.length) (inside : index + off < pixels.length) :
    (storeSamples pixels index samples)[index + off]? = samples[off]? := by
  induction samples generalizing pixels index off with
  | nil => exact absurd offLt (Nat.not_lt_zero off)
  | cons sample samples ih =>
      rw [storeSamples]
      cases off with
      | zero =>
          have atIndex : index < pixels.length := inside
          change (storeSamples (pixels.set index sample) (index + 1) samples)[index]? = some sample
          rw [storeSamples_before (Nat.lt_succ_self index), List.getElem?_set_self atIndex]
      | succ off =>
          have position : index + (off + 1) = index + 1 + off := by omega
          rw [position] at inside ⊢
          rw [List.getElem?_cons_succ]
          apply ih (Nat.lt_of_succ_lt_succ offLt)
          rw [List.length_set]
          exact inside

/-! ## The walk over whole columns -/

/-- The sample that belongs at a position of the column-major buffer. -/
def milanColMajor (rows : Nat) (pu : List Byte) (position : Nat) : UInt16 :=
  packedSample (pu.drop (position / rows * milanTake rows)) (position % rows)

/-- The walk before group `group` of column `column`. -/
structure MilanWalk (rows cols : Nat) (pu : List Byte) (loop : MilanLoop) (column group : Nat) :
    Prop where
  outI : loop.outI = column * rows + 4 * group
  inI : loop.inI = column * milanTake rows + 6 * group
  inColumn : 4 * group + 2 ≤ rows
  inImage : column < cols ∨ column = cols ∧ group = 0
  length : loop.colMajor.length = rows * cols
  stored : ∀ position, position < loop.outI →
    loop.colMajor[position]? = some (milanColMajor rows pu position)

section Walk

variable {rows cols : Nat} {pu : List Byte} {loop : MilanLoop} {column group : Nat}

theorem column_end_le (columnLt : column < cols) : column * rows + rows ≤ rows * cols := by
  rw [← Nat.succ_mul, Nat.mul_comm rows cols]
  exact Nat.mul_le_mul_right rows columnLt

/-- Storing the next samples of a column keeps what is stored right. -/
theorem MilanWalk.store (walk : MilanWalk rows cols pu loop column group)
    (columnLt : column < cols) {count : Nat} (countLe : count ≤ 4)
    (fits : 4 * group + count ≤ rows) {position : Nat} (before : position < loop.outI + count) :
    (storeSamples loop.colMajor loop.outI ((milanGroup pu loop.inI).take count))[position]? =
      some (milanColMajor rows pu position) := by
  by_cases earlier : position < loop.outI
  · rw [storeSamples_before earlier]
    exact walk.stored position earlier
  · obtain ⟨off, rfl⟩ : ∃ off, position = loop.outI + off :=
      ⟨position - loop.outI, by omega⟩
    have offLt : off < count := by omega
    have taken : ((milanGroup pu loop.inI).take count).length = count := by
      rw [List.length_take]
      exact Nat.min_eq_left countLe
    have columnEnd := @column_end_le rows cols column columnLt
    have start := walk.outI
    have inside : loop.outI + off < loop.colMajor.length := by
      rw [walk.length]
      omega
    have rest : 4 * group + off < rows := by omega
    have split : loop.outI + off = rows * column + (4 * group + off) := by
      rw [start, Nat.mul_comm column rows, Nat.add_assoc]
    have quotient : (loop.outI + off) / rows = column := by
      rw [split, Nat.mul_add_div (by omega), Nat.div_eq_of_lt rest, Nat.add_zero]
    have remainder : (loop.outI + off) % rows = 4 * group + off := by
      rw [split, Nat.mul_add_mod, Nat.mod_eq_of_lt rest]
    have inUnpacked : off < (milanGroup pu loop.inI).length := Nat.lt_of_lt_of_le offLt countLe
    rw [storeSamples_at (by rw [taken]; exact offLt) inside, List.getElem?_take_of_lt offLt,
      milanColMajor, quotient, remainder, packedSample_drop pu _ group inUnpacked, ← walk.inI,
      List.getD_eq_getElem _ _ inUnpacked, List.getElem?_eq_getElem inUnpacked]

/-- One step of the walk inside the image: it does not break, and it is then at
the next group or at the next column. -/
theorem MilanWalk.step (walk : MilanWalk rows cols pu loop column group) (shape : rows % 4 = 2)
    (puLength : pu.length = cols * milanTake rows) (columnLt : column < cols) :
    ∃ next nextColumn nextGroup, milanLoopStep rows pu loop = some next ∧
      MilanWalk rows cols pu next nextColumn nextGroup ∧ loop.inI < next.inI := by
  have bytes : column * milanTake rows + milanTake rows ≤ pu.length := by
    rw [puLength, ← Nat.succ_mul]
    exact Nat.mul_le_mul_right _ columnLt
  have take : milanTake rows = rows * 3 / 2 + 1 := rfl
  have position : loop.outI % rows = 4 * group := by
    have inColumn := walk.inColumn
    rw [walk.outI, Nat.mul_comm, Nat.mul_add_mod, Nat.mod_eq_of_lt (by omega)]
  have inColumn := walk.inColumn
  have outI := walk.outI
  have inI := walk.inI
  by_cases pair : 4 * group + 2 = rows
  · have fits : loop.inI + 4 ≤ pu.length := by omega
    have stepped := milanLoopStep_eq rows pu loop
    rw [position, if_pos pair, if_pos fits] at stepped
    refine ⟨_, column + 1, 0, stepped, ⟨?_, ?_, ?_, ?_, ?_, ?_⟩, ?_⟩
    · rw [Nat.succ_mul]
      dsimp only
      omega
    · rw [Nat.succ_mul]
      dsimp only
      omega
    · omega
    · rcases Nat.lt_or_ge (column + 1) cols with before | reached
      · exact .inl before
      · exact .inr ⟨by omega, rfl⟩
    · rw [storeSamples_length]
      exact walk.length
    · intro earlier before
      exact walk.store columnLt (by decide) (by omega) before
    · dsimp only
      omega
  · have fits : loop.inI + 6 ≤ pu.length := by omega
    have stepped := milanLoopStep_eq rows pu loop
    rw [position, if_neg pair, if_pos fits] at stepped
    refine ⟨_, column, group + 1, stepped, ⟨?_, ?_, ?_, .inl columnLt, ?_, ?_⟩, ?_⟩
    · dsimp only
      omega
    · dsimp only
      omega
    · omega
    · rw [storeSamples_length]
      exact walk.length
    · intro earlier before
      exact walk.store columnLt (by decide) (by omega) before
    · dsimp only
      omega

/-- The walk ends behind the last column with every sample in its place. -/
theorem MilanWalk.run (rounds : Nat) (walk : MilanWalk rows cols pu loop column group)
    (shape : rows % 4 = 2) (puLength : pu.length = cols * milanTake rows)
    (enoughRounds : pu.length ≤ rounds + loop.inI) :
    MilanWalk rows cols pu (milanLoop rows (rows * cols) pu rounds loop) cols 0 := by
  -- Behind the last column the walk is over; inside the image it has bytes left.
  have past : ∀ loop, MilanWalk rows cols pu loop cols 0 → ¬ loop.outI < rows * cols := by
    intro loop atEnd
    rw [atEnd.outI, Nat.mul_comm rows cols]
    exact Nat.lt_irrefl _
  have inside : ∀ loop column group, MilanWalk rows cols pu loop column group → column < cols →
      loop.outI < rows * cols ∧ loop.inI < pu.length := by
    intro loop column group walk columnLt
    have columnEnd := @column_end_le rows cols column columnLt
    have bytes : column * milanTake rows + milanTake rows ≤ pu.length := by
      rw [puLength, ← Nat.succ_mul]
      exact Nat.mul_le_mul_right _ columnLt
    have take : milanTake rows = rows * 3 / 2 + 1 := rfl
    have inColumn := walk.inColumn
    have outI := walk.outI
    have inI := walk.inI
    omega
  induction rounds generalizing loop column group with
  | zero =>
      rcases walk.inImage with columnLt | ⟨rfl, rfl⟩
      · have left := (inside loop column group walk columnLt).2
        omega
      · exact walk
  | succ rounds ih =>
      rw [milanLoop]
      rcases walk.inImage with columnLt | ⟨rfl, rfl⟩
      · rw [if_pos (inside loop column group walk columnLt).symm]
        obtain ⟨next, nextColumn, nextGroup, stepped, nextWalk, forward⟩ :=
          walk.step shape puLength columnLt
        rw [stepped]
        exact ih nextWalk (by omega)
      · rw [if_neg fun going => past loop walk going.2]
        exact walk

end Walk

/-! ## The decoded image -/

/-- The image of a payload, row by row: pixel `(r, c)` is sample `r` of block
`c`. -/
def milanPixels (rows cols : Nat) (payload : List Byte) : List UInt16 :=
  (List.range rows).flatMap fun r =>
    (List.range cols).map fun c => packedSample (milanBlock rows payload c) r

/-- The samples of the buffer are those of the blocks. -/
theorem milanColMajor_eq {rows cols : Nat} {payload : List Byte} (shape : rows % 4 = 2)
    (enough : milanStride rows * cols ≤ payload.length) {r c : Nat} (rLt : r < rows)
    (cLt : c < cols) :
    milanColMajor rows (milanPu rows cols payload) (c * rows + r) =
      packedSample (milanBlock rows payload c) r := by
  have quotient : (c * rows + r) / rows = c := by
    rw [Nat.mul_comm, Nat.mul_add_div (by omega), Nat.div_eq_of_lt rLt, Nat.add_zero]
  have remainder : (c * rows + r) % rows = r := by
    rw [Nat.mul_comm, Nat.mul_add_mod, Nat.mod_eq_of_lt rLt]
  rw [milanColMajor, quotient, remainder]
  apply packedSample_congr
  intro off offLt used
  have offTake : r / 4 * 6 + off < milanTake rows := by
    unfold milanTake
    omega
  rw [← milanPu_getD enough cLt offTake, List.getD_eq_getElem?_getD, List.getD_eq_getElem?_getD,
    List.getElem?_drop]

/-- The walk over the blocks of a payload. -/
def milanFinal (rows cols : Nat) (payload : List Byte) : MilanLoop :=
  milanLoop rows (rows * cols) (milanPu rows cols payload) (milanPu rows cols payload).length
    ⟨0, 0, List.replicate (rows * cols) 0⟩

/-- `gxfp_decode_milan` for a geometry it accepts. -/
theorem decodeMilan_eq_final (env : Env) (io : Io) {rows cols : Nat} (payload : List Byte)
    (rowsPos : 0 < rows) (colsPos : 0 < cols) :
    (decodeMilan env io payload rows cols).1 =
      if payload.length < milanStride rows * cols then
        .error EINVAL.rc
      else if env.malloc io.count = false then
        .error ENOMEM.rc
      else if env.malloc (io.count + 1) = false then
        .error ENOMEM.rc
      else if (milanFinal rows cols payload).outI ≠ rows * cols then
        .error ( EIO.rc)
      else if env.malloc (io.count + 2) = false then
        .error ENOMEM.rc
      else
        .ok
          ⟨(List.range rows).flatMap fun r =>
              (List.range cols).map fun c =>
                (milanFinal rows cols payload).colMajor.getD (c * rows + r) 0,
            rows, cols⟩ := by
  have positive : ¬ ((rows : Int) ≤ 0 ∨ (cols : Int) ≤ 0) := by omega
  have counts : io.tick.count = io.count + 1 ∧ io.tick.tick.count = io.count + 2 := ⟨rfl, rfl⟩
  unfold decodeMilan
  simp only [if_neg positive, Int.toNat_natCast, counts, apply_ite Prod.fst, Bool.not_eq_true']
  rfl

/-- The walk over a payload puts every sample in its place. -/
theorem milan_walk {rows cols : Nat} {payload : List Byte} (shape : rows % 4 = 2)
    (enough : milanStride rows * cols ≤ payload.length) :
    MilanWalk rows cols (milanPu rows cols payload) (milanFinal rows cols payload) cols 0 := by
  have start : MilanWalk rows cols (milanPu rows cols payload)
      ⟨0, 0, List.replicate (rows * cols) 0⟩ 0 0 := by
    refine ⟨?_, ?_, ?_, ?_, List.length_replicate, ?_⟩
    · rw [Nat.zero_mul]
    · rw [Nat.zero_mul]
    · omega
    · rcases Nat.eq_zero_or_pos cols with none | some
      · exact .inr ⟨none.symm, rfl⟩
      · exact .inl some
    · intro position before
      exact absurd before (Nat.not_lt_zero position)
  exact start.run _ shape (milanPu_length enough) (Nat.le_refl _)

/-- `gxfp_decode_milan` on a payload of whole blocks. -/
theorem decodeMilan_eq (env : Env) (io : Io) {rows cols : Nat} {payload : List Byte}
    (shape : rows % 4 = 2) (colsPos : 0 < cols)
    (enough : milanStride rows * cols ≤ payload.length) :
    (decodeMilan env io payload rows cols).1 =
      if env.malloc io.count && env.malloc (io.count + 1) && env.malloc (io.count + 2) then
        .ok ⟨milanPixels rows cols payload, rows, cols⟩
      else
        .error ENOMEM.rc := by
  have walk := milan_walk shape enough
  have filled : (milanFinal rows cols payload).outI = rows * cols := by
    rw [walk.outI, Nat.mul_comm rows cols]
    rfl
  have transposed : ((List.range rows).flatMap fun r => (List.range cols).map fun c =>
      (milanFinal rows cols payload).colMajor.getD (c * rows + r) 0) =
      milanPixels rows cols payload := by
    apply List.flatMap_congr
    intro r rMem
    apply List.map_congr_left
    intro c cMem
    have rLt := List.mem_range.mp rMem
    have cLt := List.mem_range.mp cMem
    have columnEnd := @column_end_le rows cols c cLt
    rw [List.getD_eq_getElem?_getD, walk.stored _ (by rw [filled]; omega), Option.getD_some,
      milanColMajor_eq shape enough rLt cLt]
  rw [decodeMilan_eq_final env io payload (by omega) colsPos, if_neg (Nat.not_lt.mpr enough),
    filled, transposed]
  cases env.malloc io.count with
  | false => rfl
  | true =>
      cases env.malloc (io.count + 1) with
      | false => rfl
      | true =>
          cases env.malloc (io.count + 2) with
          | false => simp
          | true => simp

/-! ## Packing an image -/

/-- A column of samples as a block: groups of four in six bytes, the last two
samples in four with the third one unused, and filler. -/
def packColumn (unused : Byte) (filler : List Byte) : List UInt16 → List Byte
  | s0 :: s1 :: s2 :: s3 :: samples =>
      packSample4 s0 s1 s2 s3 ++ packColumn unused filler samples
  | [s0, s1] =>
      [packNibbles s1 s0, UInt8.ofNat s0.toNat, unused, UInt8.ofNat (s1.toNat / 16)] ++ filler
  | _ => filler

/-- Column `c` of an image. -/
def imageColumn (rows cols : Nat) (pixels : List UInt16) (c : Nat) : List UInt16 :=
  (List.range rows).map fun r => pixels.getD (r * cols + c) 0

/-- An image as a payload, with an unused byte and filler for every column. -/
def milanPack (rows cols : Nat) (unused : Nat → Byte) (filler : Nat → List Byte)
    (pixels : List UInt16) : List Byte :=
  joined (fun c => packColumn (unused c) (filler c) (imageColumn rows cols pixels c)) cols

/-- The samples of a column with another group. -/
theorem exists_group {groups : Nat} {samples : List UInt16}
    (length : samples.length = 4 * (groups + 1) + 2) :
    ∃ s0 s1 s2 s3 rest, samples = s0 :: s1 :: s2 :: s3 :: rest ∧
      rest.length = 4 * groups + 2 := by
  rcases samples with _ | ⟨s0, _ | ⟨s1, _ | ⟨s2, _ | ⟨s3, rest⟩⟩⟩⟩
  · cases length
  · simp only [List.length_cons, List.length_nil] at length
    omega
  · simp only [List.length_cons, List.length_nil] at length
    omega
  · simp only [List.length_cons, List.length_nil] at length
    omega
  · refine ⟨s0, s1, s2, s3, rest, rfl, ?_⟩
    simp only [List.length_cons] at length
    omega

theorem packColumn_length (unused : Byte) (filler : List Byte) {groups : Nat}
    {samples : List UInt16} (length : samples.length = 4 * groups + 2) :
    (packColumn unused filler samples).length = 6 * groups + 4 + filler.length := by
  induction groups generalizing samples with
  | zero =>
      obtain ⟨s0, s1, rfl⟩ := List.length_eq_two.mp length
      rw [packColumn, List.length_append]
      rfl
  | succ groups ih =>
      obtain ⟨s0, s1, s2, s3, rest, rfl, restLength⟩ := exists_group length
      rw [packColumn, List.length_append, ih restLength]
      change 6 + _ = _
      omega

/-- The samples of a packed column are the column. -/
theorem packedSample_packColumn (unused : Byte) (filler : List Byte) {groups : Nat}
    {samples : List UInt16} (length : samples.length = 4 * groups + 2)
    (small : ∀ sample ∈ samples, sample.toNat ≤ 4095) {r : Nat} (rLt : r < samples.length) :
    packedSample (packColumn unused filler samples) r = samples.getD r 0 := by
  induction groups generalizing samples r with
  | zero =>
      obtain ⟨s0, s1, rfl⟩ := List.length_eq_two.mp length
      have small0 := small s0 (by simp)
      have small1 := small s1 (by simp)
      have cases : r = 0 ∨ r = 1 := by
        rw [length] at rLt
        omega
      rcases cases with rfl | rfl
      · exact lowSample_pack small0
      · exact highSample_pack small0 small1
  | succ groups ih =>
      obtain ⟨s0, s1, s2, s3, rest, rfl, restLength⟩ := exists_group length
      have small0 := small s0 (by simp)
      have small1 := small s1 (by simp)
      have small2 := small s2 (by simp)
      have small3 := small s3 (by simp)
      have cases : r = 0 ∨ r = 1 ∨ r = 2 ∨ r = 3 ∨ ∃ later, r = later + 4 := by
        rcases Nat.lt_or_ge r 4 with inGroup | beyond
        · omega
        · exact .inr (.inr (.inr (.inr ⟨r - 4, by omega⟩)))
      rcases cases with rfl | rfl | rfl | rfl | ⟨later, rfl⟩
      · exact lowSample_pack small0
      · exact highSample_pack small0 small1
      · exact lowSample_pack small2
      · exact highSample_pack small2 small3
      · have laterLt : later < rest.length := by
          simp only [List.length_cons] at rLt
          omega
        rw [packColumn, packedSample_append rfl, ih restLength _ laterLt]
        · rfl
        · intro sample member
          apply small
          simp [member]

/-- Rows one after the other are the whole range. -/
theorem flatMap_range_rows (rows cols : Nat) (pixel : Nat → UInt16) :
    ((List.range rows).flatMap fun r => (List.range cols).map fun c => pixel (r * cols + c)) =
      (List.range (rows * cols)).map pixel := by
  have grouped := flatMap_range_mul (fun index => [pixel index]) cols rows
  simpa only [← List.map_eq_flatMap] using grouped

/-- The pixels of an image by number. -/
theorem map_range_getD (pixels : List UInt16) :
    (List.range pixels.length).map (fun index => pixels.getD index 0) = pixels := by
  apply List.ext_getElem
  · rw [List.length_map, List.length_range]
  · intro index _ inside
    rw [List.getElem_map, List.getElem_range, List.getD_eq_getElem _ _ inside]

section Pack

variable {rows cols : Nat} (shape : rows % 4 = 2) {unused : Nat → Byte}
  {filler : Nat → List Byte}
  (filled : ∀ c, c < cols → (filler c).length = milanStride rows - milanTake rows)
  {pixels : List UInt16} (length : pixels.length = rows * cols)

include shape filled

/-- A packed column fills its block. -/
theorem packColumn_block_length {c : Nat} (cLt : c < cols) :
    (packColumn (unused c) (filler c) (imageColumn rows cols pixels c)).length =
      milanStride rows := by
  have columnLength : (imageColumn rows cols pixels c).length = 4 * (rows / 4) + 2 := by
    rw [imageColumn, List.length_map, List.length_range]
    omega
  rw [packColumn_length _ _ columnLength, filled c cLt]
  unfold milanStride milanTake
  omega

theorem milanPack_length : (milanPack rows cols unused filler pixels).length =
    cols * milanStride rows :=
  joined_length_of_lt fun _ cLt => packColumn_block_length shape filled cLt

theorem milanBlock_pack {c : Nat} (cLt : c < cols) (tail : List Byte) :
    milanBlock rows (milanPack rows cols unused filler pixels ++ tail) c =
      packColumn (unused c) (filler c) (imageColumn rows cols pixels c) :=
  take_drop_joined (fun _ cLt => packColumn_block_length shape filled cLt) cLt tail

include length

/-- The pixels of a packed image are the image. -/
theorem milanPixels_pack (small : ∀ pixel ∈ pixels, pixel.toNat ≤ 4095) (tail : List Byte) :
    milanPixels rows cols (milanPack rows cols unused filler pixels ++ tail) = pixels := by
  have columnSmall : ∀ c, ∀ sample ∈ imageColumn rows cols pixels c, sample.toNat ≤ 4095 := by
    intro c sample member
    obtain ⟨r, _, rfl⟩ := List.mem_map.mp member
    rcases Nat.lt_or_ge (r * cols + c) pixels.length with inside | outside
    · rw [List.getD_eq_getElem _ _ inside]
      exact small _ (List.getElem_mem inside)
    · rw [List.getD_eq_default _ _ outside]
      decide
  have pixelEq : ∀ r, r < rows → ∀ c, c < cols →
      packedSample (milanBlock rows (milanPack rows cols unused filler pixels ++ tail) c) r =
        pixels.getD (r * cols + c) 0 := by
    intro r rLt c cLt
    have columnLength : (imageColumn rows cols pixels c).length = 4 * (rows / 4) + 2 := by
      rw [imageColumn, List.length_map, List.length_range]
      omega
    have inColumn : r < (imageColumn rows cols pixels c).length := by
      rw [imageColumn, List.length_map, List.length_range]
      exact rLt
    rw [milanBlock_pack shape filled cLt,
      packedSample_packColumn _ _ columnLength (columnSmall c) inColumn,
      List.getD_eq_getElem _ _ inColumn]
    simp only [imageColumn, List.getElem_map, List.getElem_range]
  calc milanPixels rows cols (milanPack rows cols unused filler pixels ++ tail)
      = (List.range rows).flatMap fun r =>
          (List.range cols).map fun c => pixels.getD (r * cols + c) 0 := by
        apply List.flatMap_congr
        intro r rMem
        apply List.map_congr_left
        intro c cMem
        exact pixelEq r (List.mem_range.mp rMem) c (List.mem_range.mp cMem)
    _ = (List.range pixels.length).map fun index => pixels.getD index 0 := by
        rw [flatMap_range_rows rows cols fun index => pixels.getD index 0, length]
    _ = pixels := map_range_getD pixels

end Pack

/-! ## Exactness -/

theorem milanPixels_length (rows cols : Nat) (payload : List Byte) :
    (milanPixels rows cols payload).length = rows * cols := by
  apply joined_length_of_lt
  intro r _
  rw [List.length_map, List.length_range]

/-- Pixel `(r, c)` is sample `r` of block `c`. -/
theorem milanPixels_getElem? {rows cols : Nat} (payload : List Byte) {r c : Nat} (rLt : r < rows)
    (cLt : c < cols) :
    (milanPixels rows cols payload)[r * cols + c]? =
      some (packedSample (milanBlock rows payload c) r) := by
  have rowLength : ∀ index, index < rows →
      ((List.range cols).map fun c => packedSample (milanBlock rows payload c) index).length =
        cols := by
    intro index _
    rw [List.length_map, List.length_range]
  have atPixel := getElem?_joined rowLength rLt cLt
  rw [List.getElem?_map, List.getElem?_range cLt] at atPixel
  exact atPixel

theorem milanPixels_le {rows cols : Nat} {payload : List Byte} {pixel : UInt16}
    (member : pixel ∈ milanPixels rows cols payload) : pixel.toNat ≤ 4095 := by
  obtain ⟨r, _, inRow⟩ := List.mem_flatMap.mp member
  obtain ⟨c, _, rfl⟩ := List.mem_map.mp inRow
  exact packedSample_le _ r

/-- `gxfp_decode_milan` is exact for geometries with `rows % 4 = 2`: unless an
allocation fails it succeeds on every payload of whole blocks, pixel `(r, c)` is
sample `r` of block `c` and has twelve bits, it depends on that block only, and
decoding the packing of an image of 12-bit pixels gives the image back. -/
theorem decodeMilan_exact (env : Env) (io : Io) {rows cols : Nat} (shape : rows % 4 = 2)
    (colsPos : 0 < cols) :
    (∀ payload : List Byte, (rows + 2) * 3 / 2 * cols ≤ payload.length →
      ∃ pixels : List UInt16,
        (decodeMilan env io payload rows cols).1 =
            (if env.malloc io.count && env.malloc (io.count + 1) && env.malloc (io.count + 2) then
              .ok ⟨pixels, rows, cols⟩
            else
              .error ENOMEM.rc) ∧
          pixels.length = rows * cols ∧
          (∀ r c, r < rows → c < cols →
            pixels[r * cols + c]? = some (packedSample (milanBlock rows payload c) r)) ∧
          ∀ pixel ∈ pixels, pixel.toNat ≤ 4095) ∧
      ∀ (pixels : List UInt16) (unused : Nat → Byte) (filler : Nat → List Byte) (tail : List Byte),
        pixels.length = rows * cols → (∀ pixel ∈ pixels, pixel.toNat ≤ 4095) →
        (∀ c, c < cols → (filler c).length = milanStride rows - milanTake rows) →
        (decodeMilan env io (milanPack rows cols unused filler pixels ++ tail) rows cols).1 =
          if env.malloc io.count && env.malloc (io.count + 1) && env.malloc (io.count + 2) then
            .ok ⟨pixels, rows, cols⟩
          else
            .error ENOMEM.rc := by
  constructor
  · intro payload enough
    exact ⟨milanPixels rows cols payload, decodeMilan_eq env io shape colsPos enough,
      milanPixels_length rows cols payload, fun r c rLt cLt => milanPixels_getElem? payload rLt cLt,
      fun pixel member => milanPixels_le member⟩
  · intro pixels unused filler tail length small filled
    have enough : milanStride rows * cols ≤
        (milanPack rows cols unused filler pixels ++ tail).length := by
      rw [List.length_append, milanPack_length shape filled, Nat.mul_comm]
      exact Nat.le_add_right _ _
    rw [decodeMilan_eq env io shape colsPos enough, milanPixels_pack shape filled length small tail]

/-- An image of two by two, packed with zeros between the columns. -/
theorem decodeMilan_exact_two_by_two :
    (2 % 4 = 2 ∧ 0 < 2) ∧
      (decodeMilan steadyEnv ⟨0, []⟩
        (milanPack 2 2 (fun _ => 0) (fun _ => [0, 0]) [1, 4095, 256, 15] ++ []) (2 : Nat)
        (2 : Nat)).1 = .ok ⟨[1, 4095, 256, 15], 2, 2⟩ := by
  refine ⟨by decide, ?_⟩
  apply (decodeMilan_exact steadyEnv ⟨0, []⟩ (show 2 % 4 = 2 by decide)
    (show 0 < 2 by decide)).2 [1, 4095, 256, 15] (fun _ => 0) (fun _ => [0, 0]) []
  · rfl
  · intro pixel member
    simp only [List.mem_cons, List.not_mem_nil, or_false] at member
    rcases member with rfl | rfl | rfl | rfl
    · decide
    · decide
    · decide
    · decide
  · intro _ _
    rfl

end Gxfp.User
