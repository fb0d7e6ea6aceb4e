import Gxfp.Lib.Chunks
import Gxfp.Lib.Stores
import Gxfp.User.Samples

/-!
# Decoding of packed Chicago images

`gxfp_decode_chicago` unpacks four samples from every six bytes and stores them
column by column, surplus samples through the same index and behind an upper
bound only.  The stores of a call are written down here as a list, so that one
can say which positions are written, how often, and with what.

A call succeeds when it unpacks exactly as many samples as the image has
positions.  The index is then a bijection, so every position is stored once.
-/

namespace Gxfp.User

open Lib.Bytes
open Lib.Chunks
open Lib.Stores
open Gxfp.Errno

/-! ## The stores of a call -/

/-- Where sample `index` of a payload of length `payloadLen` goes. -/
def chicagoDst (rows cols payloadLen index : Nat) : Nat :=
  if payloadLen = 0x960 then index else index % rows * cols + index / rows

/-- The store of one sample, if the bound lets it through. -/
def chicagoStoreWrites (rows cols : Nat) (transpose : Bool) (index : Nat) (sample : UInt16) :
    List (Nat × UInt16) :=
  let dst := if transpose then index % rows * cols + index / rows else index
  if dst < rows * cols then [(dst, sample)] else []

/-- The stores of one round of the loop. -/
def chicagoRoundWrites (rows cols : Nat) (transpose : Bool) (payload : List Byte)
    (outIdx inOff : Nat) : List (Nat × UInt16) :=
  let b (index : Nat) : Byte := payload.getD (inOff + index) 0
  let samples := unpackSample4 (b 0) (b 1) (b 2) (b 3) (b 4) (b 5)
  (List.range 4).flatMap fun off =>
    chicagoStoreWrites rows cols transpose (outIdx + off) (samples.getD off 0)

/-- The stores of the first rounds of the loop. -/
def chicagoRoundsWrites (rows cols : Nat) (payload : List Byte) (rounds : Nat) :
    List (Nat × UInt16) :=
  (List.range rounds).flatMap fun round =>
    chicagoRoundWrites rows cols (payload.length ≠ 0x960) payload (round * 4) (round * 6)

/-- The stores of a call that reaches the loop. -/
def chicagoWrites (rows cols : Nat) (payload : List Byte) : List (Nat × UInt16) :=
  chicagoRoundsWrites rows cols payload (payload.length / 6)

/-! ## The loop performs these stores -/

theorem chicagoStore_eq_stores (rows cols : Nat) (transpose : Bool) (pixels : List UInt16)
    (index : Nat) (sample : UInt16) :
    chicagoStore rows cols transpose pixels index sample =
      stores pixels (chicagoStoreWrites rows cols transpose index sample) := by
  unfold chicagoStore chicagoStoreWrites
  dsimp only
  generalize (if transpose then index % rows * cols + index / rows else index) = dst
  by_cases inside : dst < rows * cols
  · rw [if_pos inside, if_pos inside]
    rfl
  · rw [if_neg inside, if_neg inside]
    rfl

/-- Stores one after the other are the list of the stores. -/
theorem foldl_stores (pixels : List UInt16) (writes : Nat → List (Nat × UInt16))
    (offs : List Nat) :
    offs.foldl (fun pixels off => stores pixels (writes off)) pixels =
      stores pixels (offs.flatMap writes) := by
  induction offs generalizing pixels with
  | nil => rfl
  | cons off offs ih => rw [List.foldl_cons, ih, List.flatMap_cons, stores_append]

theorem chicagoLoopStep_eq (rows cols : Nat) (transpose : Bool) (payload : List Byte)
    (loop : ChicagoLoop) (inOff : Nat) :
    chicagoLoopStep rows cols transpose payload loop inOff =
      ⟨loop.outIdx + 4,
        stores loop.pixels
          (chicagoRoundWrites rows cols transpose payload loop.outIdx inOff)⟩ := by
  unfold chicagoLoopStep chicagoRoundWrites
  simp only [chicagoStore_eq_stores, foldl_stores]

/-- The loop after any number of rounds. -/
theorem chicagoLoop_eq (rows cols : Nat) (payload : List Byte) (pixels : List UInt16)
    (rounds : Nat) :
    ((List.range rounds).map fun index => index * 6).foldl
        (chicagoLoopStep rows cols (payload.length ≠ 0x960) payload) ⟨0, pixels⟩ =
      ⟨rounds * 4, stores pixels (chicagoRoundsWrites rows cols payload rounds)⟩ := by
  induction rounds with
  | zero => rfl
  | succ rounds ih =>
      rw [List.range_succ, List.map_append, List.foldl_append, ih, List.map_singleton,
        List.foldl_cons, List.foldl_nil, chicagoLoopStep_eq, Nat.succ_mul]
      unfold chicagoRoundsWrites
      rw [List.range_succ, List.flatMap_append, stores_append, List.flatMap_singleton]

/-- `gxfp_decode_chicago` on packed samples, as its stores. -/
theorem decodeChicago_packed_eq (env : Env) (io : Io) {payload : List Byte} {rows cols : Nat}
    (rowsPos : 0 < rows) (colsPos : 0 < cols) (enough : 6 ≤ payload.length) :
    (decodeChicago env io payload rows cols false).1 =
      if env.malloc io.count = false then
        .error ENOMEM.rc
      else if 4 * (payload.length / 6) = rows * cols then
        .ok
          ⟨stores (List.replicate (rows * cols) 0) (chicagoWrites rows cols payload), rows, cols⟩
      else
        .error ( EIO.rc) := by
  have positive : ¬ ((rows : Int) ≤ 0 ∨ (cols : Int) ≤ 0) := by omega
  have long : ¬ payload.length < 6 := by omega
  unfold decodeChicago
  simp only [if_neg positive, Int.toNat_natCast, if_neg long, Bool.false_eq_true, if_false,
    chicagoLoop_eq]
  rw [Nat.mul_comm (payload.length / 6) 4]
  cases env.malloc io.count with
  | false => rfl
  | true =>
      by_cases filled : 4 * (payload.length / 6) = rows * cols
      · simp [filled, chicagoWrites]
      · simp [filled]

/-! ## Sample by sample -/

theorem chicagoWrites_eq (rows cols : Nat) (payload : List Byte) :
    chicagoWrites rows cols payload =
      (List.range (payload.length / 6 * 4)).flatMap fun index =>
        chicagoStoreWrites rows cols (payload.length ≠ 0x960) index
          (packedSample payload index) := by
  rw [← flatMap_range_mul]
  unfold chicagoWrites chicagoRoundsWrites chicagoRoundWrites
  apply List.flatMap_congr
  intro round _
  apply List.flatMap_congr
  intro off offMem
  have offLt : off < 4 := List.mem_range.mp offMem
  have quotient : (round * 4 + off) / 4 = round := by omega
  have remainder : (round * 4 + off) % 4 = off := by omega
  unfold packedSample
  rw [quotient, remainder]

theorem chicagoStoreWrites_eq (rows cols payloadLen index : Nat) (sample : UInt16) :
    chicagoStoreWrites rows cols (payloadLen ≠ 0x960) index sample =
      if chicagoDst rows cols payloadLen index < rows * cols then
        [(chicagoDst rows cols payloadLen index, sample)]
      else
        [] := by
  unfold chicagoStoreWrites chicagoDst
  by_cases nav : payloadLen = 0x960
  · simp [nav]
  · simp [nav]

/-- No store falls outside the image, also where the call fails. -/
theorem chicagoWrites_inside (rows cols : Nat) (payload : List Byte) (write : Nat × UInt16)
    (member : write ∈ chicagoWrites rows cols payload) : write.1 < rows * cols := by
  rw [chicagoWrites_eq, List.mem_flatMap] at member
  rcases member with ⟨index, _, stored⟩
  rw [chicagoStoreWrites_eq] at stored
  by_cases inside : chicagoDst rows cols payload.length index < rows * cols
  · rw [if_pos inside, List.mem_singleton] at stored
    rw [stored]
    exact inside
  · rw [if_neg inside] at stored
    cases stored

/-- What is stored are samples of twelve bits. -/
theorem chicagoWrites_le {rows cols : Nat} {payload : List Byte} {write : Nat × UInt16}
    (member : write ∈ chicagoWrites rows cols payload) : write.2.toNat ≤ 4095 := by
  rw [chicagoWrites_eq, List.mem_flatMap] at member
  rcases member with ⟨index, _, stored⟩
  rw [chicagoStoreWrites_eq] at stored
  split at stored
  · rw [List.mem_singleton] at stored
    rw [stored]
    exact packedSample_le payload index
  · cases stored

/-! ## The index is a bijection -/

theorem transposed_lt {rows cols index : Nat} (rowsPos : 0 < rows) (inside : index < rows * cols) :
    index % rows * cols + index / rows < rows * cols := by
  have column : index / rows < cols := Nat.div_lt_of_lt_mul inside
  have row : index % rows + 1 ≤ rows := Nat.mod_lt index rowsPos
  calc index % rows * cols + index / rows
      < index % rows * cols + cols := Nat.add_lt_add_left column _
    _ = (index % rows + 1) * cols := (Nat.succ_mul _ _).symm
    _ ≤ rows * cols := Nat.mul_le_mul_right cols row

theorem transposed_div_mod {rows cols index : Nat} (inside : index < rows * cols) :
    (index % rows * cols + index / rows) / cols = index % rows ∧
      (index % rows * cols + index / rows) % cols = index / rows := by
  have column : index / rows < cols := Nat.div_lt_of_lt_mul inside
  have colsPos : 0 < cols := Nat.lt_of_le_of_lt (Nat.zero_le _) column
  constructor
  · rw [Nat.add_comm, Nat.add_mul_div_right _ _ colsPos, Nat.div_eq_of_lt column, Nat.zero_add]
  · rw [Nat.add_comm, Nat.add_mul_mod_self_right, Nat.mod_eq_of_lt column]

theorem chicagoDst_lt {rows cols payloadLen index : Nat} (rowsPos : 0 < rows)
    (inside : index < rows * cols) : chicagoDst rows cols payloadLen index < rows * cols := by
  unfold chicagoDst
  split
  · exact inside
  · exact transposed_lt rowsPos inside

theorem chicagoDst_injective {rows cols payloadLen first second : Nat}
    (firstInside : first < rows * cols) (secondInside : second < rows * cols)
    (same : chicagoDst rows cols payloadLen first = chicagoDst rows cols payloadLen second) :
    first = second := by
  unfold chicagoDst at same
  split at same
  · exact same
  · have firstParts := transposed_div_mod firstInside
    have secondParts := transposed_div_mod secondInside
    rw [same] at firstParts
    have row : first % rows = second % rows := firstParts.1.symm.trans secondParts.1
    have column : first / rows = second / rows := firstParts.2.symm.trans secondParts.2
    rw [← Nat.div_add_mod first rows, row, column, Nat.div_add_mod]

/-- Every position is the destination of a sample. -/
theorem chicagoDst_surjective {rows cols payloadLen dst : Nat} (inside : dst < rows * cols) :
    ∃ index, index < rows * cols ∧ chicagoDst rows cols payloadLen index = dst := by
  by_cases nav : payloadLen = 0x960
  · exact ⟨dst, inside, if_pos nav⟩
  · have turned : dst < cols * rows := by
      rw [Nat.mul_comm]
      exact inside
    have colsPos : 0 < cols := Nat.pos_of_mul_pos_right (Nat.lt_of_le_of_lt (Nat.zero_le _) turned)
    refine ⟨dst % cols * rows + dst / cols, ?_, ?_⟩
    · rw [Nat.mul_comm rows cols]
      exact transposed_lt colsPos turned
    · have parts := transposed_div_mod turned
      unfold chicagoDst
      rw [if_neg nav, parts.1, parts.2, Nat.mul_comm, Nat.div_add_mod]

/-- While the lengths are in the range of an `int`, so are the offsets and the
destinations of the loop, also those of surplus samples. -/
theorem chicago_in_int_range {rows cols payloadLen index : Nat} (rowsPos : 0 < rows)
    (totalFits : rows * cols ≤ 2147483647) (lengthFits : payloadLen + 6 ≤ 2147483647)
    (unpacked : index < 4 * (payloadLen / 6)) :
    payloadLen / 6 * 6 + 6 ≤ 2147483647 ∧
      index % rows * cols + index / rows ≤ 2147483647 := by
  constructor
  · omega
  · have row : index % rows + 1 ≤ rows := Nat.mod_lt index rowsPos
    -- Both sides are scaled by `rows`, so that the quotient becomes the index.
    apply Nat.le_of_mul_le_mul_left _ rowsPos
    have quotient : rows * (index / rows) ≤ 2147483647 := by
      have division := Nat.mul_div_le index rows
      omega
    have scaled : rows * (index % rows * cols) ≤ (rows - 1) * 2147483647 := by
      calc rows * (index % rows * cols)
          = index % rows * (rows * cols) := by ring
        _ ≤ (rows - 1) * 2147483647 := Nat.mul_le_mul (by omega) totalFits
    have total : rows * 2147483647 = (rows - 1) * 2147483647 + 2147483647 := by omega
    rw [Nat.mul_add, total]
    exact Nat.add_le_add scaled quotient

/-! ## A filled image -/

/-- Where the samples fill the image exactly, the stores are one for each
sample. -/
theorem chicagoWrites_of_filled {rows cols : Nat} {payload : List Byte} (rowsPos : 0 < rows)
    (filled : 4 * (payload.length / 6) = rows * cols) :
    chicagoWrites rows cols payload =
      (List.range (rows * cols)).map fun index =>
        (chicagoDst rows cols payload.length index, packedSample payload index) := by
  rw [chicagoWrites_eq, Nat.mul_comm, filled, List.map_eq_flatMap]
  apply List.flatMap_congr
  intro index indexMem
  rw [chicagoStoreWrites_eq, if_pos (chicagoDst_lt rowsPos (List.mem_range.mp indexMem))]

theorem chicagoWrites_fst_of_filled {rows cols : Nat} {payload : List Byte} (rowsPos : 0 < rows)
    (filled : 4 * (payload.length / 6) = rows * cols) :
    (chicagoWrites rows cols payload).map Prod.fst =
      (List.range (rows * cols)).map (chicagoDst rows cols payload.length) := by
  rw [chicagoWrites_of_filled rowsPos filled, List.map_map]
  rfl

theorem chicagoWrites_distinct {rows cols : Nat} {payload : List Byte} (rowsPos : 0 < rows)
    (filled : 4 * (payload.length / 6) = rows * cols) :
    ((chicagoWrites rows cols payload).map Prod.fst).Nodup := by
  rw [chicagoWrites_fst_of_filled rowsPos filled]
  apply List.Nodup.map_on
  · intro first firstMem second secondMem same
    exact chicagoDst_injective (List.mem_range.mp firstMem) (List.mem_range.mp secondMem) same
  · exact List.nodup_range

/-- Every position is stored exactly once. -/
theorem chicagoWrites_count {rows cols : Nat} {payload : List Byte} (rowsPos : 0 < rows)
    (filled : 4 * (payload.length / 6) = rows * cols) {dst : Nat} (inside : dst < rows * cols) :
    ((chicagoWrites rows cols payload).map Prod.fst).count dst = 1 := by
  apply List.count_eq_one_of_mem (chicagoWrites_distinct rowsPos filled)
  rw [chicagoWrites_fst_of_filled rowsPos filled, List.mem_map]
  rcases @chicagoDst_surjective rows cols payload.length dst inside with ⟨index, indexLt, atDst⟩
  exact ⟨index, List.mem_range.mpr indexLt, atDst⟩

/-- Every sample is found at its destination. -/
theorem chicago_pixel_of_filled {rows cols : Nat} {payload : List Byte} (rowsPos : 0 < rows)
    (filled : 4 * (payload.length / 6) = rows * cols) {index : Nat} (inside : index < rows * cols) :
    (stores (List.replicate (rows * cols) 0)
        (chicagoWrites rows cols payload))[chicagoDst rows cols payload.length index]? =
      some (packedSample payload index) := by
  have member : (chicagoDst rows cols payload.length index, packedSample payload index) ∈
      chicagoWrites rows cols payload := by
    rw [chicagoWrites_of_filled rowsPos filled]
    exact List.mem_map_of_mem (List.mem_range.mpr inside)
  apply getElem?_stores_of_mem (chicagoWrites_distinct rowsPos filled) member
  rw [List.length_replicate]
  exact chicagoDst_lt rowsPos inside

/-- `gxfp_decode_chicago` on packed samples: it succeeds exactly when the
samples fill the image (and the image can be allocated), it then has stored
every position once and sample by sample, and it never stores outside. -/
theorem decodeChicago_packed (env : Env) (io : Io) (payload : List Byte) {rows cols : Nat}
    (rowsPos : 1 ≤ rows) (colsPos : 1 ≤ cols) (enough : 6 ≤ payload.length) :
    ((∃ image, (decodeChicago env io payload rows cols false).1 = .ok image) ↔
        env.malloc io.count = true ∧ 4 * (payload.length / 6) = rows * cols) ∧
      (∀ image, (decodeChicago env io payload rows cols false).1 = .ok image →
        image.rows = rows ∧ image.cols = cols ∧
          image.pixels =
            stores (List.replicate (rows * cols) 0) (chicagoWrites rows cols payload) ∧
          (∀ dst, dst < rows * cols →
            ((chicagoWrites rows cols payload).map Prod.fst).count dst = 1) ∧
          ∀ index, index < rows * cols →
            image.pixels[if payload.length = 0x960 then index
                else index % rows * cols + index / rows]? =
              some (packedSample payload index)) ∧
      ∀ write ∈ chicagoWrites rows cols payload, write.1 < rows * cols := by
  have result := decodeChicago_packed_eq env io rowsPos colsPos enough
  refine ⟨?_, ?_, chicagoWrites_inside rows cols payload⟩
  · rw [result]
    by_cases failed : env.malloc io.count = false
    · simp [failed]
    · by_cases filled : 4 * (payload.length / 6) = rows * cols
      · simp [failed, filled]
      · simp [failed, filled]
  · intro image succeeded
    rw [result] at succeeded
    by_cases failed : env.malloc io.count = false
    · rw [if_pos failed] at succeeded
      cases succeeded
    · rw [if_neg failed] at succeeded
      by_cases filled : 4 * (payload.length / 6) = rows * cols
      · rw [if_pos filled] at succeeded
        cases succeeded
        refine ⟨rfl, rfl, rfl, ?_, ?_⟩
        · intro dst inside
          exact chicagoWrites_count rowsPos filled inside
        · intro index inside
          exact chicago_pixel_of_filled rowsPos filled inside
      · rw [if_neg filled] at succeeded
        cases succeeded

/-- Six bytes on an image of two by two. -/
theorem decodeChicago_packed_two_by_two :
    (1 ≤ 2 ∧ 6 ≤ [0x21, 0x43, 0x65, 0x87, 0xA9, (0xCB : Byte)].length) ∧
      ∃ image, (decodeChicago steadyEnv ⟨0, []⟩ [0x21, 0x43, 0x65, 0x87, 0xA9, 0xCB] (2 : Nat)
        (2 : Nat) false).1 = .ok image ∧
        image.pixels[2]? = some (packedSample [0x21, 0x43, 0x65, 0x87, 0xA9, 0xCB] 1) := by
  have general := decodeChicago_packed steadyEnv ⟨0, []⟩ [0x21, 0x43, 0x65, 0x87, 0xA9, 0xCB]
    (show 1 ≤ 2 by decide) (show 1 ≤ 2 by decide) (by decide)
  refine ⟨by decide, ?_⟩
  obtain ⟨image, succeeded⟩ := general.1.mpr ⟨rfl, rfl⟩
  have pixels := (general.2.1 image succeeded).2.2.2.2
  exact ⟨image, succeeded, pixels 1 (by decide)⟩

end Gxfp.User
