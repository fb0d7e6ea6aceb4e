import Mathlib.Data.List.Basic

/-!
# Strings cut into fixed-size pieces

A sequence of pieces of one size, their concatenation, and the number of
pieces a string of a given length takes.
-/

namespace Lib.Chunks

variable {α : Type*}

/-- The first `count` pieces put together. -/
def joined (piece : Nat → List α) (count : Nat) : List α :=
  (List.range count).flatMap piece

/-- The number of pieces of `size` that a string of length `total` takes. -/
def chunkCount (size total : Nat) : Nat :=
  (total + size - 1) / size

@[simp]
theorem joined_zero (piece : Nat → List α) : joined piece 0 = [] :=
  rfl

theorem joined_succ (piece : Nat → List α) (count : Nat) :
    joined piece (count + 1) = joined piece count ++ piece count := by
  rw [joined, List.range_succ, List.flatMap_append]
  simp [joined]

theorem joined_one (piece : Nat → List α) : joined piece 1 = piece 0 := by
  rw [joined_succ, joined_zero, List.nil_append]

/-- The first piece stands in front. -/
theorem joined_succ_left (piece : Nat → List α) (count : Nat) :
    joined piece (count + 1) = piece 0 ++ joined (fun index => piece (index + 1)) count := by
  rw [joined, List.range_succ_eq_map, List.flatMap_cons, List.flatMap_map]
  rfl

/-- Groups of one size taken one after the other are the whole range. -/
theorem flatMap_range_mul (piece : Nat → List α) (size count : Nat) :
    ((List.range count).flatMap fun group =>
        (List.range size).flatMap fun off => piece (group * size + off)) =
      (List.range (count * size)).flatMap piece := by
  induction count with
  | zero => rw [Nat.zero_mul, List.range_zero, List.flatMap_nil, List.flatMap_nil]
  | succ count ih =>
      rw [List.range_succ, List.flatMap_append, ih, List.flatMap_singleton, Nat.succ_mul,
        List.range_add, List.flatMap_append, List.flatMap_map]

theorem joined_length_of_lt {piece : Nat → List α} {size count : Nat}
    (sized : ∀ index, index < count → (piece index).length = size) :
    (joined piece count).length = count * size := by
  induction count with
  | zero => simp
  | succ count ih =>
      rw [joined_succ, List.length_append, sized count (Nat.lt_succ_self count), Nat.succ_mul,
        ih fun index before => sized index (Nat.lt_succ_of_lt before)]

theorem joined_length {piece : Nat → List α} {size : Nat}
    (sized : ∀ index, (piece index).length = size) (count : Nat) :
    (joined piece count).length = count * size :=
  joined_length_of_lt fun index _ => sized index

/-- Position `off` of piece `group` in the concatenation. -/
theorem getElem?_joined {piece : Nat → List α} {size count group off : Nat}
    (sized : ∀ index, index < count → (piece index).length = size)
    (groupLt : group < count) (offLt : off < size) :
    (joined piece count)[group * size + off]? = (piece group)[off]? := by
  induction count with
  | zero => exact absurd groupLt (Nat.not_lt_zero group)
  | succ count ih =>
      have before : ∀ index, index < count → (piece index).length = size :=
        fun index indexLt => sized index (Nat.lt_succ_of_lt indexLt)
      have frontLength := joined_length_of_lt before
      rw [joined_succ]
      rcases Nat.lt_succ_iff_lt_or_eq.mp groupLt with earlier | rfl
      · have inFront : group * size + off < (joined piece count).length := by
          rw [frontLength]
          calc group * size + off
              < group * size + size := Nat.add_lt_add_left offLt _
            _ = (group + 1) * size := (Nat.succ_mul group size).symm
            _ ≤ count * size := Nat.mul_le_mul_right size earlier
        rw [List.getElem?_append_left inFront]
        exact ih before earlier
      · rw [List.getElem?_append_right (by rw [frontLength]; exact Nat.le_add_right _ _),
          frontLength, Nat.add_sub_cancel_left]

/-- Cutting a piece out of the concatenation, whatever follows it. -/
theorem take_drop_joined {piece : Nat → List α} {size count group : Nat}
    (sized : ∀ index, index < count → (piece index).length = size) (groupLt : group < count)
    (tail : List α) :
    ((joined piece count ++ tail).drop (group * size)).take size = piece group := by
  have groupEnd : group * size + size ≤ count * size := by
    rw [← Nat.succ_mul]
    exact Nat.mul_le_mul_right size groupLt
  have frontLength := joined_length_of_lt sized
  apply List.ext_getElem?
  intro off
  by_cases offLt : off < size
  · rw [List.getElem?_take_of_lt offLt, List.getElem?_drop,
      List.getElem?_append_left (by rw [frontLength]; omega),
      getElem?_joined sized groupLt offLt]
  · rw [List.getElem?_take_eq_none (Nat.not_lt.mp offLt), List.getElem?_eq_none]
    rw [sized group groupLt]
    exact Nat.not_lt.mp offLt

/-- Cutting inside the last piece cuts only that piece. -/
theorem take_joined_succ {piece : Nat → List α} {size : Nat}
    (sized : ∀ index, (piece index).length = size) {count total : Nat}
    (beyond : count * size ≤ total) :
    (joined piece (count + 1)).take total =
      joined piece count ++ (piece count).take (total - count * size) := by
  rw [joined_succ, List.take_append, joined_length sized,
    List.take_of_length_le (by rw [joined_length sized]; exact beyond)]

/-- Every piece before the last is needed, and the last one is enough. -/
theorem lt_chunkCount_iff {size : Nat} (sizePos : 0 < size) (total index : Nat) :
    index < chunkCount size total ↔ index * size < total := by
  unfold chunkCount
  rw [Nat.lt_iff_add_one_le, Nat.le_div_iff_mul_le sizePos, Nat.succ_mul]
  omega

theorem chunkCount_eq_succ_iff {size total index : Nat} (sizePos : 0 < size) :
    chunkCount size total = index + 1 ↔
      index * size < total ∧ total ≤ (index + 1) * size := by
  have needed := lt_chunkCount_iff sizePos total index
  have enough := lt_chunkCount_iff sizePos total (index + 1)
  rw [← Nat.not_lt (a := (index + 1) * size), ← needed, ← enough]
  omega

end Lib.Chunks
