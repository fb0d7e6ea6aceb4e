import Mathlib.Data.List.Basic

/-!
# Bounded FIFO

A queue with a fixed capacity, in the shape of the kernel's `kfifo`: `put`
stores as many elements as fit, `get` removes as many as there are, `peek`
reads without removing.  The bound is a field, so an overfull queue cannot be
built.
-/

namespace Lib

/-- A queue of at most `size` elements, oldest first. -/
structure Fifo (α : Type*) where
  items : List α
  size : Nat
  length_le : items.length ≤ size

namespace Fifo

variable {α : Type*}

/-- An empty queue of the given capacity. -/
def empty (size : Nat) : Fifo α :=
  ⟨[], size, Nat.zero_le size⟩

/-- Number of queued elements. -/
def len (fifo : Fifo α) : Nat :=
  fifo.items.length

/-- Free room. -/
def avail (fifo : Fifo α) : Nat :=
  fifo.size - fifo.items.length

def isEmpty (fifo : Fifo α) : Bool :=
  fifo.items.isEmpty

/-- Append as many elements as fit. -/
def put (fifo : Fifo α) (new : List α) : Fifo α where
  items := fifo.items ++ new.take fifo.avail
  size := fifo.size
  length_le := by
    have bound := fifo.length_le
    have takenLe : (new.take fifo.avail).length ≤ fifo.avail := List.length_take_le _ _
    rw [List.length_append]
    unfold avail at takenLe
    unfold avail
    omega

/-- The first `n` elements, or all if there are fewer. -/
def peek (fifo : Fifo α) (n : Nat) : List α :=
  fifo.items.take n

/-- Remove the first `n` elements, or all if there are fewer. -/
def drop (fifo : Fifo α) (n : Nat) : Fifo α where
  items := fifo.items.drop n
  size := fifo.size
  length_le := by
    rw [List.length_drop]
    exact Nat.le_trans (Nat.sub_le _ _) fifo.length_le

/-- Forget everything queued. -/
def reset (fifo : Fifo α) : Fifo α :=
  empty fifo.size

@[simp]
theorem put_size (fifo : Fifo α) (new : List α) : (fifo.put new).size = fifo.size :=
  rfl

@[simp]
theorem drop_items (fifo : Fifo α) (n : Nat) : (fifo.drop n).items = fifo.items.drop n :=
  rfl

/-- What fits is stored whole. -/
theorem put_items {fifo : Fifo α} {new : List α} (fits : new.length ≤ fifo.avail) :
    (fifo.put new).items = fifo.items ++ new := by
  change fifo.items ++ new.take fifo.avail = fifo.items ++ new
  rw [List.take_of_length_le fits]

theorem put_avail {fifo : Fifo α} {new : List α} (fits : new.length ≤ fifo.avail) :
    (fifo.put new).avail = fifo.avail - new.length := by
  unfold avail
  rw [put_items fits, put_size, List.length_append, Nat.sub_sub]

/-- Two stores of pieces that fit together store their concatenation. -/
theorem put_put_items {fifo : Fifo α} {first second : List α}
    (fits : first.length + second.length ≤ fifo.avail) :
    ((fifo.put first).put second).items = fifo.items ++ (first ++ second) := by
  have firstFits : first.length ≤ fifo.avail :=
    Nat.le_trans (Nat.le_add_right _ _) fits
  have secondFits : second.length ≤ (fifo.put first).avail := by
    rw [put_avail firstFits]
    omega
  rw [put_items secondFits, put_items firstFits, List.append_assoc]

end Fifo

end Lib
