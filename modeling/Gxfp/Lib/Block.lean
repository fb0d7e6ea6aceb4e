import Gxfp.Lib.Bytes

/-!
# Allocated blocks

A C function that fills memory it has allocated returns a value, returns an
error code, or writes outside its block; the last is no answer, and nothing is
said about what the program does after it.  `Result` keeps the three apart.

A fresh block holds whatever was left in its memory, given by an arbitrary
function.  `fill` writes pieces one after the other; where they fit, what the
block held before is found only behind the last of them.
-/

namespace Lib.Block

open Lib.Bytes

universe u

variable {α β : Type u}

/-! ## Results -/

/-- What a function that works on allocated memory comes to. -/
inductive Result (α : Type u)
  | ok (value : α)
  /-- The function returned an error code. -/
  | error (rc : Int)
  /-- The function wrote outside a block. -/
  | outOfBounds
  deriving DecidableEq

namespace Result

instance : Monad Result where
  pure := ok
  bind result next :=
    match result with
    | .ok value => next value
    | .error rc => .error rc
    | .outOfBounds => .outOfBounds

@[simp]
theorem ok_bind (value : α) (next : α → Result β) : (ok value >>= next) = next value :=
  rfl

@[simp]
theorem error_bind (rc : Int) (next : α → Result β) : (error rc >>= next) = error rc :=
  rfl

@[simp]
theorem outOfBounds_bind (next : α → Result β) :
    ((outOfBounds : Result α) >>= next) = outOfBounds :=
  rfl

/-- A sequence succeeds where both parts do. -/
theorem bind_eq_ok_iff {result : Result α} {next : α → Result β} {value : β} :
    (result >>= next) = ok value ↔ ∃ first, result = ok first ∧ next first = ok value := by
  cases result with
  | ok first =>
      constructor
      · intro done
        exact ⟨first, rfl, done⟩
      · rintro ⟨other, same, done⟩
        cases same
        exact done
  | error rc =>
      constructor
      · intro done
        cases done
      · rintro ⟨other, same, _⟩
        cases same
  | outOfBounds =>
      constructor
      · intro done
        cases done
      · rintro ⟨other, same, _⟩
        cases same

/-- Return the error code `rc` unless `condition` holds. -/
def require (condition : Prop) [Decidable condition] (rc : Int) : Result PUnit.{u + 1} :=
  if condition then ok ⟨⟩ else error rc

theorem require_eq_ok_iff {condition : Prop} [Decidable condition] {rc : Int} {done : PUnit} :
    require condition rc = ok done ↔ condition := by
  unfold require
  constructor
  · intro passed
    by_contra fails
    rw [if_neg fails] at passed
    cases passed
  · intro holds
    rw [if_pos holds]

theorem require_of {condition : Prop} [Decidable condition] (holds : condition) (rc : Int) :
    require condition rc = ok ⟨⟩ :=
  if_pos holds

theorem require_of_not {condition : Prop} [Decidable condition] (fails : ¬ condition)
    (rc : Int) : require condition rc = error rc :=
  if_neg fails

/-- The result is `value`, or an error code that is returned only where
`failure` holds. -/
def Yields (result : Result α) (value : α) (failure : Prop) : Prop :=
  result = ok value ∨ failure ∧ ∃ rc, result = error rc

namespace Yields

theorem of_eq {result : Result α} {value : α} {failure : Prop} (done : result = ok value) :
    result.Yields value failure :=
  .inl done

theorem require {condition failure : Prop} [Decidable condition]
    (excuses : ¬ condition → failure) (rc : Int) :
    (require condition rc).Yields ⟨⟩ failure := by
  by_cases holds : condition
  · exact .inl (require_of holds rc)
  · exact .inr ⟨excuses holds, rc, require_of_not holds rc⟩

/-- Results in sequence. -/
theorem bind {result : Result α} {next : α → Result β} {first : α} {value : β} {failure : Prop}
    (yields : result.Yields first failure) (then_ : (next first).Yields value failure) :
    (result >>= next).Yields value failure := by
  rcases yields with done | ⟨failed, rc, refused⟩
  · rw [done, ok_bind]
    exact then_
  · rw [refused, error_bind]
    exact .inr ⟨failed, rc, rfl⟩

theorem eq_of_ok {result : Result α} {value other : α} {failure : Prop}
    (yields : result.Yields value failure) (done : result = ok other) : other = value := by
  rcases yields with same | ⟨_, rc, refused⟩
  · cases same.symm.trans done
    rfl
  · exact nomatch refused.symm.trans done

theorem eq_ok {result : Result α} {value : α} {failure : Prop}
    (yields : result.Yields value failure) (succeeds : ¬ failure) : result = ok value := by
  rcases yields with done | ⟨failed, _⟩
  · exact done
  · exact (succeeds failed).elim

end Yields

end Result

/-! ## Blocks -/

/-- A block of `size` elements that holds what was left in its memory. -/
def fresh (stale : Nat → α) (size : Nat) : List α :=
  (List.range size).map stale

@[simp]
theorem fresh_length (stale : Nat → α) (size : Nat) : (fresh stale size).length = size := by
  simp [fresh]

/-- The block after `realloc`: its front is kept, what is new is not set. -/
def resize (block : List α) (stale : Nat → α) (size : Nat) : List α :=
  block.take size ++ fresh stale (size - block.length)

theorem resize_of_le {block : List α} {size : Nat} (grows : block.length ≤ size)
    (stale : Nat → α) : resize block stale size = block ++ fresh stale (size - block.length) := by
  rw [resize, List.take_of_length_le grows]

/-- `memcpy` into a block. -/
def memcpy (block : List α) (off : Nat) (src : List α) : Result (List α) :=
  if off + src.length ≤ block.length then .ok (memcpyAt block off src) else .outOfBounds

/-- `memset` of `count` elements of a block. -/
def memset (block : List α) (off count : Nat) (value : α) : Result (List α) :=
  if off + count ≤ block.length then
    .ok (memcpyAt block off (List.replicate count value))
  else
    .outOfBounds

/-- Write pieces one after the other, from offset `off` on. -/
def fill (block : List α) (off : Nat) : List (List α) → Result (List α)
  | [] => .ok block
  | piece :: pieces => do
      let block ← memcpy block off piece
      fill block (off + piece.length) pieces

/-- Copy pieces to the offsets given with them. -/
def place (block : List α) : List (Nat × List α) → Result (List α)
  | [] => .ok block
  | (off, piece) :: pieces => do
      let block ← memcpy block off piece
      place block pieces

/-- Every piece starts where the one before it ends, the first at `off`. -/
def Consecutive : Nat → List (Nat × List α) → Prop
  | _, [] => True
  | off, (start, piece) :: pieces => start = off ∧ Consecutive (off + piece.length) pieces

/-- A copy behind a known front. -/
theorem memcpy_append {front back src : List α} (fits : src.length ≤ back.length) :
    memcpy (front ++ back) front.length src = .ok (front ++ src ++ back.drop src.length) := by
  have inside : front.length + src.length ≤ (front ++ back).length := by
    rw [List.length_append]
    exact Nat.add_le_add_left fits _
  rw [memcpy, if_pos inside, memcpyAt, List.take_left, List.drop_length_add_append]

theorem memcpy_append_outOfBounds {front back src : List α} (exceeds : back.length < src.length) :
    memcpy (front ++ back) front.length src = .outOfBounds := by
  have outside : ¬ front.length + src.length ≤ (front ++ back).length := by
    rw [List.length_append]
    omega
  rw [memcpy, if_neg outside]

theorem memset_append {front back : List α} {count : Nat} (fits : count ≤ back.length)
    (value : α) :
    memset (front ++ back) front.length count value =
      .ok (front ++ List.replicate count value ++ back.drop count) := by
  have copied := @memcpy_append _ front back (List.replicate count value)
    (by rwa [List.length_replicate])
  rw [memcpy, List.length_replicate] at copied
  exact copied

/-- Pieces that fit are found one after the other. -/
theorem fill_append {front back : List α} {pieces : List (List α)}
    (fits : pieces.flatten.length ≤ back.length) :
    fill (front ++ back) front.length pieces =
      .ok (front ++ pieces.flatten ++ back.drop pieces.flatten.length) := by
  induction pieces generalizing front back with
  | nil => simp [fill]
  | cons piece pieces ih =>
      rw [List.flatten_cons, List.length_append] at fits
      have pieceFits : piece.length ≤ back.length := by omega
      have restFits : pieces.flatten.length ≤ (back.drop piece.length).length := by
        rw [List.length_drop]
        omega
      have rest := @ih (front ++ piece) (back.drop piece.length) restFits
      rw [List.length_append] at rest
      rw [fill, memcpy_append pieceFits, Result.ok_bind, rest, List.flatten_cons,
        List.length_append, List.drop_drop, ← List.append_assoc front]

/-- Pieces that do not fit are written outside the block. -/
theorem fill_append_outOfBounds {front back : List α} {pieces : List (List α)}
    (exceeds : back.length < pieces.flatten.length) :
    fill (front ++ back) front.length pieces = .outOfBounds := by
  induction pieces generalizing front back with
  | nil => cases exceeds
  | cons piece pieces ih =>
      rw [List.flatten_cons, List.length_append] at exceeds
      rw [fill]
      by_cases pieceFits : piece.length ≤ back.length
      · have restExceeds : (back.drop piece.length).length < pieces.flatten.length := by
          rw [List.length_drop]
          omega
        have rest := @ih (front ++ piece) (back.drop piece.length) restExceeds
        rw [List.length_append] at rest
        rw [memcpy_append pieceFits, Result.ok_bind, rest]
      · rw [memcpy_append_outOfBounds (Nat.not_le.mp pieceFits), Result.outOfBounds_bind]

/-- Pieces that fill a block exactly leave nothing of what it held. -/
theorem fill_eq_flatten {block : List α} {pieces : List (List α)}
    (exact_ : pieces.flatten.length = block.length) :
    fill block 0 pieces = .ok pieces.flatten := by
  have filled := @fill_append _ [] block pieces exact_.le
  rw [exact_, List.drop_length, List.append_nil] at filled
  exact filled

/-- Consecutive pieces are written one after the other. -/
theorem place_eq_fill {block : List α} {off : Nat} {pieces : List (Nat × List α)}
    (consecutive : Consecutive off pieces) :
    place block pieces = fill block off (pieces.map Prod.snd) := by
  induction pieces generalizing block off with
  | nil => rfl
  | cons first pieces ih =>
      obtain ⟨start, piece⟩ := first
      obtain ⟨rfl, rest⟩ := consecutive
      rw [place, List.map_cons, fill]
      congr 1
      funext filled
      exact ih rest

/-- Consecutive pieces that fill a block exactly leave nothing of what it
held. -/
theorem place_eq_flatten {block : List α} {pieces : List (Nat × List α)}
    (consecutive : Consecutive 0 pieces)
    (exact_ : (pieces.map Prod.snd).flatten.length = block.length) :
    place block pieces = .ok (pieces.map Prod.snd).flatten := by
  rw [place_eq_fill consecutive, fill_eq_flatten exact_]

end Lib.Block
