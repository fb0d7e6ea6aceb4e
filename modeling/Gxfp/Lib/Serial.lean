import Gxfp.Lib.Bytes

/-!
# Readers of byte streams

A reader takes a value off the front of a byte string and leaves the rest.  It
may instead give up with an exception, or read bytes that are not there; the
two are kept apart, since only the first is an answer.

A writer and a reader fit together in two ways.  `Decodes` says that the reader
gives back what was written, whatever follows; `Exact` says that the reader
accepts nothing but what the writer writes.  The rules carry both through
sequences and through counted lists, down to little-endian words of any width.
-/

namespace Lib.Serial

open Lib.Bytes

universe u

variable {α β : Type u}

/-! ## Little-endian words of any width -/

/-- The `width` bytes of `n` modulo `256 ^ width`, low byte first. -/
def leBytes : Nat → Nat → List Byte
  | 0, _ => []
  | width + 1, n => UInt8.ofNat n :: leBytes width (n / 256)

/-- The number whose bytes are given, low byte first. -/
def leNat : List Byte → Nat
  | [] => 0
  | byte :: rest => byte.toNat + 256 * leNat rest

@[simp]
theorem leBytes_length (width n : Nat) : (leBytes width n).length = width := by
  induction width generalizing n with
  | zero => rfl
  | succ width ih => simp [leBytes, ih]

/-- Reading back a word loses only the bits above it. -/
theorem leNat_leBytes (width n : Nat) : leNat (leBytes width n) = n % 256 ^ width := by
  induction width generalizing n with
  | zero =>
      rw [Nat.pow_zero, Nat.mod_one]
      rfl
  | succ width ih =>
      have low : (UInt8.ofNat n).toNat = n % 256 := UInt8.toNat_ofNat'
      rw [leBytes, leNat, ih, low, Nat.pow_succ', Nat.mod_mul]

/-- A word re-encodes to the bytes it was read from. -/
theorem leBytes_leNat (bytes : List Byte) : leBytes bytes.length (leNat bytes) = bytes := by
  induction bytes with
  | nil => rfl
  | cons byte rest ih =>
      have byteLt := byte.toNat_lt
      have high : (byte.toNat + 256 * leNat rest) / 256 = leNat rest := by omega
      have low : UInt8.ofNat (byte.toNat + 256 * leNat rest) = byte := by
        apply UInt8.toNat_inj.mp
        rw [UInt8.toNat_ofNat']
        omega
      rw [List.length_cons, leBytes, leNat, high, low, ih]

theorem leNat_lt (bytes : List Byte) : leNat bytes < 256 ^ bytes.length := by
  induction bytes with
  | nil => exact Nat.zero_lt_one
  | cons byte rest ih =>
      have byteLt := byte.toNat_lt
      rw [leNat, List.length_cons, Nat.pow_succ']
      omega

/-! ## Readers -/

/-- What reading a value off a stream comes to. -/
inductive Reading (α : Type u)
  | ok (value : α) (rest : List Byte)
  /-- The reader gave up with an exception. -/
  | thrown
  /-- The reader read past the end of the stream. -/
  | outOfBounds

/-- A reader of values of type `α`. -/
def Reader (α : Type u) : Type u :=
  List Byte → Reading α

instance : Monad Reader where
  pure value := fun bytes => .ok value bytes
  bind reader next := fun bytes =>
    match reader bytes with
    | .ok value rest => next value rest
    | .thrown => .thrown
    | .outOfBounds => .outOfBounds

namespace Reader

/-- The reader that gives up. -/
def throw : Reader α := fun _ => .thrown

/-- A sequence of readers goes on where the first one stopped. -/
theorem bind_of_ok {reader : Reader α} {bytes rest : List Byte} {value : α}
    (read : reader bytes = .ok value rest) (next : α → Reader β) :
    (reader >>= next) bytes = next value rest := by
  change (match reader bytes with
    | .ok value rest => next value rest
    | .thrown => .thrown
    | .outOfBounds => .outOfBounds) = _
  rw [read]

/-- A sequence of readers gives up where its first one does. -/
theorem bind_of_thrown {reader : Reader α} {bytes : List Byte} (read : reader bytes = .thrown)
    (next : α → Reader β) : (reader >>= next) bytes = .thrown := by
  change (match reader bytes with
    | .ok value rest => next value rest
    | .thrown => .thrown
    | .outOfBounds => .outOfBounds) = _
  rw [read]

/-- A sequence of readers reads past the end where its first one does. -/
theorem bind_of_outOfBounds {reader : Reader α} {bytes : List Byte}
    (read : reader bytes = .outOfBounds) (next : α → Reader β) :
    (reader >>= next) bytes = .outOfBounds := by
  change (match reader bytes with
    | .ok value rest => next value rest
    | .thrown => .thrown
    | .outOfBounds => .outOfBounds) = _
  rw [read]

/-- A sequence of readers succeeds where both parts do. -/
theorem bind_eq_ok_iff {reader : Reader α} {next : α → Reader β} {bytes rest : List Byte}
    {value : β} :
    (reader >>= next) bytes = .ok value rest ↔
      ∃ first middle, reader bytes = .ok first middle ∧ next first middle = .ok value rest := by
  change (match reader bytes with
    | .ok value rest => next value rest
    | .thrown => .thrown
    | .outOfBounds => .outOfBounds) = _ ↔ _
  cases reading : reader bytes with
  | ok first middle =>
      constructor
      · intro read
        exact ⟨first, middle, rfl, read⟩
      · rintro ⟨other, otherMiddle, same, read⟩
        cases same
        exact read
  | thrown =>
      constructor
      · intro read
        cases read
      · rintro ⟨other, otherMiddle, same, _⟩
        cases same
  | outOfBounds =>
      constructor
      · intro read
        cases read
      · rintro ⟨other, otherMiddle, same, _⟩
        cases same

/-- Read `count` values one after the other. -/
def times (reader : Reader α) : Nat → Reader (List α)
  | 0 => pure []
  | count + 1 => do
      let value ← reader
      let values ← times reader count
      pure (value :: values)

end Reader

/-! ## Readers of a fixed size -/

/-- The reader takes off `size` bytes, and gives up where there are fewer: it never
reads past the end. -/
structure Sized (size : Nat) (reader : Reader α) : Prop where
  short : ∀ bytes, bytes.length < size → reader bytes = .thrown
  enough : ∀ bytes, size ≤ bytes.length → ∃ value, reader bytes = .ok value (bytes.drop size)

theorem Sized.pure (value : α) : Sized 0 (pure value : Reader α) where
  short _ less := absurd less (Nat.not_lt_zero _)
  enough _ _ := ⟨value, rfl⟩

/-- One reader after the other takes off both sizes. -/
theorem Sized.bind {first second : Nat} {reader : Reader α} {next : α → Reader β}
    (sized : Sized first reader) (nextSized : ∀ value, Sized second (next value)) :
    Sized (first + second) (reader >>= next) where
  short := by
    intro bytes less
    by_cases shortFirst : bytes.length < first
    · exact Reader.bind_of_thrown (sized.short bytes shortFirst) next
    · obtain ⟨value, read⟩ := sized.enough bytes (Nat.le_of_not_lt shortFirst)
      rw [Reader.bind_of_ok read]
      apply (nextSized value).short
      rw [List.length_drop]
      omega
  enough := by
    intro bytes more
    obtain ⟨value, read⟩ := sized.enough bytes (by omega)
    obtain ⟨result, readNext⟩ := (nextSized value).enough (bytes.drop first) (by
      rw [List.length_drop]
      omega)
    refine ⟨result, ?_⟩
    rw [Reader.bind_of_ok read, readNext, List.drop_drop]

theorem Sized.times {size : Nat} {reader : Reader α} (sized : Sized size reader) (count : Nat) :
    Sized (size * count) (reader.times count) := by
  induction count with
  | zero => exact Sized.pure []
  | succ count ih =>
      have sizeEq : size * (count + 1) = size + (size * count + 0) := by
        rw [Nat.mul_succ]
        omega
      rw [sizeEq]
      exact sized.bind fun value => ih.bind fun values => Sized.pure (value :: values)

/-! ## Writers and readers that fit together -/

/-- The reader gives `value` back from what the writer wrote, whatever
follows. -/
def Decodes (write : α → List Byte) (reader : Reader α) (value : α) : Prop :=
  ∀ rest, reader (write value ++ rest) = .ok value rest

/-- The reader accepts only what the writer writes. -/
def Exact (write : α → List Byte) (reader : Reader α) : Prop :=
  ∀ bytes value rest, reader bytes = .ok value rest → bytes = write value ++ rest

/-- Written values are read back one after the other. -/
theorem times_flatMap {write : α → List Byte} {reader : Reader α} {values : List α}
    (decodes : ∀ value ∈ values, Decodes write reader value) (rest : List Byte) :
    reader.times values.length (values.flatMap write ++ rest) = .ok values rest := by
  induction values with
  | nil => rfl
  | cons value values ih =>
      have first := decodes value List.mem_cons_self (values.flatMap write ++ rest)
      have others := ih fun other member => decodes other (List.mem_cons_of_mem _ member)
      rw [List.flatMap_cons, List.append_assoc, List.length_cons, Reader.times,
        Reader.bind_of_ok first, Reader.bind_of_ok others]
      rfl

/-- A counted list is read only from the values written one after the other. -/
theorem eq_of_times {write : α → List Byte} {reader : Reader α} (exact_ : Exact write reader)
    {count : Nat} {bytes rest : List Byte} {values : List α}
    (read : reader.times count bytes = .ok values rest) :
    bytes = values.flatMap write ++ rest ∧ values.length = count := by
  induction count generalizing bytes values with
  | zero =>
      cases read
      exact ⟨rfl, rfl⟩
  | succ count ih =>
      obtain ⟨value, middle, first, read⟩ := Reader.bind_eq_ok_iff.mp read
      obtain ⟨others, last, second, done⟩ := Reader.bind_eq_ok_iff.mp read
      cases done
      obtain ⟨middleEq, lengthEq⟩ := ih second
      refine ⟨?_, congrArg Nat.succ lengthEq⟩
      rw [exact_ bytes value middle first, middleEq, List.flatMap_cons, List.append_assoc]

end Lib.Serial
