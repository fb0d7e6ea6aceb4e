import Gxfp.Lib.Bytes

/-!
# Type-length-value records

A record is a little-endian 32-bit tag, the 32-bit length of its value, and the
value.  The reader takes records off the front of a byte string as long as a
whole one is there, and leaves the rest.

Records whose tag and length fit their fields are read back one after the
other, whatever short tail follows them, so a string of records has one
reading.
-/

namespace Lib.Tlv

open Lib.Bytes

/-- A tagged value. -/
structure Entry where
  tag : Nat
  value : List Byte
  deriving DecidableEq, Repr

/-- The record of an entry. -/
def Entry.bytes (entry : Entry) : List Byte :=
  le32Bytes entry.tag ++ le32Bytes entry.value.length ++ entry.value

/-- The entry fits the two 32-bit fields of its record. -/
def Entry.Fits (entry : Entry) : Prop :=
  entry.tag < 2 ^ 32 ∧ entry.value.length < 2 ^ 32

/-- Take one record off the front of a byte string. -/
def read : List Byte → Option (Entry × List Byte)
  | t0 :: t1 :: t2 :: t3 :: l0 :: l1 :: l2 :: l3 :: rest =>
      let length := le32 l0 l1 l2 l3
      if length ≤ rest.length then
        some (⟨le32 t0 t1 t2 t3, rest.take length⟩, rest.drop length)
      else
        none
  | _ => none

theorem read_of_short {bytes : List Byte} (short : bytes.length < 8) : read bytes = none := by
  match bytes with
  | t0 :: t1 :: t2 :: t3 :: l0 :: l1 :: l2 :: l3 :: rest =>
      simp only [List.length_cons] at short
      omega
  | [] | [_] | [_, _] | [_, _, _] | [_, _, _, _] | [_, _, _, _, _] | [_, _, _, _, _, _]
  | [_, _, _, _, _, _, _] => rfl

/-- A record is read back, whatever follows. -/
theorem read_bytes {entry : Entry} (fits : entry.Fits) (rest : List Byte) :
    read (entry.bytes ++ rest) = some (entry, rest) := by
  obtain ⟨tagFits, lengthFits⟩ := fits
  have tagEq : entry.tag % 4294967296 = entry.tag := Nat.mod_eq_of_lt tagFits
  have lengthEq : entry.value.length % 4294967296 = entry.value.length :=
    Nat.mod_eq_of_lt lengthFits
  have whole : entry.value.length ≤ (entry.value ++ rest).length := by
    rw [List.length_append]
    exact Nat.le_add_right _ _
  rw [Entry.bytes, le32Bytes, le32Bytes, List.append_assoc, List.append_assoc]
  simp only [List.cons_append, List.nil_append, read, le32_ofNat, tagEq, lengthEq,
    if_pos whole, List.take_left, List.drop_left]

/-- What a reader leaves is shorter than what it was given. -/
theorem length_lt_of_read {bytes rest : List Byte} {entry : Entry}
    (found : read bytes = some (entry, rest)) : rest.length < bytes.length := by
  by_cases short : bytes.length < 8
  · rw [read_of_short short] at found
    cases found
  · match bytes with
    | t0 :: t1 :: t2 :: t3 :: l0 :: l1 :: l2 :: l3 :: tail =>
        rw [read] at found
        by_cases whole : le32 l0 l1 l2 l3 ≤ tail.length
        · rw [if_pos whole] at found
          cases found
          simp only [List.length_drop, List.length_cons]
          omega
        · rw [if_neg whole] at found
          cases found
    | [] | [_] | [_, _] | [_, _, _] | [_, _, _, _] | [_, _, _, _, _] | [_, _, _, _, _, _]
    | [_, _, _, _, _, _, _] => cases found

/-- Take records off the front of a byte string as long as a whole one is
there. -/
def decode (bytes : List Byte) : List Entry × List Byte :=
  match _found : read bytes with
  | none => ([], bytes)
  | some (entry, rest) => (entry :: (decode rest).1, (decode rest).2)
termination_by bytes.length
decreasing_by all_goals exact length_lt_of_read ‹_›

theorem decode_of_short {bytes : List Byte} (short : bytes.length < 8) :
    decode bytes = ([], bytes) := by
  rw [decode]
  split
  · rfl
  · rename_i entry rest found
    rw [read_of_short short] at found
    cases found

theorem decode_cons {entry : Entry} (fits : entry.Fits) (rest : List Byte) :
    decode (entry.bytes ++ rest) = (entry :: (decode rest).1, (decode rest).2) := by
  rw [decode]
  split
  · rename_i found
    rw [read_bytes fits] at found
    cases found
  · rename_i other tail found
    rw [read_bytes fits] at found
    cases found
    rfl

/-- A string of records with a short tail has one reading. -/
theorem decode_flatMap {entries : List Entry} {tail : List Byte}
    (fits : ∀ entry ∈ entries, entry.Fits) (short : tail.length < 8) :
    decode (entries.flatMap Entry.bytes ++ tail) = (entries, tail) := by
  induction entries with
  | nil => exact decode_of_short short
  | cons entry entries ih =>
      have restEq := ih fun other member => fits other (List.mem_cons_of_mem _ member)
      rw [List.flatMap_cons, List.append_assoc, decode_cons (fits entry List.mem_cons_self),
        restEq]

end Lib.Tlv
