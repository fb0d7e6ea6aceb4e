import Gxfp.Lib.Bytes

/-!
# Streams of self-delimiting records

A record format has a fixed-size header from which the length of the whole
record can be read without looking further.  A byte stream that is the
concatenation of encoded records then splits into exactly those records: the
first record is the first `need` bytes, and what follows is again such a
stream.
-/

namespace Lib.Framing

open Lib.Bytes

/-- A record type with an encoding whose header announces the encoded length. -/
structure RecordFormat (ρ : Type*) where
  encode : ρ → List Byte
  headerSize : Nat
  headerSize_pos : 0 < headerSize
  /-- The announced length of a record, read from the bytes it starts with. -/
  need : List Byte → Nat
  headerSize_le_length : ∀ record, headerSize ≤ (encode record).length
  need_append : ∀ record rest, need (encode record ++ rest) = (encode record).length

namespace RecordFormat

variable {ρ : Type*} (format : RecordFormat ρ)

/-- The byte stream of a list of records. -/
def stream (records : List ρ) : List Byte :=
  records.flatMap format.encode

@[simp]
theorem stream_nil : format.stream [] = [] :=
  rfl

@[simp]
theorem stream_cons (record : ρ) (records : List ρ) :
    format.stream (record :: records) = format.encode record ++ format.stream records :=
  rfl

theorem stream_append (first second : List ρ) :
    format.stream (first ++ second) = format.stream first ++ format.stream second :=
  List.flatMap_append

theorem stream_singleton (record : ρ) : format.stream [record] = format.encode record := by
  simp

/-- Only the empty list of records has an empty stream. -/
theorem stream_eq_nil_iff (records : List ρ) : format.stream records = [] ↔ records = [] := by
  cases records with
  | nil => simp
  | cons record rest =>
      have headerLe := format.headerSize_le_length record
      have headerPos := format.headerSize_pos
      constructor
      · intro empty
        have lengthEq := congrArg List.length empty
        rw [stream_cons, List.length_append, List.length_nil] at lengthEq
        omega
      · intro empty
        cases empty

/-- A stream that is not empty starts with a whole header. -/
theorem headerSize_le_stream_length {record : ρ} {rest : List ρ} :
    format.headerSize ≤ (format.stream (record :: rest)).length := by
  have headerLe := format.headerSize_le_length record
  rw [stream_cons, List.length_append]
  omega

/-- Records that start two equal byte strings are encoded by the same bytes. -/
theorem encode_inj_of_append {first second : ρ} {rest otherRest : List Byte}
    (same : format.encode first ++ rest = format.encode second ++ otherRest) :
    format.encode first = format.encode second ∧ rest = otherRest := by
  have lengthEq : (format.encode first).length = (format.encode second).length := by
    rw [← format.need_append first rest, same, format.need_append]
  exact List.append_inj same lengthEq

/-- A stream that starts another one consists of the first records of it. -/
theorem prefix_of_stream_prefix (injective : Function.Injective format.encode)
    {records remaining : List ρ} (starts : format.stream records <+: format.stream remaining) :
    records <+: remaining := by
  induction records generalizing remaining with
  | nil => exact List.nil_prefix
  | cons record records ih =>
      cases remaining with
      | nil =>
          have empty := List.prefix_nil.mp starts
          cases (format.stream_eq_nil_iff (record :: records)).mp empty
      | cons other remaining =>
          obtain ⟨rest, joined⟩ := starts
          rw [stream_cons, stream_cons, List.append_assoc] at joined
          obtain ⟨encoded, following⟩ := format.encode_inj_of_append joined
          obtain rfl := injective encoded
          exact List.prefix_cons_inj record |>.mpr (ih ⟨rest, following⟩)

/-- The announced number of bytes is exactly the first record. -/
theorem take_stream_cons (record : ρ) (rest : List ρ) :
    (format.stream (record :: rest)).take (format.encode record).length =
      format.encode record := by
  rw [stream_cons, List.take_left]

/-- After the first record the stream goes on with the others. -/
theorem drop_stream_cons (record : ρ) (rest : List ρ) :
    (format.stream (record :: rest)).drop (format.encode record).length =
      format.stream rest := by
  rw [stream_cons, List.drop_left]

end RecordFormat

end Lib.Framing
