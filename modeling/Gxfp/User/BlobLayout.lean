import Gxfp.Lib.Tlv
import Gxfp.User.Provision

/-!
# The layout of a container

`BB010002` containers against a reader of type-length-value records.  Where the
block is large enough, the container is the two records with the padding the
caller asked for; a reader finds them again and nothing else, and padding while
building comes to the same as aligning before the upload.

The size of the block is computed on 64 bits and rounded with a mask of 32, so
the block is too small exactly where the rounded size passes `2 ^ 32`.
-/

namespace Gxfp.User.Provision

open Lib.Bytes
open Lib.Block
open Lib.Tlv

/-! ## The size of the block -/

theorem bb010002Checks_eq_ok_iff {sealedPskLen wbDataLen : Nat} :
    bb010002Checks sealedPskLen wbDataLen = .ok ⟨⟩ ↔
      sealedPskLen ≤ 0xFFFFFFFF - 8 ∧ wbDataLen ≤ 0xFFFFFFFF := by
  rw [bb010002Checks, Result.bind_eq_ok_iff]
  constructor
  · rintro ⟨_, sealedFits, wbFits⟩
    exact ⟨Result.require_eq_ok_iff.mp sealedFits, Result.require_eq_ok_iff.mp wbFits⟩
  · rintro ⟨sealedFits, wbFits⟩
    exact ⟨⟨⟩, Result.require_eq_ok_iff.mpr sealedFits, Result.require_eq_ok_iff.mpr wbFits⟩

/-- The bytes of padding a container is built with. -/
def containerPad (total : Nat) (pad4 : Bool) : Nat :=
  if pad4 then padLen total else 0

theorem containerPad_le (total : Nat) (pad4 : Bool) : containerPad total pad4 ≤ 3 := by
  unfold containerPad
  split
  · exact padLen_le total
  · exact Nat.zero_le 3

/-- Lengths that pass the checks do not overflow the sum. -/
theorem bb010002OutLen_eq {sealedPskLen wbDataLen : Nat} (pad4 : Bool)
    (checked : bb010002Checks sealedPskLen wbDataLen = .ok ⟨⟩) :
    bb010002OutLen sealedPskLen wbDataLen pad4 =
      if pad4 then alignLen (24 + sealedPskLen + wbDataLen)
      else 24 + sealedPskLen + wbDataLen := by
  obtain ⟨sealedFits, wbFits⟩ := bb010002Checks_eq_ok_iff.mp checked
  have sum : (8 + sealedPskLen + 8 + 8 + wbDataLen) % 2 ^ 64 =
      24 + sealedPskLen + wbDataLen := by
    omega
  rw [bb010002OutLen, sum]

/-- Where the mask loses nothing, the block has the fields and the padding. -/
theorem bb010002OutLen_of_lt {sealedPskLen wbDataLen : Nat} {pad4 : Bool}
    (checked : bb010002Checks sealedPskLen wbDataLen = .ok ⟨⟩)
    (small : pad4 = false ∨ 24 + sealedPskLen + wbDataLen + 3 < 2 ^ 32) :
    bb010002OutLen sealedPskLen wbDataLen pad4 =
      24 + sealedPskLen + wbDataLen + containerPad (24 + sealedPskLen + wbDataLen) pad4 := by
  rw [bb010002OutLen_eq pad4 checked, containerPad]
  cases pad4 with
  | false => simp
  | true =>
      rcases small with absurd_ | small
      · cases absurd_
      · simp only [if_true]
        exact alignLen_of_lt small

/-- The block has room for what is written, and at most three bytes more,
exactly if it is not padded or the sum rounds up below `2 ^ 32`. -/
theorem bb010002OutLen_covers_iff {sealedPskLen wbDataLen : Nat} {pad4 : Bool}
    (checked : bb010002Checks sealedPskLen wbDataLen = .ok ⟨⟩) :
    (24 + sealedPskLen + wbDataLen ≤ bb010002OutLen sealedPskLen wbDataLen pad4 ∧
        bb010002OutLen sealedPskLen wbDataLen pad4 ≤ 24 + sealedPskLen + wbDataLen + 3) ↔
      pad4 = false ∨ 24 + sealedPskLen + wbDataLen ≤ 2 ^ 32 - 4 := by
  constructor
  · rintro ⟨covers, _⟩
    by_contra neither
    rw [not_or] at neither
    obtain ⟨padded, large⟩ := neither
    have short := @alignLen_of_le (24 + sealedPskLen + wbDataLen) (by omega)
    rw [bb010002OutLen_eq pad4 checked, if_pos (Bool.eq_true_of_not_eq_false padded)] at covers
    omega
  · intro small
    have le := containerPad_le (24 + sealedPskLen + wbDataLen) pad4
    rw [bb010002OutLen_of_lt checked (small.imp_right fun _ => by omega)]
    omega

/-- The smallest container may be padded. -/
theorem bb010002OutLen_covers_iff_small :
    bb010002Checks 0 1 = .ok ⟨⟩ ∧
      ((24 + 0 + 1 ≤ bb010002OutLen 0 1 true ∧ bb010002OutLen 0 1 true ≤ 24 + 0 + 1 + 3) ↔
        true = false ∨ 24 + 0 + 1 ≤ 2 ^ 32 - 4) :=
  ⟨by decide, bb010002OutLen_covers_iff (by decide)⟩

/-- Data of `2 ^ 32 - 1` bytes pass the checks, and a padded block for them has
24 bytes. -/
theorem bb010002OutLen_wraps :
    bb010002Checks 0 0xFFFFFFFF = .ok ⟨⟩ ∧ bb010002OutLen 0 0xFFFFFFFF true = 24 ∧
      ¬ (24 + 0 + 0xFFFFFFFF ≤ bb010002OutLen 0 0xFFFFFFFF true ∧
        bb010002OutLen 0 0xFFFFFFFF true ≤ 24 + 0 + 0xFFFFFFFF + 3) := by
  decide

/-! ## What is written -/

/-- The records of a container. -/
def containerEntries (sealedPsk : List Byte) (seed8 : Vector Byte 8) (wbData : List Byte) :
    List Entry :=
  [⟨0xBB010002, sealedPsk ++ seed8.toList⟩, ⟨0xBB010003, wbData⟩]

/-- The fields are the records. -/
theorem bb010002Fields_flatten (sealedPsk : List Byte) (seed8 : Vector Byte 8)
    (wbData : List Byte) :
    (bb010002Fields sealedPsk seed8 wbData).flatten =
      (containerEntries sealedPsk seed8 wbData).flatMap Entry.bytes := by
  have valueLength : (sealedPsk ++ seed8.toList).length = sealedPsk.length + 8 := by
    rw [List.length_append, Vector.length_toList]
  simp only [bb010002Fields, containerEntries, List.flatten_cons, List.flatten_nil,
    List.flatMap_cons, List.flatMap_nil, Entry.bytes, valueLength, List.append_assoc]

/-- The fields take 24 bytes beside the data. -/
theorem bb010002Fields_length (sealedPsk : List Byte) (seed8 : Vector Byte 8)
    (wbData : List Byte) :
    (bb010002Fields sealedPsk seed8 wbData).flatten.length =
      24 + sealedPsk.length + wbData.length := by
  simp only [bb010002Fields, List.flatten_cons, List.flatten_nil, List.length_append,
    le32Bytes_length, Vector.length_toList, List.length_nil]
  omega

/-- What is built once the checks have passed. -/
theorem payloadBuildBb010002_of_checked {sealedPsk wbData : List Byte} {seed8 : Vector Byte 8}
    (pad4 : Bool) (nonempty : wbData ≠ [])
    (checked : bb010002Checks sealedPsk.length wbData.length = .ok ⟨⟩) :
    payloadBuildBb010002 true sealedPsk seed8 wbData pad4 =
      fill ([] ++ List.replicate (bb010002OutLen sealedPsk.length wbData.length pad4) 0)
        ([] : List Byte).length (bb010002Fields sealedPsk seed8 wbData) := by
  have present : wbData.length ≠ 0 := fun empty => nonempty (List.length_eq_zero_iff.mp empty)
  rw [payloadBuildBb010002, Result.require_of present, Result.ok_bind, checked, Result.ok_bind,
    Result.require_of rfl, Result.ok_bind]
  rfl

/-- A container in a block that is large enough is its records and the
padding. -/
theorem payloadBuildBb010002_of_lt {sealedPsk wbData : List Byte} {seed8 : Vector Byte 8}
    {pad4 : Bool} (nonempty : wbData ≠ [])
    (checked : bb010002Checks sealedPsk.length wbData.length = .ok ⟨⟩)
    (small : pad4 = false ∨ 24 + sealedPsk.length + wbData.length + 3 < 2 ^ 32) :
    payloadBuildBb010002 true sealedPsk seed8 wbData pad4 =
      .ok ((containerEntries sealedPsk seed8 wbData).flatMap Entry.bytes ++
        List.replicate (containerPad (24 + sealedPsk.length + wbData.length) pad4) 0) := by
  have written := bb010002Fields_length sealedPsk seed8 wbData
  have room := bb010002OutLen_of_lt checked small
  have fits : (bb010002Fields sealedPsk seed8 wbData).flatten.length ≤
      (List.replicate (bb010002OutLen sealedPsk.length wbData.length pad4) (0 : Byte)).length := by
    rw [List.length_replicate]
    omega
  rw [payloadBuildBb010002_of_checked pad4 nonempty checked, fill_append fits,
    List.drop_replicate, room, written, bb010002Fields_flatten, List.nil_append,
    Nat.add_sub_cancel_left]

/-- The builder writes outside its block exactly where the size has wrapped. -/
theorem payloadBuildBb010002_outOfBounds_iff {sealedPsk wbData : List Byte}
    {seed8 : Vector Byte 8} {pad4 : Bool} (nonempty : wbData ≠ [])
    (checked : bb010002Checks sealedPsk.length wbData.length = .ok ⟨⟩) :
    payloadBuildBb010002 true sealedPsk seed8 wbData pad4 = .outOfBounds ↔
      pad4 = true ∧ 2 ^ 32 - 4 < 24 + sealedPsk.length + wbData.length := by
  constructor
  · intro outside
    by_contra within
    have small : pad4 = false ∨ 24 + sealedPsk.length + wbData.length + 3 < 2 ^ 32 := by
      cases pad4 with
      | false => exact .inl rfl
      | true =>
          rw [eq_self_iff_true, true_and] at within
          exact .inr (by omega)
    rw [payloadBuildBb010002_of_lt nonempty checked small] at outside
    cases outside
  · rintro ⟨rfl, large⟩
    have short := @alignLen_of_le (24 + sealedPsk.length + wbData.length) (by omega)
    have written := bb010002Fields_length sealedPsk seed8 wbData
    rw [payloadBuildBb010002_of_checked true nonempty checked]
    apply fill_append_outOfBounds
    rw [List.length_replicate, bb010002OutLen_eq true checked, if_pos rfl, written]
    exact short

/-! ## Reading a container -/

/-- The length of a container with its padding. -/
def containerLen (sealedPsk wbData : List Byte) (pad4 : Bool) : Nat :=
  24 + sealedPsk.length + wbData.length +
    containerPad (24 + sealedPsk.length + wbData.length) pad4

/-- A container of less than `2 ^ 32` bytes passes the checks and fits its
block. -/
theorem checked_of_containerLen_lt {sealedPsk wbData : List Byte} {pad4 : Bool}
    (small : containerLen sealedPsk wbData pad4 < 2 ^ 32) :
    bb010002Checks sealedPsk.length wbData.length = .ok ⟨⟩ ∧
      (pad4 = false ∨ 24 + sealedPsk.length + wbData.length + 3 < 2 ^ 32) := by
  unfold containerLen at small
  constructor
  · apply bb010002Checks_eq_ok_iff.mpr
    omega
  · cases pad4 with
    | false => exact .inl rfl
    | true =>
        have dvd := dvd_add_padLen (24 + sealedPsk.length + wbData.length)
        rw [containerPad, if_pos rfl] at small
        unfold padLen at small dvd
        exact .inr (by omega)

/-- The records of a container fit their length fields. -/
theorem containerEntries_fit {sealedPsk wbData : List Byte} (seed8 : Vector Byte 8)
    (checked : bb010002Checks sealedPsk.length wbData.length = .ok ⟨⟩) :
    ∀ entry ∈ containerEntries sealedPsk seed8 wbData, entry.Fits := by
  obtain ⟨sealedFits, wbFits⟩ := bb010002Checks_eq_ok_iff.mp checked
  intro entry member
  rcases List.mem_cons.mp member with rfl | member
  · refine ⟨show 0xBB010002 < 2 ^ 32 by decide, ?_⟩
    rw [List.length_append, Vector.length_toList]
    omega
  · cases List.mem_singleton.mp member
    refine ⟨show 0xBB010003 < 2 ^ 32 by decide, ?_⟩
    change wbData.length < 2 ^ 32
    omega

theorem containerEntries_length (sealedPsk : List Byte) (seed8 : Vector Byte 8)
    (wbData : List Byte) :
    ((containerEntries sealedPsk seed8 wbData).flatMap Entry.bytes).length =
      24 + sealedPsk.length + wbData.length := by
  rw [← bb010002Fields_flatten, bb010002Fields_length]

/-- Aligning a container without padding gives what padding while building
gives. -/
theorem alignBlob_unpadded {sealedPsk wbData : List Byte} {seed8 : Vector Byte 8}
    (nonempty : wbData ≠ []) (small : 24 + sealedPsk.length + wbData.length ≤ 0xFFFC) :
    ∃ unpadded, payloadBuildBb010002 true sealedPsk seed8 wbData false = .ok unpadded ∧
      ∀ stale, alignBlob (some stale) unpadded =
        payloadBuildBb010002 true sealedPsk seed8 wbData true := by
  have checked : bb010002Checks sealedPsk.length wbData.length = .ok ⟨⟩ :=
    bb010002Checks_eq_ok_iff.mpr (by omega)
  have recordsLength := containerEntries_length sealedPsk seed8 wbData
  refine ⟨_, payloadBuildBb010002_of_lt nonempty checked (.inl rfl), ?_⟩
  intro stale
  rw [payloadBuildBb010002_of_lt nonempty checked (.inr (by omega)), containerPad, containerPad,
    if_neg Bool.false_ne_true, if_pos rfl, List.replicate_zero, List.append_nil,
    alignBlob_of_le stale (by omega) (by omega), recordsLength]

/-- A container built with padding is aligned. -/
theorem alignBlob_padded {sealedPsk wbData : List Byte} {seed8 : Vector Byte 8}
    (nonempty : wbData ≠ []) (small : containerLen sealedPsk wbData true < 2 ^ 32) :
    ∃ padded, payloadBuildBb010002 true sealedPsk seed8 wbData true = .ok padded ∧
      ∀ realloc, alignBlob realloc padded = .ok padded := by
  obtain ⟨checked, fits⟩ := checked_of_containerLen_lt small
  refine ⟨_, payloadBuildBb010002_of_lt nonempty checked fits, ?_⟩
  intro realloc
  have dvd := dvd_add_padLen (24 + sealedPsk.length + wbData.length)
  rw [containerLen, containerPad, if_pos rfl] at small
  rw [containerPad, if_pos rfl]
  apply alignBlob_of_dvd
  all_goals rw [List.length_append, List.length_replicate, containerEntries_length]
  · omega
  · exact dvd
  · omega

/-- A reader of records finds the sealed key with its seed, then the data, then
at most three zeros, none unless they were asked for.  Aligning a container
without padding gives the one built with padding, and aligning that one leaves
it as it is. -/
theorem payloadBuildBb010002_decodes {sealedPsk wbData : List Byte} {seed8 : Vector Byte 8}
    (nonempty : wbData ≠ []) :
    (∀ pad4, containerLen sealedPsk wbData pad4 < 2 ^ 32 →
      ∃ blob pad, payloadBuildBb010002 true sealedPsk seed8 wbData pad4 = .ok blob ∧
        decode blob =
          ([⟨0xBB010002, sealedPsk ++ seed8.toList⟩, ⟨0xBB010003, wbData⟩],
            List.replicate pad 0) ∧
        pad ≤ 3 ∧ (pad4 = false → pad = 0)) ∧
    (24 + sealedPsk.length + wbData.length ≤ 0xFFFC →
      ∃ unpadded, payloadBuildBb010002 true sealedPsk seed8 wbData false = .ok unpadded ∧
        ∀ stale, alignBlob (some stale) unpadded =
          payloadBuildBb010002 true sealedPsk seed8 wbData true) ∧
    (containerLen sealedPsk wbData true < 2 ^ 32 →
      ∃ padded, payloadBuildBb010002 true sealedPsk seed8 wbData true = .ok padded ∧
        ∀ realloc, alignBlob realloc padded = .ok padded) := by
  refine ⟨?_, alignBlob_unpadded nonempty, alignBlob_padded nonempty⟩
  intro pad4 small
  obtain ⟨checked, fits⟩ := checked_of_containerLen_lt small
  have padLe := containerPad_le (24 + sealedPsk.length + wbData.length) pad4
  refine ⟨_, containerPad (24 + sealedPsk.length + wbData.length) pad4,
    payloadBuildBb010002_of_lt nonempty checked fits, ?_, padLe, ?_⟩
  · apply decode_flatMap (containerEntries_fit seed8 checked)
    rw [List.length_replicate]
    omega
  · rintro rfl
    rfl

/-- One byte of data without a sealed key is read back, with or without
padding. -/
theorem payloadBuildBb010002_decodes_byte :
    (∀ pad4, containerLen [] [0xAA] pad4 < 2 ^ 32) ∧
      ∀ pad4, ∃ blob pad,
        payloadBuildBb010002 true [] #v[1, 2, 3, 4, 5, 6, 7, 8] [0xAA] pad4 = .ok blob ∧
        decode blob =
          ([⟨0xBB010002, [] ++ [1, 2, 3, 4, 5, 6, 7, 8]⟩, ⟨0xBB010003, [0xAA]⟩],
            List.replicate pad 0) ∧
        pad ≤ 3 ∧ (pad4 = false → pad = 0) := by
  have small : ∀ pad4, containerLen [] [0xAA] pad4 < 2 ^ 32 := by decide
  refine ⟨small, ?_⟩
  intro pad4
  exact (payloadBuildBb010002_decodes (by decide)).1 pad4 (small pad4)

end Gxfp.User.Provision
