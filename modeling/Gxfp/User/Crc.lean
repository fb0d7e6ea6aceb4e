import Gxfp.Lib.Crc
import Gxfp.User.Plain

/-!
# The checksum of an image

`crc32_mpeg2` looks up a table entry for every byte of an image body.  The
entry is the remainder of eight divisions, so a lookup is eight steps of the
register over the bits of the byte, and the whole function is the CRC-32/MPEG-2
of the body.

A body that was accepted is no longer accepted when a burst of up to 32 bits of
its data is changed, or anything in its trailer.  A burst is one in the order in
which the register takes the bits: byte by byte, the most significant bit first.
-/

namespace Gxfp.User

open Lib.Bytes
open Lib.Crc

/-- The generator polynomial of CRC-32/MPEG-2. -/
def mpeg2Poly : BitVec 32 :=
  0x04C11DB7#32

/-- CRC-32/MPEG-2 bit by bit: the register starts with all bits set, the bits of
a byte are taken from the most significant one, nothing is reflected and the
register is the result. -/
def crc32Mpeg2Bitwise (buf : List Byte) : UInt32 :=
  ⟨bitwise mpeg2Poly 0xFFFFFFFF#32 (buf.flatMap byteBits)⟩

/-! ## Table entries -/

/-- The test of a table round is on the top bit. -/
theorem and_top_eq_zero_iff (word : UInt32) :
    word &&& 0x80000000 = 0 ↔ word.toBitVec.msb = false := by
  have top : word.toBitVec &&& 0x80000000#32 =
      if word.toBitVec.getLsbD 31 then BitVec.twoPow 32 31 else 0#32 :=
    BitVec.and_twoPow word.toBitVec 31
  rw [← UInt32.toBitVec_inj, UInt32.toBitVec_and, BitVec.msb_eq_getLsbD_last]
  refine Iff.trans (Eq.congr_left top) ?_
  cases word.toBitVec.getLsbD 31 with
  | false => simp
  | true => simp [show BitVec.twoPow 32 31 ≠ 0#32 by decide]

/-- Rounds of the table loop are rounds of the division. -/
theorem tableRounds_toBitVec (rounds : List Nat) (state : UInt32 × UInt32) :
    Prod.map UInt32.toBitVec UInt32.toBitVec
        (rounds.foldl
          (fun (state : UInt32 × UInt32) _ =>
            let crc :=
              if (state.1 ^^^ state.2) &&& 0x80000000 = 0 then
                state.2 <<< 1
              else
                (state.2 <<< 1) ^^^ 0x04C11DB7
            (state.1 <<< 1, crc))
          state) =
      (tableStep mpeg2Poly)^[rounds.length] (state.1.toBitVec, state.2.toBitVec) := by
  induction rounds generalizing state with
  | nil => rfl
  | cons round rounds ih =>
      rw [List.foldl_cons, ih, List.length_cons, Function.iterate_succ_apply]
      apply congrArg
      unfold tableStep
      rw [← UInt32.toBitVec_xor]
      by_cases clear : (state.1 ^^^ state.2) &&& 0x80000000 = 0
      · have bit := (and_top_eq_zero_iff _).mp clear
        rw [bit, if_pos clear, if_neg Bool.false_ne_true]
        rfl
      · have bit : (state.1 ^^^ state.2).toBitVec.msb = true := by
          rw [← Bool.not_eq_false]
          exact fun bit => clear ((and_top_eq_zero_iff _).mpr bit)
        rw [bit, if_neg clear, if_pos rfl]
        rfl

theorem crc32Mpeg2Table_toBitVec (index : UInt32) :
    (crc32Mpeg2Table index).toBitVec =
      ((tableStep mpeg2Poly)^[8] (index.toBitVec <<< 24, 0#32)).2 := by
  have rounds := congrArg Prod.snd (tableRounds_toBitVec (List.range 8) (index <<< 24, 0))
  rw [List.length_range] at rounds
  simpa [crc32Mpeg2Table] using rounds

/-! ## Bytes -/

/-- The lookup index holds the sums of the top bits of the register and the bits
of the byte. -/
theorem lookup_getLsbD (crc : UInt32) (byte : Byte) {position : Nat} (inside : position < 8) :
    (((crc >>> 24) ^^^ byte.toUInt32) &&& 0xFF).toBitVec.getLsbD position =
      (crc.toBitVec.getLsbD (24 + position) ^^ byte.toBitVec.getLsbD position) := by
  have mask : (255#32).getLsbD position = true := by
    have ones : (255#32).getLsbD position = (255 : Nat).testBit position := by
      rw [BitVec.getLsbD_ofNat, decide_eq_true (Nat.lt_trans inside (by decide)), Bool.true_and]
    rw [ones, show (255 : Nat) = 2 ^ 8 - 1 from rfl, Nat.testBit_two_pow_sub_one]
    exact decide_eq_true inside
  have small : position < 32 := Nat.lt_trans inside (by decide)
  simp [mask, small]

theorem byteBits_getElem? {byte : Byte} {index : Nat} {bit : Bool}
    (atIndex : (byteBits byte)[index]? = some bit) :
    index < 8 ∧ bit = byte.toBitVec.getLsbD (7 - index) := by
  have inside : index < 8 := by
    have short := (List.getElem?_eq_some_iff.mp atIndex).1
    simpa [byteBits] using short
  exact ⟨inside, by simpa [byteBits, inside] using atIndex.symm⟩

/-- One lookup is eight steps over the bits of the byte. -/
theorem crc32Mpeg2Table_step (crc : UInt32) (byte : Byte) :
    (crc32Mpeg2Table (((crc >>> 24) ^^^ byte.toUInt32) &&& 0xFF) ^^^ (crc <<< 8)).toBitVec =
      bitwise mpeg2Poly crc.toBitVec (byteBits byte) := by
  have sums : ∀ (index : Nat) (bit : Bool), (byteBits byte)[index]? = some bit →
      (((((crc >>> 24) ^^^ byte.toUInt32) &&& 0xFF).toBitVec <<< 24) <<< index).msb =
        ((crc.toBitVec <<< index).msb ^^ bit) := by
    intro index bit atIndex
    obtain ⟨inside, rfl⟩ := byteBits_getElem? atIndex
    have low : 32 - 1 - index - 24 = 7 - index := by omega
    have high : 24 + (7 - index) = 32 - 1 - index := by omega
    have reached : ¬ 32 - 1 < index ∧ ¬ 32 - 1 - index < 24 ∧ 32 - 1 - index < 32 := by omega
    rw [BitVec.msb_eq_getLsbD_last, BitVec.msb_eq_getLsbD_last, BitVec.getLsbD_shiftLeft,
      BitVec.getLsbD_shiftLeft, BitVec.getLsbD_shiftLeft, low,
      lookup_getLsbD crc byte (show 7 - index < 8 by omega), high]
    simp only [reached, decide_false, decide_true, Bool.not_false, Bool.and_true, Bool.true_and]
    rfl
  have split := bitwise_xor mpeg2Poly (byteBits byte) _ 0#32 crc.toBitVec sums
  rw [BitVec.zero_xor] at split
  rw [split, UInt32.toBitVec_xor, crc32Mpeg2Table_toBitVec]
  rfl

/-- The loop of `crc32_mpeg2` from any register. -/
theorem crc32Mpeg2_loop (buf : List Byte) (crc : UInt32) :
    (buf.foldl
      (fun (crc : UInt32) (byte : Byte) =>
        crc32Mpeg2Table (((crc >>> 24) ^^^ byte.toUInt32) &&& 0xFF) ^^^ (crc <<< 8))
      crc).toBitVec = bitwise mpeg2Poly crc.toBitVec (buf.flatMap byteBits) := by
  induction buf generalizing crc with
  | nil => rfl
  | cons byte buf ih =>
      rw [List.foldl_cons, ih, crc32Mpeg2Table_step, List.flatMap_cons, bitwise_append]

/-- `crc32_mpeg2` is CRC-32/MPEG-2. -/
theorem crc32Mpeg2_eq_bitwise (buf : List Byte) : crc32Mpeg2 buf = crc32Mpeg2Bitwise buf := by
  apply UInt32.toBitVec_inj.mp
  exact crc32Mpeg2_loop buf 0xFFFFFFFF

-- The check value of CRC-32/MPEG-2, over the digits 1 to 9.
example : crc32Mpeg2Bitwise [49, 50, 51, 52, 53, 54, 55, 56, 57] = 0x0376E6E7 := by
  decide +kernel

/-! ## Corrupted bodies -/

/-- The bits of a body, in the order in which the checksum takes them. -/
def bodyBits (body : List Byte) : List Bool :=
  body.flatMap byteBits

/-- Two bodies differ in a bit. -/
def BitDiffers (body other : List Byte) (index : Nat) : Prop :=
  (bodyBits body)[index]? ≠ (bodyBits other)[index]?

/-- The bits in which two bodies differ all lie in the data part, within 32
consecutive bits. -/
def DataBurst (body other : List Byte) : Prop :=
  ∃ start, ∀ index, BitDiffers body other index →
    index < 8 * (body.length - 4) ∧ start ≤ index ∧ index < start + 32

/-- The bits in which two bodies differ all lie in the trailer. -/
def TrailerChange (body other : List Byte) : Prop :=
  ∀ index, BitDiffers body other index → 8 * (body.length - 4) ≤ index

/-- The word that the check reads from a trailer. -/
theorem trailerWord_toNat (a b c d : Byte) :
    ((a.toUInt32 <<< 24) ||| (b.toUInt32 <<< 16) ||| (c.toUInt32 <<< 8) ||| d.toUInt32).toNat =
      ((a.toNat * 2 ^ 8 + b.toNat) * 2 ^ 8 + c.toNat) * 2 ^ 8 + d.toNat := by
  have boundA := a.toNat_lt
  have boundB := b.toNat_lt
  have boundC := c.toNat_lt
  have boundD := d.toNat_lt
  have first : a.toNat <<< 24 % 2 ^ 32 = 2 ^ 24 * a.toNat := by
    rw [Nat.shiftLeft_eq]
    omega
  have second : b.toNat <<< 16 % 2 ^ 32 = 2 ^ 16 * b.toNat := by
    rw [Nat.shiftLeft_eq]
    omega
  have third : c.toNat <<< 8 % 2 ^ 32 = 2 ^ 8 * c.toNat := by
    rw [Nat.shiftLeft_eq]
    omega
  have word : ((a.toUInt32 <<< 24) ||| (b.toUInt32 <<< 16) ||| (c.toUInt32 <<< 8) |||
      d.toUInt32).toNat = a.toNat <<< 24 % 2 ^ 32 ||| b.toNat <<< 16 % 2 ^ 32 |||
        c.toNat <<< 8 % 2 ^ 32 ||| d.toNat := by
    simp
  have upper : 2 ^ 24 * a.toNat + 2 ^ 16 * b.toNat = 2 ^ 16 * (2 ^ 8 * a.toNat + b.toNat) := by
    omega
  have middle : 2 ^ 16 * (2 ^ 8 * a.toNat + b.toNat) + 2 ^ 8 * c.toNat =
      2 ^ 8 * (2 ^ 8 * (2 ^ 8 * a.toNat + b.toNat) + c.toNat) := by
    omega
  rw [word, first, second, third, ← Nat.two_pow_add_eq_or_of_lt (by omega), upper,
    ← Nat.two_pow_add_eq_or_of_lt (by omega), middle, ← Nat.two_pow_add_eq_or_of_lt (by omega)]
  omega

/-- The word determines the trailer. -/
theorem trailerWord_injective {a b c d a' b' c' d' : Byte}
    (same : (a.toUInt32 <<< 24) ||| (b.toUInt32 <<< 16) ||| (c.toUInt32 <<< 8) ||| d.toUInt32 =
      (a'.toUInt32 <<< 24) ||| (b'.toUInt32 <<< 16) ||| (c'.toUInt32 <<< 8) ||| d'.toUInt32) :
    a = a' ∧ b = b' ∧ c = c' ∧ d = d' := by
  have values := congrArg UInt32.toNat same
  rw [trailerWord_toNat, trailerWord_toNat] at values
  have := a.toNat_lt
  have := b.toNat_lt
  have := c.toNat_lt
  have := d.toNat_lt
  have := a'.toNat_lt
  have := b'.toNat_lt
  have := c'.toNat_lt
  have := d'.toNat_lt
  simp only [← UInt8.toNat_inj]
  omega

/-- The check of a body with its data and its trailer apart. -/
theorem imageCrcCheck_append (data : List Byte) (t0 t1 t2 t3 : Byte) :
    imageCrcCheck (data ++ [t0, t1, t2, t3]) =
      (crc32Mpeg2 data ==
        (t2.toUInt32 <<< 24) ||| (t3.toUInt32 <<< 16) ||| (t0.toUInt32 <<< 8) ||| t1.toUInt32) := by
  have long : ¬ data.length + 4 < 4 := by omega
  have atTrailer (fromEnd : Nat) (inside : fromEnd ≤ 4) :
      (data ++ [t0, t1, t2, t3]).getD (data.length + 4 - fromEnd) 0 =
        [t0, t1, t2, t3].getD (4 - fromEnd) 0 := by
    rw [List.getD_eq_getElem?_getD, List.getD_eq_getElem?_getD,
      List.getElem?_append_right (by omega)]
    congr 2
    omega
  unfold imageCrcCheck
  rw [show (data ++ [t0, t1, t2, t3]).length = data.length + 4 from List.length_append,
    if_neg long]
  simp only [atTrailer 1 (by omega), atTrailer 2 (by omega), atTrailer 3 (by omega),
    atTrailer 4 (by omega)]
  rw [Nat.add_sub_cancel, List.take_left]
  rfl

/-- A body that is long enough has a trailer. -/
theorem exists_trailer {body : List Byte} (long : 4 ≤ body.length) :
    ∃ data t0 t1 t2 t3, body = data ++ [t0, t1, t2, t3] := by
  have four : (body.drop (body.length - 4)).length = 4 := by
    rw [List.length_drop]
    omega
  obtain ⟨t0, t1, t2, t3, trailer⟩ := List.length_eq_four.mp four
  exact ⟨body.take (body.length - 4), t0, t1, t2, t3, by rw [← trailer, List.take_append_drop]⟩

/-- Data parts of one length are told apart by the bits before the trailer. -/
theorem bodyBits_append_getElem? {data trailer : List Byte} {index : Nat}
    (inside : index < 8 * data.length) :
    (bodyBits (data ++ trailer))[index]? = (bodyBits data)[index]? := by
  unfold bodyBits
  rw [List.flatMap_append, List.getElem?_append_left]
  rwa [flatMap_byteBits_length]

/-- `crc32_mpeg2` tells data apart that differs in a burst. -/
theorem crc32Mpeg2_burst {data other : List Byte} (sameLength : other.length = data.length)
    {start : Nat}
    (window : ∀ index, BitDiffers data other index → start ≤ index ∧ index < start + 32)
    (same : crc32Mpeg2 data = crc32Mpeg2 other) : data = other := by
  apply flatMap_byteBits_injective
  have registers := congrArg UInt32.toBitVec same
  unfold crc32Mpeg2 at registers
  rw [crc32Mpeg2_loop, crc32Mpeg2_loop] at registers
  have bitsLength : (data.flatMap byteBits).length = (other.flatMap byteBits).length := by
    rw [flatMap_byteBits_length, flatMap_byteBits_length, sameLength]
  exact eq_of_bitwise_eq_of_window (by decide) bitsLength window registers

/-- Bodies with data parts of one length whose bits agree before the trailer have
the same data. -/
theorem data_eq_of_trailerChange {data other trailer otherTrailer : List Byte}
    (sameLength : other.length = data.length)
    (change : ∀ index, BitDiffers (data ++ trailer) (other ++ otherTrailer) index →
      8 * data.length ≤ index) : data = other := by
  apply flatMap_byteBits_injective
  apply List.ext_getElem?
  intro index
  by_cases inside : index < 8 * data.length
  · have agree : (bodyBits (data ++ trailer))[index]? =
        (bodyBits (other ++ otherTrailer))[index]? := by
      by_contra differ
      exact absurd (change index differ) (Nat.not_le.mpr inside)
    rw [bodyBits_append_getElem? inside, bodyBits_append_getElem? (by rwa [sameLength])] at agree
    exact agree
  · rw [List.getElem?_eq_none (by rw [flatMap_byteBits_length]; omega),
      List.getElem?_eq_none (by rw [flatMap_byteBits_length]; omega)]

/-- Bodies with data parts of one length whose bits agree in the trailer have the
same trailer. -/
theorem trailer_eq_of_dataChange {data other trailer otherTrailer : List Byte}
    (sameLength : other.length = data.length)
    (change : ∀ index, BitDiffers (data ++ trailer) (other ++ otherTrailer) index →
      index < 8 * data.length) : trailer = otherTrailer := by
  apply flatMap_byteBits_injective
  apply List.ext_getElem?
  intro index
  have agree : (bodyBits (data ++ trailer))[8 * data.length + index]? =
      (bodyBits (other ++ otherTrailer))[8 * data.length + index]? := by
    by_contra differ
    have := change _ differ
    omega
  have dataBits := flatMap_byteBits_length data
  have otherBits := flatMap_byteBits_length other
  rw [sameLength] at otherBits
  unfold bodyBits at agree
  rw [List.flatMap_append, List.flatMap_append, List.getElem?_append_right (by omega),
    List.getElem?_append_right (by omega), dataBits, otherBits, Nat.add_sub_cancel_left] at agree
  exact agree

/-- An accepted body whose data was changed in a burst of at most 32 bits, or
whose trailer was changed, is rejected. -/
theorem imageCrcCheck_corrupted {body other : List Byte} (accepted : imageCrcCheck body = true)
    (sameLength : other.length = body.length) (different : other ≠ body)
    (corruption : DataBurst body other ∨ TrailerChange body other) :
    imageCrcCheck other = false := by
  have long : 4 ≤ body.length := by
    by_contra short
    rw [imageCrcCheck, if_pos (Nat.not_le.mp short)] at accepted
    cases accepted
  obtain ⟨data, t0, t1, t2, t3, rfl⟩ := exists_trailer long
  obtain ⟨otherData, s0, s1, s2, s3, rfl⟩ := exists_trailer (sameLength ▸ long)
  have dataLength : otherData.length = data.length := by
    simpa using sameLength
  have whole : (data ++ [t0, t1, t2, t3]).length - 4 = data.length := by
    simp
  rw [imageCrcCheck_append, beq_iff_eq] at accepted
  rw [imageCrcCheck_append, beq_eq_false_iff_ne]
  intro otherAccepted
  apply different
  rcases corruption with ⟨start, burst⟩ | change
  · rw [whole] at burst
    have sameTrailer := trailer_eq_of_dataChange dataLength fun index differ =>
      (burst index differ).1
    have window : ∀ index, BitDiffers data otherData index →
        start ≤ index ∧ index < start + 32 := by
      intro index differ
      have inside : index < 8 * data.length := by
        by_contra outside
        apply differ
        unfold bodyBits
        rw [List.getElem?_eq_none (by rw [flatMap_byteBits_length]; omega),
          List.getElem?_eq_none (by rw [flatMap_byteBits_length]; omega)]
      apply (burst index _).2
      unfold BitDiffers
      rw [bodyBits_append_getElem? inside, bodyBits_append_getElem? (by rwa [dataLength])]
      exact differ
    obtain ⟨rfl, rfl, rfl, rfl⟩ : t0 = s0 ∧ t1 = s1 ∧ t2 = s2 ∧ t3 = s3 := by
      simpa using sameTrailer
    rw [crc32Mpeg2_burst dataLength window (accepted.trans otherAccepted.symm)]
  · unfold TrailerChange at change
    rw [whole] at change
    have sameData := data_eq_of_trailerChange dataLength change
    subst sameData
    obtain ⟨rfl, rfl, rfl, rfl⟩ := trailerWord_injective (accepted.symm.trans otherAccepted)
    rfl

/-- A data byte with its checksum is accepted, and no longer after five of its
bits were changed. -/
theorem imageCrcCheck_corrupted_byte :
    imageCrcCheck [0x00, 0xBF, 0xB4, 0x4E, 0x08] = true ∧
      imageCrcCheck [0x1F, 0xBF, 0xB4, 0x4E, 0x08] = false := by
  have accepted : imageCrcCheck [0x00, 0xBF, 0xB4, 0x4E, 0x08] = true := by
    decide +kernel
  have burst : DataBurst [0x00, 0xBF, 0xB4, 0x4E, 0x08] [0x1F, 0xBF, 0xB4, 0x4E, 0x08] := by
    refine ⟨0, fun index differ => ?_⟩
    have inside : index < 8 := by
      by_contra outside
      apply differ
      have later (byte : Byte) (rest : List Byte) :
          (bodyBits (byte :: rest))[index]? = (bodyBits rest)[index - 8]? := by
        unfold bodyBits
        rw [List.flatMap_cons, List.getElem?_append_right (by rw [byteBits_length]; omega),
          byteBits_length]
      rw [later, later]
    simp only [List.length_cons, List.length_nil]
    omega
  exact ⟨accepted, imageCrcCheck_corrupted accepted rfl (by decide) (.inl burst)⟩

end Gxfp.User
