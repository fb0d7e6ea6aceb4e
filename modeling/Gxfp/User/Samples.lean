import Mathlib.Data.List.GetD
import Gxfp.User.Decoder

/-!
# Packed samples

Both sensor families pack four samples of twelve bits into six bytes.  The file
reads the samples of a byte string by number, gives their values in terms of
the bytes, and the packing that `unpack_sample4` undoes.
-/

namespace Gxfp.User

open Lib.Bytes

/-- Sample `index` of a byte string: four samples in every six bytes. -/
def packedSample (bytes : List Byte) (index : Nat) : UInt16 :=
  let b (off : Nat) : Byte := bytes.getD (index / 4 * 6 + off) 0
  (unpackSample4 (b 0) (b 1) (b 2) (b 3) (b 4) (b 5)).getD (index % 4) 0

/-! ## Values -/

/-- The sample with the high nibble in the low half of a byte. -/
theorem lowSample_toNat (nibble low : Byte) :
    (((nibble &&& 0x0F).toUInt16 <<< 8) ||| low.toUInt16).toNat =
      nibble.toNat % 16 * 256 + low.toNat := by
  have lowLt : low.toNat < 2 ^ 8 := low.toNat_lt
  have masked : nibble.toNat &&& 15 = nibble.toNat % 16 := Nat.and_two_pow_sub_one_eq_mod _ 4
  have fits : (nibble.toNat % 16) <<< 8 < 65536 := by
    rw [Nat.shiftLeft_eq]
    omega
  simp only [UInt16.toNat_or, UInt16.toNat_shiftLeft, UInt8.toNat_toUInt16, UInt8.toNat_and]
  change ((nibble.toNat &&& 15) <<< 8) % 65536 ||| low.toNat = _
  rw [masked, Nat.mod_eq_of_lt fits, ← Nat.shiftLeft_add_eq_or_of_lt lowLt, Nat.shiftLeft_eq]

/-- The sample with the low nibble in the high half of a byte. -/
theorem highSample_toNat (high nibble : Byte) :
    ((high.toUInt16 <<< 4) ||| (nibble >>> 4).toUInt16).toNat =
      high.toNat * 16 + nibble.toNat / 16 := by
  have highLt := high.toNat_lt
  have nibbleLt : nibble.toNat / 16 < 2 ^ 4 := by
    have byteLt := nibble.toNat_lt
    omega
  have shifted : nibble.toNat >>> 4 = nibble.toNat / 16 := Nat.shiftRight_eq_div_pow _ 4
  have fits : high.toNat <<< 4 < 65536 := by
    rw [Nat.shiftLeft_eq]
    omega
  simp only [UInt16.toNat_or, UInt16.toNat_shiftLeft, UInt8.toNat_toUInt16, UInt8.toNat_shiftRight]
  change (high.toNat <<< 4) % 65536 ||| nibble.toNat >>> 4 = _
  rw [shifted, Nat.mod_eq_of_lt fits, ← Nat.shiftLeft_add_eq_or_of_lt nibbleLt, Nat.shiftLeft_eq]

/-- Every sample has twelve bits. -/
theorem unpackSample4_le {b0 b1 b2 b3 b4 b5 : Byte} {sample : UInt16}
    (member : sample ∈ unpackSample4 b0 b1 b2 b3 b4 b5) : sample.toNat ≤ 4095 := by
  have lowLe : ∀ nibble low : Byte,
      (((nibble &&& 0x0F).toUInt16 <<< 8) ||| low.toUInt16).toNat ≤ 4095 := by
    intro nibble low
    have lowLt := low.toNat_lt
    rw [lowSample_toNat]
    omega
  have highLe : ∀ high nibble : Byte,
      ((high.toUInt16 <<< 4) ||| (nibble >>> 4).toUInt16).toNat ≤ 4095 := by
    intro high nibble
    have highLt := high.toNat_lt
    have nibbleLt := nibble.toNat_lt
    rw [highSample_toNat]
    omega
  simp only [unpackSample4, List.mem_cons, List.not_mem_nil, or_false] at member
  rcases member with rfl | rfl | rfl | rfl
  · exact lowLe b0 b1
  · exact highLe b3 b0
  · exact lowLe b5 b2
  · exact highLe b4 b5

theorem packedSample_le (bytes : List Byte) (index : Nat) :
    (packedSample bytes index).toNat ≤ 4095 := by
  have inside : index % 4 < 4 := Nat.mod_lt index (by decide)
  unfold packedSample
  dsimp only
  rw [List.getD_eq_getElem _ _ inside]
  exact unpackSample4_le (List.getElem_mem inside)

/-- The first two samples of a group read only its first, second and fourth
byte. -/
theorem packedSample_congr {first second : List Byte} {index : Nat}
    (same : ∀ off, off < 6 → off ≤ 3 ∨ 2 ≤ index % 4 →
      first.getD (index / 4 * 6 + off) 0 = second.getD (index / 4 * 6 + off) 0) :
    packedSample first index = packedSample second index := by
  have front : ∀ off, off ≤ 3 →
      first.getD (index / 4 * 6 + off) 0 = second.getD (index / 4 * 6 + off) 0 :=
    fun off offLe => same off (by omega) (.inl offLe)
  have inGroup : index % 4 = 0 ∨ index % 4 = 1 ∨ 2 ≤ index % 4 := by omega
  unfold packedSample
  dsimp only
  rw [front 0 (by decide), front 1 (by decide), front 2 (by decide), front 3 (by decide)]
  rcases inGroup with atZero | atOne | later
  · rw [atZero]
    rfl
  · rw [atOne]
    rfl
  · rw [same 4 (by decide) (.inr later), same 5 (by decide) (.inr later)]

/-- A group ahead of a byte string shifts its samples by four. -/
theorem packedSample_append {group : List Byte} (groupLength : group.length = 6)
    (bytes : List Byte) (index : Nat) :
    packedSample (group ++ bytes) (index + 4) = packedSample bytes index := by
  have quotient : (index + 4) / 4 = index / 4 + 1 := by omega
  have remainder : (index + 4) % 4 = index % 4 := by omega
  have shifted : ∀ off, (group ++ bytes).getD ((index / 4 + 1) * 6 + off) 0 =
      bytes.getD (index / 4 * 6 + off) 0 := by
    intro off
    rw [List.getD_append_right _ _ _ _ (by omega), groupLength]
    congr 1
    omega
  unfold packedSample
  simp only [quotient, remainder, shifted]

/-! ## Packing -/

/-- The byte with the low nibble of one sample over the high nibble of
another. -/
def packNibbles (high low : UInt16) : Byte :=
  UInt8.ofNat (high.toNat % 16 * 16 + low.toNat / 256)

/-- Four samples in six bytes. -/
def packSample4 (s0 s1 s2 s3 : UInt16) : List Byte :=
  [packNibbles s1 s0, UInt8.ofNat s0.toNat, UInt8.ofNat s2.toNat, UInt8.ofNat (s1.toNat / 16),
    UInt8.ofNat (s3.toNat / 16), packNibbles s3 s2]

theorem lowSample_pack {other sample : UInt16} (small : sample.toNat ≤ 4095) :
    ((packNibbles other sample &&& 0x0F).toUInt16 <<< 8) ||| (UInt8.ofNat sample.toNat).toUInt16 =
      sample := by
  apply UInt16.toNat_inj.mp
  rw [lowSample_toNat, packNibbles, UInt8.toNat_ofNat', UInt8.toNat_ofNat']
  omega

theorem highSample_pack {other sample : UInt16} (otherSmall : other.toNat ≤ 4095)
    (small : sample.toNat ≤ 4095) :
    ((UInt8.ofNat (sample.toNat / 16)).toUInt16 <<< 4) |||
        (packNibbles sample other >>> 4).toUInt16 = sample := by
  apply UInt16.toNat_inj.mp
  rw [highSample_toNat, packNibbles, UInt8.toNat_ofNat', UInt8.toNat_ofNat']
  omega

end Gxfp.User
