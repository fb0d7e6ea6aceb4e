import Mathlib.Data.List.Basic
import Mathlib.Tactic.Ring

/-!
# Bytes, little-endian words and buffer updates

Byte strings are lists of `UInt8`.  The file fixes one reading of little-endian
16- and 32-bit words as natural numbers, the encoders that write them, and the
`memcpy` of one byte string into another at an offset.
-/

namespace Lib.Bytes

/-- A machine byte. -/
abbrev Byte := UInt8

/-! ## Little-endian words -/

/-- The 16-bit word whose low byte is `low`. -/
def le16 (low high : Byte) : Nat :=
  low.toNat + 256 * high.toNat

/-- The two bytes of `n` modulo `2 ^ 16`, low byte first. -/
def le16Bytes (n : Nat) : List Byte :=
  [UInt8.ofNat n, UInt8.ofNat (n / 256)]

/-- The 32-bit word with bytes `a`, `b`, `c`, `d`, low byte first. -/
def le32 (a b c d : Byte) : Nat :=
  a.toNat + 256 * b.toNat + 65536 * c.toNat + 16777216 * d.toNat

/-- The four bytes of `n` modulo `2 ^ 32`, low byte first. -/
def le32Bytes (n : Nat) : List Byte :=
  [UInt8.ofNat n, UInt8.ofNat (n / 256), UInt8.ofNat (n / 65536), UInt8.ofNat (n / 16777216)]

/-- The four bytes of `n` modulo `2 ^ 32`, high byte first. -/
def be32Bytes (n : Nat) : List Byte :=
  [UInt8.ofNat (n / 16777216), UInt8.ofNat (n / 65536), UInt8.ofNat (n / 256), UInt8.ofNat n]

/-- The eight bytes of `n` modulo `2 ^ 64`, low byte first. -/
def le64Bytes (n : Nat) : List Byte :=
  le32Bytes n ++ le32Bytes (n / 4294967296)

@[simp]
theorem le16Bytes_length (n : Nat) : (le16Bytes n).length = 2 :=
  rfl

@[simp]
theorem le32Bytes_length (n : Nat) : (le32Bytes n).length = 4 :=
  rfl

@[simp]
theorem be32Bytes_length (n : Nat) : (be32Bytes n).length = 4 :=
  rfl

@[simp]
theorem le64Bytes_length (n : Nat) : (le64Bytes n).length = 8 :=
  rfl

/-- Reading back an encoded 16-bit word loses only the bits above it. -/
theorem le16_ofNat (n : Nat) :
    le16 (UInt8.ofNat n) (UInt8.ofNat (n / 256)) = n % 65536 := by
  simp only [le16, UInt8.toNat_ofNat']
  omega

/-- A 16-bit word re-encodes to the bytes it was read from. -/
theorem le16Bytes_le16 (low high : Byte) : le16Bytes (le16 low high) = [low, high] := by
  have lowLt := low.toNat_lt
  have highEq : (low.toNat + 256 * high.toNat) / 256 = high.toNat := by omega
  have lowByte : UInt8.ofNat (low.toNat + 256 * high.toNat) = low := by
    apply UInt8.toNat_inj.mp
    rw [UInt8.toNat_ofNat']
    omega
  simp only [le16Bytes, le16, highEq, lowByte, UInt8.ofNat_toNat]

/-- Reading back an encoded 32-bit word loses only the bits above it. -/
theorem le32_ofNat (n : Nat) :
    le32 (UInt8.ofNat n) (UInt8.ofNat (n / 256)) (UInt8.ofNat (n / 65536))
      (UInt8.ofNat (n / 16777216)) = n % 4294967296 := by
  simp only [le32, UInt8.toNat_ofNat']
  omega

/-! ## Copies into a buffer -/

variable {α : Type*}

/-- Overwrite `dst` with `src` from offset `off`. -/
def memcpyAt (dst : List α) (off : Nat) (src : List α) : List α :=
  dst.take off ++ src ++ dst.drop (off + src.length)

theorem memcpyAt_length {dst src : List α} {off : Nat}
    (fits : off + src.length ≤ dst.length) :
    (memcpyAt dst off src).length = dst.length := by
  simp only [memcpyAt, List.length_append, List.length_take, List.length_drop]
  omega

/-- Up to the end of the copy the buffer is its old front followed by the
copied bytes. -/
theorem take_memcpyAt {dst src : List α} {off : Nat} (inside : off ≤ dst.length) :
    (memcpyAt dst off src).take (off + src.length) = dst.take off ++ src := by
  have frontLength : (dst.take off ++ src).length = off + src.length := by
    simp only [List.length_append, List.length_take]
    omega
  rw [memcpyAt, ← frontLength, List.take_left]

end Lib.Bytes
