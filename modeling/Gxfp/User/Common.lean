import Mathlib.Data.PNat.Basic
import Gxfp.Lib.Block
import Gxfp.Errno

/-!
# Files and blobs

Embeds `gxfp_read_file_all` and `gxfp_align_blob` of `src/algo/common.c`.  The
answers of the host are arbitrary: what `fopen` returns, the pieces `fread`
hands out, and whether an allocation succeeds and what the memory held.  A
pointer argument is never null.

A `size_t` has 64 bits and an `unsigned int` 32, so `(len + 3u) & ~3u` clears
the upper half of the length.
-/

namespace Gxfp.User

open Lib.Bytes
open Lib.Block
open Gxfp.Errno

/-! ## Reading a file -/

/-- `sizeof(tmp)` in `gxfp_read_file_all`. -/
def FILE_CHUNK : Nat := 1024

/-- An open file, as the pieces `fread` hands out before it returns nothing. -/
structure FileStream where
  chunks : List (List Byte)
  chunks_bounded : ∀ chunk ∈ chunks, chunk ≠ [] ∧ chunk.length ≤ FILE_CHUNK
  /-- What `ferror` reports at the end. -/
  failed : Bool

/-- The bytes of a file. -/
def FileStream.content (stream : FileStream) : List Byte :=
  stream.chunks.flatten

/-- What the host answers to `gxfp_read_file_all`. -/
structure FileHost where
  fopen : Except ℕ+ FileStream
  malloc : Bool
  /-- Whether the buffer can be made of the given size. -/
  realloc : Nat → Bool

/-- `64u * 1024u * 1024u`. -/
def FILE_CAP_LIMIT : Nat := 67108864

/-- The capacity doubled until `need` fits; none if it passes the limit
before. -/
def growCap (need : Nat) (newCap : ℕ+) : Option ℕ+ :=
  if (newCap : Nat) < need then
    if (newCap : Nat) > FILE_CAP_LIMIT then none else growCap need (newCap * 2)
  else
    some newCap
termination_by need - newCap
decreasing_by
  rename_i small _
  have positive := newCap.pos
  rw [PNat.mul_coe]
  change need - newCap * 2 < need - newCap
  omega

/-- `memcpy(buf + len, tmp, n)` into a buffer of the given capacity. -/
def appendChunk (cap : ℕ+) (buf tmp : List Byte) : Result (List Byte) :=
  if buf.length + tmp.length ≤ cap then .ok (buf ++ tmp) else .outOfBounds

/-- The reading loop of `gxfp_read_file_all`. -/
def readFileLoop (realloc : Nat → Bool) :
    List (List Byte) → ℕ+ → List Byte → Result (List Byte)
  | [], _, buf => .ok buf
  | tmp :: chunks, cap, buf =>
      if buf.length + tmp.length > cap then
        match growCap (buf.length + tmp.length) cap with
        | none => .error EOVERFLOW.rc
        | some newCap => do
            Result.require (realloc newCap = true) ENOMEM.rc
            let buf ← appendChunk newCap buf tmp
            readFileLoop realloc chunks newCap buf
      else do
        let buf ← appendChunk cap buf tmp
        readFileLoop realloc chunks cap buf

/-- `gxfp_read_file_all`. -/
def readFileAll (host : FileHost) : Result (List Byte) :=
  match host.fopen with
  | .error errno => .error (-(errno : Int))
  | .ok stream => do
      Result.require (host.malloc = true) ENOMEM.rc
      let buf ← readFileLoop host.realloc stream.chunks 4096 []
      Result.require (stream.failed = false) ( EIO.rc)
      pure buf

/-! ## What a file is read as -/

/-- From a power of two up to the limit the capacity reaches `2 ^ 27`. -/
theorem growCap_of_le {need exponent : Nat} (fits : need ≤ 2 ^ 27) (bounded : exponent ≤ 27) :
    ∃ grown ≤ 27, growCap need (2 ^ exponent) = some (2 ^ grown) ∧ need ≤ 2 ^ grown := by
  induction steps : 27 - exponent generalizing exponent with
  | zero =>
      have top : exponent = 27 := by omega
      subst top
      have enough : ¬ (((2 : ℕ+) ^ 27 : ℕ+) : Nat) < need := by
        rw [PNat.pow_coe]
        exact Nat.not_lt.mpr fits
      refine ⟨27, Nat.le_refl _, ?_, fits⟩
      rw [growCap, if_neg enough]
  | succ steps ih =>
      rw [growCap, PNat.pow_coe]
      by_cases small : ((2 : ℕ+) : Nat) ^ exponent < need
      · have below : ¬ ((2 : ℕ+) : Nat) ^ exponent > FILE_CAP_LIMIT := by
          have le : 2 ^ exponent ≤ 2 ^ 26 := Nat.pow_le_pow_right (by decide) (by omega)
          exact Nat.not_lt.mpr le
        rw [if_pos small, if_neg below, ← pow_succ]
        exact ih (by omega) (by omega)
      · rw [if_neg small]
        exact ⟨exponent, bounded, rfl, Nat.not_lt.mp small⟩

/-- More than `2 ^ 27` bytes find no capacity. -/
theorem growCap_of_gt {need exponent : Nat} (exceeds : 2 ^ 27 < need) (bounded : exponent ≤ 27) :
    growCap need (2 ^ exponent) = none := by
  induction steps : 27 - exponent generalizing exponent with
  | zero =>
      have top : exponent = 27 := by omega
      subst top
      have small : ((2 : ℕ+) : Nat) ^ 27 < need := exceeds
      rw [growCap, PNat.pow_coe, if_pos small, if_pos (by decide)]
  | succ steps ih =>
      have le : 2 ^ exponent ≤ 2 ^ 26 := Nat.pow_le_pow_right (by decide) (by omega)
      have small : ((2 : ℕ+) : Nat) ^ exponent < need :=
        lt_of_le_of_lt le (lt_trans (by decide) exceeds)
      have below : ¬ ((2 : ℕ+) : Nat) ^ exponent > FILE_CAP_LIMIT := Nat.not_lt.mpr le
      rw [growCap, PNat.pow_coe, if_pos small, if_neg below, ← pow_succ]
      exact ih (by omega) (by omega)

theorem appendChunk_of_le {cap : ℕ+} {buf tmp : List Byte} (fits : buf.length + tmp.length ≤ cap) :
    appendChunk cap buf tmp = .ok (buf ++ tmp) :=
  if_pos fits

/-- Where the buffer can grow, up to `2 ^ 27` bytes are read. -/
theorem readFileLoop_of_le {realloc : Nat → Bool} {chunks : List (List Byte)} {exponent : Nat}
    {buf : List Byte} (grows : ∀ size, realloc size = true) (bounded : exponent ≤ 27)
    (fits : (buf ++ chunks.flatten).length ≤ 2 ^ 27) :
    readFileLoop realloc chunks (2 ^ exponent) buf = .ok (buf ++ chunks.flatten) := by
  induction chunks generalizing exponent buf with
  | nil => rw [readFileLoop, List.flatten_nil, List.append_nil]
  | cons tmp chunks ih =>
      rw [List.flatten_cons, ← List.append_assoc] at fits ⊢
      have need : buf.length + tmp.length ≤ 2 ^ 27 := by
        rw [List.length_append, List.length_append] at fits
        omega
      rw [readFileLoop]
      by_cases exceeds : buf.length + tmp.length > (((2 : ℕ+) ^ exponent : ℕ+) : Nat)
      · obtain ⟨grown, grownBounded, grownEq, enough⟩ := growCap_of_le need bounded
        have room : buf.length + tmp.length ≤ (((2 : ℕ+) ^ grown : ℕ+) : Nat) := by
          rw [PNat.pow_coe]
          exact enough
        rw [if_pos exceeds, grownEq]
        simp only [Result.require_of (grows _), Result.ok_bind, appendChunk_of_le room]
        exact ih grownBounded fits
      · rw [if_neg exceeds, appendChunk_of_le (Nat.not_lt.mp exceeds), Result.ok_bind]
        exact ih bounded fits

/-- What the loop returns is what it had and what it was handed, at most
`2 ^ 27` bytes; it never writes behind its buffer. -/
theorem readFileLoop_cases (realloc : Nat → Bool) (chunks : List (List Byte)) {exponent : Nat}
    {buf : List Byte} (bounded : exponent ≤ 27) (held : buf.length ≤ 2 ^ 27) :
    (∃ rc, readFileLoop realloc chunks (2 ^ exponent) buf = .error rc) ∨
      readFileLoop realloc chunks (2 ^ exponent) buf = .ok (buf ++ chunks.flatten) ∧
        (buf ++ chunks.flatten).length ≤ 2 ^ 27 := by
  induction chunks generalizing exponent buf with
  | nil =>
      rw [readFileLoop, List.flatten_nil, List.append_nil]
      exact .inr ⟨rfl, held⟩
  | cons tmp chunks ih =>
      rw [List.flatten_cons, ← List.append_assoc, readFileLoop]
      by_cases exceeds : buf.length + tmp.length > (((2 : ℕ+) ^ exponent : ℕ+) : Nat)
      · rw [if_pos exceeds]
        by_cases need : buf.length + tmp.length ≤ 2 ^ 27
        · obtain ⟨grown, grownBounded, grownEq, enough⟩ := growCap_of_le need bounded
          have room : buf.length + tmp.length ≤ (((2 : ℕ+) ^ grown : ℕ+) : Nat) := by
            rw [PNat.pow_coe]
            exact enough
          rw [grownEq]
          by_cases grows : realloc ((2 : ℕ+) ^ grown : ℕ+) = true
          · simp only [Result.require_of grows, Result.ok_bind, appendChunk_of_le room]
            exact ih grownBounded (by rwa [List.length_append])
          · simp only [Result.require_of_not grows, Result.error_bind]
            exact .inl ⟨_, rfl⟩
        · rw [growCap_of_gt (Nat.not_le.mp need) bounded]
          exact .inl ⟨_, rfl⟩
      · have room := Nat.not_lt.mp exceeds
        have kept : buf.length + tmp.length ≤ 2 ^ 27 := by
          rw [PNat.pow_coe] at room
          exact room.trans (Nat.pow_le_pow_right (by decide) bounded)
        rw [if_neg exceeds, appendChunk_of_le room, Result.ok_bind]
        exact ih bounded (by rwa [List.length_append])

/-- A file that is read is read whole, and has at most `2 ^ 27` bytes. -/
theorem readFileAll_cases (host : FileHost) :
    (∃ rc, readFileAll host = .error rc) ∨
      ∃ stream, host.fopen = .ok stream ∧ readFileAll host = .ok stream.content ∧
        stream.content.length ≤ 2 ^ 27 := by
  unfold readFileAll
  cases opened : host.fopen with
  | error errno => exact .inl ⟨_, rfl⟩
  | ok stream =>
      by_cases allocated : host.malloc = true
      · have reads := @readFileLoop_cases host.realloc stream.chunks 12 [] (by decide)
          (Nat.zero_le _)
        change (∃ rc, readFileLoop host.realloc stream.chunks 4096 [] = _) ∨
          readFileLoop host.realloc stream.chunks 4096 [] = _ ∧ _ at reads
        simp only [Result.require_of allocated, Result.ok_bind]
        rcases reads with ⟨rc, failed⟩ | ⟨done, bounded⟩
        · rw [failed]
          exact .inl ⟨rc, rfl⟩
        · rw [done, Result.ok_bind]
          by_cases sound : stream.failed = false
          · rw [Result.require_of sound]
            exact .inr ⟨stream, rfl, rfl, bounded⟩
          · rw [Result.require_of_not sound]
            exact .inl ⟨_, rfl⟩
      · simp only [Result.require_of_not allocated]
        exact .inl ⟨_, rfl⟩

/-- A file of at most `2 ^ 27` bytes is read where the host has the memory. -/
theorem readFileAll_of_le {stream : FileStream} (sound : stream.failed = false)
    (fits : stream.content.length ≤ 2 ^ 27) :
    readFileAll ⟨.ok stream, true, fun _ => true⟩ = .ok stream.content := by
  have looped : readFileLoop (fun _ => true) stream.chunks 4096 [] = .ok stream.content :=
    @readFileLoop_of_le _ _ 12 [] (fun _ => rfl) (by decide) fits
  simp only [readFileAll, Result.require_of, Result.ok_bind, looped, sound]
  rfl

/-! ## Aligning a blob -/

/-- `(len + 3u) & ~3u` on a `size_t`. -/
def alignLen (len : Nat) : Nat :=
  (len + 3) % 2 ^ 64 &&& 0xFFFFFFFC

/-- `gxfp_align_blob`; `realloc` is what the memory behind the blob holds, or
none if there is no more. -/
def alignBlob (realloc : Option (Nat → Byte)) (blob : List Byte) : Result (List Byte) :=
  let len := blob.length
  if len = 0 then
    .error EINVAL.rc
  else
    let lenAligned := alignLen len
    if lenAligned = len then
      .ok blob
    else if lenAligned > 0xFFFF then
      .error EMSGSIZE.rc
    else
      match realloc with
      | none => .error ENOMEM.rc
      | some stale =>
          -- the count of the `memset` is a `size_t` difference
          memset (resize blob stale lenAligned) len ((lenAligned + 2 ^ 64 - len) % 2 ^ 64) 0

/-! ## What a blob is aligned to -/

/-- The bytes missing to a multiple of four. -/
def padLen (len : Nat) : Nat :=
  (4 - len % 4) % 4

theorem padLen_le (len : Nat) : padLen len ≤ 3 := by
  unfold padLen
  omega

theorem padLen_eq_zero_iff {len : Nat} : padLen len = 0 ↔ 4 ∣ len := by
  unfold padLen
  omega

theorem dvd_add_padLen (len : Nat) : 4 ∣ len + padLen len := by
  unfold padLen
  omega

/-- The mask `~3u` clears the two lowest bits and all above the lower 32. -/
theorem and_mask (value : Nat) : value &&& 0xFFFFFFFC = value % 2 ^ 32 / 4 * 4 := by
  have mask : 0xFFFFFFFC = (2 ^ 30 - 1) <<< 2 := by decide
  have product : value % 2 ^ 32 / 4 * 4 = (value % 2 ^ 32) >>> 2 <<< 2 := by
    rw [Nat.shiftLeft_eq, Nat.shiftRight_eq_div_pow]
  rw [mask, product]
  apply Nat.eq_of_testBit_eq
  intro index
  simp only [Nat.testBit_and, Nat.testBit_shiftLeft, Nat.testBit_shiftRight,
    Nat.testBit_mod_two_pow, Nat.testBit_two_pow_sub_one]
  by_cases low : 2 ≤ index
  · have back : 2 + (index - 2) = index := by omega
    have bound : decide (index - 2 < 30) = decide (index < 32) := by
      apply decide_eq_decide.mpr
      omega
    simp [low, back, bound, Bool.and_comm]
  · simp [low]

theorem alignLen_eq (len : Nat) : alignLen len = (len + 3) % 2 ^ 32 / 4 * 4 := by
  rw [alignLen, and_mask, Nat.mod_mod_of_dvd _ (by decide)]

/-- Below `2 ^ 32` a length is rounded up. -/
theorem alignLen_of_lt {len : Nat} (small : len + 3 < 2 ^ 32) :
    alignLen len = len + padLen len := by
  rw [alignLen_eq, Nat.mod_eq_of_lt small]
  unfold padLen
  omega

/-- From there on the result is shorter than what it was meant for. -/
theorem alignLen_of_le {len : Nat} (large : 2 ^ 32 ≤ len + 3) : alignLen len < len := by
  rw [alignLen_eq]
  omega

/-- A blob whose length is a multiple of four is left as it is. -/
theorem alignBlob_of_dvd {blob : List Byte} (realloc : Option (Nat → Byte))
    (nonempty : blob.length ≠ 0) (aligned : 4 ∣ blob.length)
    (small : blob.length + 3 < 2 ^ 32) : alignBlob realloc blob = .ok blob := by
  have same : alignLen blob.length = blob.length := by
    rw [alignLen_of_lt small, padLen_eq_zero_iff.mpr aligned, Nat.add_zero]
  simp only [alignBlob, if_neg nonempty, if_pos same]

/-- A blob that fits with its padding is padded with zeros. -/
theorem alignBlob_of_le {blob : List Byte} (stale : Nat → Byte) (nonempty : blob.length ≠ 0)
    (small : blob.length ≤ 0xFFFC) :
    alignBlob (some stale) blob = .ok (blob ++ List.replicate (padLen blob.length) 0) := by
  have rounded : alignLen blob.length = blob.length + padLen blob.length :=
    alignLen_of_lt (by omega)
  by_cases aligned : 4 ∣ blob.length
  · rw [alignBlob_of_dvd _ nonempty aligned (by omega), padLen_eq_zero_iff.mpr aligned]
    simp
  · have padded : padLen blob.length ≠ 0 := fun none => aligned (padLen_eq_zero_iff.mp none)
    have longer : alignLen blob.length ≠ blob.length := by omega
    have fits : ¬ alignLen blob.length > 0xFFFF := by
      have dvd := dvd_add_padLen blob.length
      have le := padLen_le blob.length
      omega
    have count : (alignLen blob.length + 2 ^ 64 - blob.length) % 2 ^ 64 = padLen blob.length := by
      have le := padLen_le blob.length
      omega
    have grown : alignLen blob.length - blob.length = padLen blob.length := by omega
    simp only [alignBlob, if_neg nonempty, if_neg longer, if_neg fits, count]
    rw [resize_of_le (by omega), grown, memset_append (by rw [fresh_length]),
      List.drop_of_length_le (by rw [fresh_length]), List.append_nil]

/-- A blob that is not refused comes back with its padding. -/
theorem alignBlob_cases (realloc : Option (Nat → Byte)) {blob : List Byte}
    (small : blob.length + 3 < 2 ^ 32) :
    (∃ rc, alignBlob realloc blob = .error rc) ∨
      alignBlob realloc blob = .ok (blob ++ List.replicate (padLen blob.length) 0) ∧
        (4 ∣ blob.length ∨ blob.length ≤ 0xFFFC) := by
  by_cases empty : blob.length = 0
  · simp only [alignBlob, if_pos empty]
    exact .inl ⟨_, rfl⟩
  by_cases aligned : 4 ∣ blob.length
  · rw [alignBlob_of_dvd _ empty aligned small, padLen_eq_zero_iff.mpr aligned]
    exact .inr ⟨by simp, .inl aligned⟩
  have rounded := alignLen_of_lt small
  have padded : padLen blob.length ≠ 0 := fun none => aligned (padLen_eq_zero_iff.mp none)
  have longer : alignLen blob.length ≠ blob.length := by omega
  by_cases exceeds : alignLen blob.length > 0xFFFF
  · simp only [alignBlob, if_neg empty, if_neg longer, if_pos exceeds]
    exact .inl ⟨_, rfl⟩
  cases realloc with
  | none =>
      simp only [alignBlob, if_neg empty, if_neg longer, if_neg exceeds]
      exact .inl ⟨_, rfl⟩
  | some stale =>
      have fits : blob.length ≤ 0xFFFC := by
        have dvd := dvd_add_padLen blob.length
        omega
      exact .inr ⟨alignBlob_of_le stale empty fits, .inr fits⟩

/-- An accepted blob of less than `2 ^ 16` bytes still has less with its
padding. -/
theorem alignBlob_eq_ok {realloc : Option (Nat → Byte)} {blob result : List Byte}
    (small : blob.length < 2 ^ 16) (accepted : alignBlob realloc blob = .ok result) :
    result = blob ++ List.replicate (padLen blob.length) 0 ∧ result.length < 2 ^ 16 := by
  rcases @alignBlob_cases realloc blob (by omega) with ⟨rc, refused⟩ | ⟨done, reason⟩
  · exact nomatch refused.symm.trans accepted
  · cases done.symm.trans accepted
    refine ⟨rfl, ?_⟩
    rw [List.length_append, List.length_replicate]
    rcases reason with aligned | fits
    · rw [padLen_eq_zero_iff.mpr aligned]
      exact small
    · have le := padLen_le blob.length
      omega

end Gxfp.User
