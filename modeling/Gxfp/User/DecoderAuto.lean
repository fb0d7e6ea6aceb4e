import Gxfp.User.DecoderChicago
import Gxfp.User.DecoderMilan

/-!
# Detection of the image format

`gxfp_decode_auto_detect` finds the format of a buffer from its length alone:
the packed length of a table row, with or without a header of five bytes and a
checksum of four.  The table, the geometries of `gxfp_decode_image` and the
lengths the decoders ask for are three encodings of one fact.

They agree, so a detected format always decodes, and the bytes outside the
payload never matter.
-/

namespace Gxfp.User

open Lib.Bytes
open Gxfp.Errno

/-! ## The table -/

/-- A row of the table in `gxfp_decode_auto_detect`. -/
structure DecodeMode where
  mode : DecodeFormat
  packedLen : Nat
  rows : Nat
  cols : Nat
  deriving DecidableEq, Repr

/-- The table in `gxfp_decode_auto_detect`. -/
def decodeModes : List DecodeMode :=
  [⟨.milangRaw, 0x39C0, 0x36, 0xB0⟩, ⟨.milangNav, 0x0540, 0x36, 0x10⟩,
    ⟨.chicagohRaw, 0x1E00, 0x40, 0x50⟩, ⟨.chicagohNav, 0x0960, 0x40, 0x19⟩,
    ⟨.chicagohRawU16le, 0x2800, 0x40, 0x50⟩, ⟨.chicagohNavU16le, 0x0C80, 0x40, 0x19⟩]

/-- Detection reads the formats and the lengths. -/
theorem decodeAutoModes_eq :
    decodeAutoModes = decodeModes.map fun row => (row.mode, row.packedLen) :=
  rfl

theorem decodeModes_pos {row : DecodeMode} (member : row ∈ decodeModes) :
    0 < row.rows ∧ 0 < row.cols := by
  have all : ∀ row ∈ decodeModes, 0 < row.rows ∧ 0 < row.cols := by decide
  exact all row member

/-- The lengths of header and checksum around a payload. -/
def framings : List (Nat × Nat) :=
  [(0, 0), (0, 4), (5, 0), (5, 4)]

/-- A length is a payload of the given length in one of the framings. -/
def Framed (length packedLen : Nat) : Prop :=
  ∃ framing ∈ framings, length = framing.1 + packedLen + framing.2

theorem framed_iff (length packedLen : Nat) :
    Framed length packedLen ↔ length = packedLen ∨ length = packedLen + 4 ∨
      length = 5 + packedLen ∨ length = 5 + packedLen + 4 := by
  simp [Framed, framings]

/-! ## Detection -/

theorem decodeAutoLoop_miss {buf : List Byte} {modes : List (DecodeFormat × Nat)}
    (unknown : ∀ row ∈ modes, ¬ Framed buf.length row.2) :
    decodeAutoLoop buf modes = .error ENOENT := by
  induction modes with
  | nil => rfl
  | cons row modes ih =>
      have here := unknown row List.mem_cons_self
      rw [framed_iff, not_or, not_or, not_or] at here
      obtain ⟨bare, tail, header, both⟩ := here
      rw [decodeAutoLoop, if_neg bare, if_neg tail, if_neg header, if_neg both]
      exact ih fun row member => unknown row (List.mem_cons_of_mem _ member)

/-- A row is found by its length if no earlier row has the length too. -/
theorem decodeAutoLoop_hit {buf : List Byte} {modes : List (DecodeFormat × Nat)}
    (spread : modes.Pairwise fun first second =>
      ∀ length, Framed length first.2 → ¬ Framed length second.2)
    {row : DecodeFormat × Nat} (member : row ∈ modes) {framing : Nat × Nat}
    (known : framing ∈ framings) (length : buf.length = framing.1 + row.2 + framing.2) :
    decodeAutoLoop buf modes = .ok (row.1, (buf.drop framing.1).take row.2) := by
  induction modes with
  | nil => cases member
  | cons first modes ih =>
      obtain ⟨apart, spread⟩ := List.pairwise_cons.mp spread
      rcases List.mem_cons.mp member with rfl | later
      · rw [decodeAutoLoop]
        simp only [framings, List.mem_cons, List.not_mem_nil, or_false] at known
        rcases known with rfl | rfl | rfl | rfl
        · dsimp only at length ⊢
          rw [if_pos (by omega), List.drop_zero, List.take_of_length_le (by omega)]
        · dsimp only at length ⊢
          rw [if_neg (by omega), if_pos (by omega), List.drop_zero]
        · dsimp only at length ⊢
          rw [if_neg (by omega), if_neg (by omega), if_pos (by omega)]
        · dsimp only at length ⊢
          rw [if_neg (by omega), if_neg (by omega), if_neg (by omega), if_pos (by omega)]
      · have framed : Framed buf.length row.2 := ⟨framing, known, length⟩
        have other : ¬ Framed buf.length first.2 := fun here => apart row later _ here framed
        rw [framed_iff, not_or, not_or, not_or] at other
        obtain ⟨bare, tail, header, both⟩ := other
        rw [decodeAutoLoop, if_neg bare, if_neg tail, if_neg header, if_neg both]
        exact ih spread later

/-- No length belongs to two rows: the packed lengths are more than a framing
apart. -/
theorem decodeAutoModes_spread :
    decodeAutoModes.Pairwise fun first second =>
      ∀ length, Framed length first.2 → ¬ Framed length second.2 := by
  have far : decodeAutoModes.Pairwise fun first second =>
      first.2 + 9 < second.2 ∨ second.2 + 9 < first.2 := by
    decide
  apply far.imp
  intro first second apart length
  rw [framed_iff, framed_iff]
  omega

theorem decodeAutoDetect_hit {buf : List Byte} {row : DecodeMode} (member : row ∈ decodeModes)
    {framing : Nat × Nat} (known : framing ∈ framings)
    (length : buf.length = framing.1 + row.packedLen + framing.2) :
    decodeAutoDetect buf = .ok (row.mode, (buf.drop framing.1).take row.packedLen) := by
  have listed : (row.mode, row.packedLen) ∈ decodeAutoModes := by
    rw [decodeAutoModes_eq]
    exact List.mem_map_of_mem member
  exact decodeAutoLoop_hit decodeAutoModes_spread listed known length

theorem decodeAutoDetect_miss {buf : List Byte}
    (unknown : ∀ row ∈ decodeModes, ¬ Framed buf.length row.packedLen) :
    decodeAutoDetect buf = .error ENOENT := by
  apply decodeAutoLoop_miss
  rw [decodeAutoModes_eq]
  intro entry member
  obtain ⟨row, rowMem, rfl⟩ := List.mem_map.mp member
  exact unknown row rowMem

/-! ## Decoding of a detected format -/

/-- The samples of sixteen bits of a payload. -/
def u16leSamples (payload : List Byte) (total : Nat) : List UInt16 :=
  (List.range total).map fun i =>
    ((payload.getD (i * 2 + 1) 0).toUInt16 <<< 8) ||| (payload.getD (i * 2) 0).toUInt16

/-- Samples of sixteen bits need nothing but their number. -/
theorem decodeChicago_u16le_eq (env : Env) (io : Io) {payload : List Byte} {rows cols : Nat}
    (rowsPos : 0 < rows) (colsPos : 0 < cols) :
    (decodeChicago env io payload rows cols true).1 =
      if payload.length < rows * cols * 2 then
        .error EINVAL.rc
      else if env.malloc io.count = false then
        .error ENOMEM.rc
      else
        .ok ⟨u16leSamples payload (rows * cols), rows, cols⟩ := by
  have positive : ¬ ((rows : Int) ≤ 0 ∨ (cols : Int) ≤ 0) := by omega
  unfold decodeChicago
  simp only [if_neg positive, Int.toNat_natCast, if_true]
  by_cases short : payload.length < rows * cols * 2
  · rw [if_pos short, if_pos short]
  · rw [if_neg short, if_neg short]
    cases env.malloc io.count with
    | false => rfl
    | true => rfl

theorem decodeChicago_u16le (env : Env) (io : Io) {payload : List Byte} {rows cols : Nat}
    (rowsPos : 0 < rows) (colsPos : 0 < cols) (enough : rows * cols * 2 ≤ payload.length)
    (allocated : env.malloc io.count = true) :
    ∃ pixels : List UInt16, pixels.length = rows * cols ∧
      (decodeChicago env io payload rows cols true).1 = .ok ⟨pixels, rows, cols⟩ := by
  rw [decodeChicago_u16le_eq env io rowsPos colsPos, if_neg (Nat.not_lt.mpr enough), allocated,
    if_neg Bool.noConfusion]
  exact ⟨_, by rw [u16leSamples, List.length_map, List.length_range], rfl⟩

/-- Packed samples that fill the image. -/
theorem decodeChicago_filled (env : Env) (io : Io) {payload : List Byte} {rows cols : Nat}
    (rowsPos : 0 < rows) (colsPos : 0 < cols) (enough : 6 ≤ payload.length)
    (filled : 4 * (payload.length / 6) = rows * cols) (allocated : env.malloc io.count = true) :
    ∃ pixels : List UInt16, pixels.length = rows * cols ∧
      (decodeChicago env io payload rows cols false).1 = .ok ⟨pixels, rows, cols⟩ := by
  rw [decodeChicago_packed_eq env io rowsPos colsPos enough, allocated, if_neg Bool.noConfusion,
    if_pos filled]
  exact ⟨_, by rw [Lib.Stores.length_stores, List.length_replicate], rfl⟩

theorem decodeMilan_blocks (env : Env) (io : Io) {payload : List Byte} {rows cols : Nat}
    (shape : rows % 4 = 2) (colsPos : 0 < cols)
    (enough : milanStride rows * cols ≤ payload.length)
    (allocated : ∀ request, env.malloc request = true) :
    ∃ pixels : List UInt16, pixels.length = rows * cols ∧
      (decodeMilan env io payload rows cols).1 = .ok ⟨pixels, rows, cols⟩ := by
  rw [decodeMilan_eq env io shape colsPos enough, allocated, allocated, allocated]
  exact ⟨_, milanPixels_length rows cols payload, rfl⟩

/-- A payload of the packed length of a row decodes to the row's geometry. -/
theorem decodeFormat_row (env : Env) (io : Io) {payload : List Byte} {row : DecodeMode}
    (member : row ∈ decodeModes) (length : payload.length = row.packedLen)
    (allocated : ∀ request, env.malloc request = true) :
    ∃ pixels : List UInt16, pixels.length = row.rows * row.cols ∧
      (decodeFormat env io payload row.mode).1 = .ok ⟨pixels, row.rows, row.cols⟩ := by
  simp only [decodeModes, List.mem_cons, List.not_mem_nil, or_false] at member
  rcases member with rfl | rfl | rfl | rfl | rfl | rfl
  · exact decodeMilan_blocks env io (by decide) (by decide) (Nat.le_of_eq length.symm) allocated
  · exact decodeMilan_blocks env io (by decide) (by decide) (Nat.le_of_eq length.symm) allocated
  · exact decodeChicago_filled env io (by decide) (by decide) (by rw [length]; decide)
      (by rw [length]; rfl) (allocated _)
  · exact decodeChicago_filled env io (by decide) (by decide) (by rw [length]; decide)
      (by rw [length]; rfl) (allocated _)
  · exact decodeChicago_u16le env io (by decide) (by decide) (Nat.le_of_eq length.symm)
      (allocated _)
  · exact decodeChicago_u16le env io (by decide) (by decide) (Nat.le_of_eq length.symm)
      (allocated _)

/-- `gxfp_decode_image` on a buffer of a recognised length decodes the payload
alone. -/
theorem decodeImage_framed (env : Env) (io : Io) {buf : List Byte} {row : DecodeMode}
    (member : row ∈ decodeModes) {framing : Nat × Nat} (known : framing ∈ framings)
    (length : buf.length = framing.1 + row.packedLen + framing.2) :
    decodeImage env io buf =
      decodeFormat env io ((buf.drop framing.1).take row.packedLen) row.mode := by
  unfold decodeImage
  rw [decodeAutoDetect_hit member known length]

/-- Automatic decoding is total on the recognised lengths: any other length is
`-ENOENT`, a recognised one decodes to the geometry of its row unless an
allocation fails, and the bytes of the framing do not matter. -/
theorem decodeImage_auto (env : Env) (io : Io) (buf : List Byte) :
    ((∀ row ∈ decodeModes, ∀ framing ∈ framings,
        buf.length ≠ framing.1 + row.packedLen + framing.2) →
      (decodeImage env io buf).1 = .error ENOENT.rc) ∧
      ∀ row ∈ decodeModes, ∀ framing ∈ framings,
        buf.length = framing.1 + row.packedLen + framing.2 →
        ((∀ request, env.malloc request = true) →
          ∃ pixels : List UInt16, pixels.length = row.rows * row.cols ∧
            (decodeImage env io buf).1 = .ok ⟨pixels, row.rows, row.cols⟩) ∧
          ∀ other : List Byte, other.length = buf.length →
            (other.drop framing.1).take row.packedLen =
              (buf.drop framing.1).take row.packedLen →
            decodeImage env io other = decodeImage env io buf := by
  constructor
  · intro unknown
    have missed : decodeAutoDetect buf = .error ENOENT := by
      apply decodeAutoDetect_miss
      rintro row member ⟨framing, known, length⟩
      exact unknown row member framing known length
    unfold decodeImage
    rw [missed]
  · intro row member framing known length
    constructor
    · intro allocated
      rw [decodeImage_framed env io member known length]
      apply decodeFormat_row env io member _ allocated
      rw [List.length_take, List.length_drop]
      omega
    · intro other sameLength samePayload
      rw [decodeImage_framed env io member known length,
        decodeImage_framed env io member known (sameLength.trans length), samePayload]

/-- A navigation image of sixteen-bit samples in both framings. -/
theorem decodeImage_auto_nav :
    ∃ pixels : List UInt16, pixels.length = 1600 ∧
      (decodeImage steadyEnv ⟨0, []⟩ (List.replicate 3209 0)).1 = .ok ⟨pixels, 64, 25⟩ := by
  have row : (⟨.chicagohNavU16le, 0x0C80, 0x40, 0x19⟩ : DecodeMode) ∈ decodeModes := by decide
  have framing : ((5, 4) : Nat × Nat) ∈ framings := by decide
  exact ((decodeImage_auto steadyEnv ⟨0, []⟩ (List.replicate 3209 0)).2 _ row _ framing
    List.length_replicate).1 fun _ => rfl

/-! ## Decoded images -/

/-- The formats with samples of twelve bits. -/
def DecodeFormat.packed : DecodeFormat → Bool
  | .milangRaw | .milangNav | .chicagohRaw | .chicagohNav => true
  | .chicagohRawU16le | .chicagohNavU16le => false

/-- What is known of an image decoded by a row of the table. -/
structure DecodedBy (row : DecodeMode) (image : DecodedImage) : Prop where
  rows : image.rows = row.rows
  cols : image.cols = row.cols
  length : image.pixels.length = row.rows * row.cols
  packed : row.mode.packed = true → ∀ pixel ∈ image.pixels, pixel.toNat ≤ 4095

theorem decodedBy_milan {env : Env} {io : Io} {payload : List Byte} {row : DecodeMode}
    {image : DecodedImage} (shape : row.rows % 4 = 2) (colsPos : 0 < row.cols)
    (enough : milanStride row.rows * row.cols ≤ payload.length)
    (decoded : (decodeMilan env io payload row.rows row.cols).1 = .ok image) :
    DecodedBy row image := by
  rw [decodeMilan_eq env io shape colsPos enough] at decoded
  split at decoded
  · cases decoded
    refine ⟨rfl, rfl, milanPixels_length _ _ _, ?_⟩
    intro _ pixel member
    obtain ⟨r, _, inRow⟩ := List.mem_flatMap.mp member
    obtain ⟨c, _, rfl⟩ := List.mem_map.mp inRow
    exact packedSample_le _ _
  · cases decoded

theorem decodedBy_chicago {env : Env} {io : Io} {payload : List Byte} {row : DecodeMode}
    {image : DecodedImage} (rowsPos : 0 < row.rows) (colsPos : 0 < row.cols)
    (enough : 6 ≤ payload.length)
    (decoded : (decodeChicago env io payload row.rows row.cols false).1 = .ok image) :
    DecodedBy row image := by
  rw [decodeChicago_packed_eq env io rowsPos colsPos enough] at decoded
  split at decoded
  · cases decoded
  · split at decoded
    · cases decoded
      refine ⟨rfl, rfl, by rw [Lib.Stores.length_stores, List.length_replicate], ?_⟩
      intro _ pixel member
      rcases Lib.Stores.mem_stores member with zero | ⟨write, written, rfl⟩
      · rw [List.eq_of_mem_replicate zero]
        exact Nat.zero_le _
      · exact chicagoWrites_le written
    · cases decoded

theorem decodedBy_u16le {env : Env} {io : Io} {payload : List Byte} {row : DecodeMode}
    {image : DecodedImage} (rowsPos : 0 < row.rows) (colsPos : 0 < row.cols)
    (unpacked : row.mode.packed = false)
    (decoded : (decodeChicago env io payload row.rows row.cols true).1 = .ok image) :
    DecodedBy row image := by
  rw [decodeChicago_u16le_eq env io rowsPos colsPos] at decoded
  split at decoded
  · cases decoded
  · split at decoded
    · cases decoded
    · cases decoded
      refine ⟨rfl, rfl, by rw [u16leSamples, List.length_map, List.length_range], ?_⟩
      intro packed
      rw [unpacked] at packed
      cases packed

/-- An image that `gxfp_decode_image` returns belongs to the row that its buffer
was detected as. -/
theorem decodeImage_decodedBy {env : Env} {io : Io} {buf : List Byte} {image : DecodedImage}
    (decoded : (decodeImage env io buf).1 = .ok image) :
    ∃ row ∈ decodeModes, Framed buf.length row.packedLen ∧ DecodedBy row image := by
  by_cases known : ∃ row ∈ decodeModes, Framed buf.length row.packedLen
  · obtain ⟨row, member, framed⟩ := known
    refine ⟨row, member, framed, ?_⟩
    obtain ⟨framing, framingMem, length⟩ := framed
    rw [decodeImage_framed env io member framingMem length] at decoded
    have payloadLength : ((buf.drop framing.1).take row.packedLen).length = row.packedLen := by
      rw [List.length_take, List.length_drop]
      omega
    simp only [decodeModes, List.mem_cons, List.not_mem_nil, or_false] at member
    rcases member with rfl | rfl | rfl | rfl | rfl | rfl
    · exact decodedBy_milan (by decide) (by decide) (Nat.le_of_eq payloadLength.symm) decoded
    · exact decodedBy_milan (by decide) (by decide) (Nat.le_of_eq payloadLength.symm) decoded
    · exact decodedBy_chicago (by decide) (by decide) (by rw [payloadLength]; decide) decoded
    · exact decodedBy_chicago (by decide) (by decide) (by rw [payloadLength]; decide) decoded
    · exact decodedBy_u16le (by decide) (by decide) rfl decoded
    · exact decodedBy_u16le (by decide) (by decide) rfl decoded
  · have missed : decodeAutoDetect buf = .error ENOENT :=
      decodeAutoDetect_miss fun row member framed => known ⟨row, member, framed⟩
    unfold decodeImage at decoded
    rw [missed] at decoded
    cases decoded

end Gxfp.User
