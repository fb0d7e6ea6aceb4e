import Gxfp.User.Host

/-!
# Decoding images

Embeds `src/algo/image/decoder.c` and `src/algo/image/fpn.c`: the unpacking of
12-bit samples, the detection of the format from the length, and the
correction with a dark frame.  The double-precision arithmetic of the stretch
is taken as exact rational arithmetic.
-/

namespace Gxfp.User

open Lib.Bytes
open Gxfp.Errno

/-- `struct gxfp_decoded_image`. -/
structure DecodedImage where
  pixels : List UInt16
  rows : Int
  cols : Int
  deriving DecidableEq, Repr

/-! ## Packed samples -/

/-- `unpack_sample4`. -/
def unpackSample4 (b0 b1 b2 b3 b4 b5 : Byte) : List UInt16 :=
  [((b0 &&& 0x0F).toUInt16 <<< 8) ||| b1.toUInt16, (b3.toUInt16 <<< 4) ||| (b0 >>> 4).toUInt16,
    ((b5 &&& 0x0F).toUInt16 <<< 8) ||| b2.toUInt16, (b4.toUInt16 <<< 4) ||| (b5 >>> 4).toUInt16]

/-- Store samples from an index on.  A store behind the end is dropped. -/
def storeSamples (pixels : List UInt16) (index : Nat) : List UInt16 → List UInt16
  | [] => pixels
  | sample :: samples => storeSamples (pixels.set index sample) (index + 1) samples

/-- The variables of the unpacking loop of `gxfp_decode_milan`. -/
structure MilanLoop where
  outI : Nat
  inI : Nat
  colMajor : List UInt16

/-- The body of that loop; `none` where it breaks. -/
def milanLoopStep (rows : Nat) (pu : List Byte) (loop : MilanLoop) : Option MilanLoop :=
  let b (index : Nat) : Byte := pu.getD (loop.inI + index) 0
  if loop.outI % rows + 2 = rows then
    if loop.inI + 4 > pu.length then
      none
    else
      some
        ⟨loop.outI + 2, loop.inI + 4,
          storeSamples loop.colMajor loop.outI
            [((b 0 &&& 0x0F).toUInt16 <<< 8) ||| (b 1).toUInt16,
              ((b 3).toUInt16 <<< 4) ||| (b 0 >>> 4).toUInt16]⟩
  else if loop.inI + 6 > pu.length then
    none
  else
    some
      ⟨loop.outI + 4, loop.inI + 6,
        storeSamples loop.colMajor loop.outI (unpackSample4 (b 0) (b 1) (b 2) (b 3) (b 4) (b 5))⟩

/-- The loop.  It has at most one round for each input byte. -/
def milanLoop (rows total : Nat) (pu : List Byte) : Nat → MilanLoop → MilanLoop
  | 0, loop => loop
  | rounds + 1, loop =>
      if loop.inI < pu.length ∧ loop.outI < total then
        match milanLoopStep rows pu loop with
        | none => loop
        | some next => milanLoop rows total pu rounds next
      else
        loop

section Decode

variable (env : Env)

/-- `gxfp_decode_milan`. -/
def decodeMilan (io : Io) (payload : List Byte) (rows cols : Int) :
    Except Int DecodedImage × Io :=
  if rows ≤ 0 ∨ cols ≤ 0 then
    (.error EINVAL.rc, io)
  else
    let height := rows.toNat
    let width := cols.toNat
    let stride := (height + 2) * 3 / 2
    let takePerBlock := height * 3 / 2 + 1
    if payload.length < stride * width then
      (.error EINVAL.rc, io)
    else if !env.malloc io.count then
      (.error ENOMEM.rc, io.tick)
    else
      let io := io.tick
      let pu := (List.range width).flatMap fun c => (payload.drop (c * stride)).take takePerBlock
      let total := height * width
      if !env.malloc io.count then
        (.error ENOMEM.rc, io.tick)
      else
        let io := io.tick
        let loop := milanLoop height total pu pu.length ⟨0, 0, List.replicate total 0⟩
        if loop.outI ≠ total then
          (.error EIO.rc, io)
        else if !env.malloc io.count then
          (.error ENOMEM.rc, io.tick)
        else
          (.ok
            ⟨(List.range height).flatMap fun r =>
                (List.range width).map fun c => loop.colMajor.getD (c * height + r) 0,
              rows, cols⟩,
            io.tick)

/-- The variables of the unpacking loop of `gxfp_decode_chicago`. -/
structure ChicagoLoop where
  outIdx : Nat
  pixels : List UInt16

/-- Where `gxfp_decode_chicago` stores a sample, if it does. -/
def chicagoStore (rows cols : Nat) (transpose : Bool) (pixels : List UInt16) (index : Nat)
    (sample : UInt16) : List UInt16 :=
  let dst := if transpose then index % rows * cols + index / rows else index
  if dst < rows * cols then pixels.set dst sample else pixels

/-- One round of that loop. -/
def chicagoLoopStep (rows cols : Nat) (transpose : Bool) (payload : List Byte)
    (loop : ChicagoLoop) (inOff : Nat) : ChicagoLoop :=
  let b (index : Nat) : Byte := payload.getD (inOff + index) 0
  let samples := unpackSample4 (b 0) (b 1) (b 2) (b 3) (b 4) (b 5)
  ⟨loop.outIdx + 4,
    (List.range 4).foldl
      (fun pixels off =>
        chicagoStore rows cols transpose pixels (loop.outIdx + off) (samples.getD off 0))
      loop.pixels⟩

/-- `gxfp_decode_chicago`. -/
def decodeChicago (io : Io) (payload : List Byte) (rows cols : Int) (isU16le : Bool) :
    Except Int DecodedImage × Io :=
  if rows ≤ 0 ∨ cols ≤ 0 then
    (.error EINVAL.rc, io)
  else
    let height := rows.toNat
    let width := cols.toNat
    let total := height * width
    if isU16le then
      if payload.length < total * 2 then
        (.error EINVAL.rc, io)
      else if !env.malloc io.count then
        (.error ENOMEM.rc, io.tick)
      else
        (.ok
          ⟨(List.range total).map fun i =>
              ((payload.getD (i * 2 + 1) 0).toUInt16 <<< 8) ||| (payload.getD (i * 2) 0).toUInt16,
            rows, cols⟩,
          io.tick)
    else if payload.length < 6 then
      (.error EINVAL.rc, io)
    else if !env.malloc io.count then
      (.error ENOMEM.rc, io.tick)
    else
      let transpose := payload.length ≠ 0x960
      let loop :=
        ((List.range (payload.length / 6)).map fun index => index * 6).foldl
          (chicagoLoopStep height width transpose payload) ⟨0, List.replicate total 0⟩
      if loop.outIdx ≠ total then
        (.error EIO.rc, io.tick)
      else
        (.ok ⟨loop.pixels, rows, cols⟩, io.tick)

/-! ## Formats -/

/-- `enum gxfp_decode_mode` without `GXFP_DECODE_AUTO`. -/
inductive DecodeFormat
  | milangRaw
  | milangNav
  | chicagohRaw
  | chicagohNav
  | chicagohRawU16le
  | chicagohNavU16le
  deriving DecidableEq, Repr

/-- The packed lengths in the table of `gxfp_decode_auto_detect`, in its
order. -/
def decodeAutoModes : List (DecodeFormat × Nat) :=
  [(.milangRaw, 0x39C0), (.milangNav, 0x0540), (.chicagohRaw, 0x1E00), (.chicagohNav, 0x0960),
    (.chicagohRawU16le, 0x2800), (.chicagohNavU16le, 0x0C80)]

/-- The loop of `gxfp_decode_auto_detect`: the format and the payload. -/
def decodeAutoLoop (buf : List Byte) :
    List (DecodeFormat × Nat) → Except Errno (DecodeFormat × List Byte)
  | [] => .error ENOENT
  | (format, packedLen) :: modes =>
      if buf.length = packedLen then
        .ok (format, buf)
      else if buf.length = packedLen + 4 then
        .ok (format, buf.take packedLen)
      else if buf.length = 5 + packedLen then
        .ok (format, (buf.drop 5).take packedLen)
      else if buf.length = 5 + packedLen + 4 then
        .ok (format, (buf.drop 5).take packedLen)
      else
        decodeAutoLoop buf modes

/-- `gxfp_decode_auto_detect`. -/
def decodeAutoDetect (buf : List Byte) : Except Errno (DecodeFormat × List Byte) :=
  decodeAutoLoop buf decodeAutoModes

/-- `gxfp_decode_image` with a format. -/
def decodeFormat (io : Io) (buf : List Byte) : DecodeFormat → Except Int DecodedImage × Io
  | .milangRaw => decodeMilan env io buf 0x36 0xB0
  | .milangNav => decodeMilan env io buf 0x36 0x10
  | .chicagohRaw => decodeChicago env io buf 0x40 0x50 false
  | .chicagohNav => decodeChicago env io buf 0x40 0x19 false
  | .chicagohRawU16le => decodeChicago env io buf 0x40 0x50 true
  | .chicagohNavU16le => decodeChicago env io buf 0x40 0x19 true

/-- `gxfp_decode_image` with `GXFP_DECODE_AUTO`. -/
def decodeImage (io : Io) (buf : List Byte) : Except Int DecodedImage × Io :=
  match decodeAutoDetect buf with
  | .error errno => (.error errno.rc, io)
  | .ok (format, payload) => decodeFormat env io payload format

end Decode

/-! ## Dark frames -/

/-- `struct gxfp_fpn_dark` with its pixels allocated. -/
structure FpnDark where
  pixels : List UInt16
  rows : Int
  cols : Int
  deriving DecidableEq, Repr

/-- The dark-frame subtraction of `gxfp_fpn_correct`. -/
def fpnSubtract (pixels dark : List UInt16) : List UInt16 :=
  pixels.mapIdx fun index pixel =>
    UInt16.ofNat ((pixel.toNat : Int) - ((dark.getD index 0).toNat : Int)).natAbs

/-- The pixels that are not on the border, in the order of the loop. -/
def fpnInner (pixels : List UInt16) (height width : Nat) : List UInt16 :=
  (List.range' 1 (height - 2)).flatMap fun y =>
    (List.range' 1 (width - 2)).map fun x => pixels.getD (y * width + x) 0

/-- The stretch of one pixel. -/
def fpnStretch (gmin gmax pixel : UInt16) : UInt16 :=
  let scale : Rat := 4095 / ((gmax.toNat : Rat) - gmin.toNat)
  let v : Rat := ((pixel.toNat : Rat) - gmin.toNat) * scale
  let v := if v < 0 then 0 else v
  let v := if v > 4095 then 4095 else v
  UInt16.ofNat (v + 1 / 2).floor.toNat

/-- `gxfp_fpn_correct`. -/
def fpnCorrect (pixels : List UInt16) (rows cols : Int) (dark : Option FpnDark) :
    Except Errno (List UInt16) :=
  if rows ≤ 0 ∨ cols ≤ 0 then
    .error EINVAL
  else if dark.any fun dark => dark.rows ≠ rows ∨ dark.cols ≠ cols then
    .error EINVAL
  else
    let pixels := dark.elim pixels fun dark => fpnSubtract pixels dark.pixels
    let inner := fpnInner pixels rows.toNat cols.toNat
    let gmin := inner.foldl (fun gmin v => if v < gmin then v else gmin) 4095
    let gmax := inner.foldl (fun gmax v => if v > gmax then v else gmax) 0
    if gmax > gmin then
      .ok (pixels.map (fpnStretch gmin gmax))
    else
      .ok pixels

end Gxfp.User
