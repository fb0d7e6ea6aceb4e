import Gxfp.User.Host

/-!
# Image frames in the plaintext

Embeds `src/algo/image/plain.c`: the CRC of an image body, the sink that keeps
the first good image frame, and the scanner that looks for one in a decrypted
chunk.
-/

namespace Gxfp.User

open Lib.Bytes
open Gxfp.Errno

/-! ## The checksum -/

/-- One entry of the table of `crc32_mpeg2_init_table`. -/
def crc32Mpeg2Table (index : UInt32) : UInt32 :=
  ((List.range 8).foldl
    (fun (state : UInt32 × UInt32) _ =>
      let crc :=
        if (state.1 ^^^ state.2) &&& 0x80000000 = 0 then
          state.2 <<< 1
        else
          (state.2 <<< 1) ^^^ 0x04C11DB7
      (state.1 <<< 1, crc))
    (index <<< 24, 0)).2

/-- `crc32_mpeg2`. -/
def crc32Mpeg2 (buf : List Byte) : UInt32 :=
  buf.foldl
    (fun crc byte => crc32Mpeg2Table (((crc >>> 24) ^^^ byte.toUInt32) &&& 0xFF) ^^^ (crc <<< 8))
    0xFFFFFFFF

/-- `gxfp_image_crc_check`. -/
def imageCrcCheck (buf : List Byte) : Bool :=
  if buf.length < 4 then
    false
  else
    let byte (fromEnd : Nat) : UInt32 := (buf.getD (buf.length - fromEnd) 0).toUInt32
    let expected := (byte 2 <<< 24) ||| (byte 1 <<< 16) ||| (byte 4 <<< 8) ||| byte 3
    crc32Mpeg2 (buf.take (buf.length - 4)) == expected

/-! ## The sink -/

/-- `struct gxfp_plain_image_sink`; `body` is `none` where the source has a null
pointer. -/
structure PlainImageSink where
  hdr : List Byte
  body : Option (List Byte)
  haveOneframe : Bool
  deriving DecidableEq, Repr

/-- `gxfp_plain_image_sink_reset`. -/
def plainImageSinkReset : PlainImageSink :=
  ⟨List.replicate 5 0, none, false⟩

section Sink

variable (env : Env)

/-- `gxfp_plain_image_sink_append`. -/
def plainImageSinkAppend (io : Io) (sink : PlainImageSink) (payload : List Byte) :
    Int × PlainImageSink × Io :=
  if payload.length = 0 then
    (0, sink, io)
  else if sink.haveOneframe then
    (0, sink, io)
  else if payload.length < 5 then
    (0, sink, io)
  else if !imageCrcCheck (payload.drop 5) then
    (0, sink, io)
  else if !env.malloc io.count then
    (ENOMEM.rc, sink, io.tick)
  else
    (0, ⟨payload.take 5, some (payload.drop 5), true⟩, io.tick)

/-- What `gxfp_plain_image_sink_extract` returns. -/
structure SinkExtract where
  ret : Int
  hdr : List Byte
  body : Option (List Byte)
  sink : PlainImageSink
  io : Io

/-- `gxfp_plain_image_sink_extract`. -/
def plainImageSinkExtract (io : Io) (sink : PlainImageSink) : SinkExtract :=
  match sink.body with
  | none => ⟨0, List.replicate 5 0, none, sink, io⟩
  | some body =>
      if !sink.haveOneframe ∨ body.length = 0 then
        ⟨0, List.replicate 5 0, none, sink, io⟩
      else if !env.malloc io.count then
        ⟨ENOMEM.rc, List.replicate 5 0, none, sink, io.tick⟩
      else
        ⟨1, sink.hdr, some body, { sink with body := none, haveOneframe := false }, io.tick⟩

/-! ## The scanner -/

/-- The loop of `gxfp_plain_scan_for_nonpov_image_chunks` over what is left of
the buffer.  Every round drops at least one byte. -/
def plainScanLoop : Nat → List Byte → PlainImageSink → Io → PlainImageSink × Io
  | 0, _, sink, io => (sink, io)
  | rounds + 1, rest, sink, io =>
      if rest.length < 4 then
        (sink, io)
      else
        match parseGoodixBody rest with
        | none => plainScanLoop rounds (rest.drop 1) sink io
        | some frame =>
            let total := frame.payload.length + 4
            let appended :=
              if (frame.cmd >>> 4) &&& 0x0F = 2 ∧ frame.payload.length ≥ 5 ∧
                  frame.payload.getD 0 0 ≠ 0xAA then
                (plainImageSinkAppend env io sink frame.payload).2
              else
                (sink, io)
            if total > 0 ∧ total ≤ rest.length then
              plainScanLoop rounds (rest.drop total) appended.1 appended.2
            else
              plainScanLoop rounds (rest.drop 1) appended.1 appended.2

/-- `gxfp_plain_scan_for_nonpov_image_chunks`. -/
def plainScanForNonpovImageChunks (io : Io) (buf : List Byte) (sink : PlainImageSink) :
    PlainImageSink × Io :=
  if buf.length < 8 then
    (sink, io)
  else
    plainScanLoop env buf.length buf sink io

end Sink

end Gxfp.User
