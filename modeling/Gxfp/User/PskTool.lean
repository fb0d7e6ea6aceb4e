import Gxfp.User.Common
import Gxfp.User.Session

/-!
# Uploading a blob

Embeds `gxfp_cmd_production_write_mcu` of `src/cmd/production_cmd.c` and the
upload of `demos/psk_tool/main.c`, which reads a file, aligns it and hands it to
the command with its length cut to 16 bits.

The aligner checks the 16-bit limit only where it has to pad, so the cut loses
bytes exactly from a file of `2 ^ 16` bytes on.
-/

namespace Gxfp.User

open Lib.Bytes
open Lib.Block
open Gxfp.Errno

/-- `GXFP_CMD_PRODUCTION_WRITE_MCU`. -/
def CMD_PRODUCTION_WRITE_MCU : Byte := 0xE0

/-- `production_write_selector`. -/
def productionWriteSelector (frame : FrameParsed) : Int :=
  if frame.payload.length < 1 then 0 else 1

section Upload

variable (env : Env)

/-- `gxfp_cmd_production_write_mcu`: the value the sensor returns. -/
def cmdProductionWriteMcu (fd : Int) (io : Io) (blob : List Byte) : Except Int Nat × Io :=
  let out := goodixRequestSelected env fd io CMD_PRODUCTION_WRITE_MCU CMD_PRODUCTION_WRITE_MCU
    blob IOCTL_TAP_PAYLOAD_MAX 4 2000 productionWriteSelector
  match out.1 with
  | .error rc => (.error rc, out.2)
  | .ok rx =>
      match parseGoodixBody rx with
      | none => (.error EBADMSG.rc, out.2)
      | some frame =>
          if frame.cmd ≠ CMD_PRODUCTION_WRITE_MCU then
            (.error EBADMSG.rc, out.2)
          else if frame.payload.length < 1 then
            (.error EBADMSG.rc, out.2)
          else
            (.ok (frame.payload.getD 0 0).toNat, out.2)

/-- What the upload hands to `gxfp_cmd_production_write_mcu`: a pointer to the
aligned file and `(uint16_t)blob_len`. -/
def uploadPayload (host : FileHost) (realloc : Option (Nat → Byte)) : Result (List Byte) := do
  let blob ← readFileAll host
  let blob ← alignBlob realloc blob
  pure (blob.take (blob.length % 2 ^ 16))

/-- The upload of `main`: its exit status. -/
def uploadBb010002 (host : FileHost) (realloc : Option (Nat → Byte)) (io : Io) : Nat × Io :=
  let opened := devOpen env io
  let fd := opened.2.1
  if opened.1 < 0 then
    (1, opened.2.2)
  else
    let io := devFlushRxq fd opened.2.2
    match uploadPayload host realloc with
    | .error _ | .outOfBounds => (1, devClose fd io)
    | .ok payload =>
        let out := cmdProductionWriteMcu env fd io payload
        match out.1 with
        | .error _ => (1, devClose fd out.2)
        | .ok mcuRet => (if mcuRet ≠ 0 then 1 else 0, devClose fd out.2)

end Upload

/-- The payload is the file with zeros up to the next multiple of four. -/
def WholeFile (content payload : List Byte) : Prop :=
  ∃ pad ≤ 3, payload = content ++ List.replicate pad 0 ∧ 4 ∣ payload.length

/-- The upload passes a payload on where the file is read and its alignment is
accepted. -/
theorem uploadPayload_eq_ok {host : FileHost} {realloc : Option (Nat → Byte)}
    {payload : List Byte} (passed : uploadPayload host realloc = .ok payload) :
    ∃ stream blob, host.fopen = .ok stream ∧ alignBlob realloc stream.content = .ok blob ∧
      payload = blob.take (blob.length % 2 ^ 16) := by
  obtain ⟨file, read, passed⟩ := Result.bind_eq_ok_iff.mp passed
  obtain ⟨blob, aligned, passed⟩ := Result.bind_eq_ok_iff.mp passed
  cases passed
  rcases readFileAll_cases host with ⟨rc, failed⟩ | ⟨stream, opened, done, _⟩
  · exact nomatch failed.symm.trans read
  · cases done.symm.trans read
    exact ⟨stream, blob, opened, aligned, rfl⟩

/-- The upload stays inside its buffers. -/
theorem uploadPayload_inBounds (host : FileHost) (realloc : Option (Nat → Byte)) :
    uploadPayload host realloc ≠ .outOfBounds := by
  rw [uploadPayload]
  rcases readFileAll_cases host with ⟨rc, failed⟩ | ⟨stream, _, done, bounded⟩
  · rw [failed, Result.error_bind]
    exact fun absurd_ => nomatch absurd_
  · rw [done, Result.ok_bind]
    rcases @alignBlob_cases realloc stream.content (by omega) with ⟨rc, refused⟩ | ⟨done, _⟩
    · rw [refused, Result.error_bind]
      exact fun absurd_ => nomatch absurd_
    · rw [done, Result.ok_bind]
      exact fun absurd_ => nomatch absurd_

/-- An upload that reports success has passed a payload on and was answered with
zero. -/
theorem uploadBb010002_success {env : Env} {host : FileHost} {realloc : Option (Nat → Byte)}
    {io : Io} (success : (uploadBb010002 env host realloc io).1 = 0) :
    ∃ payload fd before, uploadPayload host realloc = .ok payload ∧
      (cmdProductionWriteMcu env fd before payload).1 = .ok 0 := by
  unfold uploadBb010002 at success
  by_cases failed : (devOpen env io).1 < 0
  · rw [if_pos failed] at success
    cases success
  · rw [if_neg failed] at success
    cases uploaded : uploadPayload host realloc with
    | error rc =>
        rw [uploaded] at success
        cases success
    | outOfBounds => exact (uploadPayload_inBounds host realloc uploaded).elim
    | ok payload =>
        simp only [uploaded] at success
        refine ⟨payload, (devOpen env io).2.1,
          devFlushRxq (devOpen env io).2.1 (devOpen env io).2.2, rfl, ?_⟩
        cases answered : (cmdProductionWriteMcu env (devOpen env io).2.1
          (devFlushRxq (devOpen env io).2.1 (devOpen env io).2.2) payload).1 with
        | error rc =>
            rw [answered] at success
            cases success
        | ok mcuRet =>
            simp only [answered] at success
            by_cases zero : mcuRet = 0
            · rw [zero]
            · rw [if_pos zero] at success
              cases success

/-- A file that is passed on is passed on whole exactly if it has less than
`2 ^ 16` bytes. -/
theorem uploadPayload_whole_iff {host : FileHost} {stream : FileStream}
    {realloc : Option (Nat → Byte)} {payload : List Byte} (opened : host.fopen = .ok stream)
    (passed : uploadPayload host realloc = .ok payload) :
    WholeFile stream.content payload ↔ stream.content.length < 2 ^ 16 := by
  obtain ⟨other, blob, sameStream, aligned, rfl⟩ := uploadPayload_eq_ok passed
  cases opened.symm.trans sameStream
  constructor
  · rintro ⟨pad, _, whole, _⟩
    have cut : (blob.take (blob.length % 2 ^ 16)).length < 2 ^ 16 := by
      rw [List.length_take]
      exact lt_of_le_of_lt (Nat.min_le_left _ _) (Nat.mod_lt _ (by decide))
    rw [whole, List.length_append] at cut
    omega
  · intro small
    obtain ⟨blobEq, blobSmall⟩ := alignBlob_eq_ok small aligned
    rw [Nat.mod_eq_of_lt blobSmall, List.take_length]
    refine ⟨padLen stream.content.length, padLen_le _, blobEq, ?_⟩
    rw [blobEq, List.length_append, List.length_replicate]
    exact dvd_add_padLen _

/-- A file of five bytes. -/
def shortFile : FileStream where
  chunks := [[1, 2, 3, 4, 5]]
  chunks_bounded := by decide
  failed := false

/-- The five bytes are passed on with three zeros, whatever lay behind them. -/
theorem uploadPayload_whole_iff_short :
    uploadPayload ⟨.ok shortFile, true, fun _ => true⟩ (some fun _ => 0xCC) =
        .ok [1, 2, 3, 4, 5, 0, 0, 0] ∧
      (WholeFile shortFile.content [1, 2, 3, 4, 5, 0, 0, 0] ↔
        shortFile.content.length < 2 ^ 16) := by
  have passed : uploadPayload ⟨.ok shortFile, true, fun _ => true⟩ (some fun _ => 0xCC) =
      .ok [1, 2, 3, 4, 5, 0, 0, 0] := by
    decide +kernel
  exact ⟨passed, uploadPayload_whole_iff rfl passed⟩

/-- A file of `count` full pieces of zeros and four more. -/
def zeroFile (count : Nat) : FileStream where
  chunks := List.replicate count (List.replicate FILE_CHUNK 0) ++ [List.replicate 4 0]
  chunks_bounded := by
    intro chunk member
    rcases List.mem_append.mp member with full | last
    · cases List.eq_of_mem_replicate full
      exact ⟨List.cons_ne_nil _ _, List.length_replicate.le⟩
    · cases List.mem_singleton.mp last
      exact ⟨by decide, by decide⟩
  failed := false

theorem zeroFile_content (count : Nat) :
    (zeroFile count).content = List.replicate (count * FILE_CHUNK + 4) 0 := by
  rw [FileStream.content, zeroFile, List.flatten_append, List.flatten_replicate_replicate,
    List.flatten_singleton, List.replicate_append_replicate]

/-- Such a file needs no padding, and loses what its 16-bit length loses. -/
theorem uploadPayload_zeroFile {count : Nat} (fits : count * FILE_CHUNK + 4 ≤ 2 ^ 27) :
    uploadPayload ⟨.ok (zeroFile count), true, fun _ => true⟩ none =
      .ok (List.replicate ((count * FILE_CHUNK + 4) % 2 ^ 16) 0) := by
  have lengthEq : (zeroFile count).content.length = count * FILE_CHUNK + 4 := by
    rw [zeroFile_content, List.length_replicate]
  have aligned : alignBlob none (zeroFile count).content = .ok (zeroFile count).content := by
    apply alignBlob_of_dvd
    · omega
    · rw [lengthEq]
      exact Nat.dvd_add (Dvd.dvd.mul_left (by decide) count) (by decide)
    · omega
  rw [uploadPayload, readFileAll_of_le rfl (lengthEq.le.trans fits), Result.ok_bind, aligned,
    Result.ok_bind, lengthEq, zeroFile_content, List.take_replicate,
    Nat.min_eq_left (Nat.mod_le _ _)]
  rfl

/-- Of a file of `65540` bytes the upload passes four on. -/
theorem uploadPayload_truncated :
    (zeroFile 64).content.length = 65540 ∧
      uploadPayload ⟨.ok (zeroFile 64), true, fun _ => true⟩ none =
        .ok (List.replicate 4 0) ∧
      ¬ WholeFile (zeroFile 64).content (List.replicate 4 0) := by
  have lengthEq : (zeroFile 64).content.length = 65540 := by
    rw [zeroFile_content, List.length_replicate, FILE_CHUNK]
  refine ⟨lengthEq, @uploadPayload_zeroFile 64 (by decide), ?_⟩
  rintro ⟨pad, _, whole, _⟩
  have lengths := congrArg List.length whole
  rw [List.length_append, lengthEq, List.length_replicate] at lengths
  omega

end Gxfp.User
