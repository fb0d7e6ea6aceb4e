import Gxfp.User.Common

/-!
# Provisioning payloads

Embeds `src/algo/payload/provision.c`: the blob `BB010003` that carries a sealed
key to the sensor, and the container `BB010002` that is uploaded.

The functions of the cryptographic library are parameters, and so is whether
each call of them and each allocation succeeds.  A local array and an allocated
block hold anything before they are written.  Arrays of a fixed size are vectors
where they are arguments; a pointer argument is never null.
-/

namespace Gxfp.User.Provision

open Lib.Bytes
open Lib.Block
open Gxfp.Errno

/-- `gxfp_le32enc`. -/
def le32enc (value : UInt32) : List Byte :=
  le32Bytes value.toNat

/-! ## The cryptographic library -/

/-- The functions of the library, as functions of their inputs. -/
structure Crypto where
  sha256 : List Byte → List Byte
  /-- The code of a message under a key. -/
  hmac : List Byte → List Byte → List Byte
  /-- `mbedtls_gcm_crypt_and_tag` with `MBEDTLS_GCM_ENCRYPT`: key, initial
  vector, associated data, input and length of the tag. -/
  gcmEncrypt : List Byte → List Byte → List Byte → List Byte → Nat → List Byte × List Byte
  /-- `mbedtls_gcm_auth_decrypt`: key, initial vector, associated data, input
  and tag. -/
  gcmDecrypt : List Byte → List Byte → List Byte → List Byte → List Byte → Option (List Byte)

/-- What the library promises of them. -/
structure Crypto.Lawful (crypto : Crypto) : Prop where
  sha256_length : ∀ msg, (crypto.sha256 msg).length = 32
  hmac_length : ∀ key msg, (crypto.hmac key msg).length = 32
  cipher_length : ∀ key iv aad input tagLen,
    (crypto.gcmEncrypt key iv aad input tagLen).1.length = input.length
  tag_length : ∀ key iv aad input tagLen, 4 ≤ tagLen → tagLen ≤ 16 →
    (crypto.gcmEncrypt key iv aad input tagLen).2.length = tagLen
  decrypt_encrypt : ∀ key iv aad input tagLen, 4 ≤ tagLen → tagLen ≤ 16 →
    crypto.gcmDecrypt key iv aad (crypto.gcmEncrypt key iv aad input tagLen).1
      (crypto.gcmEncrypt key iv aad input tagLen).2 = some input

/-- What the host answers while a blob is built. -/
structure ProvisionHost where
  /-- Whether `mbedtls_md_info_from_type` knows SHA-256. -/
  mdInfo : Bool
  /-- Whether the computations of message codes succeed, in their order. -/
  mdHmac : Fin 3 → Bool
  sha256 : Bool
  gcmSetkey : Bool
  gcmCrypt : Bool
  /-- The content of the allocated blocks, in their order. -/
  malloc : Fin 3 → Option (Nat → Byte)
  /-- The content of local arrays. -/
  stack : Nat → Byte

/-- `malloc`. -/
def allocate (memory : Option (Nat → Byte)) (size : Nat) : Result (List Byte) :=
  match memory with
  | none => .error ENOMEM.rc
  | some stale => .ok (fresh stale size)

/-! ## `BB010003` -/

/-- `GXFP_PSK_LEN`. -/
def PSK_LEN : Nat := 32

/-- `GXFP_BB010003_WB_HMAC_LEN`. -/
def BB010003_WB_HMAC_LEN : Nat := 32

/-- `GXFP_BB010003_HDR_LEN`. -/
def BB010003_HDR_LEN : Nat := 6

/-- `GXFP_BB010003_SEED16_LEN`. -/
def BB010003_SEED16_LEN : Nat := 16

/-- `GXFP_BB010003_TAG_LEN`. -/
def BB010003_TAG_LEN : Nat := 16

/-- `GXFP_BB010003_PAYLOAD_LEN`. -/
def BB010003_PAYLOAD_LEN : Nat :=
  BB010003_HDR_LEN + BB010003_SEED16_LEN + PSK_LEN + BB010003_TAG_LEN

/-- `GXFP_BB010003_WB_LEN`. -/
def BB010003_WB_LEN : Nat :=
  BB010003_WB_HMAC_LEN + BB010003_PAYLOAD_LEN

/-- `fill_tls_gcm_aad`. -/
def fillTlsGcmAad (aad : List Byte) : Result (List Byte) :=
  place aad [(0, le32enc 0xF0C12D52), (4, le32enc 0x077D5699), (8, le32enc 0xA3377FF4),
    (12, le32enc 0x7D42842A)]

/-- `fill_ff02_len_hdr`. -/
def fillFf02LenHdr (hdr : List Byte) (dataLen : UInt32) : Result (List Byte) :=
  place hdr [(0, [0x02]), (1, [0xFF]), (2, le32enc dataLen)]

/-- `local78_from_ctr`. -/
def local78FromCtr (ctr : UInt32) : List Byte :=
  let uvar6 : UInt32 := ((ctr * (0x10000 : UInt32)) ||| (ctr >>> 16)) &&& (0xFFFFFFFF : UInt32)
  let local78 : UInt32 :=
    (((uvar6 >>> 8) ^^^ (uvar6 <<< 8)) &&& (0x00FF00FF : UInt32)) ^^^ (uvar6 <<< 8)
  le32enc local78

section Build

variable (crypto : Crypto) (host : ProvisionHost)

/-- `hmac_sha256`; `call` counts the calls of one build. -/
def hmacSha256 (call : Fin 3) (key msg : List Byte) : Result (List Byte) := do
  Result.require (host.mdInfo = true) ( EIO.rc)
  Result.require (host.mdHmac call = true) ( EIO.rc)
  pure (crypto.hmac key msg)

/-- `compute_bb010003_wb_hmac`. -/
def computeBb010003WbHmac (keyHmac payload : List Byte) : Result (List Byte) := do
  let hmacMsg ← place
    (fresh host.stack (BB010003_HDR_LEN + PSK_LEN + BB010003_TAG_LEN))
    [(0, payload.take BB010003_HDR_LEN),
      (BB010003_HDR_LEN,
        (payload.drop (BB010003_HDR_LEN + BB010003_SEED16_LEN)).take PSK_LEN),
      (BB010003_HDR_LEN + PSK_LEN,
        (payload.drop (BB010003_HDR_LEN + BB010003_SEED16_LEN + PSK_LEN)).take
          BB010003_TAG_LEN)]
  hmacSha256 crypto host 2 keyHmac hmacMsg

/-- `gxfp_payload_calc_seed16`. -/
def payloadCalcSeed16 (psk : List Byte) : Result (List Byte) := do
  Result.require (psk.length ≠ 0) EINVAL.rc
  let prefixLen := psk.length >>> 2
  let buf ← allocate (host.malloc 0) (6 + prefixLen + 64)
  let buf ← fill buf 0
    ([[0x02], [0xFF], le32Bytes psk.length, psk.take prefixLen] ++
      List.replicate 16 (le32enc 3))
  Result.require (host.sha256 = true) ( EIO.rc)
  pure ((crypto.sha256 buf).take 16)

/-- The label `base` of `gxfp_payload_derive_key_material`: the text
`kgoodwixg`, a zero, the text `kaelrgnoerlithm` and four bytes. -/
def keyLabel : List Byte :=
  [0x6b, 0x67, 0x6f, 0x6f, 0x64, 0x77, 0x69, 0x78, 0x67, 0x00,
    0x6b, 0x61, 0x65, 0x6c, 0x72, 0x67, 0x6e, 0x6f, 0x65, 0x72, 0x6c, 0x69, 0x74, 0x68, 0x6d,
    0x00, 0x00, 0x01, 0x80]

/-- `gxfp_payload_derive_key_material`: the AES key and the HMAC key. -/
def payloadDeriveKeyMaterial (seed32 : Vector Byte 32) : Result (List Byte × List Byte) := do
  let msg ← place (fresh host.stack (4 + keyLabel.length))
    [(0, local78FromCtr 1), (4, keyLabel)]
  let round1 ← hmacSha256 crypto host 0 seed32.toList msg
  let msg ← place msg [(0, local78FromCtr 2), (4, keyLabel)]
  let round2 ← hmacSha256 crypto host 1 seed32.toList msg
  let aesKey32 ← place (fresh host.stack 32) [(0, round1.take 32)]
  let hmacKey32 ← place (fresh host.stack 32)
    [(0, (round1.drop 16).take 16), (16, round2.take 16)]
  pure (aesKey32, hmacKey32)

/-- `gxfp_payload_build_bb010003`: the blob and the payload inside it. -/
def payloadBuildBb010003 (psk32 seed32 : Vector Byte 32) : Result (List Byte × List Byte) := do
  let (keyAes, keyHmac) ← payloadDeriveKeyMaterial crypto host seed32
  let seed16 ← payloadCalcSeed16 crypto host psk32.toList
  let hdr ← fillFf02LenHdr (fresh host.stack 6) 32
  let aad ← fillTlsGcmAad (fresh host.stack 16)
  Result.require (host.gcmSetkey = true) ( EIO.rc)
  let (cipher, tag) := crypto.gcmEncrypt keyAes seed16 aad psk32.toList BB010003_TAG_LEN
  Result.require (host.gcmCrypt = true) ( EIO.rc)
  let payload ← allocate (host.malloc 1) BB010003_PAYLOAD_LEN
  let payload ← place payload
    [(0, hdr.take BB010003_HDR_LEN),
      (BB010003_HDR_LEN, seed16.take BB010003_SEED16_LEN),
      (BB010003_HDR_LEN + BB010003_SEED16_LEN, cipher.take PSK_LEN),
      (BB010003_HDR_LEN + BB010003_SEED16_LEN + PSK_LEN, tag.take BB010003_TAG_LEN)]
  let hmacOut ← computeBb010003WbHmac crypto host keyHmac payload
  let wb ← allocate (host.malloc 2) BB010003_WB_LEN
  let wb ← place wb
    [(0, hmacOut.take BB010003_WB_HMAC_LEN),
      (BB010003_WB_HMAC_LEN, payload.take BB010003_PAYLOAD_LEN)]
  pure (wb, payload)

end Build

/-! ## `BB010002` -/

/-- The two `-EOVERFLOW` checks of `gxfp_payload_build_bb010002`. -/
def bb010002Checks (sealedPskLen wbDataLen : Nat) : Result PUnit.{1} := do
  Result.require (sealedPskLen ≤ 0xFFFFFFFF - 8) EOVERFLOW.rc
  Result.require (wbDataLen ≤ 0xFFFFFFFF) EOVERFLOW.rc

/-- `out_len` of `gxfp_payload_build_bb010002`. -/
def bb010002OutLen (sealedPskLen wbDataLen : Nat) (pad4 : Bool) : Nat :=
  let outLen := (8 + sealedPskLen + 8 + 8 + wbDataLen) % 2 ^ 64
  if pad4 then alignLen outLen else outLen

/-- The fields of the container, in the order they are written. -/
def bb010002Fields (sealedPsk : List Byte) (seed8 : Vector Byte 8) (wbData : List Byte) :
    List (List Byte) :=
  [le32Bytes 0xBB010002, le32Bytes (sealedPsk.length + 8), sealedPsk, seed8.toList,
    le32Bytes 0xBB010003, le32Bytes wbData.length, wbData]

/-- `gxfp_payload_build_bb010002`; `calloc` tells whether its block is
allocated. -/
def payloadBuildBb010002 (calloc : Bool) (sealedPsk : List Byte) (seed8 : Vector Byte 8)
    (wbData : List Byte) (pad4 : Bool) : Result (List Byte) := do
  Result.require (wbData.length ≠ 0) EINVAL.rc
  bb010002Checks sealedPsk.length wbData.length
  let outLen := bb010002OutLen sealedPsk.length wbData.length pad4
  Result.require (calloc = true) ENOMEM.rc
  fill (List.replicate outLen 0) 0 (bb010002Fields sealedPsk seed8 wbData)

end Gxfp.User.Provision
