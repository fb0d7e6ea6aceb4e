import Mathlib.Tactic.IntervalCases
import Gxfp.User.Provision

/-!
# Opening a sealed key

A `BB010003` blob from the side that opens it.  The builder derives two keys
that overlap in a stream of message codes, seals the key of the session under
the first and signs header, cipher and tag under the second; the offsets it
writes at are the ones the opener reads at.

Every function of the builder yields a value that depends on its arguments
alone, or fails where the host does; what its memory held before is nowhere in
it.
-/

namespace Gxfp.User.Provision

open Lib.Bytes
open Lib.Block

/-! ## The counter -/

/-- `local78` of `local78_from_ctr`, on bit vectors. -/
def swapBytes (x : BitVec 32) : BitVec 32 :=
  let rotated := (x * 0x10000#32 ||| x >>> 16) &&& 0xFFFFFFFF#32
  ((rotated >>> 8 ^^^ rotated <<< 8) &&& 0x00FF00FF#32) ^^^ rotated <<< 8

/-- Every bit comes from the byte at the other end. -/
theorem getLsbD_swapBytes (x : BitVec 32) {index : Nat} (inside : index < 32) :
    (swapBytes x).getLsbD index = x.getLsbD (24 - index / 8 * 8 + index % 8) := by
  have shift : x * 0x10000#32 = x <<< 16 := by
    rw [show 0x10000#32 = BitVec.twoPow 32 16 by decide, BitVec.mul_twoPow_eq_shiftLeft]
  rw [swapBytes, shift]
  interval_cases index <;> simp

/-- A byte of a word. -/
theorem ofNat_div_toBitVec (x : UInt32) (offset : Nat) :
    (UInt8.ofNat (x.toNat / 2 ^ offset)).toBitVec = x.toBitVec.extractLsb' offset 8 := by
  apply BitVec.eq_of_toNat_eq
  simp [Nat.shiftRight_eq_div_pow]

/-- A byte of a swapped word is the byte at the other end. -/
theorem ofNat_div_of_swapBytes {x y : UInt32} (swapped : y.toBitVec = swapBytes x.toBitVec)
    {byte : Nat} (inside : byte ≤ 3) :
    UInt8.ofNat (y.toNat / 2 ^ (8 * byte)) = UInt8.ofNat (x.toNat / 2 ^ (24 - 8 * byte)) := by
  apply UInt8.toBitVec_inj.mp
  rw [ofNat_div_toBitVec, ofNat_div_toBitVec, swapped]
  apply BitVec.eq_of_getLsbD_eq
  intro bit bitLt
  have source : 24 - (8 * byte + bit) / 8 * 8 + (8 * byte + bit) % 8 = 24 - 8 * byte + bit := by
    omega
  rw [BitVec.getLsbD_extractLsb', BitVec.getLsbD_extractLsb', getLsbD_swapBytes _ (by omega),
    source]

/-- The counter is written with its high byte first. -/
theorem local78FromCtr_eq (ctr : UInt32) : local78FromCtr ctr = be32Bytes ctr.toNat := by
  obtain ⟨word, written, swapped⟩ : ∃ word : UInt32,
      local78FromCtr ctr = le32enc word ∧ word.toBitVec = swapBytes ctr.toBitVec :=
    ⟨_, rfl, rfl⟩
  have low := @ofNat_div_of_swapBytes ctr word swapped 0 (by decide)
  have second := @ofNat_div_of_swapBytes ctr word swapped 1 (by decide)
  have third := @ofNat_div_of_swapBytes ctr word swapped 2 (by decide)
  have high := @ofNat_div_of_swapBytes ctr word swapped 3 (by decide)
  simp only [Nat.reduceMul, Nat.reduceSub, Nat.reducePow, Nat.div_one] at low second third high
  rw [written, le32enc, le32Bytes, be32Bytes, low, second, third, high]

/-! ## Keys -/

/-- Every call of the host succeeds. -/
structure ProvisionHost.Succeeds (host : ProvisionHost) : Prop where
  mdInfo : host.mdInfo = true
  mdHmac : ∀ call, host.mdHmac call = true
  sha256 : host.sha256 = true
  gcmSetkey : host.gcmSetkey = true
  gcmCrypt : host.gcmCrypt = true
  malloc : ∀ call, host.malloc call ≠ none

/-- The stream of message codes the keys are cut from, in counter mode. -/
def keyStream (crypto : Crypto) (seed32 : Vector Byte 32) : List Byte :=
  crypto.hmac seed32.toList (be32Bytes 1 ++ keyLabel) ++
    crypto.hmac seed32.toList (be32Bytes 2 ++ keyLabel)

/-- Bytes 0 to 31 of the stream. -/
def aesKey (crypto : Crypto) (seed32 : Vector Byte 32) : List Byte :=
  (keyStream crypto seed32).take 32

/-- Bytes 16 to 47 of the stream. -/
def hmacKey (crypto : Crypto) (seed32 : Vector Byte 32) : List Byte :=
  ((keyStream crypto seed32).drop 16).take 32

section Build

variable {crypto : Crypto} {host : ProvisionHost}

theorem hmacSha256_yields (call : Fin 3) (key msg : List Byte) :
    (hmacSha256 crypto host call key msg).Yields (crypto.hmac key msg) (¬ host.Succeeds) := by
  apply Result.Yields.bind (.require (fun fails succeeds => fails succeeds.mdInfo) _)
  apply Result.Yields.bind (.require (fun fails succeeds => fails (succeeds.mdHmac call)) _)
  exact .of_eq rfl

/-- An allocation yields a block of its size, with some content. -/
theorem allocate_yields (call : Fin 3) (size : Nat) :
    ∃ stale, (allocate (host.malloc call) size).Yields (fresh stale size)
      (¬ host.Succeeds) := by
  cases answer : host.malloc call with
  | none =>
      refine ⟨fun _ => 0, .inr ⟨?_, _, rfl⟩⟩
      intro succeeds
      exact succeeds.malloc call answer
  | some stale => exact ⟨stale, .inl rfl⟩

/-- A block that consecutive pieces fill exactly holds them. -/
theorem place_yields {block value : List Byte} {pieces : List (Nat × List Byte)}
    {failure : Prop} (consecutive : Consecutive 0 pieces)
    (joined : (pieces.map Prod.snd).flatten = value) (size : value.length = block.length) :
    (place block pieces).Yields value failure := by
  cases joined
  exact .of_eq (place_eq_flatten consecutive size)

/-- The message of a round of the derivation. -/
theorem keyMessage_yields {block : List Byte} (ctr : UInt32) {failure : Prop}
    (size : block.length = 4 + keyLabel.length) :
    (place block [(0, local78FromCtr ctr), (4, keyLabel)]).Yields
      (be32Bytes ctr.toNat ++ keyLabel) failure := by
  rw [local78FromCtr_eq]
  apply place_yields
  · exact ⟨rfl, rfl, trivial⟩
  · simp
  · rw [List.length_append, be32Bytes_length, size]

theorem aesKey_eq (lawful : crypto.Lawful) (seed32 : Vector Byte 32) :
    aesKey crypto seed32 = crypto.hmac seed32.toList (be32Bytes 1 ++ keyLabel) := by
  rw [aesKey, keyStream, List.take_left' (lawful.hmac_length _ _)]

theorem hmacKey_eq (lawful : crypto.Lawful) (seed32 : Vector Byte 32) :
    hmacKey crypto seed32 =
      (crypto.hmac seed32.toList (be32Bytes 1 ++ keyLabel)).drop 16 ++
        (crypto.hmac seed32.toList (be32Bytes 2 ++ keyLabel)).take 16 := by
  have length1 := lawful.hmac_length seed32.toList (be32Bytes 1 ++ keyLabel)
  have back : ((crypto.hmac seed32.toList (be32Bytes 1 ++ keyLabel)).drop 16).length = 16 := by
    rw [List.length_drop, length1]
  rw [hmacKey, keyStream, List.drop_append_of_le_length (by rw [length1]; decide),
    List.take_append, back, List.take_of_length_le (by rw [back]; decide)]

/-- The derived keys are the two slices of the stream. -/
theorem payloadDeriveKeyMaterial_yields (lawful : crypto.Lawful) (seed32 : Vector Byte 32) :
    (payloadDeriveKeyMaterial crypto host seed32).Yields
      (aesKey crypto seed32, hmacKey crypto seed32) (¬ host.Succeeds) := by
  have length1 := lawful.hmac_length seed32.toList (be32Bytes 1 ++ keyLabel)
  have length2 := lawful.hmac_length seed32.toList (be32Bytes 2 ++ keyLabel)
  have aesPlaced : (place (fresh host.stack 32)
      [(0, (crypto.hmac seed32.toList (be32Bytes 1 ++ keyLabel)).take 32)]).Yields
        (aesKey crypto seed32) (¬ host.Succeeds) := by
    rw [aesKey_eq lawful, List.take_of_length_le length1.le]
    apply place_yields
    · exact ⟨rfl, trivial⟩
    · simp
    · rw [length1, fresh_length]
  have hmacPlaced : (place (fresh host.stack 32)
      [(0, ((crypto.hmac seed32.toList (be32Bytes 1 ++ keyLabel)).drop 16).take 16),
        (16, (crypto.hmac seed32.toList (be32Bytes 2 ++ keyLabel)).take 16)]).Yields
        (hmacKey crypto seed32) (¬ host.Succeeds) := by
    rw [hmacKey_eq lawful, List.take_of_length_le (by rw [List.length_drop, length1])]
    apply place_yields
    · exact ⟨rfl, by rw [List.length_drop, length1], trivial⟩
    · simp
    · rw [List.length_append, List.length_drop, List.length_take, length1, length2, fresh_length]
      decide
  apply Result.Yields.bind (keyMessage_yields 1 (fresh_length _ _))
  apply Result.Yields.bind (hmacSha256_yields 0 _ _)
  apply Result.Yields.bind (keyMessage_yields 2 rfl)
  apply Result.Yields.bind (hmacSha256_yields 1 _ _)
  exact .bind aesPlaced (.bind hmacPlaced (.of_eq rfl))

/-! ## The parts of a blob -/

/-- What `gxfp_payload_calc_seed16` hashes. -/
def seedMessage (psk : List Byte) : List Byte :=
  [0x02, 0xFF] ++ le32Bytes psk.length ++ psk.take (psk.length / 4) ++
    (List.replicate 16 (le32Bytes 3)).flatten

theorem payloadCalcSeed16_yields {psk : List Byte} (nonempty : psk.length ≠ 0) :
    (payloadCalcSeed16 crypto host psk).Yields ((crypto.sha256 (seedMessage psk)).take 16)
      (¬ host.Succeeds) := by
  obtain ⟨stale, allocated⟩ := @allocate_yields host 0 (6 + psk.length >>> 2 + 64)
  have joined : ([[0x02], [0xFF], le32Bytes psk.length, psk.take (psk.length >>> 2)] ++
      List.replicate 16 (le32enc 3)).flatten = seedMessage psk := by
    rw [seedMessage, Nat.shiftRight_eq_div_pow, List.flatten_append]
    simp [le32enc]
  have size : (seedMessage psk).length = 6 + psk.length >>> 2 + 64 := by
    simp [seedMessage, Nat.shiftRight_eq_div_pow]
    omega
  apply Result.Yields.bind (.require (fun fails => (fails nonempty).elim) _)
  apply Result.Yields.bind allocated
  apply Result.Yields.bind (.of_eq (fill_eq_flatten _))
  · apply Result.Yields.bind (.require (fun fails succeeds => fails succeeds.sha256) _)
    rw [joined]
    exact .of_eq rfl
  · rw [joined, size, fresh_length]

/-- The header of a sealed key. -/
def sealHeader : List Byte :=
  [0x02, 0xFF] ++ le32Bytes 32

/-- The associated data a key is sealed with. -/
def sealAad : List Byte :=
  le32Bytes 0xF0C12D52 ++ le32Bytes 0x077D5699 ++ le32Bytes 0xA3377FF4 ++ le32Bytes 0x7D42842A

theorem fillFf02LenHdr_yields {hdr : List Byte} {failure : Prop} (size : hdr.length = 6) :
    (fillFf02LenHdr hdr 32).Yields sealHeader failure := by
  apply place_yields
  · exact ⟨rfl, rfl, rfl, trivial⟩
  · rfl
  · rw [size]
    rfl

theorem fillTlsGcmAad_yields {aad : List Byte} {failure : Prop} (size : aad.length = 16) :
    (fillTlsGcmAad aad).Yields sealAad failure := by
  apply place_yields
  · exact ⟨rfl, rfl, rfl, rfl, trivial⟩
  · rfl
  · rw [size]
    rfl

/-- A slice of a known part. -/
theorem take_drop_append {front part back : List Byte} {off size : Nat}
    (frontLength : front.length = off) (partLength : part.length = size) :
    ((front ++ (part ++ back)).drop off).take size = part := by
  rw [List.drop_left' frontLength, List.take_left' partLength]

/-- The message code of a blob leaves the initial vector out. -/
theorem computeBb010003WbHmac_yields {key iv cipher tag : List Byte}
    (ivLength : iv.length = 16) (cipherLength : cipher.length = 32)
    (tagLength : tag.length = 16) :
    (computeBb010003WbHmac crypto host key (sealHeader ++ (iv ++ (cipher ++ tag)))).Yields
      (crypto.hmac key (sealHeader ++ cipher ++ tag)) (¬ host.Succeeds) := by
  have headerPart : (sealHeader ++ (iv ++ (cipher ++ tag))).take BB010003_HDR_LEN =
      sealHeader :=
    List.take_left' rfl
  have cipherPart : ((sealHeader ++ (iv ++ (cipher ++ tag))).drop
      (BB010003_HDR_LEN + BB010003_SEED16_LEN)).take PSK_LEN = cipher := by
    rw [← List.append_assoc sealHeader]
    exact take_drop_append (by rw [List.length_append, ivLength]; rfl) cipherLength
  have tagPart : ((sealHeader ++ (iv ++ (cipher ++ tag))).drop
      (BB010003_HDR_LEN + BB010003_SEED16_LEN + PSK_LEN)).take BB010003_TAG_LEN = tag := by
    have front : (sealHeader ++ (iv ++ cipher)).length =
        BB010003_HDR_LEN + BB010003_SEED16_LEN + PSK_LEN := by
      rw [List.length_append, List.length_append, ivLength, cipherLength]
      rfl
    rw [← List.append_assoc iv, ← List.append_assoc sealHeader, List.drop_left' front]
    exact List.take_of_length_le tagLength.le
  rw [computeBb010003WbHmac, headerPart, cipherPart, tagPart]
  have placed : (place (fresh host.stack (BB010003_HDR_LEN + PSK_LEN + BB010003_TAG_LEN))
      [(0, sealHeader), (BB010003_HDR_LEN, cipher), (BB010003_HDR_LEN + PSK_LEN, tag)]).Yields
        (sealHeader ++ cipher ++ tag) (¬ host.Succeeds) := by
    apply place_yields
    · exact ⟨rfl, rfl, by rw [cipherLength]; rfl, trivial⟩
    · simp
    · rw [List.length_append, List.length_append, cipherLength, tagLength, fresh_length]
      rfl
  exact placed.bind (hmacSha256_yields 2 _ _)

/-! ## The blob -/

/-- The initial vector of a sealed key. -/
def sealIv (crypto : Crypto) (psk32 : Vector Byte 32) : List Byte :=
  (crypto.sha256 (seedMessage psk32.toList)).take 16

/-- Cipher and tag of a sealed key. -/
def sealedKey (crypto : Crypto) (psk32 seed32 : Vector Byte 32) : List Byte × List Byte :=
  crypto.gcmEncrypt (aesKey crypto seed32) (sealIv crypto psk32) sealAad psk32.toList 16

/-- The payload of a blob. -/
def sealPayload (crypto : Crypto) (psk32 seed32 : Vector Byte 32) : List Byte :=
  sealHeader ++ (sealIv crypto psk32 ++
    ((sealedKey crypto psk32 seed32).1 ++ (sealedKey crypto psk32 seed32).2))

/-- The message code of a blob. -/
def sealMac (crypto : Crypto) (psk32 seed32 : Vector Byte 32) : List Byte :=
  crypto.hmac (hmacKey crypto seed32)
    (sealHeader ++ (sealedKey crypto psk32 seed32).1 ++ (sealedKey crypto psk32 seed32).2)

theorem sealIv_length (lawful : crypto.Lawful) (psk32 : Vector Byte 32) :
    (sealIv crypto psk32).length = 16 := by
  rw [sealIv, List.length_take, lawful.sha256_length]
  rfl

theorem sealedKey_length (lawful : crypto.Lawful) (psk32 seed32 : Vector Byte 32) :
    (sealedKey crypto psk32 seed32).1.length = 32 ∧
      (sealedKey crypto psk32 seed32).2.length = 16 := by
  constructor
  · rw [sealedKey, lawful.cipher_length, Vector.length_toList]
  · rw [sealedKey, lawful.tag_length _ _ _ _ _ (by decide) (by decide)]

theorem sealPayload_length (lawful : crypto.Lawful) (psk32 seed32 : Vector Byte 32) :
    (sealPayload crypto psk32 seed32).length = 70 := by
  obtain ⟨cipherLength, tagLength⟩ := sealedKey_length lawful psk32 seed32
  rw [sealPayload, List.length_append, List.length_append, List.length_append,
    sealIv_length lawful, cipherLength, tagLength]
  rfl

/-- The payload is written over whatever its block held. -/
theorem sealPayload_yields (lawful : crypto.Lawful) (psk32 seed32 : Vector Byte 32)
    {block : List Byte} {failure : Prop} (size : block.length = BB010003_PAYLOAD_LEN) :
    (place block
      [(0, sealHeader.take BB010003_HDR_LEN),
        (BB010003_HDR_LEN, (sealIv crypto psk32).take BB010003_SEED16_LEN),
        (BB010003_HDR_LEN + BB010003_SEED16_LEN,
          (sealedKey crypto psk32 seed32).1.take PSK_LEN),
        (BB010003_HDR_LEN + BB010003_SEED16_LEN + PSK_LEN,
          (sealedKey crypto psk32 seed32).2.take BB010003_TAG_LEN)]).Yields
      (sealPayload crypto psk32 seed32) failure := by
  have ivLength := sealIv_length lawful psk32
  obtain ⟨cipherLength, tagLength⟩ := sealedKey_length lawful psk32 seed32
  rw [List.take_of_length_le (show sealHeader.length ≤ BB010003_HDR_LEN from Nat.le_refl 6),
    List.take_of_length_le (show _ ≤ BB010003_SEED16_LEN from ivLength.le),
    List.take_of_length_le (show _ ≤ PSK_LEN from cipherLength.le),
    List.take_of_length_le (show _ ≤ BB010003_TAG_LEN from tagLength.le)]
  apply place_yields
  · refine ⟨rfl, rfl, ?_, ?_, trivial⟩
    · rw [ivLength]
      rfl
    · rw [ivLength, cipherLength]
      rfl
  · simp [sealPayload]
  · rw [sealPayload_length lawful, size]
    rfl

/-- What the builder yields. -/
theorem payloadBuildBb010003_yields (lawful : crypto.Lawful) (psk32 seed32 : Vector Byte 32) :
    (payloadBuildBb010003 crypto host psk32 seed32).Yields
      (sealMac crypto psk32 seed32 ++ sealPayload crypto psk32 seed32,
        sealPayload crypto psk32 seed32) (¬ host.Succeeds) := by
  obtain ⟨cipherLength, tagLength⟩ := sealedKey_length lawful psk32 seed32
  have macLength : (sealMac crypto psk32 seed32).length = 32 := lawful.hmac_length _ _
  have payloadLength := sealPayload_length lawful psk32 seed32
  obtain ⟨payloadStale, payloadBlock⟩ := @allocate_yields host 1 BB010003_PAYLOAD_LEN
  obtain ⟨wbStale, wbBlock⟩ := @allocate_yields host 2 BB010003_WB_LEN
  have wbPlaced : (place (fresh wbStale BB010003_WB_LEN)
      [(0, (sealMac crypto psk32 seed32).take BB010003_WB_HMAC_LEN),
        (BB010003_WB_HMAC_LEN,
          (sealPayload crypto psk32 seed32).take BB010003_PAYLOAD_LEN)]).Yields
      (sealMac crypto psk32 seed32 ++ sealPayload crypto psk32 seed32)
      (¬ host.Succeeds) := by
    rw [List.take_of_length_le (show _ ≤ BB010003_WB_HMAC_LEN from macLength.le),
      List.take_of_length_le (show _ ≤ BB010003_PAYLOAD_LEN from payloadLength.le)]
    apply place_yields
    · refine ⟨rfl, ?_, trivial⟩
      rw [macLength]
      rfl
    · simp
    · rw [List.length_append, macLength, payloadLength, fresh_length]
      rfl
  apply Result.Yields.bind (payloadDeriveKeyMaterial_yields lawful seed32)
  apply Result.Yields.bind (payloadCalcSeed16_yields (by rw [Vector.length_toList]; decide))
  apply Result.Yields.bind (fillFf02LenHdr_yields (fresh_length _ _))
  apply Result.Yields.bind (fillTlsGcmAad_yields (fresh_length _ _))
  apply Result.Yields.bind (.require (fun fails succeeds => fails succeeds.gcmSetkey) _)
  apply Result.Yields.bind (.require (fun fails succeeds => fails succeeds.gcmCrypt) _)
  apply Result.Yields.bind payloadBlock
  apply Result.Yields.bind (sealPayload_yields lawful psk32 seed32 (fresh_length _ _))
  apply Result.Yields.bind (computeBb010003WbHmac_yields (sealIv_length lawful psk32)
    cipherLength tagLength)
  exact wbBlock.bind (wbPlaced.bind (.of_eq rfl))

end Build

/-! ## Opening a blob -/

/-- The message code at the front of a blob. -/
def wbMac (wb : List Byte) : List Byte :=
  wb.take 32

/-- The header behind the message code. -/
def wbHeader (wb : List Byte) : List Byte :=
  (wb.drop 32).take 6

/-- The initial vector behind the header. -/
def wbIv (wb : List Byte) : List Byte :=
  (wb.drop 38).take 16

/-- The cipher behind the initial vector. -/
def wbCipher (wb : List Byte) : List Byte :=
  (wb.drop 54).take 32

/-- The tag at the end. -/
def wbTag (wb : List Byte) : List Byte :=
  (wb.drop 86).take 16

/-- The blob opens to the key it was built for. -/
structure Opens (crypto : Crypto) (psk32 seed32 : Vector Byte 32) (wb : List Byte) : Prop where
  split : wb = wbMac wb ++ wbHeader wb ++ wbIv wb ++ wbCipher wb ++ wbTag wb
  length : wb.length = 102
  header : wbHeader wb = [0x02, 0xFF] ++ le32Bytes 32
  /-- The initial vector is the front of the hash of the header, the first
  quarter of the key and sixteen times the number three. -/
  iv : wbIv wb = (crypto.sha256 ([0x02, 0xFF] ++ le32Bytes 32 ++ psk32.toList.take 8 ++
    (List.replicate 16 (le32Bytes 3)).flatten)).take 16
  mac : wbMac wb = crypto.hmac (hmacKey crypto seed32) (wbHeader wb ++ wbCipher wb ++ wbTag wb)
  opened : crypto.gcmDecrypt (aesKey crypto seed32) (wbIv wb) sealAad (wbCipher wb) (wbTag wb) =
    some psk32.toList

/-- Parts of the right lengths are found at the offsets. -/
theorem wb_parts {mac header iv cipher tag : List Byte} (macLength : mac.length = 32)
    (headerLength : header.length = 6) (ivLength : iv.length = 16)
    (cipherLength : cipher.length = 32) (tagLength : tag.length = 16) :
    wbMac (mac ++ (header ++ (iv ++ (cipher ++ tag)))) = mac ∧
      wbHeader (mac ++ (header ++ (iv ++ (cipher ++ tag)))) = header ∧
      wbIv (mac ++ (header ++ (iv ++ (cipher ++ tag)))) = iv ∧
      wbCipher (mac ++ (header ++ (iv ++ (cipher ++ tag)))) = cipher ∧
      wbTag (mac ++ (header ++ (iv ++ (cipher ++ tag)))) = tag := by
  have beforeIv : (mac ++ header).length = 38 := by
    rw [List.length_append, macLength, headerLength]
  have beforeCipher : (mac ++ header ++ iv).length = 54 := by
    rw [List.length_append, beforeIv, ivLength]
  have beforeTag : (mac ++ header ++ iv ++ cipher).length = 86 := by
    rw [List.length_append, beforeCipher, cipherLength]
  refine ⟨List.take_left' macLength, take_drop_append macLength headerLength, ?_, ?_, ?_⟩
  · rw [wbIv, ← List.append_assoc mac, take_drop_append beforeIv ivLength]
  · rw [wbCipher, ← List.append_assoc mac, ← List.append_assoc (mac ++ header),
      take_drop_append beforeCipher cipherLength]
  · rw [wbTag, ← List.append_assoc mac, ← List.append_assoc (mac ++ header),
      ← List.append_assoc (mac ++ header ++ iv), List.drop_left' beforeTag,
      List.take_of_length_le tagLength.le]

theorem seedMessage_psk32 (psk32 : Vector Byte 32) :
    seedMessage psk32.toList = [0x02, 0xFF] ++ le32Bytes 32 ++ psk32.toList.take 8 ++
      (List.replicate 16 (le32Bytes 3)).flatten := by
  rw [seedMessage, Vector.length_toList]

/-- What the builder yields opens. -/
theorem opens_sealPayload {crypto : Crypto} (lawful : crypto.Lawful)
    (psk32 seed32 : Vector Byte 32) :
    Opens crypto psk32 seed32
      (sealMac crypto psk32 seed32 ++ sealPayload crypto psk32 seed32) := by
  obtain ⟨cipherLength, tagLength⟩ := sealedKey_length lawful psk32 seed32
  have macLength : (sealMac crypto psk32 seed32).length = 32 := lawful.hmac_length _ _
  have length := sealPayload_length lawful psk32 seed32
  obtain ⟨macEq, headerEq, ivEq, cipherEq, tagEq⟩ := wb_parts macLength
    (show sealHeader.length = 6 from rfl) (sealIv_length lawful psk32) cipherLength tagLength
  rw [← sealPayload] at macEq headerEq ivEq cipherEq tagEq
  refine ⟨?_, ?_, headerEq, ?_, ?_, ?_⟩
  · rw [macEq, headerEq, ivEq, cipherEq, tagEq, sealPayload]
    simp
  · rw [List.length_append, macLength, length]
  · rw [ivEq, sealIv, seedMessage_psk32]
  · rw [macEq, headerEq, cipherEq, tagEq, sealMac]
  · rw [ivEq, cipherEq, tagEq]
    exact lawful.decrypt_encrypt _ _ _ _ _ (by decide) (by decide)

/-- A blob that is built opens to the key it was built for; its initial vector
is the one `gxfp_payload_calc_seed16` gives and its keys are bytes 0 to 31 and
16 to 47 of the stream of message codes.  Where no call of the host fails, a
blob is built. -/
theorem payloadBuildBb010003_opens {crypto : Crypto} (lawful : crypto.Lawful)
    (host : ProvisionHost) (psk32 seed32 : Vector Byte 32) :
    (∀ wb inner, payloadBuildBb010003 crypto host psk32 seed32 = .ok (wb, inner) →
      Opens crypto psk32 seed32 wb) ∧
    (∀ iv, payloadCalcSeed16 crypto host psk32.toList = .ok iv →
      iv = (crypto.sha256 ([0x02, 0xFF] ++ le32Bytes 32 ++ psk32.toList.take 8 ++
        (List.replicate 16 (le32Bytes 3)).flatten)).take 16) ∧
    (∀ keys, payloadDeriveKeyMaterial crypto host seed32 = .ok keys →
      keys = ((keyStream crypto seed32).take 32, ((keyStream crypto seed32).drop 16).take 32)) ∧
    (host.Succeeds → ∃ wb inner,
      payloadBuildBb010003 crypto host psk32 seed32 = .ok (wb, inner)) := by
  have present : psk32.toList.length ≠ 0 := by
    rw [Vector.length_toList]
    decide
  refine ⟨?_, ?_, ?_, ?_⟩
  · intro wb inner built
    cases (payloadBuildBb010003_yields lawful psk32 seed32).eq_of_ok built
    exact opens_sealPayload lawful psk32 seed32
  · intro iv computed
    rw [← seedMessage_psk32]
    exact (payloadCalcSeed16_yields present).eq_of_ok computed
  · intro keys derived
    exact (payloadDeriveKeyMaterial_yields lawful seed32).eq_of_ok derived
  · intro succeeds
    exact ⟨_, _, (payloadBuildBb010003_yields lawful psk32 seed32).eq_ok
      (not_not_intro succeeds)⟩

/-! ## One blob -/

/-- `gxfp_payload_seed32_runtime`. -/
def payloadSeed32Runtime : Vector Byte 32 :=
  #v[0x5c, 0xba, 0x6e, 0x25, 0x81, 0x95, 0x18, 0xde, 0x2d, 0x53, 0xe9, 0x6d,
    0xc0, 0x34, 0x7a, 0xb0, 0xd4, 0x27, 0xd4, 0x08, 0x4b, 0xda, 0x4f, 0xae,
    0x1b, 0xff, 0x2b, 0x09, 0x11, 0x2a, 0x57, 0xe5]

/-- The key of the bytes 0 to 31. -/
def countingPsk : Vector Byte 32 :=
  #v[0x00, 0x01, 0x02, 0x03, 0x04, 0x05, 0x06, 0x07, 0x08, 0x09, 0x0a, 0x0b,
    0x0c, 0x0d, 0x0e, 0x0f, 0x10, 0x11, 0x12, 0x13, 0x14, 0x15, 0x16, 0x17,
    0x18, 0x19, 0x1a, 0x1b, 0x1c, 0x1d, 0x1e, 0x1f]

/-- The hash of the message for that key. -/
def countingDigest : List Byte :=
  [0xe7, 0xbc, 0x09, 0x96, 0x2a, 0xed, 0xfb, 0x47, 0x0f, 0xac, 0x38, 0x87,
    0xde, 0x32, 0x46, 0x5c, 0x6f, 0x5d, 0x5e, 0x77, 0xf1, 0xfb, 0x12, 0x2d,
    0x2e, 0xa6, 0x41, 0xab, 0xaf, 0xa9, 0x8e, 0xdf]

/-- The first message code under the seed. -/
def runtimeRound1 : List Byte :=
  [0x58, 0xf0, 0x13, 0xee, 0xb7, 0xe2, 0x16, 0xe2, 0xc1, 0xcd, 0x0e, 0x8f,
    0xff, 0xa7, 0xdb, 0xd6, 0x79, 0x9c, 0xd9, 0x2a, 0xa1, 0x49, 0x01, 0x3e,
    0xa0, 0xe9, 0xf9, 0xfd, 0x7d, 0xc6, 0xd9, 0x4e]

/-- The second message code under the seed. -/
def runtimeRound2 : List Byte :=
  [0x3e, 0xf6, 0x3a, 0x75, 0x98, 0xc2, 0xa4, 0x93, 0x31, 0x29, 0xe8, 0x71,
    0xea, 0x03, 0x04, 0x3b, 0xf9, 0x32, 0x6b, 0x4d, 0xea, 0x65, 0xdb, 0x1e,
    0x08, 0x3f, 0x4e, 0x65, 0x1e, 0x33, 0x0e, 0x87]

/-- The sealed key. -/
def countingCipher : List Byte :=
  [0x5a, 0x71, 0xc8, 0x8f, 0xe0, 0x1d, 0xd7, 0x76, 0xcf, 0xa5, 0x19, 0xe7,
    0x0c, 0x63, 0xf8, 0x24, 0x01, 0xf8, 0x24, 0x73, 0x24, 0xfd, 0xe9, 0xc6,
    0x56, 0x23, 0x21, 0xd4, 0xd8, 0x2b, 0x0d, 0xd5]

/-- Its tag. -/
def countingTag : List Byte :=
  [0x52, 0xc0, 0xbf, 0x1f, 0x74, 0x71, 0x60, 0x85, 0xb8, 0x52, 0x65, 0x8b,
    0xfe, 0x77, 0x29, 0x64]

/-- The message code of the blob. -/
def countingMac : List Byte :=
  [0x45, 0xa3, 0x73, 0x2a, 0xcf, 0x29, 0x90, 0xf4, 0xce, 0xb3, 0x0e, 0x89,
    0x96, 0xe4, 0xad, 0xd1, 0x2e, 0x88, 0x71, 0x60, 0xd6, 0xdc, 0xaa, 0x99,
    0xc8, 0xbc, 0xd8, 0x33, 0x8c, 0x77, 0x43, 0xf2]

/-- A library with the values of SHA-256, HMAC-SHA-256 and AES-256-GCM where the
build asks for them. -/
def runtimeCrypto : Crypto where
  sha256 msg :=
    if msg = seedMessage countingPsk.toList then countingDigest else List.replicate 32 0
  hmac key msg :=
    if key = payloadSeed32Runtime.toList ∧ msg = be32Bytes 1 ++ keyLabel then
      runtimeRound1
    else if key = payloadSeed32Runtime.toList ∧ msg = be32Bytes 2 ++ keyLabel then
      runtimeRound2
    else if key = ((runtimeRound1 ++ runtimeRound2).drop 16).take 32 ∧
        msg = sealHeader ++ countingCipher ++ countingTag then
      countingMac
    else
      List.replicate 32 0
  gcmEncrypt key iv aad input tagLen :=
    if key = runtimeRound1 ∧ iv = countingDigest.take 16 ∧ aad = sealAad ∧
        input = countingPsk.toList ∧ tagLen = 16 then
      (countingCipher, countingTag)
    else
      (input, List.replicate tagLen 0)
  gcmDecrypt key iv aad input tag :=
    if key = runtimeRound1 ∧ iv = countingDigest.take 16 ∧ aad = sealAad ∧
        input = countingCipher ∧ tag = countingTag then
      some countingPsk.toList
    else if tag = List.replicate tag.length 0 then
      some input
    else
      none

theorem runtimeCrypto_lawful : runtimeCrypto.Lawful where
  sha256_length := by
    intro msg
    simp only [runtimeCrypto]
    split
    · rfl
    · exact List.length_replicate
  hmac_length := by
    intro key msg
    simp only [runtimeCrypto]
    split
    · rfl
    split
    · rfl
    split
    · rfl
    · exact List.length_replicate
  cipher_length := by
    intro key iv aad input tagLen
    simp only [runtimeCrypto]
    split
    · rename_i known
      rw [known.2.2.2.1]
      rfl
    · rfl
  tag_length := by
    intro key iv aad input tagLen _ _
    simp only [runtimeCrypto]
    split
    · rename_i known
      rw [known.2.2.2.2]
      rfl
    · exact List.length_replicate
  decrypt_encrypt := by
    intro key iv aad input tagLen _ _
    simp only [runtimeCrypto]
    split
    · rename_i known
      obtain ⟨rfl, rfl, rfl, rfl, rfl⟩ := known
      rfl
    · have other : List.replicate tagLen 0 ≠ countingTag := by
        intro same
        have first := congrArg (fun tag => tag.headD 0) same
        cases tagLen with
        | zero => exact absurd first (by decide)
        | succ tagLen => exact absurd (show (0 : Byte) = 0x52 from first) (by decide)
      have unknown : ¬ (key = runtimeRound1 ∧ iv = countingDigest.take 16 ∧ aad = sealAad ∧
          input = countingCipher ∧ List.replicate tagLen 0 = countingTag) := by
        intro known
        exact other known.2.2.2.2
      rw [if_neg unknown, if_pos (by rw [List.length_replicate])]

/-- A host on which every call succeeds. -/
def steadyHost : ProvisionHost where
  mdInfo := true
  mdHmac := fun _ => true
  sha256 := true
  gcmSetkey := true
  gcmCrypt := true
  malloc := fun _ => some fun _ => 0xCC
  stack := fun _ => 0xCC

/-- The blob for the key of the bytes 0 to 31 and the runtime seed. -/
def countingBlob : List Byte :=
  countingMac ++ sealHeader ++ countingDigest.take 16 ++ countingCipher ++ countingTag

/-- It is built, and opens. -/
theorem payloadBuildBb010003_opens_counting :
    runtimeCrypto.Lawful ∧
      payloadBuildBb010003 runtimeCrypto steadyHost countingPsk payloadSeed32Runtime =
        .ok (countingBlob, countingBlob.drop 32) ∧
      Opens runtimeCrypto countingPsk payloadSeed32Runtime countingBlob := by
  have built : payloadBuildBb010003 runtimeCrypto steadyHost countingPsk payloadSeed32Runtime =
      .ok (countingBlob, countingBlob.drop 32) := by
    decide +kernel
  refine ⟨runtimeCrypto_lawful, built, ?_⟩
  exact (payloadBuildBb010003_opens runtimeCrypto_lawful steadyHost countingPsk
    payloadSeed32Runtime).1 _ _ built

end Gxfp.User.Provision
