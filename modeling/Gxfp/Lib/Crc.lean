import Gxfp.Lib.Bytes

/-!
# Cyclic redundancy checks

A CRC without reflection shifts a register of `w` bits by one place for every
bit of the message and subtracts the generator polynomial when the bit that
falls out differs from the message bit.  An entry of a lookup table runs the
same division on a register that starts at zero, with the message in a second
register that is shifted along.

The two agree: a register is the sum of what the table has made of it and of
what has only been shifted, and every step keeps it so.

When the polynomial is odd, a step can be undone: its lowest bit says whether
the polynomial was added.  Two messages that differ only within a window as wide
as the register therefore leave different registers.
-/

namespace Lib.Crc

open Lib.Bytes

variable {w : Nat} (poly : BitVec w)

/-! ## Bit by bit -/

/-- One bit of the message. -/
def bitStep (register : BitVec w) (bit : Bool) : BitVec w :=
  if register.msb != bit then (register <<< 1) ^^^ poly else register <<< 1

/-- A message bit by bit. -/
def bitwise (register : BitVec w) (bits : List Bool) : BitVec w :=
  bits.foldl (bitStep poly) register

/-- The bits of a byte, most significant first. -/
def byteBits (byte : Byte) : List Bool :=
  (List.range 8).map fun index => byte.toBitVec.getLsbD (7 - index)

@[simp]
theorem bitwise_nil (register : BitVec w) : bitwise poly register [] = register :=
  rfl

@[simp]
theorem bitwise_cons (register : BitVec w) (bit : Bool) (bits : List Bool) :
    bitwise poly register (bit :: bits) = bitwise poly (bitStep poly register bit) bits :=
  rfl

theorem bitwise_append (register : BitVec w) (first second : List Bool) :
    bitwise poly register (first ++ second) =
      bitwise poly (bitwise poly register first) second :=
  List.foldl_append

/-! ## The bits of bytes -/

@[simp]
theorem byteBits_length (byte : Byte) : (byteBits byte).length = 8 := by
  simp [byteBits]

theorem byteBits_injective {byte other : Byte} (same : byteBits byte = byteBits other) :
    byte = other := by
  apply UInt8.toBitVec_inj.mp
  apply BitVec.eq_of_getLsbD_eq
  intro index inside
  have atIndex := congrArg (fun bits : List Bool => bits[7 - index]?) same
  have back : 7 - (7 - index) = index := by omega
  simpa [byteBits, show 7 - index < 8 by omega, back] using atIndex

theorem flatMap_byteBits_length (bytes : List Byte) :
    (bytes.flatMap byteBits).length = 8 * bytes.length := by
  induction bytes with
  | nil => rfl
  | cons byte bytes ih =>
      rw [List.flatMap_cons, List.length_append, ih, byteBits_length, List.length_cons]
      omega

theorem flatMap_byteBits_injective {first second : List Byte}
    (same : first.flatMap byteBits = second.flatMap byteBits) : first = second := by
  induction first generalizing second with
  | nil =>
      cases second with
      | nil => rfl
      | cons byte bytes =>
          have lengths := congrArg List.length same
          rw [flatMap_byteBits_length, flatMap_byteBits_length] at lengths
          simp at lengths
  | cons byte bytes ih =>
      cases second with
      | nil =>
          have lengths := congrArg List.length same
          rw [flatMap_byteBits_length, flatMap_byteBits_length] at lengths
          simp at lengths
      | cons other others =>
          rw [List.flatMap_cons, List.flatMap_cons] at same
          obtain ⟨sameByte, sameBytes⟩ := List.append_inj same (by simp)
          rw [byteBits_injective sameByte, ih sameBytes]

/-! ## Table entries -/

/-- One round of the division behind a table entry: the message register and the
remainder. -/
def tableStep (state : BitVec w × BitVec w) : BitVec w × BitVec w :=
  (state.1 <<< 1, if (state.1 ^^^ state.2).msb then (state.2 <<< 1) ^^^ poly else state.2 <<< 1)

/-- A register that is the sum of a remainder and a rest goes on as the sum of
the remainder's division and the shifted rest, as long as the message register
holds the sums of the rest's bits and the message's. -/
theorem bitwise_xor (bits : List Bool) (message remainder rest : BitVec w)
    (sums : ∀ (index : Nat) (bit : Bool), bits[index]? = some bit →
      (message <<< index).msb = ((rest <<< index).msb ^^ bit)) :
    bitwise poly (remainder ^^^ rest) bits =
      ((tableStep poly)^[bits.length] (message, remainder)).2 ^^^ (rest <<< bits.length) := by
  induction bits generalizing message remainder rest with
  | nil => simp
  | cons bit bits ih =>
      have first : message.msb = (rest.msb ^^ bit) := by
        have atZero := sums 0 bit rfl
        rwa [BitVec.shiftLeft_zero, BitVec.shiftLeft_zero] at atZero
      have same : ((remainder ^^^ rest).msb != bit) = (message ^^^ remainder).msb := by
        rw [BitVec.msb_xor, BitVec.msb_xor, first]
        cases remainder.msb <;> cases rest.msb <;> cases bit <;> rfl
      have stepped : bitStep poly (remainder ^^^ rest) bit =
          (tableStep poly (message, remainder)).2 ^^^ (rest <<< 1) := by
        unfold bitStep tableStep
        rw [same, BitVec.shiftLeft_xor_distrib]
        split
        · rw [BitVec.xor_assoc, BitVec.xor_assoc, BitVec.xor_comm poly]
        · rfl
      have later : ∀ (index : Nat) (other : Bool), bits[index]? = some other →
          ((message <<< 1) <<< index).msb = (((rest <<< 1) <<< index).msb ^^ other) := by
        intro index other atIndex
        have atNext := sums (index + 1) other atIndex
        rwa [Nat.add_comm, BitVec.shiftLeft_add, BitVec.shiftLeft_add] at atNext
      rw [bitwise_cons, stepped, List.length_cons, Function.iterate_succ_apply]
      have rested := ih (message <<< 1) (tableStep poly (message, remainder)).2 (rest <<< 1) later
      rw [rested, ← BitVec.shiftLeft_add, Nat.add_comm 1]
      rfl

/-! ## Bursts -/

variable {poly}

/-- The lowest bit after a step tells whether an odd polynomial was added. -/
theorem bitStep_low (odd : poly.getLsbD 0 = true) (register : BitVec w) (bit : Bool) :
    (bitStep poly register bit).getLsbD 0 = (register.msb != bit) := by
  unfold bitStep
  cases register.msb != bit with
  | true => simp [odd]
  | false => simp

/-- The other bits are shifted, with the polynomial added or not. -/
theorem bitStep_high (register : BitVec w) (bit : Bool) {index : Nat} (inside : index + 1 < w) :
    (bitStep poly register bit).getLsbD (index + 1) =
      (register.getLsbD index ^^ ((register.msb != bit) && poly.getLsbD (index + 1))) := by
  unfold bitStep
  cases register.msb != bit with
  | true => simp [inside, BitVec.getLsbD_eq_getElem (Nat.lt_of_succ_lt inside)]
  | false => simp [inside, BitVec.getLsbD_eq_getElem (Nat.lt_of_succ_lt inside)]

/-- Messages of one length that leave the same register have started from
registers that differ only in as many of the top bits. -/
theorem getLsbD_eq_of_bitwise_eq (odd : poly.getLsbD 0 = true) {first second : List Bool}
    (sameLength : first.length = second.length) {register other : BitVec w}
    (same : bitwise poly register first = bitwise poly other second) {index : Nat}
    (inside : index + first.length < w) : register.getLsbD index = other.getLsbD index := by
  induction first generalizing second register other index with
  | nil =>
      cases second with
      | nil => exact congrArg (BitVec.getLsbD · index) same
      | cons bit bits => cases sameLength
  | cons bit bits ih =>
      cases second with
      | nil => cases sameLength
      | cons otherBit otherBits =>
          rw [List.length_cons] at inside
          have tailLength : bits.length = otherBits.length := Nat.succ.inj sameLength
          have added := ih tailLength same (show 0 + bits.length < w by omega)
          have shifted := ih tailLength same (show index + 1 + bits.length < w by omega)
          rw [bitStep_low odd, bitStep_low odd] at added
          rw [bitStep_high register bit (by omega), bitStep_high other otherBit (by omega),
            added] at shifted
          exact Bool.xor_left_inj.mp shifted

/-- Messages of one length, at most that of the register, leave different
registers when they differ. -/
theorem bitwise_injective (odd : poly.getLsbD 0 = true) {first second : List Bool}
    (sameLength : first.length = second.length) (short : first.length ≤ w) {register : BitVec w}
    (same : bitwise poly register first = bitwise poly register second) : first = second := by
  induction first generalizing second register with
  | nil => exact (List.length_eq_zero_iff.mp sameLength.symm).symm
  | cons bit bits ih =>
      cases second with
      | nil => cases sameLength
      | cons otherBit otherBits =>
          rw [List.length_cons] at short
          have tailLength : bits.length = otherBits.length := Nat.succ.inj sameLength
          have added := getLsbD_eq_of_bitwise_eq odd tailLength same
            (show 0 + bits.length < w by omega)
          rw [bitStep_low odd, bitStep_low odd] at added
          have bitEq : bit = otherBit := Bool.bne_right_inj.mp added
          subst bitEq
          rw [ih tailLength (Nat.le_of_succ_le short) same]

/-- A step can be undone. -/
theorem bitStep_injective (odd : poly.getLsbD 0 = true) {register other : BitVec w} {bit : Bool}
    (same : bitStep poly register bit = bitStep poly other bit) : register = other := by
  have added := congrArg (BitVec.getLsbD · 0) same
  simp only [bitStep_low odd] at added
  apply BitVec.eq_of_getLsbD_eq
  intro index inside
  by_cases top : index + 1 < w
  · have shifted := congrArg (BitVec.getLsbD · (index + 1)) same
    simp only [bitStep_high _ _ top, added] at shifted
    exact Bool.xor_left_inj.mp shifted
  · have topBit : register.msb = other.msb := Bool.bne_left_inj.mp added
    rw [BitVec.msb_eq_getLsbD_last, BitVec.msb_eq_getLsbD_last] at topBit
    have last : index = w - 1 := by omega
    rw [last]
    exact topBit

/-- A message can be undone: registers that differ go on to differ. -/
theorem bitwise_register_injective (odd : poly.getLsbD 0 = true) (bits : List Bool)
    {register other : BitVec w} (same : bitwise poly register bits = bitwise poly other bits) :
    register = other := by
  induction bits generalizing register other with
  | nil => exact same
  | cons bit bits ih => exact bitStep_injective odd (ih same)

/-- Messages of one length that differ only within a window as wide as the
register leave different registers, unless they are the same. -/
theorem eq_of_bitwise_eq_of_window (odd : poly.getLsbD 0 = true) {first second : List Bool}
    (sameLength : first.length = second.length) {start : Nat}
    (window : ∀ index, first[index]? ≠ second[index]? → start ≤ index ∧ index < start + w)
    {register : BitVec w} (same : bitwise poly register first = bitwise poly register second) :
    first = second := by
  have before : first.take start = second.take start := by
    apply List.ext_getElem?
    intro index
    by_cases inside : index < start
    · rw [List.getElem?_take_of_lt inside, List.getElem?_take_of_lt inside]
      by_contra differ
      have := (window index differ).1
      omega
    · rw [List.getElem?_take_eq_none (Nat.not_lt.mp inside),
        List.getElem?_take_eq_none (Nat.not_lt.mp inside)]
  have after : (first.drop start).drop w = (second.drop start).drop w := by
    rw [List.drop_drop, List.drop_drop]
    apply List.ext_getElem?
    intro index
    rw [List.getElem?_drop, List.getElem?_drop]
    by_contra differ
    have := (window _ differ).2
    omega
  have windowLength : ((first.drop start).take w).length = ((second.drop start).take w).length := by
    rw [List.length_take, List.length_take, List.length_drop, List.length_drop, sameLength]
  have firstParts : first = first.take start ++
      ((first.drop start).take w ++ (first.drop start).drop w) := by
    rw [List.take_append_drop, List.take_append_drop]
  have secondParts : second = first.take start ++
      ((second.drop start).take w ++ (first.drop start).drop w) := by
    rw [before, after, List.take_append_drop, List.take_append_drop]
  rw [firstParts, secondParts, bitwise_append, bitwise_append, bitwise_append, bitwise_append]
    at same
  have throughWindow := bitwise_register_injective odd _ same
  have sameWindow := bitwise_injective odd windowLength (List.length_take_le _ _) throughWindow
  rw [firstParts, secondParts, sameWindow]

end Lib.Crc
