/-!
# Bits of a byte and bytes of a word

A byte is read bit by bit and packed from eight bits, least significant first,
and a signed 16-bit word travels as two bytes, low byte first. Each reading is
the inverse of the other.
-/

namespace X360Gadget.Std.Bits

/-! ## Bytes and bits -/

/-- Bit `i` of a byte, counted from the least significant. -/
def bit (byte : UInt8) (i : UInt8) : Bool :=
  (byte >>> i) &&& 1 == 1

/-- The byte with the given bits, the least significant first. -/
def packByte (b0 b1 b2 b3 b4 b5 b6 b7 : Bool) : UInt8 :=
  b0.toUInt8 ||| b1.toUInt8 <<< 1 ||| b2.toUInt8 <<< 2 ||| b3.toUInt8 <<< 3 |||
    b4.toUInt8 <<< 4 ||| b5.toUInt8 <<< 5 ||| b6.toUInt8 <<< 6 ||| b7.toUInt8 <<< 7

/-- Each bit of a packed byte is the one packed there. -/
theorem bits_packByte : ∀ b0 b1 b2 b3 b4 b5 b6 b7 : Bool,
    bit (packByte b0 b1 b2 b3 b4 b5 b6 b7) 0 = b0 ∧
    bit (packByte b0 b1 b2 b3 b4 b5 b6 b7) 1 = b1 ∧
    bit (packByte b0 b1 b2 b3 b4 b5 b6 b7) 2 = b2 ∧
    bit (packByte b0 b1 b2 b3 b4 b5 b6 b7) 3 = b3 ∧
    bit (packByte b0 b1 b2 b3 b4 b5 b6 b7) 4 = b4 ∧
    bit (packByte b0 b1 b2 b3 b4 b5 b6 b7) 5 = b5 ∧
    bit (packByte b0 b1 b2 b3 b4 b5 b6 b7) 6 = b6 ∧
    bit (packByte b0 b1 b2 b3 b4 b5 b6 b7) 7 = b7 := by
  decide

/-- Packing the bits of a byte gives the byte back. -/
theorem packByte_bits (byte : UInt8) :
    packByte (bit byte 0) (bit byte 1) (bit byte 2) (bit byte 3) (bit byte 4) (bit byte 5)
      (bit byte 6) (bit byte 7) = byte := by
  have every : ∀ value : Fin UInt8.size, packByte (bit (.ofFin value) 0) (bit (.ofFin value) 1)
      (bit (.ofFin value) 2) (bit (.ofFin value) 3) (bit (.ofFin value) 4)
      (bit (.ofFin value) 5) (bit (.ofFin value) 6) (bit (.ofFin value) 7) = .ofFin value := by
    decide +kernel
  exact every byte.toFin

/-! ## Words and bytes -/

/-- The two bytes of a signed word, low byte first. -/
def toLeBytes (word : Int16) : UInt8 × UInt8 :=
  (word.toUInt16.toUInt8, (word.toUInt16 >>> 8).toUInt8)

/-- The signed word with the given bytes. -/
def ofLeBytes (low high : UInt8) : Int16 :=
  (UInt16.ofNat (low.toNat + 256 * high.toNat)).toInt16

private theorem toNat_highByte (word : UInt16) : (word >>> 8).toUInt8.toNat = word.toNat / 256 := by
  have bound := word.toNat_lt
  simp [Nat.shiftRight_eq_div_pow]
  omega

/-- A word is read back from its bytes. -/
theorem ofLeBytes_toLeBytes (word : Int16) :
    ofLeBytes (toLeBytes word).1 (toLeBytes word).2 = word := by
  have bound := word.toUInt16.toNat_lt
  have joined : word.toUInt16.toUInt8.toNat + 256 * (word.toUInt16 >>> 8).toUInt8.toNat =
      word.toUInt16.toNat := by
    rw [toNat_highByte, UInt16.toNat_toUInt8]
    omega
  rw [ofLeBytes, toLeBytes, joined, UInt16.ofNat_toNat, Int16.toInt16_toUInt16]

/-- Bytes are read back from their word. -/
theorem toLeBytes_ofLeBytes (low high : UInt8) : toLeBytes (ofLeBytes low high) = (low, high) := by
  have lowBound := low.toNat_lt
  have highBound := high.toNat_lt
  have value : (UInt16.ofNat (low.toNat + 256 * high.toNat)).toNat =
      low.toNat + 256 * high.toNat := by
    rw [UInt16.toNat_ofNat']
    omega
  rw [toLeBytes, ofLeBytes, UInt16.toUInt16_toInt16, Prod.mk.injEq]
  constructor
  · rw [← UInt8.toNat_inj, UInt16.toNat_toUInt8, value]
    omega
  · rw [← UInt8.toNat_inj, toNat_highByte, value]
    omega

end X360Gadget.Std.Bits
