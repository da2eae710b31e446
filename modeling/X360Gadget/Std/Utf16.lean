import Mathlib.Data.List.Basic

/-!
# UTF-16 text and its little-endian bytes

`encodeUtf16` produces the code units of a sequence of Unicode scalar values
and `decodeUtf16` reads them back, rejecting unpaired surrogates.
`decodeUtf16Le_encodeUtf16Le` is the round trip through little-endian bytes for
every text.
-/

namespace X360Gadget.Std.Utf16

/-- One code unit below `0x10000`, a surrogate pair from there on. -/
def encodeChar (char : Char) : List UInt16 :=
  let code := char.toNat
  if code < 0x10000 then
    [UInt16.ofNat code]
  else
    [UInt16.ofNat (0xD800 + (code - 0x10000) / 0x400),
      UInt16.ofNat (0xDC00 + (code - 0x10000) % 0x400)]

/-- The code units of a text. -/
def encodeUtf16 (text : List Char) : List UInt16 :=
  text.flatMap encodeChar

/-- Read code units back into scalar values; an unpaired surrogate has no reading. -/
def decodeUtf16 : List UInt16 → Option (List Char)
  | [] => some []
  | unit :: rest =>
      if unit.toNat < 0xD800 ∨ 0xE000 ≤ unit.toNat then
        (decodeUtf16 rest).map fun text => Char.ofNat unit.toNat :: text
      else if unit.toNat < 0xDC00 then
        match rest with
        | [] => none
        | low :: rest =>
            if 0xDC00 ≤ low.toNat ∧ low.toNat < 0xE000 then
              (decodeUtf16 rest).map fun text =>
                Char.ofNat (0x10000 + (unit.toNat - 0xD800) * 0x400 + (low.toNat - 0xDC00)) :: text
            else
              none
      else
        none

/-- The two bytes of a 16-bit word, low byte first. -/
def toLeBytes (word : UInt16) : List UInt8 :=
  [UInt8.ofNat word.toNat, UInt8.ofNat (word.toNat / 256)]

/-- Group bytes into little-endian code units; an odd byte is left over. -/
def unitsOfBytes : List UInt8 → Option (List UInt16)
  | [] => some []
  | [_] => none
  | low :: high :: rest =>
      (unitsOfBytes rest).map fun units => UInt16.ofNat (low.toNat + 256 * high.toNat) :: units

/-- Decode a little-endian UTF-16 byte string. -/
def decodeUtf16Le (bytes : List UInt8) : Option (List Char) :=
  (unitsOfBytes bytes).bind decodeUtf16

/-- A scalar value is below the surrogates or above them. -/
theorem char_toNat_cases (char : Char) :
    char.toNat < 0xD800 ∨ (0xE000 ≤ char.toNat ∧ char.toNat < 0x110000) := by
  have valid : char.toNat.isValidChar := char.valid
  unfold Nat.isValidChar at valid
  omega

/-- A unit outside the surrogates stands for its own scalar value. -/
theorem decodeUtf16_single {unit : UInt16} {rest : List UInt16}
    (outside : unit.toNat < 0xD800 ∨ 0xE000 ≤ unit.toNat) :
    decodeUtf16 (unit :: rest) = (decodeUtf16 rest).map (Char.ofNat unit.toNat :: ·) := by
  rw [decodeUtf16.eq_def]
  simp only [outside, if_true]

/-- A surrogate pair stands for one supplementary scalar value. -/
theorem decodeUtf16_pair {high low : UInt16} {rest : List UInt16}
    (leading : 0xD800 ≤ high.toNat ∧ high.toNat < 0xDC00)
    (trailing : 0xDC00 ≤ low.toNat ∧ low.toNat < 0xE000) :
    decodeUtf16 (high :: low :: rest) = (decodeUtf16 rest).map
      (Char.ofNat (0x10000 + (high.toNat - 0xD800) * 0x400 + (low.toNat - 0xDC00)) :: ·) := by
  have surrogate : ¬(high.toNat < 0xD800 ∨ 0xE000 ≤ high.toNat) := by omega
  rw [decodeUtf16.eq_def]
  simp only [surrogate, if_false, leading.2, if_true, trailing, and_self]

/-- Decoding consumes the units of one character and returns it. -/
theorem decodeUtf16_encodeChar_append (char : Char) (rest : List UInt16) :
    decodeUtf16 (encodeChar char ++ rest) = (decodeUtf16 rest).map (char :: ·) := by
  have range := char_toNat_cases char
  unfold encodeChar
  by_cases single : char.toNat < 0x10000
  · have unit : (UInt16.ofNat char.toNat).toNat = char.toNat :=
      UInt16.toNat_ofNat_of_lt' single
    have outside : (UInt16.ofNat char.toNat).toNat < 0xD800 ∨
        0xE000 ≤ (UInt16.ofNat char.toNat).toNat := by omega
    simp only [single, if_true, List.cons_append, List.nil_append]
    rw [decodeUtf16_single outside, unit, Char.ofNat_toNat]
  · -- A supplementary character: both halves of the pair are recovered.
    have high : (UInt16.ofNat (0xD800 + (char.toNat - 0x10000) / 0x400)).toNat =
        0xD800 + (char.toNat - 0x10000) / 0x400 :=
      UInt16.toNat_ofNat_of_lt' (by simp only [UInt16.size]; omega)
    have low : (UInt16.ofNat (0xDC00 + (char.toNat - 0x10000) % 0x400)).toNat =
        0xDC00 + (char.toNat - 0x10000) % 0x400 :=
      UInt16.toNat_ofNat_of_lt' (by simp only [UInt16.size]; omega)
    have joined : 0x10000 + (0xD800 + (char.toNat - 0x10000) / 0x400 - 0xD800) * 0x400 +
        (0xDC00 + (char.toNat - 0x10000) % 0x400 - 0xDC00) = char.toNat := by omega
    simp only [single, if_false, List.cons_append, List.nil_append]
    rw [decodeUtf16_pair (by omega) (by omega), high, low, joined, Char.ofNat_toNat]

/-- The code units of a text read back as that text. -/
theorem decodeUtf16_encodeUtf16 (text : List Char) :
    decodeUtf16 (encodeUtf16 text) = some text := by
  induction text with
  | nil => rfl
  | cons char rest ih =>
      have units : encodeUtf16 (char :: rest) = encodeChar char ++ encodeUtf16 rest := by
        simp [encodeUtf16]
      rw [units, decodeUtf16_encodeChar_append, ih]
      rfl

/-- Repeated characters take their units each time. -/
theorem length_encodeUtf16_replicate (count : Nat) (char : Char) :
    (encodeUtf16 (List.replicate count char)).length = count * (encodeChar char).length := by
  simp [encodeUtf16, List.length_flatMap]

@[simp] theorem length_flatMap_toLeBytes (units : List UInt16) :
    (units.flatMap toLeBytes).length = 2 * units.length := by
  induction units with
  | nil => rfl
  | cons unit rest ih =>
      simp [toLeBytes, ih]
      omega

/-- Code units survive the trip through their bytes. -/
theorem unitsOfBytes_flatMap_toLeBytes (units : List UInt16) :
    unitsOfBytes (units.flatMap toLeBytes) = some units := by
  induction units with
  | nil => rfl
  | cons unit rest ih =>
      have bound := unit.toNat_lt
      have recovered : (UInt8.ofNat unit.toNat).toNat +
          256 * (UInt8.ofNat (unit.toNat / 256)).toNat = unit.toNat := by
        simp only [UInt8.toNat_ofNat']
        omega
      simp only [List.flatMap_cons, toLeBytes, List.cons_append, List.nil_append, unitsOfBytes,
        recovered, UInt16.ofNat_toNat]
      rw [ih]
      rfl

/-- A text decodes from the little-endian bytes of its code units. -/
theorem decodeUtf16Le_encodeUtf16Le (text : List Char) :
    decodeUtf16Le ((encodeUtf16 text).flatMap toLeBytes) = some text := by
  rw [decodeUtf16Le, unitsOfBytes_flatMap_toLeBytes]
  exact decodeUtf16_encodeUtf16 text

example : encodeUtf16 ['A', '©', '😀'] = [0x41, 0xA9, 0xD83D, 0xDE00] := by decide

end X360Gadget.Std.Utf16
