import X360Gadget.Descriptors.Bytes
import X360Gadget.Kernel.RawGadget

/-!
# String descriptors of the C gadget

`set_usb_string_desc` walks the UTF-8 bytes of a C string and writes UTF-16LE
into the transfer buffer. It knows two kinds of characters, ASCII and the
copyright sign, and on those it writes what the Rust encoder returns.
-/

namespace X360Gadget.Legacy

open X360Gadget.Descriptors X360Gadget.Kernel X360Gadget.Std.Utf16

/-! ## The C function -/

/-- `struct usb_raw_control_ep0_io`; its buffer holds what the stack held. -/
structure UsbRawControlEp0Io where
  inner : UsbRawEpIo
  data : Vector UInt8 16384

/-- `io->data[pos] = value`; a position past the buffer is undefined. -/
def UsbRawControlEp0Io.write (io : UsbRawControlEp0Io) (pos : Nat) (value : UInt8) :
    Option UsbRawControlEp0Io :=
  if pos < 16384 then some { io with data := io.data.setIfInBounds pos value } else none

/-- The two bytes of a code unit below `0x100`. -/
def UsbRawControlEp0Io.writeUnit (io : UsbRawControlEp0Io) (pos : Nat) (low : UInt8) :
    Option UsbRawControlEp0Io :=
  (io.write pos low).bind fun io => io.write (pos + 1) 0x00

/-- The bytes before the terminator. -/
def strlen (str : List UInt8) : Nat := (str.takeWhile (· ≠ 0)).length

/-- The loop over the bytes of the string: the corrected length and the buffer. -/
def stringLoop (str : List UInt8) (strLen i pos : Nat) (descriptorLen : Int)
    (io : UsbRawControlEp0Io) : Option (Int × UsbRawControlEp0Io) :=
  if i < strLen then
    let c := str.getD i 0
    if c = 0xC2 ∧ i + 1 < strLen ∧ str.getD (i + 1) 0 = 0xA9 then
      -- The second byte of the sign is skipped as well.
      match io.writeUnit pos 0xA9 with
      | some io => stringLoop str strLen (i + 2) (pos + 2) (descriptorLen - 2) io
      | none => none
    else
      match io.writeUnit pos c with
      | some io => stringLoop str strLen (i + 1) (pos + 2) descriptorLen io
      | none => none
  else
    some (descriptorLen, io)
termination_by strLen - i

/-- Write the descriptor of a terminated string; the length byte keeps the low
eight bits. -/
def setUsbStringDesc (str : List UInt8) (io : UsbRawControlEp0Io) : Option UsbRawControlEp0Io :=
  let strLen := strlen str
  (io.write 1 usbDtString).bind fun io =>
    (stringLoop str strLen 0 2 2 io).bind fun (descriptorLen, io) =>
      let descriptorLen := descriptorLen + strLen * 2
      (io.write 0 (UInt8.ofInt descriptorLen)).map fun io =>
        { io with inner := { io.inner with length := UInt32.ofInt descriptorLen } }

/-! ## Writing into the buffer -/

section Write

variable {io : UsbRawControlEp0Io} {before after : List UInt8}

/-- A write replaces one byte of the buffer. -/
theorem write_eq {old : UInt8} (contents : io.data.toList = before ++ old :: after)
    (value : UInt8) : ∃ written, io.write before.length value = some written ∧
      written.inner = io.inner ∧ written.data.toList = before ++ value :: after := by
  have size : io.data.toList.length = 16384 := by simp
  have inRange : before.length < 16384 := by
    rw [contents, List.length_append, List.length_cons] at size
    omega
  refine ⟨_, if_pos inRange, rfl, ?_⟩
  simp [Vector.toList_setIfInBounds, contents]

/-- A code unit replaces two bytes of the buffer. -/
theorem writeUnit_eq {first second : UInt8}
    (contents : io.data.toList = before ++ first :: second :: after) (low : UInt8) :
    ∃ written, io.writeUnit before.length low = some written ∧ written.inner = io.inner ∧
      written.data.toList = before ++ low :: 0x00 :: after := by
  obtain ⟨middle, wrote, inner, bytes⟩ := write_eq contents low
  have moved : middle.data.toList = (before ++ [low]) ++ second :: after := by
    rw [bytes, List.append_assoc]
    rfl
  obtain ⟨written, wroteNext, innerNext, bytesNext⟩ := write_eq moved 0x00
  rw [List.length_append, List.length_singleton] at wroteNext
  refine ⟨written, ?_, innerNext.trans inner, ?_⟩
  · rw [UsbRawControlEp0Io.writeUnit, wrote]
    exact wroteNext
  · rw [bytesNext, List.append_assoc]
    rfl

end Write

/-! ## Characters both encoders know -/

/-- An ASCII character other than NUL, or the copyright sign. -/
def Representable (char : Char) : Prop :=
  (char ≠ '\x00' ∧ char.toNat < 128) ∨ char = '©'

instance : DecidablePred Representable :=
  fun char => inferInstanceAs (Decidable ((char ≠ '\x00' ∧ char.toNat < 128) ∨ char = '©'))

/-- The bytes of a string in C memory, with its terminator. -/
def cBytes (s : String) : List UInt8 := s.toByteArray.data.toList ++ [0]

/-- The UTF-8 bytes of a text. -/
def utf8 (text : List Char) : List UInt8 := text.flatMap String.utf8EncodeChar

/-- A C string is the UTF-8 of its text and a terminating zero. -/
theorem cBytes_eq (s : String) : cBytes s = utf8 s.toList ++ [0] := by
  rw [cBytes, ← String.utf8Encode_toList, List.utf8Encode, List.data_toByteArray, utf8]

/-- The two bytes a character takes in the descriptor. -/
def unitBytes (char : Char) : List UInt8 := [UInt8.ofNat char.toNat, 0x00]

section Characters

variable {char : Char}

/-- An ASCII character is one byte, its own code. -/
theorem utf8EncodeChar_ascii (ascii : char.toNat < 128) :
    String.utf8EncodeChar char = [UInt8.ofNat char.toNat] := by
  have small : char.val.toNat ≤ 127 := Nat.le_of_lt_succ ascii
  simp only [String.utf8EncodeChar, if_pos small]
  rfl

/-- The Rust encoder writes the same two bytes. -/
theorem encodeChar_representable (representable : Representable char) :
    (encodeChar char).flatMap toLeBytes = unitBytes char := by
  rcases representable with ⟨-, ascii⟩ | rfl
  · have single : char.toNat < 0x10000 := Nat.lt_trans ascii (by decide)
    have low : (UInt16.ofNat char.toNat).toNat = char.toNat := by
      rw [UInt16.toNat_ofNat']
      omega
    have high : char.toNat / 256 = 0 := Nat.div_eq_of_lt (Nat.lt_trans ascii (by decide))
    simp only [encodeChar, if_pos single, List.flatMap_cons, List.flatMap_nil, List.append_nil,
      toLeBytes, low, high]
    rfl
  · rfl

/-- Every byte of an ASCII character or the sign differs from the terminator. -/
theorem utf8EncodeChar_ne_zero (representable : Representable char) :
    ∀ byte ∈ String.utf8EncodeChar char, byte ≠ 0 := by
  rcases representable with ⟨notNul, ascii⟩ | rfl
  · rw [utf8EncodeChar_ascii ascii]
    intro byte member
    rw [List.mem_singleton.mp member]
    intro zero
    have code : char.toNat = 0 := by
      have same := congrArg UInt8.toNat zero
      rw [UInt8.toNat_ofNat'] at same
      change char.toNat % 256 = 0 at same
      omega
    exact notNul (Char.toNat_inj.mp code)
  · intro byte member
    have bytes : String.utf8EncodeChar '©' = [0xC2, 0xA9] := rfl
    rw [bytes] at member
    rcases List.mem_pair.mp member with rfl | rfl
    · decide
    · decide

end Characters

section Texts

variable {text : List Char}

/-- The Rust encoder on a whole text. -/
theorem flatMap_encodeUtf16 (representable : ∀ char ∈ text, Representable char) :
    (encodeUtf16 text).flatMap toLeBytes = text.flatMap unitBytes := by
  induction text with
  | nil => rfl
  | cons char rest ih =>
      have here := encodeChar_representable (representable char List.mem_cons_self)
      have later := ih fun other member => representable other (List.mem_cons_of_mem char member)
      rw [encodeUtf16] at later
      rw [encodeUtf16, List.flatMap_cons, List.flatMap_append, here, later, List.flatMap_cons]

/-- Each sign takes a byte more than its character count. -/
theorem length_utf8 (representable : ∀ char ∈ text, Representable char) :
    (utf8 text).length = text.length + text.count '©' := by
  induction text with
  | nil => rfl
  | cons char rest ih =>
      have later := ih fun other member => representable other (List.mem_cons_of_mem char member)
      have split : utf8 (char :: rest) = String.utf8EncodeChar char ++ utf8 rest := rfl
      rw [split, List.length_append, later, List.length_cons]
      rcases representable char List.mem_cons_self with ⟨-, ascii⟩ | rfl
      · have other : char ≠ '©' := by
          rintro rfl
          exact absurd ascii (by decide)
        rw [utf8EncodeChar_ascii ascii, List.count_cons_of_ne other]
        simp only [List.length_singleton]
        omega
      · have sign : (String.utf8EncodeChar '©').length = 2 := rfl
        rw [sign, List.count_cons_self]
        omega

/-- `strlen` finds the terminator behind the text. -/
theorem strlen_utf8 (representable : ∀ char ∈ text, Representable char) :
    strlen (utf8 text ++ [0]) = (utf8 text).length := by
  have nonzero : ∀ byte ∈ utf8 text, decide (byte ≠ 0) = true := by
    intro byte member
    obtain ⟨char, inText, inChar⟩ := List.mem_flatMap.mp member
    exact decide_eq_true (utf8EncodeChar_ne_zero (representable char inText) byte inChar)
  rw [strlen, List.takeWhile_append_of_pos nonzero]
  simp

end Texts

/-! ## The loop -/

section Loop

variable {str : List UInt8} {strLen i pos : Nat} {descriptorLen : Int}
  {io written : UsbRawControlEp0Io}

/-- The iteration at a copyright sign. -/
theorem stringLoop_sign (inside : i + 1 < strLen) (first : str.getD i 0 = 0xC2)
    (second : str.getD (i + 1) 0 = 0xA9) (wrote : io.writeUnit pos 0xA9 = some written) :
    stringLoop str strLen i pos descriptorLen io =
      stringLoop str strLen (i + 2) (pos + 2) (descriptorLen - 2) written := by
  rw [stringLoop]
  simp only [if_pos (Nat.lt_of_succ_lt inside), first, second, inside, and_self, if_true, wrote]

/-- The iteration at any other byte. -/
theorem stringLoop_other (inside : i < strLen) (other : str.getD i 0 ≠ 0xC2)
    (wrote : io.writeUnit pos (str.getD i 0) = some written) :
    stringLoop str strLen i pos descriptorLen io =
      stringLoop str strLen (i + 1) (pos + 2) descriptorLen written := by
  rw [stringLoop]
  simp only [if_pos inside, other, false_and, if_false, wrote]

/-- The loop ends at the terminator. -/
theorem stringLoop_end (outside : strLen ≤ i) :
    stringLoop str strLen i pos descriptorLen io = some (descriptorLen, io) := by
  rw [stringLoop, if_neg (Nat.not_lt.mpr outside)]

end Loop

/-- At a character the loop passes its bytes, writes its unit, and takes two from
the length if it is the sign. -/
theorem stringLoop_char {char : Char} (representable : Representable char)
    {passed later before after str : List UInt8} {first second : UInt8} {strLen : Nat}
    (shape : str = passed ++ (String.utf8EncodeChar char ++ later))
    (inside : (passed ++ String.utf8EncodeChar char).length ≤ strLen) (descriptorLen : Int)
    {io : UsbRawControlEp0Io} (contents : io.data.toList = before ++ first :: second :: after) :
    ∃ written, stringLoop str strLen passed.length before.length descriptorLen io =
        stringLoop str strLen (passed ++ String.utf8EncodeChar char).length
          (before ++ unitBytes char).length (descriptorLen - 2 * [char].count '©') written ∧
      written.inner = io.inner ∧ written.data.toList = before ++ (unitBytes char ++ after) := by
  have position : (before ++ unitBytes char).length = before.length + 2 := List.length_append
  rw [List.length_append] at inside ⊢
  rw [position]
  rcases representable with ⟨-, ascii⟩ | rfl
  · have bytes := utf8EncodeChar_ascii ascii
    rw [bytes] at shape
    rw [bytes, List.length_singleton] at inside ⊢
    have here : str.getD passed.length 0 = UInt8.ofNat char.toNat := by
      rw [shape]
      simp
    have notLead : str.getD passed.length 0 ≠ 0xC2 := by
      rw [here, ne_eq, ← UInt8.toNat_inj, UInt8.toNat_ofNat']
      change char.toNat % 256 ≠ 194
      omega
    have notSign : char ≠ '©' := by
      rintro rfl
      exact absurd ascii (by decide)
    obtain ⟨written, wrote, inner, data⟩ := writeUnit_eq contents (str.getD passed.length 0)
    refine ⟨written, ?_, inner, ?_⟩
    · rw [stringLoop_other (by omega) notLead wrote, List.count_cons_of_ne notSign, List.count_nil]
      simp
    · rw [data, here]
      rfl
  · have bytes : String.utf8EncodeChar '©' = [0xC2, 0xA9] := rfl
    have size : (String.utf8EncodeChar '©').length = 2 := rfl
    rw [bytes] at shape
    rw [size] at inside ⊢
    have lead : str.getD passed.length 0 = 0xC2 := by
      rw [shape]
      simp
    have trail : str.getD (passed.length + 1) 0 = 0xA9 := by
      rw [shape]
      simp
    obtain ⟨written, wrote, inner, data⟩ := writeUnit_eq contents 0xA9
    refine ⟨written, ?_, inner, data⟩
    rw [stringLoop_sign (by omega) lead trail wrote]
    rfl

/-- From the first byte of a text on, the loop replaces the spare bytes of the
buffer by the units of the text and takes two from the length at each sign. -/
theorem stringLoop_eq {text : List Char} (representable : ∀ char ∈ text, Representable char)
    (passed before : List UInt8) {str spare after : List UInt8} {strLen : Nat}
    (shape : str = passed ++ (utf8 text ++ [0]))
    (size : strLen = (passed ++ utf8 text).length) (descriptorLen : Int)
    {io : UsbRawControlEp0Io} (contents : io.data.toList = before ++ (spare ++ after))
    (room : spare.length = 2 * text.length) :
    ∃ written, stringLoop str strLen passed.length before.length descriptorLen io =
        some (descriptorLen - 2 * text.count '©', written) ∧
      written.inner = io.inner ∧
      written.data.toList = before ++ (text.flatMap unitBytes ++ after) := by
  induction text generalizing passed before spare descriptorLen io with
  | nil =>
      obtain rfl : spare = [] := List.eq_nil_of_length_eq_zero room
      have whole : strLen = passed.length := by
        rw [size, utf8, List.flatMap_nil, List.append_nil]
      refine ⟨io, ?_, rfl, contents⟩
      rw [stringLoop_end (Nat.le_of_eq whole), List.count_nil]
      simp
  | cons char rest ih =>
      have later : ∀ other ∈ rest, Representable other :=
        fun other member => representable other (List.mem_cons_of_mem char member)
      have bytes : utf8 (char :: rest) = String.utf8EncodeChar char ++ utf8 rest := rfl
      rw [bytes, List.append_assoc] at shape
      rw [bytes, ← List.append_assoc] at size
      obtain ⟨first, second, spare, rfl⟩ :
          ∃ first second tail, spare = first :: second :: tail := by
        cases spare with
        | nil => simp at room
        | cons first tail =>
            cases tail with
            | nil =>
                simp only [List.length_cons, List.length_nil] at room
                omega
            | cons second tail => exact ⟨first, second, tail, rfl⟩
      have left : spare.length = 2 * rest.length := by
        simp only [List.length_cons] at room
        omega
      have inside : (passed ++ String.utf8EncodeChar char).length ≤ strLen := by
        rw [size]
        exact (List.prefix_append _ (utf8 rest)).length_le
      obtain ⟨middle, passes, middleInner, middleData⟩ :=
        stringLoop_char (representable char List.mem_cons_self) shape inside descriptorLen contents
      rw [← List.append_assoc] at shape middleData
      obtain ⟨last, looped, lastInner, lastData⟩ :=
        ih later (passed ++ String.utf8EncodeChar char) (before ++ unitBytes char) shape size
          (descriptorLen - 2 * [char].count '©') middleData left
      have signs : (char :: rest).count '©' = [char].count '©' + rest.count '©' := by
        change ([char] ++ rest).count '©' = _
        rw [List.count_append]
      refine ⟨last, ?_, lastInner.trans middleInner, ?_⟩
      · rw [passes, looped, signs]
        congr 2
        push_cast
        omega
      · rw [lastData, List.flatMap_cons, List.append_assoc, List.append_assoc]

/-! ## Agreement with the Rust encoder -/

/-- Every character takes two bytes. -/
theorem length_flatMap_unitBytes (text : List Char) :
    (text.flatMap unitBytes).length = 2 * text.length := by
  induction text with
  | nil => rfl
  | cons char rest ih =>
      rw [List.flatMap_cons, List.length_append, ih, List.length_cons]
      change 2 + 2 * rest.length = 2 * (rest.length + 1)
      omega

/-- A representable character is one code unit. -/
theorem length_encodeUtf16 {text : List Char}
    (representable : ∀ char ∈ text, Representable char) :
    (encodeUtf16 text).length = text.length := by
  have bytes := congrArg List.length (flatMap_encodeUtf16 representable)
  rw [length_flatMap_toLeBytes, length_flatMap_unitBytes] at bytes
  omega

/-- The low byte of a length. -/
theorem ofInt_natCast (length : Nat) : UInt8.ofInt (length : Int) = UInt8.ofNat length := by
  rw [UInt8.ofInt, ← UInt8.toNat_inj, UInt8.toNat_ofNat', UInt8.toNat_ofNat']
  omega

/-- A length that fits the transfer header is kept. -/
theorem toNat_ofInt_natCast {length : Nat} (fits : length < UInt32.size) :
    (UInt32.ofInt (length : Int)).toNat = length := by
  change length < 4294967296 at fits
  rw [UInt32.ofInt, UInt32.toNat_ofNat']
  omega

/-- The corrected length counts two bytes for each character and two for the
header. -/
theorem correctedLen {text : List Char} (representable : ∀ char ∈ text, Representable char) :
    (2 : Int) - 2 * text.count '©' + (utf8 text).length * 2 =
      ((2 + 2 * text.length : Nat) : Int) := by
  have bytes := length_utf8 representable
  push_cast [bytes]
  omega

/-- Two header bytes and room for a text of `count` characters can be split off
a buffer. -/
theorem data_split (io : UsbRawControlEp0Io) {count : Nat} (short : count ≤ 8191) :
    ∃ lengthByte typeByte spare after,
      io.data.toList = [lengthByte] ++ typeByte :: (spare ++ after) ∧
        spare.length = 2 * count := by
  have size : io.data.toList.length = 16384 := by simp
  obtain ⟨lengthByte, typeByte, tail, contents⟩ : ∃ lengthByte typeByte tail,
      io.data.toList = lengthByte :: typeByte :: tail := by
    cases contents : io.data.toList with
    | nil => simp [contents] at size
    | cons lengthByte tail =>
        cases tail with
        | nil => simp [contents] at size
        | cons typeByte tail => exact ⟨lengthByte, typeByte, tail, rfl⟩
  refine ⟨lengthByte, typeByte, tail.take (2 * count), tail.drop (2 * count), ?_, ?_⟩
  · rw [List.take_append_drop, contents]
    rfl
  · rw [contents, List.length_cons, List.length_cons] at size
    rw [List.length_take]
    omega

/-- The Rust descriptor of a representable text, byte by byte. -/
theorem encodeStringDescriptor_eq {s : String}
    (representable : ∀ char ∈ s.toList, Representable char) :
    encodeStringDescriptor s =
      UInt8.ofNat (2 + 2 * s.toList.length) :: usbDtString :: s.toList.flatMap unitBytes := by
  rw [encodeStringDescriptor, flatMap_encodeUtf16 representable, length_encodeUtf16 representable,
    Nat.mul_comm]

/-- Two bytes for each character and two for the header. -/
theorem length_encodeStringDescriptor_eq {s : String}
    (representable : ∀ char ∈ s.toList, Representable char) :
    (encodeStringDescriptor s).length = 2 + 2 * s.toList.length := by
  rw [length_encodeStringDescriptor, length_encodeUtf16 representable]

/-- `set_usb_string_desc` replaces the front of the buffer by the Rust descriptor
and sets the length of the transfer. -/
theorem setUsbStringDesc_eq {s : String} (representable : ∀ char ∈ s.toList, Representable char)
    {io : UsbRawControlEp0Io} {lengthByte typeByte : UInt8} {spare untouched : List UInt8}
    (contents : io.data.toList = [lengthByte] ++ typeByte :: (spare ++ untouched))
    (room : spare.length = 2 * s.toList.length) :
    ∃ after, setUsbStringDesc (cBytes s) io = some after ∧
      after.data.toList = encodeStringDescriptor s ++ untouched ∧
      after.inner = { io.inner with
        length := UInt32.ofInt ((2 + 2 * s.toList.length : Nat) : Int) } := by
  have strLen : strlen (cBytes s) = (utf8 s.toList).length := by
    rw [cBytes_eq, strlen_utf8 representable]
  obtain ⟨typed, wroteType, typedInner, typedData⟩ := write_eq contents usbDtString
  obtain ⟨looped, ran, loopedInner, loopedData⟩ :=
    stringLoop_eq representable [] [lengthByte, usbDtString] (cBytes_eq s) rfl 2 typedData room
  have atFront : looped.data.toList =
      [] ++ lengthByte :: (usbDtString :: (s.toList.flatMap unitBytes ++ untouched)) := loopedData
  obtain ⟨done, wroteLength, doneInner, doneData⟩ :=
    write_eq atFront (UInt8.ofNat (2 + 2 * s.toList.length))
  have header : done.inner = io.inner := doneInner.trans (loopedInner.trans typedInner)
  refine ⟨{ done with inner := { done.inner with
    length := UInt32.ofInt ((2 + 2 * s.toList.length : Nat) : Int) } }, ?_, ?_, ?_⟩
  · have typeStep : io.write 1 usbDtString = some typed := wroteType
    have loopStep : stringLoop (cBytes s) (utf8 s.toList).length 0 2 2 typed =
        some ((2 : Int) - 2 * s.toList.count '©', looped) := ran
    have lengthStep : looped.write 0 (UInt8.ofNat (2 + 2 * s.toList.length)) = some done :=
      wroteLength
    simp only [setUsbStringDesc, strLen, typeStep, loopStep, Option.bind_some]
    rw [correctedLen representable, ofInt_natCast, lengthStep, Option.map_some]
  · rw [encodeStringDescriptor_eq representable]
    exact doneData
  · simp only [header]

/-- Up to the length it sets, `set_usb_string_desc` fills the buffer with the
descriptor of the Rust encoder, and it leaves the rest alone. -/
theorem setUsbStringDesc_eq_encodeStringDescriptor {s : String}
    (representable : ∀ char ∈ s.toList, Representable char) (short : s.length ≤ 8191)
    (io : UsbRawControlEp0Io) :
    ∃ after, setUsbStringDesc (cBytes s) io = some after ∧
      after.data.toList.take after.inner.length.toNat = encodeStringDescriptor s ∧
      after.data.toList.drop after.inner.length.toNat =
        io.data.toList.drop after.inner.length.toNat ∧
      after.inner.length.toNat = (encodeStringDescriptor s).length ∧
      after.inner = { io.inner with length := after.inner.length } := by
  have chars : s.toList.length ≤ 8191 := short
  have size := length_encodeStringDescriptor_eq representable
  obtain ⟨lengthByte, typeByte, spare, untouched, contents, room⟩ := data_split io chars
  obtain ⟨after, ran, filled, inner⟩ := setUsbStringDesc_eq representable contents room
  have wide : after.inner.length.toNat = (encodeStringDescriptor s).length := by
    have fits : 2 + 2 * s.toList.length < UInt32.size := by
      change _ < 4294967296
      omega
    rw [inner, size]
    exact toNat_ofInt_natCast fits
  have behind : io.data.toList.drop (encodeStringDescriptor s).length = untouched := by
    have split : io.data.toList = (lengthByte :: typeByte :: spare) ++ untouched := contents
    have front : (lengthByte :: typeByte :: spare).length = (encodeStringDescriptor s).length := by
      rw [List.length_cons, List.length_cons, room, size]
      omega
    rw [split, ← front, List.drop_left]
  refine ⟨after, ran, ?_, ?_, wide, ?_⟩
  · rw [wide, filled, List.take_left]
  · rw [wide, filled, behind, List.drop_left]
  · rw [inner]

/-- The manufacturer string of the C gadget, in a buffer of zeros. -/
theorem setUsbStringDesc_manufacturer :
    ∃ after, setUsbStringDesc (cBytes "©Microsoft Corporation")
        { inner := { ep := 0, flags := 0, length := 0 }, data := Vector.replicate 16384 0 } =
          some after ∧
      after.data.toList.take after.inner.length.toNat =
        encodeStringDescriptor "©Microsoft Corporation" ∧
      after.inner.length.toNat = 46 := by
  have every : ("©Microsoft Corporation".toList.all fun char => Representable char) = true := by
    decide
  have representable : ∀ char ∈ "©Microsoft Corporation".toList, Representable char :=
    fun char member => of_decide_eq_true (List.all_eq_true.mp every char member)
  obtain ⟨after, ran, bytes, -, length, -⟩ :=
    setUsbStringDesc_eq_encodeStringDescriptor representable (by decide)
      { inner := { ep := 0, flags := 0, length := 0 }, data := Vector.replicate 16384 0 }
  exact ⟨after, ran, bytes, length.trans (by decide)⟩

end X360Gadget.Legacy
