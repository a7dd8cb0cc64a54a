import RfidBridge.Library.ShiftRegister
import RfidBridge.Protocol.FrameCodec

/-!
The CRC of a frame as a shift register run over its bits, and the errors it
detects: a frame damaged only inside one window of sixteen consecutive bits is
never accepted, whatever its length and wherever the window lies.
-/

namespace RfidBridge
open BigEndian

/-- A byte in the order in which calculate_crc takes its bits. -/
def byteBits (byte : UInt8) : List Bool := ShiftRegister.bitsOf byte.toBitVec

/-- A frame as one string of bits, each byte from its high end. -/
def frameBits (raw : Bytes) : List Bool := raw.flatMap byteBits

def crcPolynomial : BitVec 16 := 0x1021#16

@[simp] theorem length_byteBits (byte : UInt8) : (byteBits byte).length = 8 := by
  simp [byteBits]

@[simp] theorem frameBits_cons (byte : UInt8) (raw : Bytes) :
    frameBits (byte :: raw) = byteBits byte ++ frameBits raw := rfl

@[simp] theorem frameBits_append (first second : Bytes) :
    frameBits (first ++ second) = frameBits first ++ frameBits second :=
  List.flatMap_append

theorem length_frameBits (raw : Bytes) : (frameBits raw).length = 8 * raw.length := by
  induction raw with
  | nil => rfl
  | cons byte raw ih => simp only [frameBits_cons, List.length_append, length_byteBits, ih,
      List.length_cons]; omega

theorem byteBits_injective {a b : UInt8} (h : byteBits a = byteBits b) : a = b := by
  have loaded := congrArg (ShiftRegister.load (w := 8)) h
  rw [byteBits, byteBits, ShiftRegister.load_bitsOf, ShiftRegister.load_bitsOf] at loaded
  exact UInt8.toBitVec_inj.mp loaded

theorem frameBits_injective {a b : Bytes} (h : frameBits a = frameBits b) : a = b := by
  have same : a.length = b.length := by
    have lengths := congrArg List.length h
    rw [length_frameBits, length_frameBits] at lengths
    omega
  induction a generalizing b with
  | nil => exact (List.length_eq_zero_iff.mp same.symm).symm
  | cons x a ih =>
      cases b with
      | nil => simp at same
      | cons y b =>
          obtain ⟨head, tail⟩ := List.append_inj h (by simp)
          rw [byteBits_injective head, ih tail (by simpa using same)]

theorem crcShift_eq_shift (crc : BitVec 16) :
    crcShift crc = ShiftRegister.shift crcPolynomial crc := by
  have top : (crc &&& 0x8000#16 ≠ 0#16) ↔ crc.msb = true := by
    have mask : (0x8000#16) = BitVec.twoPow 16 15 := by decide
    rw [mask, BitVec.and_twoPow]
    rw [BitVec.msb_eq_getLsbD_last]
    cases crc.getLsbD 15 <;> simp
  simp only [crcShift, ShiftRegister.shift, top, crcPolynomial]

/-- A byte placed at the top of the register, as `byte << 8`. -/
theorem load_byteBits (byte : UInt8) :
    (ShiftRegister.load (byteBits byte) : BitVec 16) = BitVec.ofNat 16 byte.toNat <<< 8 := by
  rw [byteBits, ShiftRegister.load_bitsOf_narrow _ (by decide), ← UInt8.toNat_toBitVec,
    BitVec.ofNat_toNat]

theorem crcByte_eq_feed (crc : BitVec 16) (byte : UInt8) :
    crcByte crc byte = ShiftRegister.feed crcPolynomial crc (byteBits byte) := by
  have rounds : crcShift = ShiftRegister.shift crcPolynomial := funext crcShift_eq_shift
  rw [ShiftRegister.feed_eq_iterate _ _ _ (by simp), length_byteBits, load_byteBits, crcByte,
    rounds]

theorem foldl_crcByte (crc : BitVec 16) (data : Bytes) :
    data.foldl crcByte crc = ShiftRegister.feed crcPolynomial crc (frameBits data) := by
  induction data generalizing crc with
  | nil => rfl
  | cons byte data ih =>
      rw [List.foldl_cons, ih, crcByte_eq_feed, frameBits_cons, ShiftRegister.feed_append]

theorem calculateCrc_eq_feed (data : Bytes) :
    calculateCrc data = ShiftRegister.feed crcPolynomial 0xFFFF#16 (frameBits data) :=
  foldl_crcByte _ data

/-- The two bytes after a frame's body, read as one word. -/
theorem frameBits_pair (high low : UInt8) (crc : BitVec 16) (h : crc.toNat = decode [high, low]) :
    frameBits [high, low] = ShiftRegister.bitsOf crc := by
  have word : crc = high.toBitVec ++ low.toBitVec := by
    apply BitVec.eq_of_toNat_eq
    rw [BitVec.toNat_append, ← Nat.shiftLeft_add_eq_or_of_lt low.toBitVec.isLt, h]
    simp [decode, Nat.shiftLeft_eq]
  rw [word, ShiftRegister.bitsOf_append]
  simp [frameBits, byteBits]

/-- An accepted frame, its CRC included, empties the register. -/
theorem feed_frameBits_of_parseFrame {raw : Bytes} {frame : RFIDFrame}
    (h : parseFrame raw = .ok frame) :
    ShiftRegister.feed crcPolynomial 0xFFFF#16 (frameBits raw) = 0#16 := by
  obtain ⟨long, -, -, crc, -⟩ := (parseFrame_eq_ok_iff raw frame).mp h
  have two : (raw.drop (raw.length - 2)).length = 2 := by
    simp only [minFrameLength] at long
    simp only [List.length_drop]
    omega
  obtain ⟨high, low, pair⟩ := List.length_eq_two.mp two
  rw [pair] at crc
  rw [← List.take_append_drop (raw.length - 2) raw, frameBits_append, ShiftRegister.feed_append,
    ← calculateCrc_eq_feed, pair, frameBits_pair high low _ crc, ShiftRegister.feed_bitsOf]

/-- Damage inside one window of sixteen consecutive bits of an accepted frame is
always detected. -/
theorem parseFrame_burst (raw damaged : Bytes) (frame : RFIDFrame) (start : Nat)
    (accepted : parseFrame raw = .ok frame) (sameLength : damaged.length = raw.length)
    (changed : damaged ≠ raw)
    (window : ∀ i, (frameBits damaged)[i]? ≠ (frameBits raw)[i]? → start ≤ i ∧ i < start + 16) :
    ∃ message, parseFrame damaged = .error ⟨.rfidProtocolError, message⟩ := by
  cases parsed : parseFrame damaged with
  | ok damagedFrame =>
      have equal : frameBits damaged = frameBits raw := by
        refine ShiftRegister.eq_of_feed_eq (g := crcPolynomial) (r := 0xFFFF#16) (by decide) ?_
          start window ?_
        · rw [length_frameBits, length_frameBits, sameLength]
        · rw [feed_frameBits_of_parseFrame parsed, feed_frameBits_of_parseFrame accepted]
      exact absurd (frameBits_injective equal) changed
  | error exc =>
      exact ⟨exc.message, congrArg Except.error (by rw [← parseFrame_error parsed])⟩

/-- The STOP request of the executor with a bit of its sequence and a bit of its
command flipped. -/
theorem parseFrame_burst_stopRequest :
    ∃ message, parseFrame [0xFE, 0, 9, 1, 10, 126, 0, 218, 128] =
      .error ⟨.rfidProtocolError, message⟩ := by
  refine parseFrame_burst [0xFE, 0, 9, 1, 11, 127, 0, 218, 128] _
    ⟨1, 11, 127, 0, [], [0xFE, 0, 9, 1, 11, 127, 0, 218, 128]⟩ 32 (by decide +kernel) rfl
    (by decide) ?_
  have inside : ∀ i < 72, (frameBits [0xFE, 0, 9, 1, 10, 126, 0, 218, 128])[i]? ≠
      (frameBits [0xFE, 0, 9, 1, 11, 127, 0, 218, 128])[i]? → 32 ≤ i ∧ i < 32 + 16 := by
    decide +kernel
  intro i differs
  by_cases short : i < 72
  · exact inside i short differs
  · rw [List.getElem?_eq_none (by rw [length_frameBits]; simp; omega),
      List.getElem?_eq_none (by rw [length_frameBits]; simp; omega)] at differs
    exact absurd rfl differs

end RfidBridge
