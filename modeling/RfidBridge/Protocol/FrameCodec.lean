import RfidBridge.Protocol.Frame

/-!
Builder and parser are inverse to each other: what buildFrame produces parses
back to its arguments, and what parseFrame accepts is exactly what buildFrame
produces from the parsed fields.
-/

namespace RfidBridge
open BigEndian

def maxPayloadLength : Nat := 65526

/-- A complete frame over header bytes that fit. -/
def frameBytes (address sequence command status : UInt8) (payload : Bytes) : Bytes :=
  frameWithoutCrc address sequence command status payload ++
    encode 2 (calculateCrc (frameWithoutCrc address sequence command status payload)).toNat

def InByte (value : Int) : Prop := 0 ≤ value ∧ value ≤ 255

instance (value : Int) : Decidable (InByte value) :=
  inferInstanceAs (Decidable (_ ∧ _))

theorem requireByte_eq_ok (name : String) (value : Int) (u : Unit) :
    requireByte name value = .ok u ↔ InByte value := by
  unfold requireByte InByte
  split <;> simp_all [raised]

theorem requireByte_error {name : String} {value : Int} {exc : PyException}
    (h : requireByte name value = .error exc) : exc.cls = .rfidProtocolError := by
  unfold requireByte at h
  split at h <;> cases h
  rfl

theorem InByte.toNat_lt {value : Int} (h : InByte value) : value.toNat < 256 := by
  unfold InByte at h
  omega

theorem InByte.of_byte (b : UInt8) : InByte (b.toNat : Int) := by
  have hb := b.toNat_lt
  unfold InByte
  omega

theorem ofNat_toNat_cast (b : UInt8) : UInt8.ofNat (b.toNat : Int).toNat = b := by
  simp

/-- buildFrame raises for every field out of range and every longer payload, and
otherwise returns the frame bytes. -/
theorem buildFrame_eq_ok_iff (address sequence command : Int) (payload : Bytes) (status : Int)
    (raw : Bytes) :
    buildFrame address sequence command payload status = .ok raw ↔
      (InByte address ∧ InByte sequence ∧ InByte command ∧ InByte status ∧
        payload.length ≤ maxPayloadLength) ∧
      raw = frameBytes (.ofNat address.toNat) (.ofNat sequence.toNat)
        (.ofNat command.toNat) (.ofNat status.toNat) payload := by
  have fits : ¬ minFrameLength + payload.length > maxFrameLength ↔
      payload.length ≤ maxPayloadLength := by
    simp only [minFrameLength, maxFrameLength, maxPayloadLength]
    omega
  simp only [buildFrame, bind_eq_ok, guard_eq_ok, requireByte_eq_ok, exists_const, fits,
    Except.ok.injEq, ← frameBytes.eq_def, and_assoc, eq_comm (b := raw)]

theorem length_frameWithoutCrc (a s c t : UInt8) (payload : Bytes) :
    (frameWithoutCrc a s c t payload).length = payload.length + 7 := by
  simp [frameWithoutCrc]
  omega

theorem length_frameBytes (a s c t : UInt8) (payload : Bytes) :
    (frameBytes a s c t payload).length = payload.length + 9 := by
  simp [frameBytes, length_frameWithoutCrc]

theorem declaredLength_frameBytes (a s c t : UInt8) (payload : Bytes)
    (h : payload.length ≤ maxPayloadLength) :
    declaredLength (frameBytes a s c t payload) = payload.length + 9 := by
  have fits : minFrameLength + payload.length < 256 ^ 2 := by
    simp only [minFrameLength, maxPayloadLength] at h ⊢
    omega
  have field : ((frameBytes a s c t payload).drop 1).take 2 =
      encode 2 (minFrameLength + payload.length) := by
    simp [frameBytes, frameWithoutCrc, encode]
  rw [declaredLength, field, decode_encode _ _ fits, minFrameLength, Nat.add_comm]

theorem take_frameBytes (a s c t : UInt8) (payload : Bytes) :
    (frameBytes a s c t payload).take ((frameBytes a s c t payload).length - 2) =
      frameWithoutCrc a s c t payload := by
  rw [length_frameBytes, frameBytes]
  exact List.take_left' (by rw [length_frameWithoutCrc]; omega)

theorem drop_frameBytes (a s c t : UInt8) (payload : Bytes) :
    (frameBytes a s c t payload).drop ((frameBytes a s c t payload).length - 2) =
      encode 2 (calculateCrc (frameWithoutCrc a s c t payload)).toNat := by
  rw [length_frameBytes, frameBytes]
  exact List.drop_left' (by rw [length_frameWithoutCrc]; omega)

theorem crc_fits (data : Bytes) : (calculateCrc data).toNat < 256 ^ 2 :=
  (calculateCrc data).isLt

/-- Parsing what was built returns the arguments and the built bytes. -/
theorem parseFrame_frameBytes (a s c t : UInt8) (payload : Bytes)
    (h : payload.length ≤ maxPayloadLength) :
    parseFrame (frameBytes a s c t payload) =
      .ok ⟨a, s, c, t, payload, frameBytes a s c t payload⟩ := by
  have start : (frameBytes a s c t payload)[0]? = some sof := by
    simp [frameBytes, frameWithoutCrc]
  have body : (frameWithoutCrc a s c t payload).drop 7 = payload := by
    simp [frameWithoutCrc, encode]
  unfold parseFrame
  rw [declaredLength_frameBytes a s c t payload h, take_frameBytes, drop_frameBytes,
    decode_encode 2 _ (crc_fits _), start, body, length_frameBytes]
  simp only [minFrameLength, ne_eq, not_true_eq_false, if_false,
    show ¬ payload.length + 9 < 9 by omega]
  simp [frameBytes, frameWithoutCrc, encode]

theorem parseFrame_eq_ok_iff (raw : Bytes) (frame : RFIDFrame) :
    parseFrame raw = .ok frame ↔
      minFrameLength ≤ raw.length ∧ raw[0]? = some sof ∧ declaredLength raw = raw.length ∧
      (calculateCrc (raw.take (raw.length - 2))).toNat = decode (raw.drop (raw.length - 2)) ∧
      frame = {
        address := raw.getD 3 0
        sequence := raw.getD 4 0
        command := raw.getD 5 0
        status := raw.getD 6 0
        payload := (raw.take (raw.length - 2)).drop 7
        rawFrame := raw } := by
  unfold parseFrame
  split
  · simp only [raised, reduceCtorEq, false_iff]; omega
  · split
    · simp_all [raised]
    · split
      · simp only [raised, reduceCtorEq, false_iff]; omega
      · split
        · simp_all [raised]
        · split
          · simp_all [raised]
          · simp_all [eq_comm]

theorem parseFrame_error {raw : Bytes} {exc : PyException} (h : parseFrame raw = .error exc) :
    exc.cls = .rfidProtocolError := by
  unfold parseFrame at h
  repeat' split at h
  all_goals cases h
  all_goals rfl

/-- Every accepted byte string is the frame of its own parsed fields. -/
theorem parseFrame_sound {raw : Bytes} {frame : RFIDFrame} (h : parseFrame raw = .ok frame) :
    frame.rawFrame = raw ∧ frame.payload.length ≤ maxPayloadLength ∧
      frameBytes frame.address frame.sequence frame.command frame.status frame.payload = raw := by
  obtain ⟨long, start, declared, crc, rfl⟩ := (parseFrame_eq_ok_iff raw frame).mp h
  have bound : raw.length < 256 ^ 2 := by
    have := decode_lt ((raw.drop 1).take 2)
    rw [← declared, declaredLength]
    refine Nat.lt_of_lt_of_le this (Nat.pow_le_pow_right (by decide) ?_)
    simp
  simp only [minFrameLength] at long
  refine ⟨rfl, by simp only [List.length_drop, List.length_take, maxPayloadLength]; omega, ?_⟩
  -- The first seven bytes are named; the tail is the payload and the CRC.
  match raw, long with
  | b₀ :: l₁ :: l₂ :: a :: s :: c :: t :: rest, long =>
    have hb : b₀ = sof := by simpa using start
    subst hb
    have restLength : 2 ≤ rest.length := by simp only [List.length_cons] at long; omega
    have bodyEq : frameWithoutCrc a s c t (rest.take (rest.length - 2)) =
        (sof :: l₁ :: l₂ :: a :: s :: c :: t :: rest).take (rest.length + 7 - 2) := by
      have width : encode 2 (minFrameLength + (rest.take (rest.length - 2)).length) = [l₁, l₂] := by
        have total : minFrameLength + (rest.take (rest.length - 2)).length = decode [l₁, l₂] := by
          have declared' : decode [l₁, l₂] = rest.length + 7 := by
            simpa [declaredLength] using declared
          simp only [declared', minFrameLength, List.length_take]
          omega
        rw [total]
        exact encode_decode [l₁, l₂]
      have index : rest.length + 7 - 2 = (rest.length - 2) + 7 := by omega
      rw [frameWithoutCrc, width, index]
      simp
    have tailEq : (sof :: l₁ :: l₂ :: a :: s :: c :: t :: rest).drop (rest.length + 7 - 2) =
        rest.drop (rest.length - 2) := by
      rw [show rest.length + 7 - 2 = (rest.length - 2) + 7 by omega]
      simp
    have crcBytes : encode 2 (calculateCrc
        (frameWithoutCrc a s c t (rest.take (rest.length - 2)))).toNat =
          rest.drop (rest.length - 2) := by
      have two : (rest.drop (rest.length - 2)).length = 2 := by simp; omega
      have crc' : (calculateCrc (frameWithoutCrc a s c t (rest.take (rest.length - 2)))).toNat =
          decode (rest.drop (rest.length - 2)) := by
        rw [bodyEq, ← tailEq]
        exact crc
      rw [crc']
      have same := encode_decode (rest.drop (rest.length - 2))
      rwa [two] at same
    have payloadEq : ((sof :: l₁ :: l₂ :: a :: s :: c :: t :: rest).take
        ((sof :: l₁ :: l₂ :: a :: s :: c :: t :: rest).length - 2)).drop 7 =
          rest.take (rest.length - 2) := by
      simp only [List.length_cons]
      rw [show rest.length + 1 + 1 + 1 + 1 + 1 + 1 + 1 - 2 = (rest.length - 2) + 7 by omega]
      simp
    change frameBytes a s c t _ = _
    rw [payloadEq, frameBytes, crcBytes, bodyEq, ← tailEq]
    exact List.take_append_drop _ _

theorem buildFrame_parsed {raw : Bytes} {frame : RFIDFrame} (h : parseFrame raw = .ok frame) :
    buildFrame frame.address.toNat frame.sequence.toNat frame.command.toNat frame.payload
      frame.status.toNat = .ok raw := by
  obtain ⟨-, short, same⟩ := parseFrame_sound h
  refine (buildFrame_eq_ok_iff _ _ _ _ _ raw).mpr ⟨⟨.of_byte _, .of_byte _, .of_byte _,
    .of_byte _, short⟩, ?_⟩
  simpa only [ofNat_toNat_cast] using same.symm

theorem toNat_ofNat_of_inByte {value : Int} (h : InByte value) :
    ((UInt8.ofNat value.toNat).toNat : Int) = value := by
  rw [UInt8.toNat_ofNat_of_lt' h.toNat_lt]
  exact Int.toNat_of_nonneg h.1

/-- Outside the ranges buildFrame raises, and always a protocol error. -/
theorem buildFrame_out_of_range (address sequence command : Int) (payload : Bytes) (status : Int)
    (out : ¬ (InByte address ∧ InByte sequence ∧ InByte command ∧ InByte status ∧
      payload.length ≤ maxPayloadLength)) :
    ∃ message, buildFrame address sequence command payload status =
      .error ⟨.rfidProtocolError, message⟩ := by
  cases built : buildFrame address sequence command payload status with
  | ok raw => exact absurd ((buildFrame_eq_ok_iff _ _ _ _ _ raw).mp built).1 out
  | error exc =>
      refine ⟨exc.message, congrArg Except.error ?_⟩
      suffices exc.cls = .rfidProtocolError by rw [← this]
      simp only [buildFrame, bind_eq_error, guard_eq_error] at built
      rcases built with h | ⟨_, _, h | ⟨_, _, h | ⟨_, _, h | ⟨_, _, ⟨_, rfl⟩ | ⟨_, h⟩⟩⟩⟩⟩
      · exact requireByte_error h
      · exact requireByte_error h
      · exact requireByte_error h
      · exact requireByte_error h
      · rfl
      · cases h

theorem frameCodec_two_sided :
    (∀ (address sequence command status : Int) (payload : Bytes),
      InByte address → InByte sequence → InByte command → InByte status →
      payload.length ≤ 65526 →
      ∃ raw frame, buildFrame address sequence command payload status = .ok raw ∧
        parseFrame raw = .ok frame ∧
        (frame.address.toNat : Int) = address ∧ (frame.sequence.toNat : Int) = sequence ∧
        (frame.command.toNat : Int) = command ∧ (frame.status.toNat : Int) = status ∧
        frame.payload = payload ∧ frame.rawFrame = raw) ∧
    (∀ raw : Bytes, (∃ frame, parseFrame raw = .ok frame) ↔
      ∃ (address sequence command status : Int) (payload : Bytes),
        (InByte address ∧ InByte sequence ∧ InByte command ∧ InByte status ∧
          payload.length ≤ 65526) ∧
        buildFrame address sequence command payload status = .ok raw) ∧
    (∀ (raw : Bytes) (frame : RFIDFrame), parseFrame raw = .ok frame →
      buildFrame frame.address.toNat frame.sequence.toNat frame.command.toNat frame.payload
        frame.status.toNat = .ok raw) ∧
    (∀ (address sequence command status : Int) (payload : Bytes),
      ¬ (InByte address ∧ InByte sequence ∧ InByte command ∧ InByte status ∧
        payload.length ≤ 65526) →
      ∃ message, buildFrame address sequence command payload status =
        .error ⟨.rfidProtocolError, message⟩) := by
  refine ⟨?_, ?_, fun raw frame h => buildFrame_parsed h,
    fun a s c t payload => buildFrame_out_of_range a s c payload t⟩
  · intro a s c t payload ha hs hc ht short
    refine ⟨_, _, (buildFrame_eq_ok_iff a s c payload t _).mpr ⟨⟨ha, hs, hc, ht, short⟩, rfl⟩,
      parseFrame_frameBytes _ _ _ _ payload short, toNat_ofNat_of_inByte ha,
      toNat_ofNat_of_inByte hs, toNat_ofNat_of_inByte hc, toNat_ofNat_of_inByte ht, rfl, rfl⟩
  · intro raw
    constructor
    · rintro ⟨frame, parsed⟩
      obtain ⟨-, short, -⟩ := parseFrame_sound parsed
      exact ⟨_, _, _, _, _, ⟨.of_byte _, .of_byte _, .of_byte _, .of_byte _, short⟩,
        buildFrame_parsed parsed⟩
    · rintro ⟨a, s, c, t, payload, ⟨-, -, -, -, short⟩, built⟩
      obtain ⟨-, rfl⟩ := (buildFrame_eq_ok_iff a s c payload t raw).mp built
      exact ⟨_, parseFrame_frameBytes _ _ _ _ payload short⟩

/-- The STOP request of the executor, built and parsed back. -/
theorem frameCodec_two_sided_stopRequest :
    ∃ raw frame, buildFrame 1 11 0x7F [] 0 = .ok raw ∧ parseFrame raw = .ok frame ∧
      (frame.address.toNat : Int) = 1 ∧ (frame.sequence.toNat : Int) = 11 ∧
      (frame.command.toNat : Int) = 0x7F ∧ (frame.status.toNat : Int) = 0 ∧
      frame.payload = [] ∧ frame.rawFrame = raw :=
  frameCodec_two_sided.1 1 11 0x7F 0 [] (by decide) (by decide) (by decide) (by decide)
    (by decide)

end RfidBridge
