import RfidBridge.Library.PrefixCode
import RfidBridge.Protocol.TagData

/-!
The grammar of tag payloads: a mask, a protocol byte and the fields whose mask
bits are set, followed by anything. parse_tag_data accepts exactly the encodings
of this grammar and returns the encoded values.
-/

namespace RfidBridge
open BigEndian PrefixCode

/-- A signed integer that fits the given number of bytes. -/
def SignedInt (width : Nat) : Type := { n : Int // SignedRange width n }

/-- A byte string whose length fits one byte. -/
def ShortBytes : Type := { bytes : Bytes // bytes.length < 256 }

def antennaCode (antenna : UInt8) : Bytes := [antenna]

def signedCode (width : Nat) (n : SignedInt width) : Bytes := encodeSigned width n.1

def countedCode (bytes : ShortBytes) : Bytes := UInt8.ofNat bytes.1.length :: bytes.1

/-- The fields of a tag payload; a field is there when its mask bit is set. -/
@[ext] structure TagFields where
  mask : UInt32
  protocolType : UInt8
  antenna : Option UInt8
  pc : Option (SignedInt 2)
  epc : Option ShortBytes
  tid : Option ShortBytes
  count : Option (SignedInt 4)
  antenna_present : antenna.isSome = mask.toNat.testBit 0
  pc_present : pc.isSome = mask.toNat.testBit 1
  epc_present : epc.isSome = mask.toNat.testBit 2
  tid_present : tid.isSome = mask.toNat.testBit 3
  count_present : count.isSome = mask.toNat.testBit 4

namespace TagFields

def encode (fields : TagFields) : Bytes :=
  BigEndian.encode 4 fields.mask.toNat ++ ([fields.protocolType] ++
    (optional antennaCode fields.antenna ++ (optional (signedCode 2) fields.pc ++
      (optional countedCode fields.epc ++ (optional countedCode fields.tid ++
        optional (signedCode 4) fields.count)))))

/-- The values a parser reports: absent fields as `None` or the empty text. -/
def tagData (fields : TagFields) : RFIDTagData where
  protocolType := fields.protocolType
  antenna := fields.antenna
  pc := fields.pc.map Subtype.val
  epc := fields.epc.elim "" fun bytes => upperHex bytes.1
  tid := fields.tid.elim "" fun bytes => upperHex bytes.1
  count := fields.count.map Subtype.val

end TagFields

theorem unambiguous_antenna : Unambiguous antennaCode :=
  unambiguous_of_length (fun _ _ => rfl) fun a b same => by simpa [antennaCode] using same

theorem unambiguous_signed {width : Nat} (positive : 0 < width) :
    Unambiguous (signedCode width) := by
  refine unambiguous_of_length (fun a b => by simp [signedCode]) fun a b same => ?_
  apply Subtype.ext
  rw [← decodeSigned_encodeSigned positive a.2, ← decodeSigned_encodeSigned positive b.2]
  exact congrArg decodeSigned same

theorem unambiguous_counted : Unambiguous countedCode := by
  intro a b s t same
  simp only [countedCode, List.cons_append, List.cons.injEq] at same
  have length : a.1.length = b.1.length := by
    have counts := congrArg UInt8.toNat same.1
    rwa [UInt8.toNat_ofNat_of_lt' a.2, UInt8.toNat_ofNat_of_lt' b.2] at counts
  exact Subtype.ext (List.append_inj same.2 length).1

/-- Every read of the payload lies inside it. -/
theorem take_eq_ok_iff (payload : Bytes) (offset length : Nat) (field : String) (raw : Bytes)
    (next : Nat) :
    take payload offset length field = .ok (raw, next) ↔
      raw <+: payload.drop offset ∧ raw.length = length ∧ offset + length ≤ payload.length ∧
        next = offset + length := by
  unfold take
  split
  · simp only [raised, reduceCtorEq, false_iff]
    omega
  · rename_i fits
    have room : length ≤ (payload.drop offset).length := by
      rw [List.length_drop]
      omega
    simp only [Except.ok.injEq, Prod.mk.injEq]
    constructor
    · rintro ⟨rfl, rfl⟩
      exact ⟨List.take_prefix _ _, by rw [List.length_take]; omega, by omega, rfl⟩
    · rintro ⟨part, rfl, -, rfl⟩
      exact ⟨(List.prefix_iff_eq_take.mp part).symm, rfl⟩

theorem take_error {payload : Bytes} {offset length : Nat} {field : String} {exc : PyException}
    (h : take payload offset length field = .error exc) : exc.cls = .rfidProtocolError := by
  unfold take at h
  split at h <;> cases h
  rfl

/-- A field of fixed width that is decoded from its bytes. -/
theorem reads_fixed {α γ : Type} {code : α → Bytes} {shown : α → γ} {width : Nat}
    (payload : Bytes) (field : String) (value : Bytes → γ)
    (length : ∀ a, (code a).length = width) (positive : 0 < width)
    (covers : ∀ raw : Bytes, raw.length = width → ∃ a, code a = raw)
    (agrees : ∀ a, value (code a) = shown a) :
    Reads payload code shown (fun offset => do
      let (raw, offset) ← take payload offset width field
      .ok (value raw, offset)) := by
  intro offset result next
  simp only [bind_eq_ok, Prod.exists, take_eq_ok_iff, Except.ok.injEq, Prod.mk.injEq]
  constructor
  · rintro ⟨raw, _, ⟨part, whole, -, rfl⟩, rfl, rfl⟩
    obtain ⟨a, rfl⟩ := covers raw whole
    exact ⟨a, (agrees a).symm, part, by rw [length]⟩
  · rintro ⟨a, rfl, part, rfl⟩
    have room := part.length_le
    rw [length, List.length_drop] at room
    exact ⟨code a, _, ⟨part, length a, by omega, rfl⟩, agrees a, by rw [length]⟩

theorem reads_antenna (payload : Bytes) : Reads payload antennaCode some (takeAntenna payload) := by
  refine reads_fixed payload "antenna" List.head? (fun _ => rfl) (by decide) ?_ fun _ => rfl
  intro raw one
  obtain ⟨a, rfl⟩ := List.length_eq_one_iff.mp one
  exact ⟨a, rfl⟩

theorem reads_signed (payload : Bytes) (field : String) {width : Nat} (positive : 0 < width) :
    Reads payload (signedCode width) (fun n => some n.1) (fun offset => do
      let (raw, offset) ← take payload offset width field
      .ok (some (decodeSigned raw), offset)) := by
  refine reads_fixed payload field (fun raw => some (decodeSigned raw))
    (fun n => by simp [signedCode]) positive ?_ ?_
  · intro raw rfl
    exact ⟨⟨decodeSigned raw, decodeSigned_range positive⟩, encodeSigned_decodeSigned raw⟩
  · intro n
    exact congrArg some (decodeSigned_encodeSigned positive n.2)

theorem reads_pc (payload : Bytes) :
    Reads payload (signedCode 2) (fun n => some n.1) (takePc payload) :=
  reads_signed payload "PC" (by decide)

theorem reads_count (payload : Bytes) :
    Reads payload (signedCode 4) (fun n => some n.1) (takeCount payload) :=
  reads_signed payload "read count" (by decide)

theorem reads_hex (payload : Bytes) (field : String) :
    Reads payload countedCode (fun bytes => upperHex bytes.1)
      (fun offset => takeHex payload offset field) := by
  intro offset result next
  simp only [takeHex, bind_eq_ok, Prod.exists, take_eq_ok_iff, Except.ok.injEq, Prod.mk.injEq]
  constructor
  · rintro ⟨rawLength, _, ⟨first, one, -, rfl⟩, raw, _, ⟨second, counted, -, rfl⟩, rfl, rfl⟩
    obtain ⟨count, rfl⟩ := List.length_eq_one_iff.mp one
    have total : raw.length = count.toNat := by rw [counted]; simp [decode]
    have bound := count.toNat_lt
    refine ⟨⟨raw, by omega⟩, rfl, ?_, ?_⟩
    · have word : countedCode ⟨raw, by omega⟩ = [count] ++ raw := by
        simp [countedCode, total]
      rw [word, append_prefix_iff, List.drop_drop]
      exact ⟨first, second⟩
    · simp only [countedCode, List.length_cons]
      omega
  · rintro ⟨bytes, rfl, part, rfl⟩
    have word : countedCode bytes = [UInt8.ofNat bytes.1.length] ++ bytes.1 := rfl
    have count : decode [UInt8.ofNat bytes.1.length] = bytes.1.length := by
      simp only [decode, List.length_nil, Nat.pow_zero, Nat.mul_one, Nat.add_zero]
      exact UInt8.toNat_ofNat_of_lt' bytes.2
    have room := part.length_le
    rw [word, append_prefix_iff, List.drop_drop] at part
    rw [word, List.length_append, List.length_singleton, List.length_drop] at room
    refine ⟨_, _, ⟨part.1, rfl, by omega, rfl⟩, bytes.1, _,
      ⟨part.2, count.symm, by omega, rfl⟩, rfl, ?_⟩
    rw [word, List.length_append, List.length_singleton, count]
    omega

/-- An optional field is read when its mask bit is set and skipped otherwise. -/
theorem takeIf_eq_ok_iff {α γ : Type} {payload : Bytes} {code : α → Bytes} {shown : α → γ}
    {read : Nat → Except PyException (γ × Nat)} (reads : Reads payload code shown read)
    (present : Bool) (absent : γ) (offset : Nat) (value : γ) (next : Nat) :
    takeIf present absent offset (read offset) = .ok (value, next) ↔
      ∃ field : Option α, field.isSome = present ∧ field.elim absent shown = value ∧
        optional code field <+: payload.drop offset ∧
        next = offset + (optional code field).length := by
  cases present with
  | false =>
      simp only [takeIf, Bool.false_eq_true, if_false, Except.ok.injEq, Prod.mk.injEq]
      constructor
      · rintro ⟨rfl, rfl⟩
        exact ⟨none, rfl, rfl, List.nil_prefix, rfl⟩
      · rintro ⟨field, missing, rfl, -, rfl⟩
        cases field with
        | none => exact ⟨rfl, rfl⟩
        | some a => simp at missing
  | true =>
      simp only [takeIf, if_true, reads offset value next]
      constructor
      · rintro ⟨a, rfl, part, rfl⟩
        exact ⟨some a, rfl, rfl, part, rfl⟩
      · rintro ⟨field, there, rfl, part, rfl⟩
        cases field with
        | none => simp at there
        | some a => exact ⟨a, rfl, part, rfl⟩

theorem takeIf_error {γ : Type} {present : Bool} {absent : γ} {offset : Nat}
    {read : Except PyException (γ × Nat)} {exc : PyException}
    (h : takeIf present absent offset read = .error exc) : read = .error exc := by
  cases present with
  | false => cases h
  | true => exact h

theorem takeAntenna_error {payload : Bytes} {offset : Nat} {exc : PyException}
    (h : takeAntenna payload offset = .error exc) : exc.cls = .rfidProtocolError := by
  simp only [takeAntenna, bind_eq_error] at h
  rcases h with taken | ⟨_, _, returned⟩
  · exact take_error taken
  · cases returned

theorem takePc_error {payload : Bytes} {offset : Nat} {exc : PyException}
    (h : takePc payload offset = .error exc) : exc.cls = .rfidProtocolError := by
  simp only [takePc, bind_eq_error] at h
  rcases h with taken | ⟨_, _, returned⟩
  · exact take_error taken
  · cases returned

theorem takeCount_error {payload : Bytes} {offset : Nat} {exc : PyException}
    (h : takeCount payload offset = .error exc) : exc.cls = .rfidProtocolError := by
  simp only [takeCount, bind_eq_error] at h
  rcases h with taken | ⟨_, _, returned⟩
  · exact take_error taken
  · cases returned

theorem takeHex_error {payload : Bytes} {offset : Nat} {field : String} {exc : PyException}
    (h : takeHex payload offset field = .error exc) : exc.cls = .rfidProtocolError := by
  simp only [takeHex, bind_eq_error] at h
  rcases h with first | ⟨_, _, second | ⟨_, _, returned⟩⟩
  · exact take_error first
  · exact take_error second
  · cases returned

theorem parseTagData_error {payload : Bytes} {exc : PyException}
    (h : parseTagData payload = .error exc) : exc.cls = .rfidProtocolError := by
  simp only [parseTagData, guard_eq_error, bind_eq_error] at h
  rcases h with ⟨_, rfl⟩ | ⟨_, antenna | ⟨_, _, pc | ⟨_, _, epc | ⟨_, _, tid | ⟨_, _, count⟩⟩⟩⟩⟩
  · rfl
  · exact takeAntenna_error (takeIf_error antenna)
  · exact takePc_error (takeIf_error pc)
  · exact takeHex_error (takeIf_error epc)
  · exact takeHex_error (takeIf_error tid)
  · rcases count with count | ⟨_, _, returned⟩
    · exact takeCount_error (takeIf_error count)
    · cases returned

/-- The mask bytes of a payload as a word. -/
theorem mask_toNat {bytes : Bytes} (four : bytes.length = 4) :
    (UInt32.ofNat (decode bytes)).toNat = decode bytes := by
  have bound := decode_lt bytes
  rw [four] at bound
  exact UInt32.toNat_ofNat_of_lt' bound

theorem drop_header (payload : Bytes) (long : 5 ≤ payload.length) :
    payload.drop 4 = payload.getD 4 0 :: payload.drop 5 := by
  rw [List.drop_eq_getElem_cons (by omega), List.getD_eq_getElem?_getD,
    List.getElem?_eq_getElem (by omega), Option.getD_some]

theorem elim_none_some {α : Type} (field : Option α) : field.elim none some = field := by
  cases field <;> rfl

theorem elim_none_map {α β : Type} (field : Option α) (f : α → β) :
    field.elim none (fun a => some (f a)) = field.map f := by
  cases field <;> rfl

theorem parseTagData_eq_ok_iff (payload : Bytes) (tag : RFIDTagData) :
    parseTagData payload = .ok tag ↔
      ∃ fields : TagFields, fields.encode <+: payload ∧ tag = fields.tagData := by
  simp only [parseTagData, guard_eq_ok, bind_eq_ok, Prod.exists, Except.ok.injEq,
    takeIf_eq_ok_iff (reads_antenna payload), takeIf_eq_ok_iff (reads_pc payload),
    takeIf_eq_ok_iff (reads_hex payload _), takeIf_eq_ok_iff (reads_count payload)]
  constructor
  · rintro ⟨long, _, _, ⟨antenna, hasAntenna, rfl, readAntenna, rfl⟩,
      _, _, ⟨pc, hasPc, rfl, readPc, rfl⟩, _, _, ⟨epc, hasEpc, rfl, readEpc, rfl⟩,
      _, _, ⟨tid, hasTid, rfl, readTid, rfl⟩, _, _, ⟨count, hasCount, rfl, readCount, rfl⟩, rfl⟩
    have four : (payload.take 4).length = 4 := by rw [List.length_take]; omega
    have mask := mask_toNat four
    have word : BigEndian.encode 4 (decode (payload.take 4)) = payload.take 4 := by
      have digits := encode_decode (payload.take 4)
      rwa [four] at digits
    refine ⟨⟨.ofNat (decode (payload.take 4)), payload.getD 4 0, antenna, pc, epc, tid, count,
      by rw [mask, hasAntenna], by rw [mask, hasPc], by rw [mask, hasEpc], by rw [mask, hasTid],
      by rw [mask, hasCount]⟩, ?_, ?_⟩
    · simp only [TagFields.encode, append_prefix_iff, List.drop_drop, length_encode,
        List.length_singleton]
      rw [mask, word]
      refine ⟨List.take_prefix _ _, ?_, readAntenna, readPc, readEpc, readTid, readCount⟩
      rw [drop_header payload (by omega)]
      exact List.prefix_append [payload.getD 4 0] _
    · simp only [TagFields.tagData, elim_none_some, elim_none_map]
      rfl
  · rintro ⟨fields, begun, rfl⟩
    simp only [TagFields.encode, append_prefix_iff, List.drop_drop, length_encode,
      List.length_singleton] at begun
    obtain ⟨readMask, readProtocol, readAntenna, readPc, readEpc, readTid, readCount⟩ := begun
    have room := readProtocol.length_le
    rw [List.length_singleton, List.length_drop] at room
    have mask : decode (payload.take 4) = fields.mask.toNat := by
      rw [List.prefix_iff_eq_take, length_encode] at readMask
      rw [← readMask, decode_encode 4 _ fields.mask.toNat_lt]
    have protocolType : payload.getD 4 0 = fields.protocolType := by
      rw [drop_header payload (by omega), List.cons_prefix_cons] at readProtocol
      exact readProtocol.1.symm
    rw [mask, protocolType]
    refine ⟨by omega, _, _, ⟨fields.antenna, fields.antenna_present, rfl, readAntenna, rfl⟩,
      _, _, ⟨fields.pc, fields.pc_present, rfl, readPc, rfl⟩,
      _, _, ⟨fields.epc, fields.epc_present, rfl, readEpc, rfl⟩,
      _, _, ⟨fields.tid, fields.tid_present, rfl, readTid, rfl⟩,
      _, _, ⟨fields.count, fields.count_present, rfl, readCount, rfl⟩, ?_⟩
    simp only [TagFields.tagData, elim_none_some, elim_none_map]
    rfl

/-- An encoding and the tail after it can be told apart. -/
theorem TagFields.encode_split {fields other : TagFields} {tail otherTail : Bytes}
    (same : fields.encode ++ tail = other.encode ++ otherTail) :
    fields = other ∧ tail = otherTail := by
  simp only [TagFields.encode, List.append_assoc] at same
  obtain ⟨words, same⟩ := List.append_inj same (by simp)
  have mask : fields.mask = other.mask := by
    have values := congrArg decode words
    rw [decode_encode 4 _ fields.mask.toNat_lt, decode_encode 4 _ other.mask.toNat_lt] at values
    exact UInt32.toNat_inj.mp values
  obtain ⟨bytes, same⟩ := List.append_inj same (by simp)
  have protocolType : fields.protocolType = other.protocolType := by simpa using bytes
  obtain ⟨antenna, same⟩ := optional_split unambiguous_antenna
    (by rw [fields.antenna_present, other.antenna_present, mask]) same
  obtain ⟨pc, same⟩ := optional_split (unambiguous_signed (by decide))
    (by rw [fields.pc_present, other.pc_present, mask]) same
  obtain ⟨epc, same⟩ := optional_split unambiguous_counted
    (by rw [fields.epc_present, other.epc_present, mask]) same
  obtain ⟨tid, same⟩ := optional_split unambiguous_counted
    (by rw [fields.tid_present, other.tid_present, mask]) same
  obtain ⟨count, rest⟩ := optional_split (unambiguous_signed (by decide))
    (by rw [fields.count_present, other.count_present, mask]) same
  exact ⟨TagFields.ext mask protocolType antenna pc epc tid count, rest⟩

/-- parse_tag_data accepts exactly the encodings followed by any tail, in one way,
with the encoded values as its result; everything else is a protocol error, and no
read goes past the end of the payload. -/
theorem parseTagData_grammar :
    (∀ payload tag, parseTagData payload = .ok tag ↔
      ∃ (fields : TagFields) (tail : Bytes), payload = fields.encode ++ tail ∧
        tag = fields.tagData) ∧
    (∀ (fields other : TagFields) (tail otherTail : Bytes),
      fields.encode ++ tail = other.encode ++ otherTail → fields = other ∧ tail = otherTail) ∧
    (∀ payload, (∀ (fields : TagFields) (tail : Bytes), payload ≠ fields.encode ++ tail) →
      ∃ message, parseTagData payload = .error ⟨.rfidProtocolError, message⟩) ∧
    (∀ payload offset length field raw next,
      take payload offset length field = .ok (raw, next) →
        raw <+: payload.drop offset ∧ raw.length = length ∧ next = offset + length ∧
          next ≤ payload.length) := by
  have accepts : ∀ payload tag, parseTagData payload = .ok tag ↔
      ∃ (fields : TagFields) (tail : Bytes), payload = fields.encode ++ tail ∧
        tag = fields.tagData := by
    intro payload tag
    rw [parseTagData_eq_ok_iff]
    constructor
    · rintro ⟨fields, ⟨tail, same⟩, result⟩
      exact ⟨fields, tail, same.symm, result⟩
    · rintro ⟨fields, tail, rfl, result⟩
      exact ⟨fields, List.prefix_append _ _, result⟩
  refine ⟨accepts, fun _ _ _ _ same => TagFields.encode_split same, ?_, ?_⟩
  · intro payload other
    cases parsed : parseTagData payload with
    | ok tag =>
        obtain ⟨fields, tail, same, -⟩ := (accepts payload tag).mp parsed
        exact absurd same (other fields tail)
    | error exc =>
        exact ⟨exc.message, congrArg Except.error (by rw [← parseTagData_error parsed])⟩
  · intro payload offset length field raw next taken
    obtain ⟨part, whole, room, rfl⟩ :=
      (take_eq_ok_iff payload offset length field raw next).mp taken
    exact ⟨part, whole, rfl, room⟩

end RfidBridge
