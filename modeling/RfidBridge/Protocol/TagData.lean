import RfidBridge.Protocol.Frame

/-!
parse_tag_data: a mask, a protocol byte and up to five optional fields whose
offsets chain. Every read is bounds checked through `take`.
-/

namespace RfidBridge
open BigEndian

structure RFIDTagData where
  protocolType : UInt8
  antenna : Option UInt8 := none
  pc : Option Int := none
  epc : String := ""
  tid : String := ""
  count : Option Int := none
  deriving DecidableEq, Repr

def upperHexDigit (n : Nat) : Char :=
  if n < 10 then Char.ofNat (48 + n) else Char.ofNat (55 + n)

/-- `raw.hex().upper()`. -/
def upperHex (raw : Bytes) : String :=
  String.ofList (raw.flatMap fun b => [upperHexDigit (b.toNat / 16), upperHexDigit (b.toNat % 16)])

def take (payload : Bytes) (offset length : Nat) (field : String) :
    Except PyException (Bytes × Nat) :=
  if offset + length > payload.length then
    raised .rfidProtocolError s!"Tag payload ended while reading {field}."
  else
    .ok ((payload.drop offset).take length, offset + length)

/-- One optional field: read only when its mask bit is set. -/
def takeIf {α : Type} (present : Bool) (absent : α) (offset : Nat)
    (read : Except PyException (α × Nat)) : Except PyException (α × Nat) :=
  if present then read else .ok (absent, offset)

/-- A length byte followed by that many bytes, as the EPC and the TID are stored. -/
def takeHex (payload : Bytes) (offset : Nat) (field : String) :
    Except PyException (String × Nat) := do
  let (rawLength, offset) ← take payload offset 1 s!"{field} length"
  let (raw, offset) ← take payload offset (decode rawLength) field
  .ok (upperHex raw, offset)

def takeAntenna (payload : Bytes) (offset : Nat) : Except PyException (Option UInt8 × Nat) := do
  let (raw, offset) ← take payload offset 1 "antenna"
  .ok (raw.head?, offset)

def takePc (payload : Bytes) (offset : Nat) : Except PyException (Option Int × Nat) := do
  let (raw, offset) ← take payload offset 2 "PC"
  .ok (some (decodeSigned raw), offset)

def takeCount (payload : Bytes) (offset : Nat) : Except PyException (Option Int × Nat) := do
  let (raw, offset) ← take payload offset 4 "read count"
  .ok (some (decodeSigned raw), offset)

def parseTagData (payload : Bytes) : Except PyException RFIDTagData :=
  if payload.length < 5 then
    raised .rfidProtocolError "Tag payload is shorter than its mask and protocol fields."
  else do
    let mask := decode (payload.take 4)
    let (antenna, offset) ← takeIf (mask.testBit 0) none 5 (takeAntenna payload 5)
    let (pc, offset) ← takeIf (mask.testBit 1) none offset (takePc payload offset)
    let (epc, offset) ← takeIf (mask.testBit 2) "" offset (takeHex payload offset "EPC")
    let (tid, offset) ← takeIf (mask.testBit 3) "" offset (takeHex payload offset "TID")
    let (count, _) ← takeIf (mask.testBit 4) none offset (takeCount payload offset)
    .ok { protocolType := payload.getD 4 0, antenna, pc, epc, tid, count }

def isUpperHex (c : Char) : Bool := c ∈ "0123456789ABCDEF".toList

theorem isUpperHex_upperHexDigit (n : Nat) (h : n < 16) : isUpperHex (upperHexDigit n) = true := by
  have all : ∀ n < 16, isUpperHex (upperHexDigit n) = true := by decide
  exact all n h

theorem isUpperHex_upperHex (raw : Bytes) : ∀ c ∈ (upperHex raw).toList, isUpperHex c = true := by
  intro c member
  simp only [upperHex, String.toList_ofList, List.mem_flatMap, List.mem_cons, List.not_mem_nil,
    or_false] at member
  obtain ⟨b, -, rfl | rfl⟩ := member
  · exact isUpperHex_upperHexDigit _ (by have := b.toNat_lt; omega)
  · exact isUpperHex_upperHexDigit _ (Nat.mod_lt _ (by decide))

/-- The EPC of a parsed tag is an upper-case hexadecimal text. -/
theorem isUpperHex_of_parseTagData {payload : Bytes} {tag : RFIDTagData}
    (h : parseTagData payload = .ok tag) : ∀ c ∈ tag.epc.toList, isUpperHex c = true := by
  simp only [parseTagData, guard_eq_ok, bind_eq_ok, Except.ok.injEq] at h
  obtain ⟨-, ⟨antenna, _⟩, -, ⟨pc, offset⟩, -, ⟨epc, _⟩, read, ⟨tid, _⟩, -, ⟨count, _⟩, -, rfl⟩ := h
  simp only [takeIf] at read
  split at read
  · simp only [takeHex, bind_eq_ok, Except.ok.injEq, Prod.mk.injEq] at read
    obtain ⟨_, -, ⟨raw, _⟩, -, rfl, -⟩ := read
    exact isUpperHex_upperHex raw
  · cases read
    simp

/-- The full layout of the protocol tests: mask 0x1F with every field present. -/
example :
    parseTagData [0, 0, 0, 0x1F, 1, 2, 0x30, 0, 2, 0xE2, 0x0A, 1, 0xAB, 0xFF, 0xFF, 0xFF, 0xFE] =
      .ok ⟨1, some 2, some 0x3000, "E20A", "AB", some (-2)⟩ := by decide +kernel

end RfidBridge
