import RfidBridge.Library.BigEndian
import RfidBridge.Python.Exceptions

/-!
The frame codec of reader_protocol.py: start byte, two-byte total length,
address, sequence, command, status, payload and CRC. The parser accepts exactly
what the builder produces.
-/

namespace RfidBridge
open BigEndian

abbrev Bytes := List UInt8

def sof : UInt8 := 0xFE
def minFrameLength : Nat := 9
def maxFrameLength : Nat := 65535

def commandHandshake : UInt8 := 0x00
def commandStop : UInt8 := 0x7F
def commandStartInventory : UInt8 := 0x81
def commandCacheTag : UInt8 := 0x82
def commandInventoryStatistics : UInt8 := 0xF8
def commandActiveTag : UInt8 := 0xF9

structure RFIDFrame where
  address : UInt8
  sequence : UInt8
  command : UInt8
  status : UInt8
  payload : Bytes
  rawFrame : Bytes
  deriving DecidableEq, Repr

/-- One round of the inner loop of calculate_crc. -/
def crcShift (crc : BitVec 16) : BitVec 16 :=
  if crc &&& 0x8000#16 ≠ 0#16 then (crc <<< 1) ^^^ 0x1021#16 else crc <<< 1

/-- One round of the outer loop: a byte enters at the top, then eight shifts. -/
def crcByte (crc : BitVec 16) (byte : UInt8) : BitVec 16 :=
  Nat.iterate crcShift 8 (crc ^^^ (BitVec.ofNat 16 byte.toNat <<< 8))

def calculateCrc (data : Bytes) : BitVec 16 :=
  data.foldl crcByte 0xFFFF#16

def requireByte (name : String) (value : Int) : Except PyException Unit :=
  if 0 ≤ value ∧ value ≤ 255 then .ok ()
  else raised .rfidProtocolError s!"{name} must be between 0 and 255."

/-- The bytes of a frame up to its CRC, for header fields already checked. -/
def frameWithoutCrc (address sequence command status : UInt8) (payload : Bytes) : Bytes :=
  [sof] ++ encode 2 (minFrameLength + payload.length) ++
    [address, sequence, command, status] ++ payload

def buildFrame (address sequence command : Int) (payload : Bytes) (status : Int) :
    Except PyException Bytes := do
  requireByte "address" address
  requireByte "sequence" sequence
  requireByte "command" command
  requireByte "status" status
  if minFrameLength + payload.length > maxFrameLength then
    raised .rfidProtocolError "Frame exceeds the two-byte length field."
  else
    let body := frameWithoutCrc (.ofNat address.toNat) (.ofNat sequence.toNat)
      (.ofNat command.toNat) (.ofNat status.toNat) payload
    .ok (body ++ encode 2 (calculateCrc body).toNat)

/-- The two bytes at offset 1 of a buffer, read as ">H". -/
def declaredLength (raw : Bytes) : Nat := decode ((raw.drop 1).take 2)

def parseFrame (raw : Bytes) : Except PyException RFIDFrame :=
  if raw.length < minFrameLength then
    raised .rfidProtocolError "Frame is shorter than nine bytes."
  else if raw[0]? ≠ some sof then
    raised .rfidProtocolError "Frame does not start with 0xFE."
  else if declaredLength raw < minFrameLength then
    raised .rfidProtocolError "Declared frame length is invalid."
  else if declaredLength raw ≠ raw.length then
    raised .rfidProtocolError "Declared frame length does not match received bytes."
  else if (calculateCrc (raw.take (raw.length - 2))).toNat ≠
      decode (raw.drop (raw.length - 2)) then
    raised .rfidProtocolError "Frame CRC validation failed."
  else
    .ok {
      address := raw.getD 3 0
      sequence := raw.getD 4 0
      command := raw.getD 5 0
      status := raw.getD 6 0
      payload := (raw.take (raw.length - 2)).drop 7
      rawFrame := raw }

end RfidBridge
