import Mathlib.Data.List.Basic
import Mathlib.Logic.Function.Iterate

namespace inverter_bridge.crc

/-- Python's `bytes`. -/
abbrev Bytes := List UInt8

/-- One bit of the reflected polynomial `0xA001`. -/
def crc_shift (crc : UInt16) : UInt16 :=
  if crc &&& 1 ≠ 0 then (crc >>> 1) ^^^ 0xA001 else crc >>> 1

/-- The register after one more byte. -/
def crc_byte (crc : UInt16) (b : UInt8) : UInt16 := crc_shift^[8] (crc ^^^ b.toUInt16)

/-- The CRC register after all of `data`, from the initial value `0xFFFF`. -/
def crc_register (data : Bytes) : UInt16 := data.foldl crc_byte 0xFFFF

/-- `crc16(data)`: the register in wire order, low byte first. -/
def crc16 (data : Bytes) : Bytes :=
  [(crc_register data).toUInt8, (crc_register data >>> 8).toUInt8]

@[simp] theorem crc16_length (data : Bytes) : (crc16 data).length = 2 := rfl

/-- `crc16(frame[:-2]) == frame[-2:]`, the check every frame is put through. -/
def crc_matches (frame : Bytes) : Bool :=
  crc16 (frame.take (frame.length - 2)) == frame.drop (frame.length - 2)

/-- Appending its CRC to a byte string makes a frame that passes the check. -/
@[simp] theorem crc_matches_append (data : Bytes) : crc_matches (data ++ crc16 data) = true := by
  simp [crc_matches]

end inverter_bridge.crc
