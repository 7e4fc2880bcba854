/-!
# The checksum of a file

The remainder of the bytes, lowest bit first, modulo the polynomial of CRC-32, with all bits turned
before and after.
-/

namespace StructureGrader.Archive

/-- The polynomial without its highest term, the coefficients from the highest bit down. -/
def polynomial : UInt32 := 0xEDB88320

/-- The remainder after one more bit of zero. -/
def shiftRemainder (r : UInt32) : UInt32 :=
  if r &&& 1 == 1 then (r >>> 1) ^^^ polynomial else r >>> 1

/-- The remainder after one more byte. -/
def addByte (r : UInt32) (b : UInt8) : UInt32 :=
  Nat.repeat shiftRemainder 8 (r ^^^ b.toUInt32)

/-- The checksum of bytes. -/
def checksum (bytes : ByteArray) : UInt32 :=
  bytes.foldl addByte 0xFFFFFFFF ^^^ 0xFFFFFFFF

-- The checksum of the nine digits identifies the code.
example : checksum "123456789".toUTF8 = 0xCBF43926 := by
  decide +kernel

end StructureGrader.Archive
