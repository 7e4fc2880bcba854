/-!
# Numbers and stretches of bytes

Reading past the end of the bytes gives zeros and shorter stretches.
-/

namespace StructureGrader.Archive

/-- The byte at a position. -/
def byteAt (b : ByteArray) (i : Nat) : Nat :=
  if h : i < b.size then b[i].toNat else 0

/-- The number that so many bytes write from a position on, the lowest one first. -/
def numberAt (b : ByteArray) (i : Nat) : Nat → Nat
  | 0 => 0
  | width + 1 => byteAt b i + 256 * numberAt b (i + 1) width

/-- The bytes from a position on, at most so many. -/
def stretch (b : ByteArray) (start length : Nat) : ByteArray :=
  b.extract (min start b.size) (min (start + length) b.size)

end StructureGrader.Archive
