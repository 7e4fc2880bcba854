import StructureGrader.Text.IdentifierTable
import StructureGrader.Text.Range

/-!
# Identifier characters

Which characters start and continue an identifier: the Unicode properties `XID_Start` and
`XID_Continue`, with the dollar sign, the underscore and, after the first character, the cent sign.
ASCII is decided without the tables.
-/

namespace StructureGrader.Text

/-- A character that may start an identifier. -/
def isIdentifierStart (c : Char) : Bool :=
  c.isAlpha || c == '_' || c == '$' ||
    (0x80 ≤ c.toNat && inRanges identifierStartRanges c.toNat)

/-- A character that may follow in an identifier. -/
def isIdentifierPart (c : Char) : Bool :=
  c.isAlphanum || c == '_' || c == '$' || c.toNat == 0xA2 ||
    (0x80 ≤ c.toNat && inRanges identifierPartRanges c.toNat)

end StructureGrader.Text
