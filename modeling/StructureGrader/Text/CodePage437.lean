/-!
# Code page 437

The characters of one-byte texts in which the bytes of ASCII stand for themselves and the others
for letters with marks, Greek letters, box drawings and mathematical signs.
-/

namespace StructureGrader.Text

/-- The characters of the bytes from 128 on. -/
def codePage437 : List Char :=
  ['Ç', 'ü', 'é', 'â', 'ä', 'à', 'å', 'ç', 'ê', 'ë', 'è', 'ï',
   'î', 'ì', 'Ä', 'Å', 'É', 'æ', 'Æ', 'ô', 'ö', 'ò', 'û', 'ù',
   'ÿ', 'Ö', 'Ü', '¢', '£', '¥', '₧', 'ƒ', 'á', 'í', 'ó', 'ú',
   'ñ', 'Ñ', 'ª', 'º', '¿', '⌐', '¬', '½', '¼', '¡', '«', '»',
   '░', '▒', '▓', '│', '┤', '╡', '╢', '╖', '╕', '╣', '║', '╗',
   '╝', '╜', '╛', '┐', '└', '┴', '┬', '├', '─', '┼', '╞', '╟',
   '╚', '╔', '╩', '╦', '╠', '═', '╬', '╧', '╨', '╤', '╥', '╙',
   '╘', '╒', '╓', '╫', '╪', '┘', '┌', '█', '▄', '▌', '▐', '▀',
   'α', 'ß', 'Γ', 'π', 'Σ', 'σ', 'µ', 'τ', 'Φ', 'Θ', 'Ω', 'δ',
   '∞', 'φ', 'ε', '∩', '≡', '±', '≥', '≤', '⌠', '⌡', '÷', '≈',
   '°', '∙', '·', '√', 'ⁿ', '²', '■', '\u00a0']

example : codePage437.length = 128 := by decide +kernel

/-- The character of a byte. -/
def charOfCodePage437 (b : UInt8) : Char :=
  if b < 128 then Char.ofNat b.toNat else codePage437.getD (b.toNat - 128) '?'

/-- The text of bytes in this code page. -/
def ofCodePage437 (bytes : List UInt8) : String :=
  String.ofList (bytes.map charOfCodePage437)

end StructureGrader.Text
