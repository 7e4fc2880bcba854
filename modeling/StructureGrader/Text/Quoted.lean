import StructureGrader.Text.PrintableTable
import StructureGrader.Text.Range

/-!
# Texts in quotes

How a text is shown in a message: in single quotes, or in double ones when it holds single quotes
and no double ones, with escapes for the quote, the backslash and all that cannot be printed.
`quotedBytes` shows a string of bytes in the same way, with an escape for each byte past ASCII.
-/

namespace StructureGrader.Text

/-- Whether a character has a printed form. -/
def isPrintable (c : Char) : Bool :=
  !inRanges unprintableRanges c.toNat

/-- The last hexadecimal digits of a number, so many of them. -/
def hexDigits : Nat → Nat → List Char
  | 0, _ => []
  | places + 1, n => hexDigits places (n / 16) ++ ["0123456789abcdef".toList.getD (n % 16) '0']

/-- The escape of a character by its number, as short as it can be. -/
def numberEscape (n : Nat) : List Char :=
  if n < 0x100 then '\\' :: 'x' :: hexDigits 2 n
  else if n < 0x10000 then '\\' :: 'u' :: hexDigits 4 n
  else '\\' :: 'U' :: hexDigits 8 n

/-- A character between quotes. -/
def quotedChar (quote : Char) (printable : Char → Bool) (c : Char) : List Char :=
  if c == quote || c == '\\' then ['\\', c]
  else if c == '\n' then ['\\', 'n']
  else if c == '\r' then ['\\', 'r']
  else if c == '\t' then ['\\', 't']
  else if printable c then [c]
  else numberEscape c.toNat

/-- The characters in quotes. -/
def quotedChars (printable : Char → Bool) (cs : List Char) : List Char :=
  let quote := if cs.contains '\'' && !cs.contains '"' then '"' else '\''
  quote :: (cs.flatMap (quotedChar quote printable) ++ [quote])

/-- A text in quotes. -/
def quoted (s : String) : String :=
  String.ofList (quotedChars isPrintable s.toList)

/-- Bytes in quotes, after a mark. -/
def quotedBytes (bytes : List UInt8) : String :=
  let cs := bytes.map fun b => Char.ofNat b.toNat
  String.ofList ('b' :: quotedChars (fun c => isPrintable c && c.toNat < 0x80) cs)

end StructureGrader.Text
