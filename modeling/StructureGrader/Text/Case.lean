import StructureGrader.Text.CaseTable
import StructureGrader.Text.Range

/-!
# Small and capital letters

`lower` writes a text in small letters by the full rules of Unicode: the capital I with a dot
becomes two characters, and a capital sigma at the end of a word becomes the small final sigma.
`capitals` goes the other way as far as it ends in ASCII letters, which is all that a comparison
with an ASCII word can see.
-/

namespace StructureGrader.Text

/-- The small letter of a character from U+0080 on. -/
def smallLetterFar (n : Nat) : Option Nat :=
  (smallLetterRuns.find? fun (first, last, step, _) =>
      first ≤ n && n ≤ last && (n - first) % step == 0).map
    fun (_, _, _, shift) => (Int.ofNat n + shift).toNat

/-- The small letters of a character on its own. -/
def smallLetters (c : Char) : List Char :=
  if c.toNat < 0x80 then [c.toLower]
  else if c.toNat == 0x130 then ['i', Char.ofNat 0x307]
  else
    match smallLetterFar c.toNat with
    | some n => [Char.ofNat n]
    | none => [c]

/-- Whether a character has a case. -/
def isCased (c : Char) : Bool :=
  inRanges casedRanges c.toNat

/-- Whether a search for a neighbour with a case passes over a character. -/
def isCaseIgnorable (c : Char) : Bool :=
  inRanges caseIgnorableRanges c.toNat

/-- Whether the first character that is not passed over has a case. -/
def startsCased (cs : List Char) : Bool :=
  ((cs.dropWhile isCaseIgnorable).head?.map isCased).getD false

/-- The characters in small letters; `before` holds those in front, in reverse order. -/
def lowerFrom (before : List Char) : List Char → List Char
  | [] => []
  | c :: cs =>
    let small :=
      if c.toNat == 0x3A3 then
        if startsCased before && !startsCased cs then [Char.ofNat 0x3C2] else [Char.ofNat 0x3C3]
      else smallLetters c
    small ++ lowerFrom (c :: before) cs

/-- The characters in small letters. -/
def lowerChars (cs : List Char) : List Char :=
  lowerFrom [] cs

/-- A text in small letters. -/
def lower (s : String) : String :=
  String.ofList (lowerChars s.toList)

/-- The ASCII capital letters of a character, or the character where it has none. -/
def capitalLetters (c : Char) : List Char :=
  match c.toNat with
  | 0xDF => ['S', 'S']
  | 0x131 => ['I']
  | 0x17F => ['S']
  | 0xFB00 => ['F', 'F']
  | 0xFB01 => ['F', 'I']
  | 0xFB02 => ['F', 'L']
  | 0xFB03 => ['F', 'F', 'I']
  | 0xFB04 => ['F', 'F', 'L']
  | 0xFB05 => ['S', 'T']
  | 0xFB06 => ['S', 'T']
  | _ => [c.toUpper]

/-- A text with the ASCII capital letters of its characters. -/
def capitals (s : String) : String :=
  String.ofList (s.toList.flatMap capitalLetters)

end StructureGrader.Text
