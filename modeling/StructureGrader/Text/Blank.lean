/-!
# Blank characters

The characters that separate words, and the operations on text that depend on them: dropping blanks at
the ends (`stripChars`), splitting at runs of blanks (`words`), and writing every run as one space,
inside (`collapse`) or inside and with the ends dropped (`tidy`).
-/

namespace StructureGrader.Text

/-- The white space of Unicode together with the four information separators. -/
def isBlank (c : Char) : Bool :=
  let n := c.toNat
  (9 ≤ n && n ≤ 13) || (28 ≤ n && n ≤ 32) || n == 0x85 || n == 0xA0 || n == 0x1680 ||
    (0x2000 ≤ n && n ≤ 0x200A) || n == 0x2028 || n == 0x2029 || n == 0x202F || n == 0x205F ||
    n == 0x3000

/-- The characters without those at the two ends that pass a test. -/
def stripWhere (test : Char → Bool) (cs : List Char) : List Char :=
  ((cs.dropWhile test).reverse.dropWhile test).reverse

/-- The characters without the blanks at the two ends. -/
def stripChars (cs : List Char) : List Char :=
  stripWhere isBlank cs

/-- A run of blanks becomes one space; `inRun` says that the character before was blank. -/
def collapseFrom (inRun : Bool) : List Char → List Char
  | [] => []
  | c :: cs =>
    if isBlank c then
      if inRun then collapseFrom true cs else ' ' :: collapseFrom true cs
    else c :: collapseFrom false cs

/-- Every run of blanks becomes one space. -/
def collapseChars (cs : List Char) : List Char :=
  collapseFrom false cs

/-- The maximal runs of characters that are not blank; `word` holds the run under way, in reverse
order. -/
def wordsFrom (word : List Char) : List Char → List (List Char)
  | [] => if word.isEmpty then [] else [word.reverse]
  | c :: cs =>
    if isBlank c then
      if word.isEmpty then wordsFrom [] cs else word.reverse :: wordsFrom [] cs
    else wordsFrom (c :: word) cs

/-- The maximal runs of characters that are not blank, in order. -/
def wordsOf (cs : List Char) : List (List Char) :=
  wordsFrom [] cs

/-- The text with every run of blanks written as one space. -/
def collapse (s : String) : String :=
  String.ofList (collapseChars s.toList)

/-- The text with every run of blanks written as one space and none at the ends. -/
def tidy (s : String) : String :=
  String.ofList (stripChars (collapseChars s.toList))

/-- The words of a text, which blanks separate. -/
def words (s : String) : List String :=
  (wordsOf s.toList).map String.ofList

end StructureGrader.Text
