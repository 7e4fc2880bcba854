/-!
# Looking for a text inside of another
-/

namespace StructureGrader.Text

/-- Whether a text occurs in another. -/
def occursIn (pattern : List Char) : List Char → Bool
  | [] => pattern.isEmpty
  | c :: cs => pattern.isPrefixOf (c :: cs) || occursIn pattern cs

/-- Whether a text contains another. -/
def contains (text pattern : String) : Bool :=
  occursIn pattern.toList text.toList

/-- The number of occurrences of a pattern that a scan from left to right counts, which goes on
behind each occurrence; `skip` characters still belong to the last one. -/
def countFrom (pattern : List Char) : Nat → List Char → Nat
  | _, [] => 0
  | skip + 1, _ :: cs => countFrom pattern skip cs
  | 0, c :: cs =>
    if pattern.isPrefixOf (c :: cs) then countFrom pattern (pattern.length - 1) cs + 1
    else countFrom pattern 0 cs

/-- The number of occurrences of a pattern without overlaps; the empty pattern has none. -/
def countChars (text pattern : List Char) : Nat :=
  if pattern.isEmpty then 0 else countFrom pattern 0 text

/-- The number of occurrences of a pattern in a text, without overlaps. -/
def countOccurrences (text pattern : String) : Nat :=
  countChars text.toList pattern.toList

/-- The characters without the occurrences of a pattern that a scan from left to right meets, which
goes on behind each of them; `skip` characters still belong to the last one. -/
def withoutFrom (pattern : List Char) : Nat → List Char → List Char
  | _, [] => []
  | skip + 1, _ :: cs => withoutFrom pattern skip cs
  | 0, c :: cs =>
    if pattern.isPrefixOf (c :: cs) then withoutFrom pattern (pattern.length - 1) cs
    else c :: withoutFrom pattern 0 cs

/-- The characters without the occurrences of a pattern that is not empty. -/
def without (pattern : String) (cs : List Char) : List Char :=
  withoutFrom pattern.toList 0 cs

end StructureGrader.Text
