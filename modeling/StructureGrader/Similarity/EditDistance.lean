import StructureGrader.Number.Score
import StructureGrader.Text.Case

/-!
# Edit distance

The least number of insertions, deletions and substitutions of single characters that turn one text
into another, computed row by row, and the similarity that it gives.
-/

namespace StructureGrader

open ScoreNumber

/-- A row of the table of distances, from its second entry on, for one more character `c` of the
first text. `diagonal` and `above` are the entries of the row before, `left` is the entry to the
left. -/
def nextEntries (c : Char) : List Char → Nat → List Nat → Nat → List Nat
  | d :: ds, diagonal, up :: above, left =>
    let entry := if c == d then diagonal else 1 + min (min up left) diagonal
    entry :: nextEntries c ds up above entry
  | _, _, _, _ => []

/-- The row after `row`, for one more character of the first text. -/
def nextRow (c : Char) (b : List Char) (row : List Nat) : List Nat :=
  match row with
  | [] => []
  | first :: above => (first + 1) :: nextEntries c b first above (first + 1)

/-- The last row of the table of distances between the beginnings of two texts. -/
def lastRow (a b : List Char) : List Nat :=
  a.foldl (fun row c => nextRow c b row) (List.range (b.length + 1))

/-- The edit distance of two lists of characters; the longer one runs down the table. -/
def charDistance (a b : List Char) : Nat :=
  let (long, short) := if a.length < b.length then (b, a) else (a, b)
  if short.isEmpty then long.length else (lastRow long short).getLastD 0

/-- The edit distance of two texts. -/
def editDistance (a b : String) : Nat :=
  charDistance a.toList b.toList

/-- What the missing of a text means for a similarity: two missing texts are the same, one missing
text is like none. -/
def similarityOfMissing {α : Type} [ScoreNumber α] (f : String → String → α) :
    Option String → Option String → α
  | some a, some b => f a b
  | none, none => one
  | _, _ => zero

/-- The similarity of two texts: one less the share of characters to edit, regardless of case and
never below zero. Only the same text has similarity one without a look at case. -/
def textSimilarity {α : Type} [ScoreNumber α] (a b : String) : α :=
  if a == b then one
  else
    let size := max a.length b.length
    let distance := editDistance (Text.lower a) (Text.lower b)
    atLeast zero (one - ofNat distance / ofNat size)

/-- The similarity of two texts that may be missing. -/
def normalizedSimilarity {α : Type} [ScoreNumber α] (a b : Option String) : α :=
  similarityOfMissing textSimilarity a b

end StructureGrader
