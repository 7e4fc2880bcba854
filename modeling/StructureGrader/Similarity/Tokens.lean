import StructureGrader.Similarity.EditDistance
import StructureGrader.Text.Blank
import StructureGrader.Text.Case

/-!
# Similarity of token sets

The tokens of a text are its maximal runs of ASCII letters, digits and underscores, in small
letters. The similarity of two texts is the share of tokens that they have in common.
-/

namespace StructureGrader

open ScoreNumber

/-- The characters that tokens are made of. -/
def isTokenChar (c : Char) : Bool :=
  c.isAlphanum || c == '_'

/-- The text with a space for each character that tokens are not made of. -/
def tokenCharsOnly (text : String) : String :=
  String.ofList (text.toList.map fun c => if isTokenChar c then c else ' ')

/-- The tokens of a text in order, with repetitions. -/
def tokenList (text : String) : List String :=
  Text.words (Text.lower (tokenCharsOnly text))

/-- The different tokens of a text in rising order. -/
def tokenSet (text : String) : List String :=
  (tokenList text).eraseDups.mergeSort (fun a b => decide (a ≤ b))

/-- The number of shared tokens over the number of all tokens. -/
def tokenSimilarity {α : Type} [ScoreNumber α] (a b : String) : α :=
  let ta := tokenSet a
  let tb := tokenSet b
  if ta.isEmpty && tb.isEmpty then one
  else if ta.isEmpty || tb.isEmpty then zero
  else
    let shared := (ta.filter tb.contains).length
    ofNat shared / ofNat (ta.length + tb.length - shared)

/-- The token similarity of two texts that may be missing. -/
def jaccardSimilarity {α : Type} [ScoreNumber α] (a b : Option String) : α :=
  similarityOfMissing tokenSimilarity a b

end StructureGrader
