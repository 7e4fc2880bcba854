import StructureGrader.Similarity.EditDistance
import StructureGrader.Text.Blank
import StructureGrader.Text.Search

/-!
# Structural features

The structure of a declaration is taken from its text: how often each keyword and each bracket
occurs in it, when white space and case are levelled out. A keyword that does not occur is left
out; the punctuation is always reported.
-/

namespace StructureGrader

open ScoreNumber

/-- The keywords that are counted, in the order in which they are reported. -/
def featureKeywords : List String :=
  ["public", "private", "protected", "static", "final", "abstract", "class", "interface",
    "extends", "implements", "throws", "if", "else", "for", "while", "switch", "case", "try",
    "catch", "return", "new", "this", "super"]

/-- The punctuation that is counted: the label and the symbol. -/
def featurePunctuation : List (String × String) :=
  [("openBrace", "\x7b"), ("closeBrace", "\x7d"), ("openParen", "("), ("closeParen", ")"),
    ("semicolon", ";")]

/-- A text with white space and case levelled out. -/
def normalizeCode (code : String) : String :=
  Text.lower (Text.collapse code)

/-- A feature: what is counted and how often it occurs. -/
def featureText (label : String) (count : Nat) : String :=
  label ++ ":" ++ toString count

/-- The features of a text: the keywords that occur, then the punctuation. -/
def codeFeatures (code : String) : List String :=
  let text := normalizeCode code
  let keywords := featureKeywords.filterMap fun k =>
    let n := Text.countOccurrences text k
    if n > 0 then some (featureText k n) else none
  keywords ++ featurePunctuation.map fun (label, symbol) =>
    featureText label (Text.countOccurrences text symbol)

/-- The share of features that occur in both lists, over the longer one. -/
def featureSimilarity {α : Type} [ScoreNumber α] (a b : List String) : α :=
  if a.isEmpty && b.isEmpty then one
  else if a.isEmpty || b.isEmpty then zero
  else ofNat (a.filter b.contains).length / ofNat (max a.length b.length)

/-- The similarity of the structure of two texts that may be missing. -/
def structuralSimilarity {α : Type} [ScoreNumber α] (a b : Option String) : α :=
  similarityOfMissing (fun a b => featureSimilarity (codeFeatures a) (codeFeatures b)) a b

end StructureGrader
