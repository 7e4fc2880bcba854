import StructureGrader.Element
import StructureGrader.Outcome
import StructureGrader.Text.Case
import StructureGrader.Text.Search

/-!
# Suggestions for a reviewer

A suggested score, comments and two standing notes, from what a comparison found out about an
element. The score is the percentage of the similarity, with a bonus for exact matches and a
penalty for extra elements; the comments go from the outcome over the differences to the kind.
-/

namespace StructureGrader

open ScoreNumber

variable {α : Type}

/-! ## The score -/

/-- A similarity in percent, a half rounded up. -/
def percent [ScoreNumber α] (similarity : α) : Int :=
  floor (similarity * ofNat 100 + decimal 5 1)

/-- Whether a similarity has a percentage. -/
def hasPercent [ScoreNumber α] (similarity : α) : Bool :=
  isFinite (similarity * ofNat 100 + decimal 5 1)

/-- The score for an element that was classified so, from a percentage. -/
def scoreFor (matchType : Option MatchType) (base : Int) : Int :=
  match matchType with
  | some .exact => min 100 (base + 10)
  | some .extra => max 0 (base - 20)
  | some .missing => 0
  | some .similar | none => base

/-- The suggested score of an element, from its own similarity unless another one is given. -/
def suggestedScore [ScoreNumber α] (o : Outcome α) (similarity : Option α := none) : Int :=
  scoreFor o.matchType (percent (similarity.getD o.similarity))

/-! ## Comments -/

/-- What a difference says, in small letters, and the comment on it, in the order in which they are
looked for. -/
def commentHints : List (String × String) :=
  [("access modifier", "Check the access modifier against the expected visibility."),
    ("return type", "The return type differs from the reference solution."),
    ("parameters", "Review the parameter list: types, order or count differ."),
    ("static", "Check whether this member should be static."),
    ("final", "Check whether this member should be final."),
    ("field type", "The field type differs from the reference solution."),
    ("abstract", "Check whether this class should be abstract."),
    ("interface",
      "The reference declares an interface where a class was written, or the reverse.")]

/-- The comment on a difference. -/
def commentOn (difference : String) : String :=
  let small := Text.lower difference
  match commentHints.find? fun h => Text.contains small h.1 with
  | some (_, comment) => comment
  | none => "Review: " ++ difference

/-- A name as comments show it. -/
def shownName (name : Option String) : String :=
  name.getD "None"

/-- The comments on the outcome of an element. -/
def outcomeComments [ScoreNumber α] (e : Element) (o : Outcome α) : List String :=
  match o.matchType with
  | none => []
  | some .exact => ["Perfect match with reference implementation."]
  | some .similar =>
    ("Good implementation with " ++ toString (percent o.similarity) ++
        "% similarity to reference.") ::
      if o.similarity < decimal 8 1 then
        ["Consider reviewing the implementation for closer alignment."]
      else []
  | some .extra =>
    ["Additional element '" ++ shownName e.name ++ "' not found in reference.",
      "Evaluate if this is necessary or could be refactored."]
  | some .missing =>
    ["The " ++ e.kind.noun ++ " '" ++ shownName e.name ++
        "' is missing from your implementation.",
      "Please ensure all required functionality is implemented."]

/-- The comment on the kind of an element. -/
def kindComment : ElementKind → String
  | .type => "Class structure and organization are important for maintainability."
  | .method => "Method implementation should follow single responsibility principle."
  | .field => "Field declarations should follow proper encapsulation principles."
  | .constructor => "Constructor should properly initialize all necessary fields."

/-- The note on design patterns for a kind. -/
def designPatternNote : ElementKind → String
  | .type =>
    "Consider applying appropriate design patterns like Singleton, Factory, " ++
      "or Strategy pattern where suitable."
  | .method =>
    "Ensure methods follow SOLID principles, especially Single Responsibility " ++
      "and Open/Closed principles."
  | .field =>
    "Consider using private fields with appropriate getters/setters for proper encapsulation."
  | .constructor => "Constructor should use dependency injection pattern where appropriate."

/-- The naming convention for a kind. -/
def namingConvention : ElementKind → String
  | .type => "class names should be PascalCase."
  | .method => "method names should be camelCase and start with a verb."
  | .field => "field names should be camelCase."
  | .constructor => "constructor should validate inputs and handle edge cases."

/-- The note on good practice for a kind. -/
def bestPracticesNote (kind : ElementKind) : String :=
  " ".intercalate ["Follow Java naming conventions:", namingConvention kind,
    "Add meaningful comments for complex logic.",
    "Ensure proper error handling and input validation."]

/-! ## All together -/

/-- The suggestions for one element. -/
structure Suggestion where
  score : Int
  comments : List String
  designPattern : String
  bestPractices : String
deriving DecidableEq, Repr

/-- The suggestions for an element whose signature differs in these ways. -/
def suggest [ScoreNumber α] (e : Element) (o : Outcome α) (differences : List String) :
    Suggestion :=
  { score := suggestedScore o
    comments := outcomeComments e o ++ differences.map commentOn ++ [kindComment e.kind]
    designPattern := designPatternNote e.kind
    bestPractices := bestPracticesNote e.kind }

end StructureGrader
