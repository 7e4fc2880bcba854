import StructureGrader.Element
import StructureGrader.Similarity.EditDistance
import StructureGrader.Text.Blank
import StructureGrader.Text.Search

/-!
# How two signatures differ

The explanations are read off the text of the two signatures: the access word is the first one that
occurs anywhere, the return type is the word before the first one with a parenthesis, the field
type is the last word but one, and other modifiers are looked for as parts of the text.
-/

namespace StructureGrader

open ScoreNumber

/-- A remark on how two signatures differ. -/
inductive Difference
  | oneMissing
  | accessModifiers
  | returnTypes
  | parameters
  | staticModifier
  | fieldTypes
  | finalModifier
  | abstractModifier
  | classOrInterface
  | significant
  | major
deriving DecidableEq, Repr

/-- The wording of a remark. -/
def Difference.text : Difference → String
  | .oneMissing => "One element is null while the other is not"
  | .accessModifiers => "Different access modifiers"
  | .returnTypes => "Different return types"
  | .parameters => "Different parameters"
  | .staticModifier => "Different static modifier"
  | .fieldTypes => "Different field types"
  | .finalModifier => "Different final modifier"
  | .abstractModifier => "Different abstract modifier"
  | .classOrInterface => "Different class/interface type"
  | .significant => "Significant structural differences"
  | .major => "Major differences in implementation"

namespace SignatureText

/-- The access that a signature shows. -/
def access (signature : String) : String :=
  (["public", "private", "protected"].find? (Text.contains signature)).getD "package-private"

/-- The first word that stands right before a word with a parenthesis. -/
def wordBeforeParenthesis : List String → String
  | word :: next :: rest =>
    if next.toList.contains '(' then word else wordBeforeParenthesis (next :: rest)
  | _ => ""

/-- The return type that a signature shows. -/
def returnType (signature : String) : String :=
  wordBeforeParenthesis (Text.words signature)

/-- The field type that a signature shows. -/
def fieldType (signature : String) : String :=
  match (Text.words signature).reverse with
  | _ :: word :: _ => word
  | _ => ""

/-- What stands between the first opening and the first closing parenthesis, when they come in this
order. -/
def parameters (signature : String) : String :=
  match signature.toList.dropWhile fun c => c != '(' && c != ')' with
  | '(' :: rest =>
    if rest.contains ')' then String.ofList (rest.takeWhile (· != ')')) else ""
  | _ => ""

end SignatureText

/-- The remarks whose test says that the signatures differ. -/
def remarksOf (tests : List (Bool × Difference)) : List Difference :=
  (tests.filter Prod.fst).map Prod.snd

/-- The remarks on two different signatures of elements of the kind; where the kind is none of the
known ones, only how far apart they are. -/
def explainTexts (α : Type) [ScoreNumber α] (kind : Option ElementKind) (a b : String) :
    List Difference :=
  let differ {β : Type} [BEq β] (f : String → β) : Bool := f a != f b
  let shows (word : String) (s : String) : Bool := Text.contains s word
  remarksOf <|
    match kind with
    | some .method =>
      [(differ SignatureText.access, .accessModifiers),
        (differ SignatureText.returnType, .returnTypes),
        (differ SignatureText.parameters, .parameters),
        (differ (shows "static"), .staticModifier)]
    | some .field =>
      [(differ SignatureText.access, .accessModifiers),
        (differ SignatureText.fieldType, .fieldTypes),
        (differ (shows "static"), .staticModifier),
        (differ (shows "final"), .finalModifier)]
    | some .type =>
      [(differ SignatureText.access, .accessModifiers),
        (differ (shows "abstract"), .abstractModifier),
        (differ (shows "final"), .finalModifier),
        (differ (shows "interface"), .classOrInterface)]
    | some .constructor =>
      [(differ SignatureText.access, .accessModifiers),
        (differ SignatureText.parameters, .parameters)]
    | none =>
      let similarity : α := textSimilarity a b
      [(decide (similarity < decimal 8 1), .significant),
        (decide (similarity < decimal 5 1), .major)]

/-- The remarks on how two signatures differ, either of which may be missing. -/
def explain (α : Type) [ScoreNumber α] (kind : Option ElementKind) :
    Option String → Option String → List Difference
  | some a, some b => if a == b then [] else explainTexts α kind a b
  | none, none => []
  | _, _ => [.oneMissing]

/-- The kind that a word names in whatever letters. -/
def kindNamed? (word : String) : Option ElementKind :=
  ElementKind.ofName? (Text.capitals word)

end StructureGrader
