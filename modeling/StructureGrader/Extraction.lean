import StructureGrader.Signature
import StructureGrader.Syntax.Grammar
import StructureGrader.Text.Blank

/-!
# The elements of a source text

`elementsOf` reads a source text and lists its elements in the order of the text, those inside
bodies included; a text that does not fit the grammar has none. A declaration of several fields
gives one element for each of them, with the source of the whole declaration.
-/

namespace StructureGrader

open Syntax Text

/-! ## Parts of declarations -/

/-- The type name without scope and type arguments: what stands before the first angle bracket, and
of that what follows the last point. -/
def simpleTypeName (source : String) : String :=
  let name := stripChars ((tidy source).toList.takeWhile (· != '<'))
  String.ofList (name.reverse.takeWhile (· != '.')).reverse

/-- The words among the modifiers of a declaration. -/
def modifierWordsOf (declaration : Tree) : List String :=
  match declaration.child? (· == .modifiers) with
  | none => []
  | some m => (m.childrenOfKind .mark).map Tree.source

/-- The first access word, in their order, among the modifiers. -/
def accessOf (modifiers : List String) : Option Access :=
  Access.all.find? fun a => modifiers.contains a.word

/-- Whether a construct is a type. -/
def isTypeKind : Kind → Bool
  | .typeName | .primitiveType | .scopedType | .genericType | .arrayType | .annotatedType => true
  | _ => false

/-- The source of a part with every run of blanks as one space, or nothing without the part. -/
def tidySource (part : Option Tree) : String :=
  (part.map fun t => tidy t.source).getD ""

/-- The declared name among the children of a construct. -/
def nameOf (t : Tree) : String :=
  ((t.child? (· == .identifier)).map Tree.source).getD ""

/-- The type among the children of a construct, followed by the dimensions of a declarator. -/
def typeOf (t declarator : Tree) : String :=
  tidySource (t.child? isTypeKind) ++ tidySource (declarator.child? (· == .dimensions))

/-! ## Headers -/

/-- The names of the declared type parameters. -/
def typeParameterNames (list : Tree) : List String :=
  (list.childrenOfKind .typeParameter).filterMap fun p =>
    (p.child? (· == .typeName)).map Tree.source

/-- The names in the lists of types inside a clause. -/
def listedTypes (clause : Tree) : List String :=
  (clause.childrenOfKind .typeList).flatMap fun list =>
    list.namedParts.map fun p => simpleTypeName p.source

/-- The names of the types that a declaration extends. -/
def extendedTypes (declaration : Tree) : List String :=
  declaration.children.flatMap fun c =>
    match c.kind with
    | .superclass => c.namedParts.map fun p => simpleTypeName p.source
    | .extendsInterfaces => listedTypes c
    | _ => []

/-- The names of the types that a declaration implements. -/
def implementedTypes (declaration : Tree) : List String :=
  (declaration.childrenOfKind .superInterfaces).flatMap listedTypes

/-- The header of a class or an interface. -/
def typeHeader (isInterface : Bool) (t : Tree) : TypeHeader :=
  let modifiers := modifierWordsOf t
  { access := accessOf modifiers
    isInterface := isInterface
    isAbstract := modifiers.contains "abstract"
    isFinal := modifiers.contains "final"
    name := nameOf t
    typeParameters := (t.child? (· == .typeParameters)).map typeParameterNames
    extended := extendedTypes t
    implemented := implementedTypes t }

/-- The header of one of the fields of a declaration. -/
def fieldHeader (t declarator : Tree) : FieldHeader :=
  let modifiers := modifierWordsOf t
  { access := accessOf modifiers
    isStatic := modifiers.contains "static"
    isFinal := modifiers.contains "final"
    fieldType := typeOf t declarator
    name := nameOf declarator }

/-- A parameter of variable arity: its type is the last named part that is neither its name nor its
modifiers. -/
def spreadParameter (t : Tree) : String :=
  let types := t.namedParts.filter fun p =>
    p.kind? != some .variableDeclarator && p.kind? != some .modifiers
  let name := ((t.child? (· == .variableDeclarator)).map nameOf).getD ""
  ((types.getLast?.map fun p => tidy p.source).getD "") ++ "... " ++ name

/-- The parameters of a method or a constructor. -/
def parametersOf (t : Tree) : List String :=
  match t.child? (· == .formalParameters) with
  | none => []
  | some ps => ps.children.filterMap fun p =>
    match p.kind with
    | .formalParameter => some (typeOf p p ++ " " ++ nameOf p)
    | .spreadParameter => some (spreadParameter p)
    | _ => none

/-- The header of a method. -/
def methodHeader (t : Tree) : MethodHeader :=
  let modifiers := modifierWordsOf t
  { access := accessOf modifiers
    isStatic := modifiers.contains "static"
    isAbstract := modifiers.contains "abstract"
    isFinal := modifiers.contains "final"
    returnType := tidySource (t.child? isTypeKind)
    name := nameOf t
    parameters := parametersOf t }

/-- The header of a constructor. -/
def constructorHeader (t : Tree) : ConstructorHeader :=
  { access := accessOf (modifierWordsOf t)
    name := nameOf t
    parameters := parametersOf t }

/-! ## Elements -/

/-- What the elements of one declaration are: for each its kind, name and signature. -/
def declared (t : Tree) : List (ElementKind × String × String) :=
  match t.kind with
  | .classDeclaration => [(.type, nameOf t, (typeHeader false t).render)]
  | .interfaceDeclaration => [(.type, nameOf t, (typeHeader true t).render)]
  | .fieldDeclaration | .constantDeclaration =>
    (t.childrenOfKind .variableDeclarator).map fun d =>
      (.field, nameOf d, (fieldHeader t d).render)
  | .methodDeclaration => [(.method, nameOf t, (methodHeader t).render)]
  | .constructorDeclaration => [(.constructor, nameOf t, (constructorHeader t).render)]
  | _ => []

/-- The number of line ends in a text. -/
def lineEnds (s : String) : Nat :=
  s.toList.count '\n'

/-- Where the elements of a text come from. -/
structure Origin where
  file : String
  package : String

/-- The elements that a construct itself declares; `before` line ends stand before its text. -/
def elementsDeclared (origin : Origin) (before : Nat) (t : Tree) : List Element :=
  (declared t).map fun (kind, name, signature) =>
    { name := some name
      kind := kind
      signature := some signature
      source := some t.source
      line := before + lineEnds (leadText t.lead) + 1
      file := origin.file
      package := origin.package }

mutual

/-- The elements of a tree in the order of its text, a declaration before what is inside of it. -/
def treeElements (origin : Origin) (before : Nat) : Tree → List Element
  | .leaf _ _ => []
  | .node k cs =>
    elementsDeclared origin before (.node k cs) ++ forestElements origin before cs

/-- The elements of a list of trees in the order of their text. -/
def forestElements (origin : Origin) (before : Nat) : List Tree → List Element
  | [] => []
  | c :: cs =>
    treeElements origin before c ++ forestElements origin (before + lineEnds c.fullText) cs

end

/-- The package that a compilation unit declares, or nothing. -/
def packageOf (unit : Tree) : String :=
  let names := (unit.childrenOfKind .packageDeclaration).filterMap fun p =>
    p.child? fun k => k == .scopedName || k == .identifier
  (names.head?.map Tree.source).getD ""

/-- The elements of a compilation unit. -/
def unitElements (file : String) (unit : Tree) : List Element :=
  treeElements ⟨file, packageOf unit⟩ 0 unit

/-- The elements of a source text; a text that does not fit the grammar has none. -/
def elementsOf (source : String) (file : String := "") : List Element :=
  match parse? source with
  | none => []
  | some unit => unitElements file unit

end StructureGrader
