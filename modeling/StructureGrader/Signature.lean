import StructureGrader.Element

/-!
# Signatures

The header of a declaration as it is compared, and the line of text that stands for it. Parts that
a declaration does not have leave no trace in the line (`joinWords`): a declaration without an
access word starts with its next part.
-/

namespace StructureGrader

/-- The words that say who may use a declaration. -/
inductive Access
  | pub
  | priv
  | prot
deriving DecidableEq, Repr

/-- The access words in the order in which they are looked for. -/
def Access.all : List Access :=
  [.pub, .priv, .prot]

/-- The word itself. -/
def Access.word : Access → String
  | .pub => "public"
  | .priv => "private"
  | .prot => "protected"

/-- The word of an access, or nothing. -/
def accessWord (access : Option Access) : String :=
  (access.map Access.word).getD ""

/-- The parts that are not empty, with a space between two. -/
def joinWords (parts : List String) : String :=
  " ".intercalate (parts.filter (· != ""))

/-- A word where it is wanted, else nothing. -/
def wordIf (wanted : Bool) (word : String) : String :=
  if wanted then word else ""

/-- A list of items with a word in front, or nothing when there are no items. -/
def listAfter (word : String) (items : List String) : String :=
  if items.isEmpty then "" else word ++ " " ++ ", ".intercalate items

/-- The header of a class or an interface. -/
structure TypeHeader where
  access : Option Access
  isInterface : Bool
  isAbstract : Bool
  isFinal : Bool
  name : String
  /-- The names of the type parameters, or nothing where there is no list of them. -/
  typeParameters : Option (List String)
  extended : List String
  implemented : List String
deriving DecidableEq, Repr

/-- The line for a class or an interface; of an interface it does not say whether it is abstract or
final. -/
def TypeHeader.render (h : TypeHeader) : String :=
  let parameters :=
    match h.typeParameters with
    | none => ""
    | some ps => "<" ++ ", ".intercalate ps ++ ">"
  joinWords [accessWord h.access,
    wordIf (!h.isInterface && h.isAbstract) "abstract",
    wordIf (!h.isInterface && h.isFinal) "final",
    if h.isInterface then "interface" else "class",
    h.name ++ parameters,
    listAfter "extends" h.extended,
    listAfter "implements" h.implemented]

/-- The header of a field. -/
structure FieldHeader where
  access : Option Access
  isStatic : Bool
  isFinal : Bool
  fieldType : String
  name : String
deriving DecidableEq, Repr

/-- The line for a field. -/
def FieldHeader.render (h : FieldHeader) : String :=
  joinWords [accessWord h.access, wordIf h.isStatic "static", wordIf h.isFinal "final",
    h.fieldType, h.name]

/-- A list of parameters in parentheses. -/
def parameterList (parameters : List String) : String :=
  "(" ++ ", ".intercalate parameters ++ ")"

/-- The header of a method. -/
structure MethodHeader where
  access : Option Access
  isStatic : Bool
  isAbstract : Bool
  isFinal : Bool
  returnType : String
  name : String
  parameters : List String
deriving DecidableEq, Repr

/-- The line for a method. -/
def MethodHeader.render (h : MethodHeader) : String :=
  joinWords [accessWord h.access, wordIf h.isStatic "static", wordIf h.isAbstract "abstract",
    wordIf h.isFinal "final", h.returnType, h.name ++ parameterList h.parameters]

/-- The header of a constructor. -/
structure ConstructorHeader where
  access : Option Access
  name : String
  parameters : List String
deriving DecidableEq, Repr

/-- The line for a constructor. -/
def ConstructorHeader.render (h : ConstructorHeader) : String :=
  joinWords [accessWord h.access, h.name ++ parameterList h.parameters]

end StructureGrader
