/-!
# Code elements

What is compared: the classes, fields, methods and constructors of a source text, each with its
name, its signature and its source. What a comparison says about an element, its `Outcome`, is kept
apart from the element, so that no comparison can depend on an earlier one.
-/

namespace StructureGrader

/-- The kinds of elements, in the order in which they are compared. -/
inductive ElementKind
  /-- A class or an interface. -/
  | type
  /-- A field or a constant. -/
  | field
  | method
  | constructor
deriving DecidableEq, Repr

namespace ElementKind

/-- The kinds in the order in which they are compared. -/
def all : List ElementKind :=
  [.type, .field, .method, .constructor]

/-- The name of a kind in reports. -/
def name : ElementKind → String
  | .type => "CLASS"
  | .field => "FIELD"
  | .method => "METHOD"
  | .constructor => "CONSTRUCTOR"

/-- The name of a kind in running text. -/
def noun : ElementKind → String
  | .type => "class"
  | .field => "field"
  | .method => "method"
  | .constructor => "constructor"

/-- The kind with a name, if there is one. -/
def ofName? (s : String) : Option ElementKind :=
  all.find? fun k => k.name == s

/-- Every kind is listed. -/
theorem mem_all (k : ElementKind) : k ∈ all := by
  cases k <;> decide

/-- A kind is found under its name. -/
theorem ofName?_name (k : ElementKind) : ofName? k.name = some k := by
  cases k <;> decide

end ElementKind

/-- A declaration taken out of a source text. -/
structure Element where
  name : Option String
  kind : ElementKind
  signature : Option String
  /-- The text of the declaration. -/
  source : Option String := some ""
  /-- The line on which the declaration starts, counted from one. -/
  line : Int := 0
  /-- The file the declaration comes from. -/
  file : String := ""
  /-- The package that the file declares. -/
  package : String := ""
deriving DecidableEq, Repr

/-- The name and the signature of an element. -/
def Element.label (e : Element) : Option String × Option String :=
  (e.name, e.signature)

/-- The kind, the name and the signature of an element. -/
def Element.key (e : Element) : ElementKind × Option String × Option String :=
  (e.kind, e.label)

/-- Two elements agree when name and signature are the same. -/
def Element.agrees (a b : Element) : Bool :=
  a.signature == b.signature && a.name == b.name

/-- What a comparison found out about an element. -/
inductive MatchType
  /-- Paired with an element that is as good as equal. -/
  | exact
  /-- Paired with an element that is similar. -/
  | similar
  /-- In the reference only. -/
  | missing
  /-- In the submission only. -/
  | extra
deriving DecidableEq, Repr

namespace MatchType

/-- The types in the order in which reports list them. -/
def all : List MatchType :=
  [.exact, .similar, .missing, .extra]

/-- The name of a type in reports. -/
def name : MatchType → String
  | .exact => "EXACT"
  | .similar => "SIMILAR"
  | .missing => "MISSING"
  | .extra => "EXTRA"

/-- The type with a name, if there is one. -/
def ofName? (s : String) : Option MatchType :=
  all.find? fun t => t.name == s

/-- A type is found under its name. -/
theorem ofName?_name (t : MatchType) : ofName? t.name = some t := by
  cases t <;> decide

end MatchType

end StructureGrader
