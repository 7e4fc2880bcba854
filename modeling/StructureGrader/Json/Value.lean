/-!
# JSON values

Whole numbers and doubles are told apart, since a text shows them differently, and the fields of an
object keep their order.
-/

namespace StructureGrader

/-- A JSON value. -/
inductive Json
  | null
  | bool (value : Bool)
  | int (value : Int)
  | real (value : Float)
  | text (value : String)
  | list (items : List Json)
  | object (fields : List (String × Json))
deriving Repr, Inhabited

namespace Json

/-- The value of a field: that of the last one with the name. -/
def field? (name : String) : Json → Option Json
  | .object fields => (fields.reverse.find? fun f => f.1 == name).map Prod.snd
  | _ => none

/-- A text, or null without one. -/
def ofText? (s : Option String) : Json :=
  match s with
  | some s => .text s
  | none => .null

/-- A list of texts. -/
def texts (ss : List String) : Json :=
  .list (ss.map .text)

end Json

end StructureGrader
