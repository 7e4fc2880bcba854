import StructureGrader.Files.Entry

/-!
# Symbolic links

A symbolic link stands at a place and holds the text of a path. `Links.resolve` follows a path from
the root piece by piece: where a link stands, the path that it holds is followed in its stead, from
the folder around the link or from the root. So a double dot leads out of the folder that a link
leads to, not out of the one that the link stands in.

A link that leads back to itself is not followed a second time; what is left of the path is then put
behind the place of the link as a text (`Arrival.behind`). A path to nothing can be followed like any
other.
-/

namespace StructureGrader

/-- The symbolic links of a machine by their places: the text that each holds, if it can be read. -/
abbrev Links := List (Place × Except FileError String)

/-- Where a path leads to. -/
structure Arrival where
  place : Place
  /-- Whether each link on the way was followed to its end. -/
  isSettled : Bool := true
  /-- What stands in front of the text of the place: one more slash, or nothing. -/
  front : String := ""
deriving DecidableEq, Repr

namespace Arrival

/-- The text of the path to where a path leads. -/
def text (a : Arrival) : String :=
  a.front ++ if a.place.isEmpty then "/" else a.place.text

/-- The rest of a path put behind as a text. Where it starts with a slash it is a path of its own,
and two slashes in front of a path stay two. -/
def behind (a : Arrival) (rest : List String) : Arrival :=
  let p := Path.ofText ("/".intercalate rest)
  if p.isRelative then { a with place := Path.normalFrom a.place.reverse p.parts }
  else { a with place := p.normal, front := if p.root == "//" then "/" else "" }

end Arrival

namespace Links

/-- The link at a place. -/
def at? (links : Links) (place : Place) : Option (Except FileError String) :=
  (links.find? fun x => x.1 == place).map Prod.snd

/-- Why a path cannot be followed: a link at a place cannot be read. -/
abbrev Fault := FileError × Place

/-- Where pieces of a path lead to from a place on; `enter` says where the link at a place leads to,
if there is one. -/
def walk (enter : Place → Option (Except Fault Arrival)) :
    Place → List String → Except Fault Arrival
  | here, [] => .ok { place := here }
  | here, piece :: pieces =>
    if piece == "" || piece == "." then walk enter here pieces
    else if piece == ".." then walk enter here.dropLast pieces
    else
      match enter (here ++ [piece]) with
      | none => walk enter (here ++ [piece]) pieces
      | some (.error e) => .error e
      | some (.ok a) => if a.isSettled then walk enter a.place pieces else .ok (a.behind pieces)

/-- Where the path that a link holds starts. -/
def startOf (place : Place) (target : String) : Place :=
  if target.toList.head? == some '/' then [] else place.dropLast

/-- Where the link at a place leads to, if there is one. The links being followed are `busy`;
`depth` is how many more can be followed within each other. -/
def enter (links : Links) : Nat → List Place → Place → Option (Except Fault Arrival)
  | 0, _, place => (links.at? place).map fun _ => .ok { place, isSettled := false }
  | depth + 1, busy, place =>
    (links.at? place).map fun target =>
      if busy.contains place then .ok { place, isSettled := false }
      else
        match target with
        | .error e => .error (e, place)
        | .ok text => walk (enter links depth (place :: busy)) (startOf place text) (Path.pieces text)

/-- Where the path leads to that a text writes from the root on. No more links can be followed
within each other than there are. -/
def resolve (links : Links) (text : String) : Except Fault Arrival :=
  walk (enter links links.length []) [] (Path.pieces text)

end Links

/-- What unpacking depends on of the machine it runs on. -/
structure Host where
  links : Links := []
  /-- The last position in a file that the machine can read from, be the file that long or not. -/
  seekLimit : Nat := 0xFFFFFFFF000

end StructureGrader
