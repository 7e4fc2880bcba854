import StructureGrader.Text.Case

/-!
# Paths

A path is read off its text once: empty and single-dot components say nothing and are dropped,
while a double dot stays, because it can only be followed where the folders are known. `normal`
resolves double dots by the text alone. A place is given by components that lead to it from the
root.
-/

namespace StructureGrader

/-- A path: what it starts from, and its components in order. -/
structure Path where
  /-- Empty for a path that starts from the working folder. -/
  root : String
  parts : List String
deriving DecidableEq, Repr

namespace Path

/-- The stretches of text between slashes; `part` holds the one under way, in reverse order. -/
def piecesFrom (part : List Char) : List Char → List (List Char)
  | [] => [part.reverse]
  | c :: cs => if c == '/' then part.reverse :: piecesFrom [] cs else piecesFrom (c :: part) cs

/-- The stretches of a text between slashes, empty ones too. -/
def pieces (s : String) : List String :=
  (piecesFrom [] s.toList).map String.ofList

/-- The slashes that a path starts with; two mean something of their own, more than two do not. -/
def rootOf (s : String) : String :=
  match (s.toList.takeWhile (· == '/')).length with
  | 0 => ""
  | 2 => "//"
  | _ => "/"

/-- The path that a text writes. -/
def ofText (s : String) : Path :=
  ⟨rootOf s, (pieces s).filter fun p => p != "" && p != "."⟩

/-- The text of a path. -/
def text (p : Path) : String :=
  if p.root == "" && p.parts.isEmpty then "." else p.root ++ "/".intercalate p.parts

/-- The last component of a path. -/
def name (p : Path) : String :=
  p.parts.getLastD ""

/-- The ending of a name from its last dot on, where there is something on both sides of it. -/
def suffixOf (name : String) : String :=
  let cs := name.toList
  let ending := cs.reverse.takeWhile (· != '.')
  let front := cs.length - ending.length - 1
  if ending.length == cs.length || ending.isEmpty || front == 0 then ""
  else String.ofList ('.' :: ending.reverse)

/-- Whether a path ends in a suffix, which is given in small letters. -/
def hasSuffix (p : Path) (suffix : String) : Bool :=
  Text.lower (suffixOf p.name) == suffix

/-- The components without double dots; `above` holds those so far, in reverse order. A double dot
takes the last one back, if there is one. -/
def normalFrom (above : List String) : List String → List String
  | [] => above.reverse
  | p :: ps => if p == ".." then normalFrom above.tail ps else normalFrom (p :: above) ps

/-- The components of a path without double dots. -/
def normal (p : Path) : List String :=
  normalFrom [] p.parts

/-- Whether a path starts from the working folder. -/
def isRelative (p : Path) : Bool :=
  p.root == ""

/-- Whether a path holds the character that ends texts for the system. -/
def hasNul (p : Path) : Bool :=
  p.parts.any fun part => part.toList.contains (Char.ofNat 0)

end Path

/-- A place, as components from the root. -/
abbrev Place := List String

/-- The text of a place. -/
def Place.text (place : Place) : String :=
  String.join (place.map ("/" ++ ·))

/-- The text of the path to a name as seen from a place: a name that starts with a slash is a path
of its own. -/
def Place.textOf (place : Place) (name : String) : String :=
  if name.toList.head? == some '/' then name else place.text ++ "/" ++ name

/-- Where the path that a text writes leads to as seen from a place: a path from the root leads away
from it. -/
def Place.join (place : Place) (text : String) : Place :=
  let p := Path.ofText text
  if p.isRelative then place ++ p.parts else p.parts

end StructureGrader
