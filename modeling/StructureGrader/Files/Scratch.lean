import StructureGrader.Files.Entry
import StructureGrader.Json.Value

/-!
# What is kept for a while

Beside the files that it is given a program keeps some of its own: folders that it makes for the
contents of archives and takes away again, and reports that are to be fetched later. They are known
by their places. A new folder is made under the first of several names at which nothing stands, so
it never takes the place of anything (`Scratch.newFolder?`), and a folder is taken away with all that
is kept below it (`Scratch.remove`).
-/

namespace StructureGrader

/-- What is kept at a place: a file or a folder with everything in it, or a report. -/
inductive Kept
  | entry (value : Entry)
  | report (value : Json)

/-- What is kept, by its places. -/
abbrev Scratch := List (Place × Kept)

namespace Scratch

/-- What is kept at a place. -/
def at? (s : Scratch) (place : Place) : Option Kept :=
  (s.find? fun x => x.1 == place).map Prod.snd

/-- Whether anything is kept at a place or below it. -/
def isTaken (s : Scratch) (place : Place) : Bool :=
  s.any fun x => place.isPrefixOf x.1

/-- The folder at a place; where there is none it counts as empty. -/
def folderAt (s : Scratch) (place : Place) : Entry :=
  match s.at? place with
  | some (.entry e) => e
  | _ => .empty

/-- Something put at a place, instead of what was there. -/
def put (s : Scratch) (place : Place) (x : Kept) : Scratch :=
  (place, x) :: s.filter fun y => y.1 != place

/-- A folder taken away with all that is kept below it. -/
def remove (s : Scratch) (folder : Place) : Scratch :=
  s.filter fun x => !folder.isPrefixOf x.1

/-! ## New folders -/

/-- How many names are tried for a new folder. -/
def nameTries : Nat := 238328

/-- The wording of the failure where all of these names are taken. -/
def noNameText : String := "[Errno 17] No usable temporary directory name found"

/-- The first place that is not taken among those whose names start with `front` and end as the
`n`-th ending and the ones after it say. -/
def freePlace? (s : Scratch) (around : Place) (front : String) (endings : Nat → String)
    (n : Nat) : Nat → Option Place
  | 0 => none
  | tries + 1 =>
    let place := around ++ [front ++ endings n]
    if s.isTaken place then freePlace? s around front endings (n + 1) tries else some place

/-- A new empty folder: its place, and what is kept with it. -/
def newFolder? (s : Scratch) (around : Place) (front : String) (endings : Nat → String) :
    Option (Place × Scratch) :=
  (s.freePlace? around front endings 0 nameTries).map fun place =>
    (place, s.put place (.entry .empty))

end Scratch

end StructureGrader
