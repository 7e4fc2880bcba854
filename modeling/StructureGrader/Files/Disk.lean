import StructureGrader.Files.Entry

/-!
# Paths on a disk

A disk is a folder with everything in it, together with the place of the working folder, which
relative paths start from. It holds files and folders and no symbolic links: submissions are taken to
be free of them, and so is what unpacking makes of an archive, where the target of a link is written
as a file. The links of the machine around a folder stand in `Host`, and only the check of an
archive's names follows them (`Links.resolve`).
-/

namespace StructureGrader

/-- The outermost folder, and the components that lead from it to the working folder. -/
structure Disk where
  root : Entry
  home : List String := []

namespace Disk

/-- The components of a path from the outermost folder on. -/
def partsOf (d : Disk) (p : Path) : List String :=
  if p.isRelative then d.home ++ p.parts else p.parts

/-- The components of a path from the outermost folder on, without double dots. -/
def placeOf (d : Disk) (p : Path) : List String :=
  Path.normalFrom [] (d.partsOf p)

/-- The entry that a path leads to. -/
def find (d : Disk) (p : Path) : Except FileError Entry :=
  if p.hasNul then .error .nulInPath else Entry.findFrom [] d.root (d.partsOf p)

/-- The bytes of the file that a path leads to. -/
def bytesAt (d : Disk) (p : Path) : Except FileError ByteArray :=
  match d.find p with
  | .ok (.file bytes) => .ok bytes
  | .ok (.folder _) => .error .isFolder
  | .error e => .error e

/-- Whether a path leads to a folder. -/
def isFolderAt (d : Disk) (p : Path) : Bool :=
  match d.find p with
  | .ok (.folder _) => true
  | _ => false

/-- The disk with a file written at a path, in a folder that is there. -/
def writeFileAt (d : Disk) (p : Path) (bytes : ByteArray) : Except FileError Disk :=
  let write : Except FileError Disk :=
    (Entry.put (Entry.writeFile bytes) (d.placeOf p) d.root).map fun root => { d with root := root }
  match d.find p with
  | .ok (.folder _) => .error .isFolder
  | .ok (.file _) => write
  | .error .missing =>
    match d.find { p with parts := p.parts.dropLast } with
    | .ok (.folder _) => if p.name == ".." then .error .missing else write
    | .ok (.file _) => .error .notFolder
    | .error e => .error e
  | .error e => .error e

end Disk

end StructureGrader
