import StructureGrader.Archive.Member
import StructureGrader.Files.Disk
import StructureGrader.Files.Links
import StructureGrader.Files.Scratch

/-!
# Unpacking an archive

The members of an archive are written below a folder made for them, one after another. Before that
each name is looked at: it is followed as a path from the folder, through the symbolic links of the
machine, and a name that leads out of the folder refuses the whole archive (`Archive.leadsBelow`). The
names are then written without the components that could lead anywhere else (`Archive.extract`).
`Scratch.unpack` makes the folder, and takes it away again when the archive is refused.
-/

namespace StructureGrader.Archive

/-- The folder that an archive is unpacked to where no other is made. -/
def defaultPlace : Place := ["tmp", "grader"]

/-- Whether a name leads to something below the place, as the texts of the two paths show once links
are followed. -/
def leadsBelow (links : Links) (place : Place) (name : String) : Except Links.Fault Bool := do
  let target ← links.resolve (place.textOf name)
  let base ← links.resolve place.text
  return (base.text ++ "/").toList.isPrefixOf target.text.toList

/-- A member whose name does not lead to anything below the place is a reason to refuse. -/
def checkName (links : Links) (place : Place) (m : Member) : Except UnpackError Unit :=
  match leadsBelow links place m.name with
  | .error (e, link) => failed (.file e link.text)
  | .ok isBelow => if isBelow then .ok () else .error (.refused (.escapes m.name))

/-- The names of members are looked at in order, up to the first one that is a reason to refuse. -/
def checkNames (links : Links) (place : Place) : List Member → Except UnpackError Unit
  | [] => .ok ()
  | m :: ms => do
    checkName links place m
    checkNames links place ms

/-- The components under which a member is written. -/
def writtenParts (name : String) : List String :=
  (Path.pieces name).filter fun p => p != "" && p != "." && p != ".."

/-- A part of writing below a folder: it may fail, and leaves the folder either way. -/
abbrev Writing := ExceptT UnpackError (StateM Entry) Unit

/-- A part of writing that writes nothing. -/
def Writing.of (result : Except UnpackError Unit) : Writing :=
  ExceptT.mk (pure result)

/-- The length in bytes from which on a path is too long for the system. -/
def pathBound : Nat := 4096

/-- Something is written at a place below the folder. -/
def writeAt (place : Place) (write : Option Entry → Except FileError Entry) (parts : List String) :
    Writing :=
  ExceptT.mk fun tree =>
    let path := Place.text (place ++ parts)
    if pathBound ≤ path.utf8ByteSize then (failed (.file .nameTooLong path), tree)
    else
      match Entry.put write parts tree with
      | .ok tree => (.ok (), tree)
      | .error e => (failed (.file e path), tree)

/-- Folders are made along components, behind those so far, where nothing stands in their place. -/
def makeFolders (place : Place) (made : List String) : List String → Writing
  | [] => pure ()
  | part :: parts => do
    let folder := made ++ [part]
    match Entry.findFrom [] (← get) folder with
    | .ok _ => pure ()
    | .error _ => writeAt place Entry.writeFolder folder
    makeFolders place folder parts

/-- The bytes of a member are written to its file, which is there and empty before they are read. -/
def writeBytes (place : Place) (b : ByteArray) (m : Member) (start : Nat) : Writing := do
  let parts := writtenParts m.name
  let (bytes, result) := memberBytes b m start
  writeAt place (Entry.writeFile .empty) parts
  writeAt place (Entry.writeFile bytes) parts
  Writing.of result

/-- A member is written below the folder, with the folders around it. -/
def writeMember (host : Host) (place : Place) (b : ByteArray) (m : Member) : Writing := do
  let parts := writtenParts m.name
  makeFolders place [] parts.dropLast
  if m.isFolder then writeAt place Entry.writeFolder parts
  else
    match dataStart host.seekLimit b m with
    | .error e => throw e
    | .ok start => writeBytes place b m start

/-- The member that stands for a name: the last one that bears it. -/
def lastNamed (members : List Member) (m : Member) : Member :=
  (members.reverse.find? fun other => other.name == m.name).getD m

/-- Members are written below the folder in order, up to the first one that cannot be written; `all`
are the members of the archive. -/
def writeMembers (host : Host) (place : Place) (b : ByteArray) (all : List Member) :
    List Member → Writing
  | [] => pure ()
  | m :: ms => do
    writeMember host place b (lastNamed all m)
    writeMembers host place b all ms

/-- The members of an archive are written below the folder, if all of their names lead below it. -/
def extract (host : Host) (place : Place) (b : ByteArray) : Writing :=
  match membersOf b with
  | .error e => throw e
  | .ok members =>
    match checkNames host.links place members with
    | .error e => throw e
    | .ok () => writeMembers host place b members members

/-- The bytes of the archive that a path leads to. -/
def archiveAt (d : Disk) (p : Path) : Except UnpackError ByteArray :=
  match d.bytesAt p with
  | .error e => failed (.file e p.text)
  | .ok b => .ok b

/-- What an empty folder comes to hold when an archive, if it can be read, is unpacked to it, and
why the unpacking stopped if it did. -/
def extractFrom (host : Host) (place : Place) (archive : Except UnpackError ByteArray) :
    Except UnpackError Unit × Entry :=
  match archive with
  | .error e => (.error e, .empty)
  | .ok b => (extract host place b).run .empty

/-- The folder that holds all members of the archive that a path leads to. -/
def unpackAt (host : Host) (place : Place) (d : Disk) (p : Path) : Except UnpackError Entry :=
  let (result, folder) := extractFrom host place (archiveAt d p)
  result.map fun _ => folder

/-! ## Checking -/

/-- Bytes that are worth unpacking: there are some, not too many, and they look like an archive. One
of several parts is no reason to refuse them, but a failure. -/
def validate (b : ByteArray) (limit : Int) : Except UnpackError Unit :=
  if b.isEmpty then .error (.refused .emptyFile)
  else if limit < Int.ofNat b.size then .error (.refused (.tooLarge limit))
  else
    match EndRecord.find b with
    | .ok _ => .ok ()
    | .error .noEndRecord => .error (.refused .notArchive)
    | .error rule => failed (.malformed rule)

/-- The check of the file that a path leads to. A name that is too long is a failure of its own. -/
def validateAt (d : Disk) (p : Path) (limit : Int) : Except UnpackError Unit :=
  match d.bytesAt p with
  | .ok b => validate b limit
  | .error .nameTooLong => failed (.file .nameTooLong p.text)
  | .error _ => .error (.refused (.notFound p.text))

end StructureGrader.Archive

/-! ## Folders for archives -/

namespace StructureGrader

/-- Why there is no folder with the members of an archive. -/
inductive ExtractionError
  /-- No name for a folder is free. -/
  | noName
  | unpack (error : UnpackError)
deriving DecidableEq, Repr

/-- A new folder with the members of an archive, and what is kept after that. A folder whose archive
is refused is taken away; after any other failure it stays. -/
def Scratch.unpack (s : Scratch) (host : Host) (around : Place) (endings : Nat → String)
    (archive : Except UnpackError ByteArray) : Except ExtractionError Place × Scratch :=
  match s.newFolder? around "grader_" endings with
  | none => (.error .noName, s)
  | some (place, s) =>
    let (result, folder) := Archive.extractFrom host place archive
    let s := s.put place (.entry folder)
    match result with
    | .ok () => (.ok place, s)
    | .error (.refused e) => (.error (.unpack (.refused e)), s.remove place)
    | .error (.failed f) => (.error (.unpack (.failed f)), s)

end StructureGrader
