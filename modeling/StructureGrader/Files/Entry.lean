import StructureGrader.Files.Path
import StructureGrader.Text.Quoted

/-!
# Files and folders

A folder is a tree of named entries. `Entry.findFrom` follows components through it as the system
does, so a double dot leads out of a folder only where that folder is there, and says why it cannot.
`Entry.put` adds a file or a folder. There are no symbolic links in the tree; those that the machine
has elsewhere are kept apart from it (`Links`).
-/

namespace StructureGrader

/-- A file with its bytes, or a folder with its entries by name. -/
inductive Entry
  | file (bytes : ByteArray)
  | folder (entries : List (String × Entry))
deriving Inhabited

/-- Why a path cannot be followed, read or written. -/
inductive FileError
  | missing
  /-- A file stands where a folder is needed. -/
  | notFolder
  | isFolder
  | exists
  | nameTooLong
  | notPermitted
  /-- The path holds the character that ends texts for the system. -/
  | nulInPath
deriving DecidableEq, Repr

/-- The number and the wording of a failure. -/
def FileError.reason : FileError → String
  | .missing => "[Errno 2] No such file or directory"
  | .notFolder => "[Errno 20] Not a directory"
  | .isFolder => "[Errno 21] Is a directory"
  | .exists => "[Errno 17] File exists"
  | .nameTooLong => "[Errno 36] File name too long"
  | .notPermitted => "[Errno 13] Permission denied"
  | .nulInPath => "embedded null byte"

/-- The message about a path. -/
def FileError.message (e : FileError) (path : String) : String :=
  match e with
  | .nulInPath => e.reason
  | _ => e.reason ++ ": " ++ Text.quoted path

namespace Entry

/-- A folder without entries. -/
def empty : Entry := .folder []

/-- The entry with a name. -/
def named? (name : String) (entries : List (String × Entry)) : Option Entry :=
  (entries.find? fun e => e.1 == name).map Prod.snd

/-- The entries with one of them set: in its place if there is one of the name, else at the end. -/
def setNamed (name : String) (entry : Entry) : List (String × Entry) → List (String × Entry)
  | [] => [(name, entry)]
  | (n, e) :: rest =>
    if n == name then (n, entry) :: rest else (n, e) :: setNamed name entry rest

/-- Whether a component is longer than the system allows. -/
def isTooLong (part : String) : Bool :=
  255 < part.utf8ByteSize

/-- The entry that components lead to from `here`; `above` holds the folders around it, from the
inside out. The outermost folder is its own parent. -/
def findFrom (above : List Entry) (here : Entry) : List String → Except FileError Entry
  | [] => .ok here
  | part :: parts =>
    match here with
    | .file _ => .error .notFolder
    | .folder entries =>
      if isTooLong part then .error .nameTooLong
      else if part == ".." then
        match above with
        | [] => findFrom [] here parts
        | up :: more => findFrom more up parts
      else
        match named? part entries with
        | none => .error .missing
        | some entry => findFrom (here :: above) entry parts

/-! ## Writing -/

/-- The entry with something written at a path below it; folders on the way are made where they are
missing. -/
def put (write : Option Entry → Except FileError Entry) :
    List String → Entry → Except FileError Entry
  | _, .file _ => .error .notFolder
  | [], .folder _ => .error .isFolder
  | part :: parts, .folder entries =>
    if isTooLong part then .error .nameTooLong
    else
      let inner := named? part entries
      let written :=
        if parts.isEmpty then write inner else put write parts (inner.getD empty)
      written.map fun e => .folder (setNamed part e entries)

/-- What becomes of a place to which a file is written. -/
def writeFile (bytes : ByteArray) : Option Entry → Except FileError Entry
  | some (.folder _) => .error .isFolder
  | _ => .ok (.file bytes)

/-- What becomes of a place at which a folder is needed. -/
def writeFolder : Option Entry → Except FileError Entry
  | none => .ok empty
  | some (.file _) => .error .exists
  | some e => .ok e

end Entry

end StructureGrader
