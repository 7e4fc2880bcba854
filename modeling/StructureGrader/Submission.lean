import StructureGrader.Extraction
import StructureGrader.Files.Listing
import StructureGrader.Session
import StructureGrader.Text.Encoding

/-!
# Submissions as files

The elements of a submission are those of its source files, file by file in the order of the
listing. An element bears the name of its file as seen from the folder of the submission, or the
bare name where a single file was given. A file that does not fit the grammar has no elements, and
no other file is affected by that.
-/

namespace StructureGrader

/-- A source file, by its components and with its bytes. -/
abbrev SourceFile := List String × ByteArray

/-- The elements of a file with these bytes. -/
def elementsOfFile (bytes : ByteArray) (file : String) : List Element :=
  elementsOf (Text.ofFile bytes) file

/-- The elements of source files; `fileName` is how their elements name them. -/
def elementsOfFiles (fileName : List String → String) (files : List SourceFile) : List Element :=
  files.flatMap fun f => elementsOfFile f.2 (fileName f.1)

/-- The name of a file as seen from the folder that its components start in. -/
def nameFromFolder (parts : List String) : String :=
  "/".intercalate parts

/-- The name of a file alone. -/
def bareName (parts : List String) : String :=
  parts.getLastD ""

/-- The elements of the submission that a path stands for. -/
def elementsAt (d : Disk) (p : Path) : Except FileError (List Element) :=
  let fileName := if d.isFolderAt p then nameFromFolder else bareName
  (d.sourcesAt p).map (elementsOfFiles fileName)

/-- The elements of a file alone; one that cannot be read has none. Its elements bear the given
name, or that of the file where none is given. -/
def elementsOfFileAt (d : Disk) (p : Path) (file : String) :
    Except FileError (List Element) :=
  match d.bytesAt p with
  | .ok bytes => .ok (elementsOfFile bytes (if file == "" then p.name else file))
  | .error .nulInPath => .error .nulInPath
  | .error _ => .ok []

/-- The text of a file. -/
def textOfFileAt (d : Disk) (p : Path) : Except FileError String :=
  (d.bytesAt p).map Text.ofFile

/-- The comparison of two submissions under some settings. -/
def assessUnder (s : Settings) (signal : Nat → Bool) (clock : Nat → Float)
    (students references : List Element) : Except Stop (Assessment Float) :=
  assess s.threshold.toFloat (s.watch signal clock) students references

/-- Why two submissions on a disk have not been compared. -/
inductive AssessmentError
  | unreadable (path : Path) (error : FileError)
  | stopped (stop : Stop)

/-- The comparison of the submissions that two paths stand for. -/
def assessAt (d : Disk) (s : Settings) (signal : Nat → Bool) (clock : Nat → Float)
    (student reference : Path) : Except AssessmentError (Assessment Float) := do
  let students ← (elementsAt d student).mapError (.unreadable student)
  let references ← (elementsAt d reference).mapError (.unreadable reference)
  (assessUnder s signal clock students references).mapError .stopped

end StructureGrader
