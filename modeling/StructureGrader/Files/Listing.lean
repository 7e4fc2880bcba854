import StructureGrader.Files.Disk

/-!
# The source files of a folder

The source files below a folder are those that no hidden component leads to, in the order of their
components. The order does not depend on the order of the entries.
-/

namespace StructureGrader

/-- Whether an entry with this name is passed over, with all that is in it. -/
def isHiddenName (name : String) : Bool :=
  name.toList.head? == some '.' || name == "__MACOSX"

/-- The ending of source files, in small letters. -/
def sourceSuffix : String := ".java"

/-- Whether a name is that of a source file. -/
def isSourceName (name : String) : Bool :=
  sourceSuffix.toList.isSuffixOf (Text.lower name).toList

/-- Whether a list of components comes before another or is the same. -/
def componentsLE : List String → List String → Bool
  | [], _ => true
  | _ :: _, [] => false
  | a :: as, b :: bs => if a == b then componentsLE as bs else decide (a < b)

namespace Entry

mutual

/-- The source files of an entry with a name, by their components and with their bytes. -/
def filesNamed (name : String) : Entry → List (List String × ByteArray)
  | .file bytes => if isSourceName name then [([name], bytes)] else []
  | .folder entries => (filesIn entries).map fun (parts, bytes) => (name :: parts, bytes)

/-- The source files below a list of entries, in their order. -/
def filesIn : List (String × Entry) → List (List String × ByteArray)
  | [] => []
  | (name, entry) :: rest =>
    (if isHiddenName name then [] else filesNamed name entry) ++ filesIn rest

end

/-- The source files of a folder in the order of their components. -/
def sourceFiles (entries : List (String × Entry)) : List (List String × ByteArray) :=
  (filesIn entries).mergeSort fun a b => componentsLE a.1 b.1

end Entry

/-- The source files that a path stands for: those of a folder by their components below it, or a
single file, which counts by its name alone. Double dots are resolved by the text of the path. -/
def Disk.sourcesAt (d : Disk) (p : Path) : Except FileError (List (List String × ByteArray)) :=
  let place : Path := ⟨"/", d.placeOf p⟩
  match d.find place with
  | .ok (.file bytes) =>
    .ok (if place.hasSuffix sourceSuffix then [([place.name], bytes)] else [])
  | .ok (.folder entries) => .ok (Entry.sourceFiles entries)
  | .error .nulInPath => .error .nulInPath
  | .error .nameTooLong => .error .nameTooLong
  | .error _ => .ok []

end StructureGrader
