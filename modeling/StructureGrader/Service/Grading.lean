import StructureGrader.Archive.Unpacking
import StructureGrader.Service.Exchange
import StructureGrader.Submission

/-!
# Grading what is sent

The files that are sent are saved below the folder that is made for their request; archives are
unpacked to folders of their own (`saveUpload`). What the folders hold is then compared like any two
submissions (`gradeFolders`).
-/

namespace StructureGrader.Service

/-- The two sides of a comparison. -/
inductive Side
  | student
  | reference
deriving DecidableEq, Repr

/-- The name of a side in a form. -/
def Side.name : Side → String
  | .student => "student"
  | .reference => "reference"

/-- The file that is sent for a side: the first one with a name, of the archive and the file. -/
def uploadFor? (f : Form) (side : Side) : Option Upload :=
  [side.name ++ "_zip", side.name ++ "_file"].findSome? fun field =>
    (f.upload? field).filter fun u => u.fileName != ""

/-- Why a comparison of what is sent fails. -/
inductive GradingError
  | settings (error : SettingsError)
  | archive (error : UnpackError)
  | file (error : FileError) (path : String)
  | stopped (stop : Stop)
  /-- No name for a temporary folder is free. -/
  | noName
deriving Repr

namespace GradingError

/-- The wording of a failure. -/
def message : GradingError → String
  | .settings e => e.message
  | .archive e => e.message
  | .file e path => e.message path
  | .stopped e => e.message
  | .noName => Scratch.noNameText

/-- The status that tells of a failure. -/
def status : GradingError → Nat
  | .settings _ => 400
  | .archive (.refused _) => 400
  | .archive (.failed _) => 500
  | .file _ _ => 500
  | .stopped _ => 504
  | .noName => 500

/-- The answer that tells of a failure. -/
def response (e : GradingError) : Response :=
  .error e.status e.message

/-- A failure to unpack an archive. -/
def ofExtraction : ExtractionError → GradingError
  | .noName => .noName
  | .unpack e => .archive e

end GradingError

/-- What the service uses to grade. -/
structure Surroundings where
  /-- The clock when it is read for the `n`-th time, from zero. -/
  clock : Nat → Float
  /-- The endings of the names that are tried for a temporary folder. -/
  endings : Nat → String := toString
  host : Host := {}

/-- Whether a file name ends in a suffix, which is given in small letters. -/
def endsIn (fileName suffix : String) : Bool :=
  suffix.toList.isSuffixOf (Text.lower fileName).toList

/-- The folder with a source file that is sent. -/
def savedSource (u : Upload) : Except GradingError Entry :=
  let p := Path.ofText u.fileName
  if p.hasNul then .error (.file .nulInPath p.text)
  else
    match Entry.put (Entry.writeFile u.bytes) [p.name] .empty with
    | .ok folder => .ok folder
    | .error e => .error (.file e p.name)

/-- A file that is sent for a side is saved below a folder: where its sources are then, and what is
kept after that. -/
def saveUpload (around : Surroundings) (temporary folder : Place) (limit : Int) (side : Side)
    (u : Upload) (s : Scratch) : Except GradingError Place × Scratch :=
  if endsIn u.fileName ".zip" then
    let s := s.put (folder ++ [side.name ++ ".zip"]) (.entry (.file u.bytes))
    match Archive.validate u.bytes limit with
    | .error e => (.error (.archive e), s)
    | .ok () =>
      match s.unpack around.host temporary around.endings (.ok u.bytes) with
      | (.error e, s) => (.error (.ofExtraction e), s)
      | (.ok place, s) => (.ok place, s)
  else if endsIn u.fileName sourceSuffix then
    let place := folder ++ [side.name]
    match savedSource u with
    | .error e => (.error e, s.put place (.entry .empty))
    | .ok sources => (.ok place, s.put place (.entry sources))
  else (.error (.archive (.refused (.otherKind u.fileName))), s)

/-- The elements of the files in a folder. -/
def elementsOfFolder (folder : Entry) : Except GradingError (List Element) :=
  match elementsAt ⟨folder, []⟩ ⟨"", []⟩ with
  | .ok es => .ok es
  | .error e => .error (.file e ".")

/-- The report on the files in two folders. -/
def gradeFolders (settings : Settings) (around : Surroundings) (student reference : Entry) :
    Except GradingError (Report Float) := do
  let students ← elementsOfFolder student
  let references ← elementsOfFolder reference
  match assessUnder settings (fun _ => false) around.clock students references with
  | .ok assessment => .ok assessment.report
  | .error stop => .error (.stopped stop)

end StructureGrader.Service
