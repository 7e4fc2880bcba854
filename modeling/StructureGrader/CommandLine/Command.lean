import StructureGrader.Archive.Unpacking
import StructureGrader.CommandLine.Arguments
import StructureGrader.CommandLine.Overview
import StructureGrader.Json.Printer
import StructureGrader.Report.Page
import StructureGrader.Submission

/-!
# Carrying out a command

A command compares two submissions, each a folder, a source file or an archive, writes the reports
it is asked for and prints an overview. Its parts (`Task`) may fail, and what was made before a
failure stays: `perform` says how the command ends, which files there are then and what is still kept
in temporary folders, after the folders that were made for archives are taken away.
-/

namespace StructureGrader.CommandLine

/-- What a command finds around it. -/
structure Surroundings where
  files : Disk
  environment : Settings.Environment
  /-- The clock when it is read for the `n`-th time, from zero. -/
  clock : Nat → Float
  /-- The folder in which temporary folders are made. -/
  temporary : Place := ["tmp"]
  /-- The endings of the names that are tried for a temporary folder. -/
  endings : Nat → String := toString
  host : Host := {}
  /-- What is kept in temporary folders. -/
  scratch : Scratch := []

/-- Why a command fails. -/
inductive CommandError
  | settings (error : SettingsError)
  | stopped (stop : Stop)
  | nothingAt (path : String)
  | file (error : FileError) (path : String)
  | archive (error : UnpackError)
  /-- No name for a temporary folder is free. -/
  | noName
deriving Repr

namespace CommandError

/-- The wording of a failure. -/
def message : CommandError → String
  | .settings e => e.message
  | .stopped e => e.message
  | .nothingAt path => "No such file or directory: " ++ path
  | .file e path => e.message path
  | .archive e => e.message
  | .noName => Scratch.noNameText

/-- Whether a command ends by telling its user of the failure. A failure that nobody foresaw breaks
it off. -/
def isTold : CommandError → Bool
  | .file .nulInPath _ => false
  | .archive (.failed (.file .nulInPath _)) => false
  | .archive (.failed (.file _ _)) => true
  | .archive (.failed .outOfReach) => true
  | .archive (.failed (.corruptData .blockSorted)) => true
  | .archive (.failed _) => false
  | _ => true

/-- A failure to check an archive. -/
def ofCheck : UnpackError → CommandError
  | .failed (.file e path) => .file e path
  | e => .archive e

/-- A failure to unpack an archive. -/
def ofExtraction : ExtractionError → CommandError
  | .noName => .noName
  | .unpack e => .archive e

end CommandError

/-! ## Parts of a command -/

/-- What a command has made by some time. -/
structure Workplace where
  files : Disk
  /-- What is kept in temporary folders. -/
  scratch : Scratch
  /-- The temporary folders to be taken away at the end. -/
  folders : List Place := []

/-- The workplace at the start. -/
def Workplace.start (around : Surroundings) : Workplace :=
  { files := around.files, scratch := around.scratch }

/-- A part of a command: it comes to something or fails, and leaves a workplace either way. -/
abbrev Task (α : Type) := ExceptT CommandError (StateM Workplace) α

/-- A part of a command that makes nothing. -/
def Task.of {ε α : Type} (error : ε → CommandError) (result : Except ε α) : Task α :=
  ExceptT.mk (pure (result.mapError error))

/-- Where the elements of a submission are read from. -/
inductive Source
  | path (p : Path)
  /-- A folder with the members of an archive. -/
  | unpacked (place : Place)

/-- The archive that a path leads to is unpacked to a folder that is taken away at the end. -/
def unpackAt (around : Surroundings) (p : Path) : Task Source :=
  ExceptT.mk fun w =>
    match w.scratch.unpack around.host around.temporary around.endings
      (Archive.archiveAt around.files p) with
    | (.error e, scratch) => (.error (.ofExtraction e), { w with scratch := scratch })
    | (.ok place, scratch) =>
      (.ok (.unpacked place), { w with scratch := scratch, folders := w.folders ++ [place] })

/-- Where the elements that a path stands for are read from. -/
def sourceAt (around : Surroundings) (limit : Int) (p : Path) : Task Source := do
  if p.hasSuffix ".zip" then
    Task.of .ofCheck (Archive.validateAt around.files p limit)
    unpackAt around p
  else
    match around.files.find p with
    | .ok _ => return .path p
    | .error .nameTooLong => throw (.file .nameTooLong p.text)
    | .error _ => throw (.nothingAt p.text)

/-- The elements of a submission. -/
def elementsFrom (around : Surroundings) (source : Source) : Task (List Element) := do
  match source with
  | .path p => Task.of (.file · p.text) (elementsAt around.files p)
  | .unpacked place =>
    let folder := (← get).scratch.folderAt place
    Task.of (.file · ".") (elementsAt ⟨folder, []⟩ ⟨"", []⟩)

/-- What a command compares, and how. -/
structure Plan where
  settings : Settings
  students : List Element
  references : List Element

/-- The settings of a command: those of the environment, with what its words ask for instead. -/
def settingsFor (around : Surroundings) (a : Arguments) : Except SettingsError Settings := do
  let general ← Settings.ofEnvironment around.environment
  general.override a.threshold a.timeout

/-- What a command is about to compare. -/
def plan (around : Surroundings) (a : Arguments) : Task Plan := do
  let settings ← Task.of .settings (settingsFor around a)
  let student ← sourceAt around settings.maxUploadBytes (.ofText a.student)
  let reference ← sourceAt around settings.maxUploadBytes (.ofText a.reference)
  let students ← elementsFrom around student
  let references ← elementsFrom around reference
  return ⟨settings, students, references⟩

/-- The comparison that a command asks for. -/
def assessment (around : Surroundings) (a : Arguments) : Task (Assessment Float) := do
  let p ← plan around a
  Task.of .stopped
    (assessUnder p.settings (fun _ => false) around.clock p.students p.references)

/-- A report is written to a path, if there is one. -/
def writeReport (path : Option String) (text : String) : Task Unit := do
  match path with
  | none => return
  | some path =>
    if path == "" then return
    else
      let p := Path.ofText path
      let files ← Task.of (.file · p.text) ((← get).files.writeFileAt p text.toUTF8)
      modify fun w => { w with files := files }

/-- The text of a report as JSON. -/
def jsonText (r : Report Float) : String :=
  (r.toJson Json.real).indented

/-- A command from its words on to its overview. -/
def carryOut (around : Surroundings) (a : Arguments) : Task String := do
  let assessment ← assessment around a
  let report := assessment.report
  writeReport a.json (jsonText report)
  writeReport a.html (Page.text report)
  return overview report

/-! ## A whole command -/

/-- How a command ends. -/
inductive Ending
  | early (ending : EarlyEnd)
  | finished (output : String)
  | failed (error : CommandError)
deriving Repr

/-- What a command comes to. -/
structure Result where
  ending : Ending
  /-- The files afterwards. -/
  files : Disk
  /-- What is kept in temporary folders afterwards. -/
  scratch : Scratch

/-- How many files and folders are still kept. -/
def Result.foldersLeft (r : Result) : Nat :=
  r.scratch.length

/-- What the words of a command come to. However it ends, the temporary folders are taken away. -/
def perform (around : Surroundings) (words : List String) : Result :=
  match argumentsOf words with
  | .error ending => ⟨.early ending, around.files, around.scratch⟩
  | .ok a =>
    let (outcome, w) := (carryOut around a).run (.start around)
    let ending : Ending :=
      match outcome with
      | .error e => .failed e
      | .ok output => .finished output
    ⟨ending, w.files, w.folders.foldl Scratch.remove w.scratch⟩

/-! ## What a caller sees -/

/-- The exit code of a command that ends in a regular way. -/
def Ending.exitCode : Ending → Nat
  | .early .help => 0
  | .early (.usage _) => 2
  | .finished _ => 0
  | .failed _ => 1

/-- What a command prints. -/
def Ending.output : Ending → String
  | .finished output => output
  | _ => ""

/-- What a command tells of its failure. -/
def Ending.errorText : Ending → String
  | .early (.usage e) => e.message ++ "\n"
  | .failed e => "Error: " ++ e.message ++ "\n"
  | _ => ""

end StructureGrader.CommandLine
