import StructureGrader.Service.Grading
import StructureGrader.Service.Shelf

/-!
# The service

The service compares what is sent and keeps the reports. Only so many comparisons run at a time: a
request takes a slot when it is admitted (`Desk.enter`) and from then on goes through its stages one
by one (`Desk.advance`). Whatever stops it on the way, it comes to an answer, gives its slot back and
takes away the folders that were made for it. `Desk.compare` takes one request through all of its
stages; requests that run side by side take their steps in any order (`Traffic`).
-/

namespace StructureGrader.Service

/-- What the service holds. -/
structure Desk where
  settings : Settings
  /-- How many more requests may be admitted now. -/
  freeSlots : Nat
  /-- The folder in which temporary folders are made. -/
  temporary : Place
  /-- What the service keeps in temporary folders. -/
  files : Scratch

/-- How far a request has come that was admitted. -/
inductive Stage
  | admitted
  | configured (settings : Settings)
  /-- There is a folder for what is sent. -/
  | housed (settings : Settings) (folder : Place)
  /-- The submission is saved. -/
  | halfSaved (settings : Settings) (folder student : Place)
  /-- The submission and the reference are saved. -/
  | saved (settings : Settings) (student reference : Place)
  | graded (report : Report Float)
  /-- The report can be fetched under a name. -/
  | stored (name : String) (report : Report Float)
  /-- The answer is there and the slot is still to be given back. -/
  | answered (response : Response)
  /-- The slot is given back, and folders are still to be taken away. -/
  | leaving (response : Response)
  /-- There was no slot to give back. -/
  | stuck

/-- A request that was admitted. -/
structure Job where
  student : Upload
  reference : Upload
  /-- The threshold that is sent along. -/
  threshold : Option String
  stage : Stage := .admitted
  /-- The folders to be taken away at the end, the last one first. -/
  folders : List Place := []

/-- What can stop a request that was admitted: a fault of what was sent, a comparison that is
stopped, any other failure, or the end of the program. -/
inductive Trouble
  | refused (message : String)
  | stopped (message : String)
  | unforeseen (message : String)
  | fatal

/-- The answer that tells of the trouble. -/
def Trouble.response : Trouble → Response
  | .refused message => .error 400 message
  | .stopped message => .error 504 message
  | .unforeseen message => .error 500 message
  | .fatal => ⟨500, none⟩

namespace Job

/-- A request that has its answer. -/
def answer (job : Job) (response : Response) : Job :=
  { job with stage := .answered response }

/-- A request that is stopped by trouble; one that has its answer is not stopped any more. -/
def interrupt (job : Job) (trouble : Trouble) : Job :=
  match job.stage with
  | .answered _ | .leaving _ | .stuck => job
  | _ => job.answer trouble.response

/-- Whether a request holds a slot. -/
def holdsSlot (job : Job) : Bool :=
  match job.stage with
  | .leaving _ | .stuck => false
  | _ => true

/-- The answer that a request is given when nothing is left to be done for it. -/
def answer? (job : Job) : Option Response :=
  match job.stage, job.folders with
  | .leaving response, [] => some response
  | .stuck, _ => some ⟨500, none⟩
  | _, _ => none

/-- How many stages are ahead. -/
def stagesLeft (job : Job) : Nat :=
  match job.stage with
  | .admitted => 8
  | .configured _ => 7
  | .housed _ _ => 6
  | .halfSaved _ _ _ => 5
  | .saved _ _ _ => 4
  | .graded _ => 3
  | .stored _ _ => 2
  | .answered _ => 1
  | .leaving _ | .stuck => 0

/-- A bound on the steps that are ahead: each stage may make one folder, which is taken away in one
step. -/
def stepsLeft (job : Job) : Nat :=
  2 * job.stagesLeft + job.folders.length

end Job

/-- The answer to a comparison whose report can be fetched under a name. -/
def reportResponse (name : String) (report : Json) : Response :=
  let named : List (String × Json) :=
    [("report_id", .text name), ("report_url", .text ("/download/report/" ++ name))]
  match report with
  | .object fields => ⟨200, some (.object (fields ++ named))⟩
  | j => ⟨200, some j⟩

namespace Desk

/-- A service at the start, without any reports. -/
def opened (s : Settings) (temporary : Place := ["tmp"]) : Desk :=
  { settings := s
    freeSlots := s.maxAnalyses.toNat
    temporary := temporary
    files := Shelf.opened temporary }

/-! ## Slots -/

/-- How many slots there are. -/
def slots (d : Desk) : Nat :=
  d.settings.maxAnalyses.toNat

/-- The service with one more slot taken, if one is free. -/
def takeSlot? (d : Desk) : Option Desk :=
  if d.freeSlots == 0 then none else some { d with freeSlots := d.freeSlots - 1 }

/-- The service with a slot given back. There are never more free slots than there are slots: one
too many is not accepted. -/
def giveBack? (d : Desk) : Option Desk :=
  if d.slots ≤ d.freeSlots then none else some { d with freeSlots := d.freeSlots + 1 }

/-! ## Requests -/

/-- The longest request in bytes: there is room for two archives. -/
def sizeLimit (d : Desk) : Int :=
  2 * d.settings.maxUploadBytes

/-- The answer to a request that is too long. -/
def tooLarge (d : Desk) : Response :=
  .error 413 ("Upload exceeds maximum allowed size: " ++ toString d.settings.maxUploadBytes ++
    " bytes")

/-- The answer where a file is missing. -/
def uploadsMissing : Response :=
  .error 400 "Both student and reference uploads (zip or .java) are required."

/-- The answer where all slots are taken. -/
def tooBusy : Response :=
  .error 429 "Too many analyses in progress, try again later."

/-- A request to compare is turned away with an answer, or admitted and takes a slot. -/
def enter (d : Desk) (f : Form) : Except Response Job × Desk :=
  if d.sizeLimit < Int.ofNat f.size then (.error d.tooLarge, d)
  else
    match uploadFor? f .student, uploadFor? f .reference with
    | some student, some reference =>
      match d.takeSlot? with
      | none => (.error tooBusy, d)
      | some d => (.ok { student, reference, threshold := f.value? "threshold" }, d)
    | _, _ => (.error uploadsMissing, d)

/-- The next step of a request that was admitted; `name` is the name for a new report. -/
def advance (d : Desk) (around : Surroundings) (name : String) (job : Job) : Job × Desk :=
  let limit := d.settings.maxUploadBytes
  match job.stage with
  | .admitted =>
    match d.settings.forRequest job.threshold with
    | .error e => (job.answer (GradingError.settings e).response, d)
    | .ok settings => ({ job with stage := .configured settings }, d)
  | .configured settings =>
    match d.files.newFolder? (homeIn d.temporary) "tmp" around.endings with
    | none => (job.answer GradingError.noName.response, d)
    | some (folder, files) =>
      ({ job with stage := .housed settings folder, folders := folder :: job.folders },
        { d with files := files })
  | .housed settings folder =>
    match saveUpload around d.temporary folder limit .student job.student d.files with
    | (.error e, files) => (job.answer e.response, { d with files := files })
    | (.ok student, files) =>
      ({ job with stage := .halfSaved settings folder student, folders := student :: job.folders },
        { d with files := files })
  | .halfSaved settings folder student =>
    match saveUpload around d.temporary folder limit .reference job.reference d.files with
    | (.error e, files) => (job.answer e.response, { d with files := files })
    | (.ok reference, files) =>
      ({ job with stage := .saved settings student reference, folders := reference :: job.folders },
        { d with files := files })
  | .saved settings student reference =>
    match gradeFolders settings around (d.files.folderAt student) (d.files.folderAt reference) with
    | .error e => (job.answer e.response, d)
    | .ok report => ({ job with stage := .graded report }, d)
  | .graded report =>
    ({ job with stage := .stored name report },
      { d with files := d.files.put (reportPlace d.temporary name) (.report (report.toJson .real)) })
  | .stored name report => (job.answer (reportResponse name (report.toJson .real)), d)
  | .answered response =>
    match d.giveBack? with
    | none => ({ job with stage := .stuck }, d)
    | some d => ({ job with stage := .leaving response }, d)
  | .leaving _ =>
    match job.folders with
    | [] => (job, d)
    | folder :: folders =>
      ({ job with folders := folders }, { d with files := d.files.remove folder })
  | .stuck => (job, d)

/-- Each step of a request that has no answer yet brings it closer to one. -/
theorem stepsLeft_advance_lt (d : Desk) (around : Surroundings) (name : String) {job : Job}
    (h : job.answer? = none) : (d.advance around name job).1.stepsLeft < job.stepsLeft := by
  obtain ⟨student, reference, threshold, stage, folders⟩ := job
  cases stage with
  | leaving response =>
    cases folders with
    | nil => simp [Job.answer?] at h
    | cons folder folders => simp [advance, Job.stepsLeft, Job.stagesLeft]
  | stuck => simp [Job.answer?] at h
  | graded | stored => simp [advance, Job.stepsLeft, Job.stagesLeft, Job.answer]
  | admitted | configured | housed | halfSaved | saved | answered =>
    simp only [advance]
    split <;> simp [Job.stepsLeft, Job.stagesLeft, Job.answer] <;> omega

/-- A request that was admitted is brought to its answer. -/
def conclude (d : Desk) (around : Surroundings) (name : String) (job : Job) : Response × Desk :=
  match _h : job.answer? with
  | some response => (response, d)
  | none =>
    let next := d.advance around name job
    next.2.conclude around name next.1
termination_by job.stepsLeft
decreasing_by exact d.stepsLeft_advance_lt around name _h

/-- A request to compare from its start to its end. -/
def compare (d : Desk) (around : Surroundings) (name : String) (f : Form) : Response × Desk :=
  match d.enter f with
  | (.error response, d) => (response, d)
  | (.ok job, d) => d.conclude around name job

/-- The answer to a request for a report. -/
def fetch (d : Desk) (name : String) : Response :=
  fetchFrom d.files d.temporary name

/-- The answer to a request; `name` is the name for a new report. -/
def answer (d : Desk) (around : Surroundings) (name : String) (path : String) (f : Form) :
    Response × Desk :=
  match routeOf path with
  | .health => (⟨200, some (.object [("status", .text "UP")])⟩, d)
  | .compare => d.compare around name f
  | .report id => (d.fetch id, d)
  | .unknown => (.nothing, d)

end Desk

end StructureGrader.Service
