import StructureGrader.Files.Scratch
import StructureGrader.Service.Exchange
import StructureGrader.Service.ReportId

/-!
# The shelf of reports

The service keeps everything of its own in one folder: the folders that it makes for requests, and
beside them the folder with the reports, each in a file that bears the name under which the report
is given out. A report is fetched by that name. The name is checked before any file is looked at, and
the file is then the one that the name leads to from the folder of the reports.
-/

namespace StructureGrader.Service

/-- The folder of the service, in the folder for temporary folders. -/
def homeIn (temporary : Place) : Place :=
  temporary ++ ["code_grader"]

/-- The folder of the reports. -/
def shelfIn (temporary : Place) : Place :=
  homeIn temporary ++ ["reports"]

/-- What is kept when the service starts and there are no reports. -/
def Shelf.opened (temporary : Place) : Scratch :=
  [(shelfIn temporary, .entry .empty), (homeIn temporary, .entry .empty)]

/-- The place to which a name leads from the folder of the reports. -/
def reportPlace (temporary : Place) (name : String) : Place :=
  (shelfIn temporary).join (name ++ ".json")

/-- The file that is looked at when a name is asked for, if any is. -/
def openedFor? (temporary : Place) (name : String) : Option Place :=
  if ReportId.isIssued name then some (reportPlace temporary name) else none

/-- The answer where a name stands for no report. -/
def noReport : Response :=
  .error 404 "No report available"

/-- The answer to a request for the report with a name. -/
def fetchFrom (s : Scratch) (temporary : Place) (name : String) : Response :=
  match openedFor? temporary name with
  | none => noReport
  | some place =>
    match s.at? place with
    | some (.report value) => ⟨200, some value⟩
    | some (.entry (.file bytes)) => ⟨200, (String.fromUTF8? bytes).bind Json.read?⟩
    | _ => noReport

end StructureGrader.Service
