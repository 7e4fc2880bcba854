import StructureGrader.Proofs.CommandLine.Written
import StructureGrader.Proofs.Service.Answered
import StructureGrader.Proofs.Settings.Accepted
import StructureGrader.Proofs.Text.Endings

/-!
# The command and the service grade alike

A command is given the files that a request sends, and both ask for the same threshold under the
same settings. Each compares what the files stand for by their names and bytes (`Submitted`),
although the two tell source files and archives by different rules, and read a source file where it
lies or alone in a folder (`Received.submitted`). So the command writes the report that the request
is answered with, apart from the fields that say where it can be fetched
(`SameSubmissions.sameReport`).

There are names for which the rules part (`Shown`): a source file with a hidden name counts where it lies
and not in a folder, and what bears the ending of archives for its whole name is an archive for the
service alone. With a hidden source file the two reports differ (`not_sameReport_hidden`).
-/

namespace StructureGrader

namespace Service

variable {u : Upload} {elements : List Element}

/-! ## Files that are sent -/

/-- The name of a file does not set it apart: it is not the ending of archives alone, and not that
of a hidden source file. -/
structure Shown (f : NamedFile) : Prop where
  archive : Text.lower f.name ≠ ".zip"
  source : f.suffix = sourceSuffix → isHiddenName f.name = false

/-- A file whose text ends so bears a name that does, and that is its suffix unless the name is
nothing else. -/
theorem Upload.suffix_of_endsIn {ending : String} {letters : List Char}
    (h : IsEnding ending letters) (hends : endsIn u.fileName ending = true) :
    endsIn u.file.name ending = true ∧ (u.file.suffix = ending ∨
      u.file.suffix = "" ∧ Text.lower u.file.name = ending ∧ isHiddenName u.file.name = true) := by
  obtain ⟨hname, hsuffix | ⟨hnone, hbare⟩⟩ := Path.suffix_of_endsIn h hends
  · exact ⟨hname, Or.inl hsuffix⟩
  · refine ⟨hname, Or.inr ⟨?_, hbare⟩⟩
    unfold NamedFile.suffix Upload.file
    rw [hnone]
    rfl

/-- A file that is received has a name. -/
theorem Received.isName (h : Received u elements) : IsName u.file.name := by
  obtain ⟨folder, hsaved, -⟩ := h
  have hends : endsIn u.file.name ".zip" = true ∨ endsIn u.file.name sourceSuffix = true := by
    cases hsaved with
    | archive ends => exact Or.inl (Upload.suffix_of_endsIn isEnding_zip ends).1
    | source ends => exact Or.inr (Upload.suffix_of_endsIn isEnding_source ends).1
  refine ⟨?_, ?_⟩ <;>
    · intro hname
      rw [hname] at hends
      revert hends
      decide

/-- A file that is received stands for the elements that its name and its bytes say, if the name
does not set it apart. -/
theorem Received.submitted (h : Received u elements) (hshown : Shown u.file) :
    Submitted u.file elements := by
  obtain ⟨folder, hsaved, hread⟩ := h
  cases hsaved with
  | archive ends extracted =>
    obtain ⟨-, hsuffix | ⟨-, hbare, -⟩⟩ := Upload.suffix_of_endsIn isEnding_zip ends
    · exact .archive hsuffix extracted hread
    · exact absurd hbare hshown.archive
  | source ends =>
    obtain ⟨hname, hcases⟩ := Upload.suffix_of_endsIn isEnding_source ends
    rw [elementsIn_file hname, Except.ok.injEq] at hread
    obtain hsuffix | ⟨hnone, -, hhidden⟩ := hcases
    · rw [hshown.source hsuffix, if_neg Bool.false_ne_true] at hread
      rw [← hread]
      exact .source hsuffix
    · rw [hhidden, if_pos rfl] at hread
      rw [← hread]
      exact .other (hnone ▸ by decide) (hnone ▸ by decide)

/-- A hidden source file that is received counts for nothing. -/
theorem Received.eq_nil_of_hidden (h : Received u elements)
    (hplain : endsIn u.fileName ".zip" = false) (hhidden : isHiddenName u.file.name = true) :
    elements = [] := by
  obtain ⟨folder, hsaved, hread⟩ := h
  cases hsaved with
  | archive ends =>
    rw [hplain] at ends
    cases ends
  | source ends =>
    rw [elementsIn_file (Upload.suffix_of_endsIn isEnding_source ends).1, hhidden, if_pos rfl,
      Except.ok.injEq] at hread
    exact hread.symm

/-! ## Answers with a report -/

/-- The fields of an answer that say where its report can be fetched. -/
def reportLinks (name : String) : List (String × Json) :=
  [("report_id", .text name), ("report_url", .text ("/download/report/" ++ name))]

/-- The body of an answer with a report is that of the report with the fields for fetching it behind
its own. -/
theorem body_reportResponse (name : String) (report : Report Float) :
    ∃ fields, report.toJson .real = .object fields ∧
      (reportResponse name (report.toJson .real)).body = some (.object (fields ++ reportLinks name)) :=
  ⟨_, rfl, rfl⟩

end Service

/-! ## The same threshold -/

/-- The threshold that a request asks for, if any. -/
def Service.askedThreshold? (form : Service.Form) : Option Float :=
  match form.value? "threshold" with
  | none => none
  | some text => if text == "" then none else Number.realNumber? text

/-- A command and a request that ask for the same threshold have the same. -/
theorem threshold_eq {around : CommandLine.Surroundings} {a : CommandLine.Arguments}
    {form : Service.Form} {s settings settings' : Settings}
    (hgeneral : Settings.ofEnvironment around.environment = .ok s)
    (hsame : a.threshold = Service.askedThreshold? form)
    (h : CommandLine.settingsFor around a = .ok settings)
    (h' : s.forRequest (form.value? "threshold") = .ok settings') :
    settings.threshold = settings'.threshold := by
  have hrange : s.InRange := (Settings.ofEnvironment_eq_ok_iff.1 hgeneral).2
  obtain ⟨general, hgeneral', hoverride⟩ := bind_eq_ok_iff.1 h
  rw [hgeneral, Except.ok.injEq] at hgeneral'
  subst hgeneral'
  obtain ⟨rfl, -⟩ := Settings.override_eq_ok_iff.1 hoverride
  obtain ⟨hasked, -⟩ := (Settings.forRequest_eq_ok_iff hrange).1 h'
  unfold Settings.replaced
  unfold Service.askedThreshold? at hsame
  cases hvalue : form.value? "threshold" with
  | none =>
    rw [hvalue] at hsame hasked
    rw [hsame, hasked]
    rfl
  | some text =>
    rw [hvalue] at hsame hasked
    rw [Settings.AskedFor] at hasked
    by_cases hempty : text = ""
    · rw [if_pos hempty] at hasked
      rw [hsame, hasked, hempty]
      rfl
    · rw [if_neg hempty] at hasked
      obtain ⟨x, hx, rfl⟩ := hasked
      dsimp only at hsame
      rw [beq_false_of_ne hempty, if_neg Bool.false_ne_true, hx] at hsame
      rw [hsame]
      rfl

/-- A command that asks for a threshold has it. -/
theorem threshold_of_asked {around : CommandLine.Surroundings} {a : CommandLine.Arguments}
    {settings : Settings} {x : Float} (h : CommandLine.settingsFor around a = .ok settings)
    (hasked : a.threshold = some x) : settings.threshold = .real x := by
  obtain ⟨general, -, hoverride⟩ := bind_eq_ok_iff.1 h
  obtain ⟨rfl, -⟩ := Settings.override_eq_ok_iff.1 hoverride
  unfold Settings.replaced
  rw [hasked]
  rfl

/-! ## The same report -/

/-- The file at a path is sent for a side, under the same name. -/
structure SentAs (files : Disk) (path : String) (form : Service.Form) (side : Service.Side)
    (u : Service.Upload) : Prop where
  sent : Service.uploadFor? form side = some u
  found : FileAt files (.ofText path) u.file

/-- What a command has written where it is asked for a report is the value that a request is
answered with, apart from the fields that say where that can be fetched. -/
def SameReport (after : Disk) (place : Place) (name : String) (answer : Service.Response) : Prop :=
  ∃ fields, after.root.within? place = some (.file (Json.object fields).indented.toUTF8) ∧
    answer.body = some (.object (fields ++ Service.reportLinks name))

/-- A command and a request that name the same two files, under the same settings and with the same
threshold, and that both come to a report. -/
structure SameSubmissions (around : CommandLine.Surroundings) (words : List String)
    (a : CommandLine.Arguments) (out : String) (d : Service.Desk) (here : Service.Surroundings)
    (name : String) (form : Service.Form) (student reference : Service.Upload) : Prop where
  read : CommandLine.argumentsOf words = .ok a
  well : (CommandLine.perform around words).ending.exitCode = 0
  json : a.json = some out
  out_ne : out ≠ ""
  /-- The page, if there is one, is not written over the report. -/
  page : ∀ page, a.html = some page → page ≠ "" →
    around.files.placeOf (.ofText page) ≠ around.files.placeOf (.ofText out)
  answered : (d.compare here name form).1.status = 200
  settings : Settings.ofEnvironment around.environment = .ok d.settings
  threshold : a.threshold = Service.askedThreshold? form
  student : SentAs around.files a.student form .student student
  reference : SentAs around.files a.reference form .reference reference

section Agreement

variable {around : CommandLine.Surroundings} {words : List String} {a : CommandLine.Arguments}
  {out : String} {d : Service.Desk} {here : Service.Surroundings} {name : String}
  {form : Service.Form} {student reference : Service.Upload}

/-- What the command has compared and written, and what the request has compared and is answered. -/
theorem SameSubmissions.reports
    (h : SameSubmissions around words a out d here name form student reference) :
    ∃ settings result settings' result', CommandLine.settingsFor around a = .ok settings ∧
      settings.threshold = settings'.threshold ∧
      Assessed settings around.clock (Submitted student.file) (Submitted reference.file) result ∧
      Assessed settings' here.clock (Service.Received student) (Service.Received reference) result' ∧
      (CommandLine.perform around words).files.root.within? (around.files.placeOf (.ofText out)) =
        some (.file (CommandLine.jsonText result.report).toUTF8) ∧
      (d.compare here name form).1 = Service.reportResponse name (result'.report.toJson .real) := by
  obtain ⟨u, v, settings', result', hsent, hsent', hasked', hassessed', hanswer⟩ :=
    Service.compare_reported h.answered
  rw [h.student.sent, Option.some.injEq] at hsent
  rw [h.reference.sent, Option.some.injEq] at hsent'
  subst hsent hsent'
  obtain ⟨students, references, hreceived, hreceived', hcompared⟩ := hassessed'
  obtain ⟨settings, result, hasked, hassessed, hwritten⟩ :=
    CommandLine.perform_written h.read h.well h.json h.out_ne h.page h.student.found
      hreceived.isName h.reference.found hreceived'.isName
  exact ⟨settings, result, settings', result', hasked,
    threshold_eq h.settings h.threshold hasked hasked', hassessed,
    ⟨students, references, hreceived, hreceived', hcompared⟩, hwritten, hanswer⟩

/-- Where the report that is written is the one that the request is answered with, the two reports
have the same text. -/
theorem SameSubmissions.jsonText_eq
    (h : SameSubmissions around words a out d here name form student reference)
    (hsame : SameReport (CommandLine.perform around words).files
      (around.files.placeOf (.ofText out)) name (d.compare here name form).1) :
    ∃ settings result settings' result', CommandLine.settingsFor around a = .ok settings ∧
      settings.threshold = settings'.threshold ∧
      Assessed settings around.clock (Submitted student.file) (Submitted reference.file) result ∧
      Assessed settings' here.clock (Service.Received student) (Service.Received reference) result' ∧
      CommandLine.jsonText result.report = CommandLine.jsonText result'.report := by
  obtain ⟨settings, result, settings', result', hasked, hthreshold, hassessed, hassessed', hwritten,
    hanswer⟩ := h.reports
  refine ⟨settings, result, settings', result', hasked, hthreshold, hassessed, hassessed', ?_⟩
  obtain ⟨fields, hfile, hbody⟩ := hsame
  obtain ⟨fields', hfields, hbody'⟩ := Service.body_reportResponse name result'.report
  rw [hwritten, Option.some.injEq, Entry.file.injEq] at hfile
  rw [hanswer, hbody', Option.some.injEq, Json.object.injEq, List.append_cancel_right_eq] at hbody
  rw [← hbody, ← hfields] at hfile
  exact String.toByteArray_inj.1 hfile

/-- A command and a request on the same two files come to the same report, whatever the names and
the bytes of these are and however the time passes, unless a name sets its file apart. -/
theorem SameSubmissions.sameReport
    (h : SameSubmissions around words a out d here name form student reference)
    (hshown : Service.Shown student.file) (hshown' : Service.Shown reference.file) :
    SameReport (CommandLine.perform around words).files (around.files.placeOf (.ofText out)) name
      (d.compare here name form).1 := by
  obtain ⟨settings, result, settings', result', -, hthreshold, hassessed, hassessed', hwritten,
    hanswer⟩ := h.reports
  have hsubmitted := hassessed'.mono (fun _ hreceived => hreceived.submitted hshown)
    fun _ hreceived => hreceived.submitted hshown'
  obtain rfl := hassessed.unique hthreshold hsubmitted
  obtain ⟨fields, hfields, hbody⟩ := Service.body_reportResponse name result.report
  refine ⟨fields, ?_, ?_⟩
  · rw [hwritten, CommandLine.jsonText, hfields]
  · rw [hanswer, hbody]

end Agreement

/-- An archive with one source file. -/
def sampleArchive : ByteArray :=
  ⟨#[0x50, 0x4b, 0x03, 0x04, 0x14, 0x00, 0x00, 0x00, 0x00, 0x00, 0x83, 0x18, 0x22, 0x50, 0x49, 0x4b,
    0x21, 0x17, 0x0a, 0x00, 0x00, 0x00, 0x0a, 0x00, 0x00, 0x00, 0x06, 0x00, 0x00, 0x00, 0x41, 0x2e,
    0x6a, 0x61, 0x76, 0x61, 0x63, 0x6c, 0x61, 0x73, 0x73, 0x20, 0x41, 0x20, 0x7b, 0x7d, 0x50, 0x4b,
    0x01, 0x02, 0x14, 0x03, 0x14, 0x00, 0x00, 0x00, 0x00, 0x00, 0x83, 0x18, 0x22, 0x50, 0x49, 0x4b,
    0x21, 0x17, 0x0a, 0x00, 0x00, 0x00, 0x0a, 0x00, 0x00, 0x00, 0x06, 0x00, 0x00, 0x00, 0x00, 0x00,
    0x00, 0x00, 0x00, 0x00, 0x00, 0x00, 0xa4, 0x01, 0x00, 0x00, 0x00, 0x00, 0x41, 0x2e, 0x6a, 0x61,
    0x76, 0x61, 0x50, 0x4b, 0x05, 0x06, 0x00, 0x00, 0x00, 0x00, 0x01, 0x00, 0x01, 0x00, 0x34, 0x00,
    0x00, 0x00, 0x2e, 0x00, 0x00, 0x00, 0x00, 0x00]⟩

/-- A source file with one class. -/
def sampleSource : ByteArray := "class A { }".toUTF8

/-- What a command finds around it that is to compare a submission with a source file. -/
def aroundSample (student : String) (bytes : ByteArray) : CommandLine.Surroundings :=
  { files := ⟨.folder [(student, .file bytes), ("r", .folder [("A.java", .file sampleSource)])], []⟩
    environment := []
    clock := fun _ => 0 }

/-- The words of a command that compares them. -/
def wordsOfSample (student : String) : List String :=
  [student, "r/A.java", "--threshold", "0.5", "--json", "o"]

def argumentsOfSample (student : String) : CommandLine.Arguments :=
  { student := student, reference := "r/A.java", threshold := some 0.5, timeout := none,
    json := some "o", html := none }

/-- A request that sends the same two files. -/
def formOfSample (student : String) (bytes : ByteArray) : Service.Form :=
  { uploads := [("student_file", ⟨student, bytes⟩), ("reference_file", ⟨"A.java", sampleSource⟩)]
    values := [("threshold", "0.5")]
    size := 400 }

/-- The command and the request are on the same two files if both come to a report. -/
theorem sameSubmissions_sample {student : String} {bytes : ByteArray}
    (read : CommandLine.argumentsOf (wordsOfSample student) = .ok (argumentsOfSample student))
    (well : (CommandLine.perform (aroundSample student bytes) (wordsOfSample student)).ending.exitCode =
      0)
    (answered : ((Service.Desk.opened .default).compare { clock := fun _ => 1 } "name"
      (formOfSample student bytes)).1.status = 200)
    (hstudent : SentAs (aroundSample student bytes).files student (formOfSample student bytes) .student
      ⟨student, bytes⟩)
    (hreference : SentAs (aroundSample student bytes).files "r/A.java" (formOfSample student bytes)
      .reference ⟨"A.java", sampleSource⟩) :
    SameSubmissions (aroundSample student bytes) (wordsOfSample student) (argumentsOfSample student) "o"
      (.opened .default) { clock := fun _ => 1 } "name" (formOfSample student bytes)
      ⟨student, bytes⟩ ⟨"A.java", sampleSource⟩ where
  read := read
  well := well
  json := rfl
  out_ne := by decide
  page := nofun
  answered := answered
  settings := rfl
  threshold :=
    have hread : some (0.5 : Float) = Number.realNumber? "0.5" := by decide +kernel
    hread
  student := hstudent
  reference := hreference

/-- On an archive and a source file the command and the service come to the same report. -/
theorem sameReport_sample : SameReport
    (CommandLine.perform (aroundSample "s.zip" sampleArchive) (wordsOfSample "s.zip")).files
    ((aroundSample "s.zip" sampleArchive).files.placeOf (.ofText "o")) "name"
    ((Service.Desk.opened .default).compare { clock := fun _ => 1 } "name"
      (formOfSample "s.zip" sampleArchive)).1 :=
  SameSubmissions.sameReport
    (sameSubmissions_sample rfl (by decide +kernel) (by decide +kernel) ⟨rfl, rfl, rfl⟩
      ⟨rfl, rfl, rfl⟩)
    ⟨by decide, by decide⟩ ⟨by decide, by decide⟩

/-! ## Names that set files apart -/

/-- An object starts with its first field. -/
theorem Json.indented_cons (name : String) (value : Json) (fields : List (String × Json)) :
    ∃ rest, (Json.object ((name, value) :: fields)).indented =
      "\x7b" ++ newLine 1 ++ quoted isPastAscii name ++ ": " ++ (indentedAt 1 value ++ rest) := by
  refine ⟨indentedFields 1 fields ++ newLine 0 ++ "\x7d", ?_⟩
  rw [indented, indentedAt]
  simp only [String.append_assoc]

/-- Reports that are written alike are so from their first number on. -/
theorem CommandLine.overall_of_jsonText_eq {r r' : Report Float} (h : jsonText r = jsonText r') :
    ∃ rest rest',
      Json.realText r.metrics.overall ++ rest = Json.realText r'.metrics.overall ++ rest' := by
  obtain ⟨rest, hrest⟩ := Json.indented_cons "overall_similarity" (.real r.metrics.overall) _
  obtain ⟨rest', hrest'⟩ := Json.indented_cons "overall_similarity" (.real r'.metrics.overall) _
  have htext : jsonText r = _ := hrest
  have htext' : jsonText r' = _ := hrest'
  rw [htext, htext', String.append_right_inj] at h
  exact ⟨rest, rest', h⟩

/-- A comparison without a submission finds nothing alike. -/
theorem overall_of_nil {threshold : Float} {w : Watch} {references : List Element}
    {a : Assessment Float} (h : assess threshold w [] references = .ok a) :
    a.report.metrics.overall = ScoreNumber.zero := by
  unfold assess at h
  dsimp only at h
  split at h
  · cases h
  rename_i summary after hcompare
  obtain ⟨-, hsummary, -⟩ := Session.compare_eq_ok.1 hcompare
  rw [Except.ok.injEq] at h
  have hoverall : a.report.metrics.overall = summary.overall := by
    rw [← h]
    rfl
  rw [hoverall, ← hsummary]
  unfold Matcher.summarize overallSimilarity
  simp

/-- The elements of the sample source file, alone and hidden, are found alike. -/
theorem overall_of_sample {w : Watch} {a : Assessment Float}
    (h : assess 0.5 w (elementsOfFile sampleSource ".A.java")
      (elementsOfFile sampleSource "A.java") = .ok a) : a.report.metrics.overall = 1 := by
  have hsample : (assess 0.5 {} (elementsOfFile sampleSource ".A.java")
      (elementsOfFile sampleSource "A.java")).toOption.map (·.report.metrics.overall) =
        some 1 := by
    decide +kernel
  cases hassess : assess (0.5 : Float) {} (elementsOfFile sampleSource ".A.java")
      (elementsOfFile sampleSource "A.java") with
  | error stop =>
    rw [hassess] at hsample
    cases hsample
  | ok a' =>
    rw [hassess] at hsample
    rw [assess_unique h hassess]
    exact Option.some.inj hsample

/-- A hidden source file counts where it lies, and not when it is sent: the report that is written
and the answer differ. -/
theorem not_sameReport_hidden :
    SameSubmissions (aroundSample ".A.java" sampleSource) (wordsOfSample ".A.java")
        (argumentsOfSample ".A.java") "o" (.opened .default) { clock := fun _ => 1 } "name"
        (formOfSample ".A.java" sampleSource) ⟨".A.java", sampleSource⟩ ⟨"A.java", sampleSource⟩ ∧
      ¬ SameReport
        (CommandLine.perform (aroundSample ".A.java" sampleSource) (wordsOfSample ".A.java")).files
        ((aroundSample ".A.java" sampleSource).files.placeOf (.ofText "o")) "name"
        ((Service.Desk.opened .default).compare { clock := fun _ => 1 } "name"
          (formOfSample ".A.java" sampleSource)).1 := by
  have hhere := @sameSubmissions_sample ".A.java" sampleSource rfl
    (by decide +kernel) (by decide +kernel) ⟨rfl, rfl, rfl⟩ ⟨rfl, rfl, rfl⟩
  refine ⟨hhere, fun hsame => ?_⟩
  obtain ⟨settings, result, settings', result', hasked, -, ⟨students, references, hstudents, hreferences,
    hcompared⟩, ⟨received, received', hreceived, -, hcompared'⟩, htext⟩ := hhere.jsonText_eq hsame
  have hone : result.report.metrics.overall = 1 := by
    have hname : Service.Upload.file ⟨".A.java", sampleSource⟩ = ⟨".A.java", sampleSource⟩ := rfl
    have hname' : Service.Upload.file ⟨"A.java", sampleSource⟩ = ⟨"A.java", sampleSource⟩ := rfl
    rw [hname] at hstudents
    rw [hname'] at hreferences
    have hown := hstudents.unique (.source (by decide))
    have hown' := hreferences.unique (.source (by decide))
    unfold assessUnder at hcompared
    rw [threshold_of_asked hasked rfl, hown, hown'] at hcompared
    exact overall_of_sample hcompared
  have hzero : result'.report.metrics.overall = ScoreNumber.zero := by
    obtain rfl := hreceived.eq_nil_of_hidden (by decide) (by decide)
    unfold assessUnder at hcompared'
    exact overall_of_nil hcompared'
  -- The two texts part at the first digit of the first number.
  obtain ⟨rest, rest', hrest⟩ := CommandLine.overall_of_jsonText_eq htext
  have hdigits : Json.realText 1 = "1.0" ∧ Json.realText ScoreNumber.zero = "0.0" := by
    decide +kernel
  rw [hone, hzero, hdigits.1, hdigits.2] at hrest
  have hchars := congrArg (fun s => s.toList.head?) hrest
  simp at hchars

end StructureGrader
