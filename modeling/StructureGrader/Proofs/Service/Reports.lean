import StructureGrader.Proofs.Files.Places
import StructureGrader.Proofs.Files.Scratch
import StructureGrader.Proofs.Service.ReportId
import StructureGrader.Proofs.Service.Story

/-!
# Every comparison keeps its own report

Reports lie in a folder of their own, and nothing else that requests make lies there or around them:
the folders for what is sent lie beside that folder, and those for archives beside the folder of the
service (`Apart`). So whatever requests store and take away, under a name there is the report that was
stored there last (`Shelved`), in every run (`run_shelved`). As no name is given out twice that is the
report of one request, and what is fetched is the answer to that request without the name of the
report (`run_keepsReports`).
-/

namespace StructureGrader

/-! ## Places of reports -/

namespace Service

open ReportId (Canonical)

/-- A report lies in the folder of reports, in the file that bears its name. -/
theorem reportPlace_of_canonical {id : String} (h : Canonical id) (temporary : Place) :
    reportPlace temporary id = shelfIn temporary ++ [id ++ ".json"] := by
  have hdigits : '/' ∉ ReportId.digits := by decide
  have hchars : (id ++ ".json").toList = id.toList ++ ['.', 'j', 's', 'o', 'n'] :=
    String.toList_append
  have hslash : '/' ∉ (id ++ ".json").toList := by
    rw [hchars, List.mem_append]
    rintro (hmem | hmem)
    · exact hdigits (h.2 _ hmem)
    · revert hmem
      decide
  have hlength : (id ++ ".json").toList.length = 37 := by
    rw [hchars, List.length_append, h.1]
    rfl
  have hne : ∀ s : String, s.toList.length ≠ 37 → id ++ ".json" ≠ s := by
    rintro s hs rfl
    exact hs hlength
  exact Place.join_component ⟨hne "" (by decide), hne "." (by decide), hne ".." (by decide), hslash⟩ _

/-- Different names have different places. -/
theorem reportPlace_injective {id other : String} (h : Canonical id) (hother : Canonical other)
    {temporary : Place} (heq : reportPlace temporary id = reportPlace temporary other) :
    id = other := by
  rw [reportPlace_of_canonical h, reportPlace_of_canonical hother] at heq
  have hname : id ++ ".json" = other ++ ".json" := by simpa using heq
  have hchars := congrArg String.toList hname
  rw [String.toList_append, String.toList_append] at hchars
  exact String.toList_inj.1 (List.append_cancel_right hchars)

/-! ## Places apart from reports -/

/-- A place at which and below which no report lies. -/
def Apart (temporary place : Place) : Prop :=
  ∀ file, ¬ place <+: shelfIn temporary ++ [file]

/-- What lies below a place apart from reports is apart from them. -/
theorem Apart.append {temporary place : Place} (h : Apart temporary place) (more : Place) :
    Apart temporary (place ++ more) := by
  intro file hprefix
  exact h file ((List.prefix_append place more).trans hprefix)

/-- A place apart from reports is not that of a report. -/
theorem Apart.ne {temporary place : Place} (h : Apart temporary place) (file : String) :
    place ≠ shelfIn temporary ++ [file] := by
  rintro rfl
  exact h file (List.prefix_refl _)

/-- No report lies below a folder that bears another name than the one on the way to the reports. -/
theorem apart_beside {temporary parent more : Place} {name child : String}
    (hshelf : shelfIn temporary = parent ++ child :: more) (hname : name ≠ child) :
    Apart temporary (parent ++ [name]) := by
  intro file hprefix
  rw [hshelf, List.append_assoc, List.prefix_append_right_inj, List.cons_append,
    List.cons_prefix_cons] at hprefix
  exact hname hprefix.1

/-- A folder for what is sent lies beside that of the reports. -/
theorem apart_home (temporary : Place) (ending : String) :
    Apart temporary (homeIn temporary ++ ["tmp" ++ ending]) := by
  refine apart_beside rfl fun hname => ?_
  have hchars := congrArg String.toList hname
  rw [String.toList_append] at hchars
  cases hchars

/-- A folder for an archive lies beside that of the service. -/
theorem apart_extraction (temporary : Place) (ending : String) :
    Apart temporary (temporary ++ ["grader_" ++ ending]) := by
  refine apart_beside (List.append_assoc ..) fun hname => ?_
  have hchars := congrArg String.toList hname
  rw [String.toList_append] at hchars
  cases hchars

/-- What becomes of an archive leaves the reports alone. -/
theorem at?_unpacking {host : Host} {temporary : Place} {s after : Scratch} {endings : Nat → String}
    {archive : Except UnpackError ByteArray} {result : Except ExtractionError Place}
    (h : s.Unpacking host temporary endings archive result after) (file : String) :
    after.at? (shelfIn temporary ++ [file]) = s.at? (shelfIn temporary ++ [file]) := by
  cases h with
  | noName | refused => rfl
  | unpacked made | failed made =>
    obtain ⟨i, named, -, -⟩ := Scratch.newFolder?_eq_some made
    apply Scratch.at?_cons_of_ne
    rw [named]
    exact (apart_extraction temporary _).ne file

section Saving

variable {around : Surroundings} {temporary folder : Place} {side : Side} {upload : Upload}
  {s after : Scratch} {result : Except GradingError Place}

/-- To save what is sent leaves the reports alone. -/
theorem at?_saving (h : Apart temporary folder)
    (hsaving : Saving around temporary folder side upload s result after) (file : String) :
    after.at? (shelfIn temporary ++ [file]) = s.at? (shelfIn temporary ++ [file]) := by
  have hput : ∀ (name : String) (x : Kept),
      (s.put (folder ++ [name]) x).at? (shelfIn temporary ++ [file]) =
        s.at? (shelfIn temporary ++ [file]) := fun name x =>
    Scratch.at?_put_of_ne ((h.append [name]).ne file)
  cases hsaving with
  | notChecked | notSaved | saved => exact hput _ _
  | notUnpacked unpacking | unpacked unpacking => exact (at?_unpacking unpacking file).trans (hput _ _)
  | otherKind => rfl

/-- The sources that are sent are then in a folder that lies apart from the reports. -/
theorem apart_saving {place : Place} (h : Apart temporary folder)
    (hsaving : Saving around temporary folder side upload s (.ok place) after) :
    Apart temporary place := by
  cases hsaving with
  | saved => exact h.append _
  | unpacked unpacking =>
    cases unpacking with
    | unpacked made =>
      obtain ⟨i, named, -, -⟩ := Scratch.newFolder?_eq_some made
      rw [named]
      exact apart_extraction temporary _

end Saving

/-! ## What is stored last -/

/-- The report that a note says is stored under a name. -/
def Note.storedAs? (id : String) : Note → Option (Report Float)
  | .stored _ name report => if name = id then some report else none
  | _ => none

/-- The report that is stored last under a name; the last note is the first one. -/
def latest? (log : List Note) (id : String) : Option (Report Float) :=
  log.findSome? (Note.storedAs? id)

/-- The answer to whoever asks for a report after some notes. -/
def fetchAnswer (log : List Note) (id : String) : Response :=
  match latest? log id with
  | some report => ⟨200, some (report.toJson .real)⟩
  | none => noReport

/-- The last entry under an id is in the newer notes or, failing these, in the older ones. -/
theorem latest?_append (new log : List Note) (id : String) :
    latest? (new ++ log) id = (latest? new id).or (latest? log id) :=
  List.findSome?_append

/-- That a request is answered is no note of a report. -/
theorem latest?_answered (n : Nat) (r : Option Response) (id : String) :
    latest? (r.map (Note.answered n)).toList id = none := by
  cases r with
  | none => rfl
  | some r => rfl

/-- Where no note says that a report is stored under a name, there is none. -/
theorem latest?_eq_none {log : List Note} {id : String}
    (h : ∀ n report, .stored n id report ∉ log) : latest? log id = none := by
  unfold latest?
  rw [List.findSome?_eq_none_iff]
  intro note hnote
  unfold Note.storedAs?
  split
  · rename_i n name report
    rw [if_neg]
    rintro rfl
    exact h n report hnote
  · rfl

/-- Where the notes on a name are all the same, the report that is stored last is theirs. -/
theorem latest?_eq_some {log : List Note} {id : String} {n : Nat} {report : Report Float}
    (h : .stored n id report ∈ log)
    (hsame : ∀ m other, .stored m id other ∈ log → other = report) :
    latest? log id = some report := by
  cases hlatest : latest? log id with
  | none =>
    unfold latest? at hlatest
    rw [List.findSome?_eq_none_iff] at hlatest
    have hnone := hlatest _ h
    simp [Note.storedAs?] at hnone
  | some other =>
    obtain ⟨note, hnote, hstored⟩ := List.exists_of_findSome?_eq_some hlatest
    unfold Note.storedAs? at hstored
    split at hstored
    · rename_i m name report'
      split at hstored
      · rename_i hname
        subst hname
        cases hstored
        rw [hsame m other hnote]
      · cases hstored
    · cases hstored

/-! ## The shelf -/

/-- The folders of a request lie apart from the reports, and it saves what is sent in one of them.
-/
structure Job.LiesApart (temporary : Place) (job : Job) : Prop where
  folders : ∀ folder ∈ job.folders, Apart temporary folder
  home : ∀ folder ∈ job.stage.home?, folder ∈ job.folders

/-- A request that has its answer saves nothing more. -/
theorem Job.LiesApart.answer {temporary : Place} {job : Job} (h : job.LiesApart temporary)
    (r : Response) : (job.answer r).LiesApart temporary := by
  refine ⟨h.folders, ?_⟩
  rintro folder hhome
  cases hhome

section Advance

variable {d desk : Desk} {around : Surroundings} {name : String} {job after : Job}

/-- The folders of a request still lie apart from the reports after a step. -/
theorem Advance.liesApart (hstep : Advance d around name job after desk)
    (hjob : job.LiesApart d.temporary) : after.LiesApart d.temporary := by
  cases hstep with
  | @house settings folder files stage made =>
    obtain ⟨i, hfolder, -, -⟩ := Scratch.newFolder?_eq_some made
    have hapart : Apart d.temporary folder := by
      rw [hfolder]
      exact apart_home d.temporary (around.endings i)
    refine ⟨List.forall_mem_cons.2 ⟨hapart, hjob.folders⟩, ?_⟩
    intro home hhome
    rw [← Option.mem_some.1 hhome]
    exact List.mem_cons_self
  | @save side next folder place files stage saving isOpen home =>
    have hhome : folder ∈ job.folders := hjob.home folder stage
    have hplace : Apart d.temporary place := apart_saving (hjob.folders folder hhome) saving
    refine ⟨List.forall_mem_cons.2 ⟨hplace, hjob.folders⟩, ?_⟩
    intro other hother
    rw [home other hother]
    exact List.mem_cons_of_mem _ hhome
  | @clear response folder folders stage left =>
    have hfolders := hjob.folders
    rw [left] at hfolders
    exact ⟨(List.forall_mem_cons.1 hfolders).2, fun _ h => by cases h⟩
  | answer | fail | failSaving => exact hjob.answer _
  | configure | grade | store | giveBack | stick => exact ⟨hjob.folders, fun _ h => by cases h⟩

/-- With the notes of a step the shelf changes as the notes say. -/
theorem Advance.at?_reportPlace (hstep : Advance d around name job after desk)
    (hname : Canonical name) (hjob : job.LiesApart d.temporary) (n : Nat) {id : String}
    (hid : Canonical id) :
    desk.files.at? (reportPlace d.temporary id) =
      ((latest? (job.stage.notes n after.stage) id).map fun r =>
        Kept.report (r.toJson .real)).or (d.files.at? (reportPlace d.temporary id)) := by
  cases hstep with
  | configure stage | answer stage | giveBack stage | stick stage =>
    rw [stage]
    rfl
  | grade stage | fail _ stage =>
    rw [Stage.notes_of_isOpen stage]
    rfl
  | @house settings folder files stage made =>
    obtain ⟨i, hfolder, -, rfl⟩ := Scratch.newFolder?_eq_some made
    rw [stage, reportPlace_of_canonical hid]
    apply Scratch.at?_cons_of_ne
    rw [hfolder]
    exact (apart_home d.temporary (around.endings i)).ne _
  | save stage saving | failSaving stage saving =>
    -- Uploads go below the folder of the request, where no report lies.
    have hapart := hjob.folders _ (hjob.home _ stage)
    rw [Stage.notes_of_isOpen (Stage.isOpen_of_home stage), reportPlace_of_canonical hid]
    exact at?_saving hapart saving _
  | @store report stage =>
    rw [stage]
    have hlatest : latest? [.stored n name report] id = if name = id then some report else none := by
      unfold latest?
      rw [List.findSome?_singleton]
      rfl
    show _ = ((latest? [.stored n name report] id).map _).or _
    rw [hlatest]
    by_cases hsame : name = id
    · subst hsame
      rw [if_pos rfl]
      exact Scratch.at?_put_self _ _ _
    · rw [if_neg hsame]
      exact Scratch.at?_put_of_ne fun heq => hsame (reportPlace_injective hname hid heq)
  | @clear response folder folders stage left =>
    have hmem : folder ∈ job.folders := by
      rw [left]
      exact List.mem_cons_self
    have hfolder : Apart d.temporary folder := hjob.folders folder hmem
    rw [stage, reportPlace_of_canonical hid]
    exact Scratch.at?_remove (hfolder _)

end Advance

/-- Under every name that can be given out there is the report that was stored last, and every
request that asked for a report was answered with the one that was stored last by then. -/
structure Shelved (temporary : Place) (t : Traffic) : Prop where
  folder : t.desk.temporary = temporary
  given : ∀ n id report, .stored n id report ∈ t.log → Canonical id
  shelf : ∀ id, Canonical id → t.desk.files.at? (reportPlace temporary id) =
    (latest? t.log id).map fun r => .report (r.toJson .real)
  apart : ∀ n job, t.job? n = some job → job.LiesApart temporary
  told : ∀ later id r earlier, t.log = later ++ .fetched id r :: earlier →
    r = fetchAnswer earlier id

/-- What is fetched is the report that was stored last. -/
theorem Shelved.fetch {temporary : Place} {t : Traffic} (h : Shelved temporary t) (id : String) :
    t.desk.fetch id = fetchAnswer t.log id := by
  unfold Desk.fetch fetchFrom openedFor? fetchAnswer
  rw [h.folder]
  by_cases hid : Canonical id
  · rw [(ReportId.isIssued_iff id).2 hid, if_pos rfl]
    dsimp only
    rw [h.shelf id hid]
    cases latest? t.log id with
    | none => rfl
    | some report => rfl
  · have hissued : ReportId.isIssued id = false :=
      Bool.eq_false_iff.2 fun hissued => hid ((ReportId.isIssued_iff id).1 hissued)
    have hnone : latest? t.log id = none :=
      latest?_eq_none fun n report hstored => hid (h.given n id report hstored)
    rw [hissued, if_neg Bool.false_ne_true, hnone]

/-- Notes that are not on a request for a report leave those on such requests as they are. -/
theorem told_append {new log : List Note} (hnew : ∀ id r, .fetched id r ∉ new)
    (htold : ∀ later id r earlier, log = later ++ .fetched id r :: earlier →
      r = fetchAnswer earlier id) :
    ∀ later id r earlier, new ++ log = later ++ .fetched id r :: earlier →
      r = fetchAnswer earlier id := by
  induction new with
  | nil => exact htold
  | cons note new ih =>
    intro later id r earlier heq
    cases later with
    | nil =>
      obtain ⟨rfl, -⟩ := List.cons.inj heq
      exact absurd List.mem_cons_self (hnew id r)
    | cons first later =>
      exact ih (fun id r h => hnew id r (List.mem_cons_of_mem _ h)) later id r earlier
        (List.cons.inj heq).2

/-- The step of a request leaves the shelf as its notes say. -/
theorem Shelved.proceed {temporary : Place} {t : Traffic} (h : Shelved temporary t) {n : Nat}
    {job after : Job} {desk : Desk} (hfolder : desk.temporary = temporary)
    (hapart : after.LiesApart temporary)
    (hgiven : ∀ m id report, .stored m id report ∈ job.stage.notes n after.stage → Canonical id)
    (hshelf : ∀ id, Canonical id → desk.files.at? (reportPlace temporary id) =
      ((latest? (job.stage.notes n after.stage) id).map fun r =>
        Kept.report (r.toJson .real)).or (t.desk.files.at? (reportPlace temporary id))) :
    Shelved temporary (t.proceed n job after desk) := by
  refine ⟨?_, ?_, ?_, ?_, ?_⟩
  · rw [Traffic.proceed_eq]
    exact hfolder
  · intro m id report hstored
    rw [Traffic.proceed_eq] at hstored
    dsimp only at hstored
    obtain ⟨r, heq⟩ | hnote := Traffic.mem_stepNotes hstored
    · cases heq
    · obtain hnew | hlog := List.mem_append.1 hnote
      · exact hgiven m id report hnew
      · exact h.given m id report hlog
  · intro id hid
    rw [Traffic.proceed_eq]
    dsimp only
    rw [hshelf id hid, h.shelf id hid, latest?_append, latest?_append, latest?_answered,
      Option.none_or, Option.map_or]
  · intro m job' hjob
    obtain ⟨-, rfl, -⟩ | hold := Traffic.job?_proceed hjob
    · exact hapart
    · exact h.apart m job' hold
  · rw [Traffic.proceed_eq]
    dsimp only
    rw [← List.append_assoc]
    -- A step of a request fetches nothing, so what was told before is all there is.
    refine told_append ?_ h.told
    intro id r hmem
    obtain ⟨r, heq⟩ | hnote := Traffic.mem_stepNotes hmem
    · cases heq
    · obtain ⟨name, report, heq, -⟩ | heq | heq := Stage.mem_notes hnote <;> cases heq

/-- A report is stored under the name that the step brings along. -/
theorem Advance.name_of_stored {d desk : Desk} {around : Surroundings} {name id : String}
    {job after : Job} {report : Report Float} (hstep : Advance d around name job after desk)
    (h : after.stage = .stored id report) : id = name := by
  cases hstep with
  | store stage =>
    cases h
    rfl
  | save stage saving isOpen home =>
    dsimp only at h
    rw [h] at isOpen
    cases isOpen
  | _ => cases h

/-- An arrival changes nothing on the shelf. -/
theorem Shelved.arrive {temporary : Place} {t : Traffic} (h : Shelved temporary t)
    {new : Option Job} {desk : Desk} {note : Note} (hfolder : desk.temporary = t.desk.temporary)
    (hfiles : desk.files = t.desk.files) (hstored : ∀ id, note.storedAs? id = none)
    (hfetched : ∀ id r, note ≠ .fetched id r)
    (hnew : ∀ job, new = some job → job.LiesApart temporary) :
    Shelved temporary ⟨desk, t.jobs ++ [new], note :: t.log⟩ := by
  refine ⟨hfolder.trans h.folder, ?_, ?_, ?_, ?_⟩
  · intro n id report hmem
    obtain hfirst | hlog := List.mem_cons.1 hmem
    · have hnone := hstored id
      rw [← hfirst, Note.storedAs?, if_pos rfl] at hnone
      cases hnone
    · exact h.given n id report hlog
  · intro id hid
    dsimp only
    rw [hfiles, h.shelf id hid]
    unfold latest?
    rw [List.findSome?_cons, hstored]
  · intro m job hjob
    obtain hjob | hold := Traffic.job?_arrive hjob
    · exact hnew job hjob
    · exact h.apart m job hold
  · have hfirst : ∀ id r, .fetched id r ∉ [note] := fun id r hmem =>
      hfetched id r (List.mem_singleton.1 hmem).symm
    exact told_append hfirst h.told

/-- So does an interruption. -/
theorem Shelved.interrupt {temporary : Place} {t : Traffic} (h : Shelved temporary t) {n : Nat}
    {job : Job} (hjob : t.job? n = some job) (trouble : Trouble) :
    Shelved temporary (t.proceed n job (job.interrupt trouble) t.desk) := by
  have hapart := h.apart n job hjob
  -- Whether it is stopped or goes on, nothing is stored and no folder is added.
  have hstep : job.stage.notes n (job.interrupt trouble).stage = [] ∧
      (job.interrupt trouble).LiesApart temporary := by
    obtain hsame | ⟨hstopped, -⟩ := job.interrupt_cases trouble
    · rw [hsame]
      exact ⟨job.stage.notes_self, hapart⟩
    · rw [hstopped]
      exact ⟨job.stage.notes_answered, hapart.answer _⟩
  refine h.proceed h.folder hstep.2 ?_ ?_
  · rw [hstep.1]
    exact fun _ _ _ hmem => by cases hmem
  · rw [hstep.1]
    exact fun _ _ => rfl

/-- Every step keeps the shelf in order. -/
theorem Shelved.step {s : Settings} {temporary : Place} {t after : Traffic} {e : Event}
    (h : Shelved temporary t) (hsound : Sound s t) (hstep : t.Step e after) :
    Shelved temporary after := by
  cases hstep with
  | idle => exact h
  | turnAway hr =>
    exact h.arrive rfl rfl (fun _ => rfl) (fun _ _ => nofun) (fun _ => nofun)
  | @enter form new arrived student reference free stage folders =>
    refine h.arrive rfl rfl (fun _ => rfl) (fun _ _ => nofun) ?_
    rintro job ⟨⟩
    refine ⟨?_, ?_⟩
    · rw [folders]
      exact fun _ hmem => by cases hmem
    · rw [stage]
      exact fun _ hhome => by cases hhome
  | @advance n id job after desk around taken here step =>
    -- A request that takes a step has no answer yet, so the step is one of `Advance`.
    have hadvance := step (hsound.story_of here).answer?_eq_none
    have hjob : job.LiesApart t.desk.temporary := by
      rw [h.folder]
      exact h.apart n job here
    have hname : Canonical (ReportId.text id) := ReportId.canonical_text id
    have hapart := hadvance.liesApart hjob
    have hshelf := fun id (hid : Canonical id) => hadvance.at?_reportPlace hname hjob n hid
    rw [h.folder] at hapart hshelf
    refine h.proceed (hadvance.temporary.trans h.folder) hapart ?_ hshelf
    intro m name report hstored
    obtain ⟨name', report', heq, hstage⟩ | heq | heq := Stage.mem_notes hstored
    · cases heq
      rw [hadvance.name_of_stored hstage]
      exact hname
    · cases heq
    · cases heq
  | interrupt here trouble => exact h.interrupt here trouble
  | fetch name =>
    refine ⟨h.folder, ?_, h.shelf, h.apart, ?_⟩
    · rintro n id report (_ | ⟨_, hstored⟩)
      exact h.given n id report hstored
    · intro later id r earlier heq
      cases later with
      | nil =>
        obtain ⟨hnote, rfl⟩ := List.cons.inj heq
        cases hnote
        exact h.fetch name
      | cons note later => exact h.told later id r earlier (List.cons.inj heq).2

/-- A service starts without reports. -/
theorem shelved_opened (s : Settings) (temporary : Place) :
    Shelved temporary (Traffic.opened s temporary) := by
  refine ⟨rfl, nofun, ?_, ?_, ?_⟩
  · intro id hid
    have hshelf : shelfIn temporary ≠ shelfIn temporary ++ [id ++ ".json"] := by simp
    have hhome : homeIn temporary ≠ shelfIn temporary ++ [id ++ ".json"] := by simp [shelfIn]
    rw [reportPlace_of_canonical hid]
    show (Shelf.opened temporary).at? _ = none
    unfold Shelf.opened
    rw [Scratch.at?_cons_of_ne hshelf, Scratch.at?_cons_of_ne hhome]
    rfl
  · intro n job hjob
    cases hjob
  · intro later id r earlier heq
    cases later <;> cases heq

/-- In every run, the shelf is in order. -/
theorem run_shelved (s : Settings) (temporary : Place) (events : List Event) :
    Sound s ((Traffic.opened s temporary).run events) ∧
      Shelved temporary ((Traffic.opened s temporary).run events) := by
  refine Traffic.run_induction (fun t => Sound s t ∧ Shelved temporary t) ?_ events ?_
  · exact ⟨sound_opened s temporary, shelved_opened s temporary⟩
  · rintro t after e - ⟨hsound, hshelved⟩ hstep
    exact ⟨hsound.step hstep, hshelved.step hsound hstep⟩

/-! ## What is fetched -/

/-- A JSON value without some of its fields. -/
def Json.without (names : List String) : Json → Json
  | .object fields => .object (fields.filter fun field => !names.contains field.1)
  | j => j

/-- An answer without the name of a report and the path under which it can be fetched. -/
def Response.withoutName (r : Response) : Response :=
  { r with body := r.body.map (Json.without ["report_id", "report_url"]) }

/-- The answer with a report, without its name, is the report. -/
theorem withoutName_reportResponse (id : String) (report : Report Float) :
    (reportResponse id (report.toJson .real)).withoutName =
      ⟨200, some (report.toJson .real)⟩ := by
  unfold reportResponse Response.withoutName Report.toJson Report.fields Json.without
  simp

/-- The reports of a service that started without any are kept. -/
structure KeepsReports (temporary : Place) (t : Traffic) : Prop where
  /-- A report is fetched exactly under the names under which one has been stored. -/
  found : ∀ id, (t.desk.fetch id).status = 200 ↔ ∃ n report, .stored n id report ∈ t.log
  /-- What is fetched is the report that the request stored. -/
  fetched : ∀ n id report, .stored n id report ∈ t.log →
    t.desk.fetch id = ⟨200, some (report.toJson .real)⟩
  /-- Under every other name there is none. -/
  missing : ∀ id, (∀ n report, .stored n id report ∉ t.log) →
    t.desk.fetch id = noReport ∧ noReport.status = 404
  /-- A request that is answered with a report has stored it, and what is fetched is its answer without
  the name. -/
  answered : ∀ n r, .answered n r ∈ t.log → r.status = 200 →
    ∃ id report, .stored n id report ∈ t.log ∧ r = reportResponse id (report.toJson .real) ∧
      t.desk.fetch id = r.withoutName
  /-- The same holds of each request for a report at the time when it was made. -/
  told : ∀ later id r earlier, t.log = later ++ .fetched id r :: earlier →
    (∀ n report, .stored n id report ∈ earlier → r = ⟨200, some (report.toJson .real)⟩) ∧
      ((∀ n report, .stored n id report ∉ earlier) → r = noReport)
  /-- A name that is not of thirty-two small hexadecimal digits is never found. -/
  names : ∀ id, ¬ Canonical id → t.desk.fetch id = noReport
  /-- Only files of the folder of reports are looked at. -/
  opened : ∀ id place, openedFor? t.desk.temporary id = some place →
    Canonical id ∧ place = shelfIn temporary ++ [id ++ ".json"]

/-- No name is given out twice: requests that store reports under one name are one request. -/
def Unrepeated (t : Traffic) : Prop :=
  ∀ n m id report other, .stored n id report ∈ t.log → .stored m id other ∈ t.log → n = m

/-- In every run in which no name is given out twice, reports are kept. -/
theorem run_keepsReports (s : Settings) (temporary : Place) (events : List Event)
    (hunrepeated : Unrepeated ((Traffic.opened s temporary).run events)) :
    KeepsReports temporary ((Traffic.opened s temporary).run events) := by
  obtain ⟨hsound, hshelved⟩ := run_shelved s temporary events
  generalize (Traffic.opened s temporary).run events = t at hunrepeated hsound hshelved
  -- A name stands for one request, and a request for one report.
  have hsame : ∀ n id report, .stored n id report ∈ t.log →
      ∀ m other, .stored m id other ∈ t.log → other = report := by
    intro n id report hstored m other hother
    obtain rfl := hunrepeated n m id report other hstored hother
    obtain ⟨kept, hkept, -⟩ := (hsound.story n).exists_kept
    have hfirst := (hkept id report).1 (Traffic.mem_notesOf hstored (beq_self_eq_true n))
    have hsecond := (hkept id other).1 (Traffic.mem_notesOf hother (beq_self_eq_true n))
    rw [hfirst] at hsecond
    cases hsecond
    rfl
  have hfound : ∀ log, (∀ note ∈ log, note ∈ t.log) → ∀ n id report,
      .stored n id report ∈ log → fetchAnswer log id = ⟨200, some (report.toJson .real)⟩ := by
    intro log hlog n id report hstored
    have hlatest := latest?_eq_some hstored fun m other hother =>
      hsame n id report (hlog _ hstored) m other (hlog _ hother)
    unfold fetchAnswer
    rw [hlatest]
  have hmissing : ∀ log id, (∀ n report, .stored n id report ∉ log) →
      fetchAnswer log id = noReport := by
    intro log id hnone
    unfold fetchAnswer
    rw [latest?_eq_none hnone]
  have hfetched : ∀ n id report, .stored n id report ∈ t.log →
      t.desk.fetch id = ⟨200, some (report.toJson .real)⟩ := by
    intro n id report hstored
    rw [hshelved.fetch]
    exact hfound t.log (fun _ h => h) n id report hstored
  refine ⟨?_, hfetched, ?_, ?_, ?_, ?_, ?_⟩
  · intro id
    constructor
    · intro hstatus
      by_contra hnone
      have hnever : ∀ n report, .stored n id report ∉ t.log := fun n report hstored =>
        hnone ⟨n, report, hstored⟩
      rw [hshelved.fetch, hmissing t.log id hnever] at hstatus
      cases hstatus
    · rintro ⟨n, report, hstored⟩
      rw [hfetched n id report hstored]
  · intro id hnone
    rw [hshelved.fetch]
    exact ⟨hmissing t.log id hnone, rfl⟩
  · intro n r hanswered hstatus
    obtain ⟨kept, hkept, houtcome⟩ := (hsound.story n).exists_kept
    obtain ⟨id, report, rfl, rfl⟩ := (houtcome r
      (Traffic.mem_notesOf hanswered (beq_self_eq_true n))).of_status hstatus
    have hmem := (hkept id report).2 rfl
    have hstored : .stored n id report ∈ t.log := (List.mem_filter.1 hmem).1
    refine ⟨id, report, hstored, rfl, ?_⟩
    rw [hfetched n id report hstored, withoutName_reportResponse]
  · intro later id r earlier heq
    have hearlier : ∀ note ∈ earlier, note ∈ t.log := by
      intro note hnote
      rw [heq]
      exact List.mem_append_right _ (List.mem_cons_of_mem _ hnote)
    rw [hshelved.told later id r earlier heq]
    exact ⟨fun n report => hfound earlier hearlier n id report, hmissing earlier id⟩
  · intro id hid
    rw [hshelved.fetch]
    exact hmissing t.log id fun n report hstored => hid (hshelved.given n id report hstored)
  · intro id place hopened
    unfold openedFor? at hopened
    rw [hshelved.folder] at hopened
    split at hopened
    · rename_i hissued
      have hid := (ReportId.isIssued_iff id).1 hissued
      rw [Option.some.injEq, reportPlace_of_canonical hid] at hopened
      exact ⟨hid, hopened.symm⟩
    · cases hopened

/-- Only requests that have arrived store reports. -/
theorem Sound.lt_of_stored {s : Settings} {t : Traffic} (h : Sound s t) {n : Nat} {id : String}
    {report : Report Float} (hstored : .stored n id report ∈ t.log) : n < t.jobs.length := by
  by_contra hnot
  have hstory := h.story n
  rw [List.getElem?_eq_none (Nat.le_of_not_lt hnot)] at hstory
  have hmem := Traffic.mem_notesOf hstored (beq_self_eq_true n)
  rw [hstory.eq_nil] at hmem
  cases hmem

/-- In a run with one request, which stores a report under the number one, that report is found, but
not under the same name with a capital letter or with hyphens. -/
theorem run_keepsReports_one :
    let upload : Upload := ⟨"A.java", ⟨#[]⟩⟩
    let form : Form := ⟨[("student_file", upload), ("reference_file", upload)], [], 0⟩
    let around : Surroundings := { clock := fun _ => 0 }
    let t := (Traffic.opened .default).run
      (.arrive form :: List.replicate 6 (.advance 0 around 1))
    Unrepeated t ∧ KeepsReports ["tmp"] t ∧
      (t.desk.fetch "00000000000000000000000000000001").status = 200 ∧
      t.desk.fetch "0000000000000000000000000000000A" = noReport ∧
      t.desk.fetch "00000000-0000-0000-0000-000000000001" = noReport := by
  intro upload form around t
  have hjobs : t.jobs.length = 1 := by decide +kernel
  have hunrepeated : Unrepeated t := by
    have hsound : Sound .default t := run_sound .default ["tmp"] _
    intro n m id report other hstored hother
    have hn := hsound.lt_of_stored hstored
    have hm := hsound.lt_of_stored hother
    omega
  have hkeeps : KeepsReports ["tmp"] t := run_keepsReports .default ["tmp"] _ hunrepeated
  refine ⟨hunrepeated, hkeeps, by decide +kernel, hkeeps.names _ ?_, hkeeps.names _ ?_⟩
  · rintro ⟨-, hdigits⟩
    have hdigit := hdigits 'A' (by decide)
    revert hdigit
    decide
  · rintro ⟨hlength, -⟩
    revert hlength
    decide

end Service

end StructureGrader
