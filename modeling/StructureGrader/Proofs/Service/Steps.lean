import StructureGrader.Proofs.Files.Scratch
import StructureGrader.Service.Traffic

/-!
# Steps of requests

What the next step of one request can be (`Advance`), and what a step of the service with all of its
requests can be (`Traffic.Step`): the jobs, the notes and the service after it. Whatever holds at
the start and is kept by each of these steps holds in every run (`run_induction`).

Requests that take their steps side by side are those that `Desk.compare` takes from start to end: an
admitted request comes to the answer of `Desk.conclude` when it takes enough steps, and leaves the
service as that does (`run_conclude`).
-/

namespace StructureGrader.Service

/-! ## Saving what is sent -/

/-- What can become of a file that is sent: the folder with the sources or the failure, and what is
kept then. -/
inductive Saving (around : Surroundings) (temporary folder : Place) (side : Side)
    (upload : Upload) (s : Scratch) : Except GradingError Place → Scratch → Prop
  | notChecked (e : UnpackError) :
      Saving around temporary folder side upload s (.error (.archive e))
        (s.put (folder ++ [side.name ++ ".zip"]) (.entry (.file upload.bytes)))
  | notUnpacked {e : ExtractionError} {after : Scratch}
      (unpacking : Scratch.Unpacking
        (s.put (folder ++ [side.name ++ ".zip"]) (.entry (.file upload.bytes)))
        around.host temporary around.endings (.ok upload.bytes) (.error e) after) :
      Saving around temporary folder side upload s (.error (.ofExtraction e)) after
  | unpacked {place : Place} {after : Scratch}
      (unpacking : Scratch.Unpacking
        (s.put (folder ++ [side.name ++ ".zip"]) (.entry (.file upload.bytes)))
        around.host temporary around.endings (.ok upload.bytes) (.ok place) after) :
      Saving around temporary folder side upload s (.ok place) after
  | notSaved (e : GradingError) :
      Saving around temporary folder side upload s (.error e)
        (s.put (folder ++ [side.name]) (.entry .empty))
  | saved (sources : Entry) :
      Saving around temporary folder side upload s (.ok (folder ++ [side.name]))
        (s.put (folder ++ [side.name]) (.entry sources))
  | otherKind :
      Saving around temporary folder side upload s
        (.error (.archive (.refused (.otherKind upload.fileName)))) s

/-- Saving an upload goes the way saving goes. -/
theorem saveUpload_saving (around : Surroundings) (temporary folder : Place) (limit : Int)
    (side : Side) (upload : Upload) (s : Scratch) :
    Saving around temporary folder side upload s
      (saveUpload around temporary folder limit side upload s).1
      (saveUpload around temporary folder limit side upload s).2 := by
  unfold saveUpload
  dsimp only
  split
  · cases Archive.validate upload.bytes limit with
    | error e => exact .notChecked e
    | ok =>
      dsimp only
      have hunpacking := Scratch.unpack_unpacking
        (s.put (folder ++ [side.name ++ ".zip"]) (.entry (.file upload.bytes))) around.host temporary
        around.endings (.ok upload.bytes)
      generalize Scratch.unpack _ around.host temporary around.endings (.ok upload.bytes) = unpacked
        at hunpacking ⊢
      obtain ⟨_ | place, after⟩ := unpacked
      · exact .notUnpacked hunpacking
      · exact .unpacked hunpacking
  · split
    · cases savedSource upload with
      | error e => exact .notSaved e
      | ok sources => exact .saved sources
    · exact .otherKind

/-! ## One step of a request -/

/-- Whether a request is still to be graded. -/
def Stage.isOpen : Stage → Bool
  | .admitted | .configured _ | .housed _ _ | .halfSaved _ _ _ | .saved _ _ _ => true
  | _ => false

/-- The folder for what is sent, while it is being saved. -/
def Stage.home? : Stage → Option Place
  | .housed _ folder | .halfSaved _ folder _ => some folder
  | _ => none

/-- The file that is sent for a side. -/
def Job.upload (job : Job) : Side → Upload
  | .student => job.student
  | .reference => job.reference

/-- What the next step of a request can be: the job and the service after it. -/
inductive Advance (d : Desk) (around : Surroundings) (name : String) (job : Job) :
    Job → Desk → Prop
  | configure {settings : Settings} (stage : job.stage = .admitted) :
      Advance d around name job { job with stage := .configured settings } d
  | house {settings : Settings} {folder : Place} {files : Scratch}
      (stage : job.stage = .configured settings)
      (made : d.files.newFolder? (homeIn d.temporary) "tmp" around.endings = some (folder, files)) :
      Advance d around name job
        { job with stage := .housed settings folder, folders := folder :: job.folders }
        { d with files := files }
  | save {side : Side} {after : Stage} {folder place : Place} {files : Scratch}
      (stage : job.stage.home? = some folder)
      (saving : Saving around d.temporary folder side (job.upload side) d.files (.ok place) files)
      (isOpen : after.isOpen = true) (home : ∀ h ∈ after.home?, h = folder) :
      Advance d around name job { job with stage := after, folders := place :: job.folders }
        { d with files := files }
  | grade {report : Report Float} (stage : job.stage.isOpen = true) :
      Advance d around name job { job with stage := .graded report } d
  | store {report : Report Float} (stage : job.stage = .graded report) :
      Advance d around name job { job with stage := .stored name report }
        { d with
          files := d.files.put (reportPlace d.temporary name) (.report (report.toJson .real)) }
  | answer {name' : String} {report : Report Float} (stage : job.stage = .stored name' report) :
      Advance d around name job (job.answer (reportResponse name' (report.toJson .real))) d
  | fail (e : GradingError) (stage : job.stage.isOpen = true) :
      Advance d around name job (job.answer e.response) d
  | failSaving {side : Side} {folder : Place} {files : Scratch} {e : GradingError}
      (stage : job.stage.home? = some folder)
      (saving : Saving around d.temporary folder side (job.upload side) d.files (.error e) files) :
      Advance d around name job (job.answer e.response) { d with files := files }
  | giveBack {response : Response} (stage : job.stage = .answered response)
      (room : d.freeSlots < d.slots) :
      Advance d around name job { job with stage := .leaving response }
        { d with freeSlots := d.freeSlots + 1 }
  | stick {response : Response} (stage : job.stage = .answered response)
      (room : d.slots ≤ d.freeSlots) :
      Advance d around name job { job with stage := .stuck } d
  | clear {response : Response} {folder : Place} {folders : List Place}
      (stage : job.stage = .leaving response) (left : job.folders = folder :: folders) :
      Advance d around name job { job with stage := .leaving response, folders := folders }
        { d with files := d.files.remove folder }

/-- A request with a folder of its own is at work. -/
theorem Stage.isOpen_of_home {stage : Stage} {folder : Place} (h : stage.home? = some folder) :
    stage.isOpen = true := by
  cases stage with
  | housed | halfSaved => rfl
  | _ => cases h

/-- A request that has no answer yet takes one of these steps. -/
theorem Desk.advance_step (d : Desk) (around : Surroundings) (name : String) {job : Job}
    (h : job.answer? = none) :
    Advance d around name job (d.advance around name job).1 (d.advance around name job).2 := by
  unfold Job.answer? at h
  unfold Desk.advance
  cases hstage : job.stage with
  | admitted =>
    cases d.settings.forRequest job.threshold with
    | error e => exact .fail (.settings e) (by rw [hstage]; rfl)
    | ok settings => exact .configure hstage
  | configured settings =>
    dsimp only
    cases hmade : d.files.newFolder? (homeIn d.temporary) "tmp" around.endings with
    | none => exact .fail .noName (by rw [hstage]; rfl)
    | some made => exact .house hstage hmade
  | housed settings folder =>
    dsimp only
    have hhome : job.stage.home? = some folder := by rw [hstage]; rfl
    have hsaving := saveUpload_saving around d.temporary folder d.settings.maxUploadBytes .student
      job.student d.files
    -- Only what saving does to the files is needed below, not how it goes about it.
    generalize saveUpload around d.temporary folder d.settings.maxUploadBytes .student
      job.student d.files = saved at hsaving ⊢
    obtain ⟨_ | place, files⟩ := saved
    · exact .failSaving hhome hsaving
    · exact .save hhome hsaving rfl (by simp [Stage.home?])
  | halfSaved settings folder student =>
    dsimp only
    have hhome : job.stage.home? = some folder := by rw [hstage]; rfl
    have hsaving := saveUpload_saving around d.temporary folder d.settings.maxUploadBytes .reference
      job.reference d.files
    generalize saveUpload around d.temporary folder d.settings.maxUploadBytes .reference
      job.reference d.files = saved at hsaving ⊢
    obtain ⟨_ | place, files⟩ := saved
    · exact .failSaving hhome hsaving
    · exact .save hhome hsaving rfl (by simp [Stage.home?])
  | saved settings student reference =>
    dsimp only
    have hopen : job.stage.isOpen = true := by rw [hstage]; rfl
    cases gradeFolders settings around (d.files.folderAt student) (d.files.folderAt reference) with
    | error e => exact .fail e hopen
    | ok report => exact .grade hopen
  | graded report => exact .store hstage
  | stored name' report => exact .answer hstage
  | answered response =>
    dsimp only
    unfold Desk.giveBack?
    by_cases hroom : d.slots ≤ d.freeSlots
    · rw [if_pos hroom]
      exact .stick hstage hroom
    · rw [if_neg hroom]
      exact .giveBack hstage (by omega)
  | leaving response =>
    dsimp only
    split
    · rename_i hleft
      simp [hstage, hleft] at h
    · rename_i folder folders hleft
      exact .clear hstage hleft
  | stuck => simp [hstage] at h

/-- A request that is interrupted goes on as before, or it is one that holds a slot and has its
answer now. -/
theorem Job.interrupt_cases (job : Job) (trouble : Trouble) :
    job.interrupt trouble = job ∨
      job.interrupt trouble = job.answer trouble.response ∧ job.holdsSlot = true := by
  unfold Job.interrupt Job.holdsSlot
  cases job.stage with
  | answered | leaving | stuck => exact Or.inl rfl
  | _ => exact Or.inr ⟨rfl, rfl⟩

/-- A step of a request is noted if it stores a report or is about its slot. -/
theorem Stage.mem_notes {n : Nat} {stage next : Stage} {note : Note}
    (h : note ∈ stage.notes n next) :
    (∃ name report, note = .stored n name report ∧ next = .stored name report) ∨
      note = .gaveBack n ∨ note = .overRelease n := by
  unfold Stage.notes at h
  split at h
  · exact Or.inl ⟨_, _, List.mem_singleton.1 h, rfl⟩
  · exact Or.inr (Or.inl (List.mem_singleton.1 h))
  · exact Or.inr (Or.inr (List.mem_singleton.1 h))
  · cases h

/-! ## A step of the service -/

/-- What is left of a request after a step: nothing if it has its answer. -/
def Job.remaining (job : Job) : Option Job :=
  match job.answer? with
  | none => some job
  | some _ => none

namespace Traffic

/-- A request goes on by one stage: the desk, the job, the notes and the slots change, and nothing
else does. -/
theorem proceed_eq (t : Traffic) (request : Nat) (before after : Job) (desk : Desk) :
    t.proceed request before after desk =
      { desk := desk
        jobs := t.jobs.set request after.remaining
        log := (after.answer?.map (Note.answered request)).toList ++
          (before.stage.notes request after.stage ++ t.log) } := by
  unfold proceed Job.remaining
  cases after.answer? with
  | none => rfl
  | some response => rfl

/-- A request is under way where a job stands at its number. -/
theorem job?_eq_some {t : Traffic} {request : Nat} {job : Job} :
    t.job? request = some job ↔ t.jobs[request]? = some (some job) := by
  rw [job?, Option.join_eq_some_iff]

/-- The notes of a step of a request: that it is answered, and those by its stages. -/
theorem mem_stepNotes {n : Nat} {r : Option Response} {notes : List Note} {note : Note}
    (h : note ∈ (r.map (Note.answered n)).toList ++ notes) :
    (∃ response, note = .answered n response) ∨ note ∈ notes := by
  obtain hanswered | hnote := List.mem_append.1 h
  · rw [Option.mem_toList, Option.map_eq_some_iff] at hanswered
    obtain ⟨response, -, rfl⟩ := hanswered
    exact Or.inl ⟨response, rfl⟩
  · exact Or.inr hnote

/-- After a step of one request the jobs are that of the request and those of the others before. -/
theorem job?_proceed {t : Traffic} {n m : Nat} {before after job : Job} {desk : Desk}
    (h : (t.proceed n before after desk).job? m = some job) :
    (m = n ∧ job = after ∧ after.answer? = none) ∨ t.job? m = some job := by
  rw [proceed_eq, job?_eq_some] at h
  dsimp only at h
  rw [List.getElem?_set] at h
  split at h
  · rename_i hsame
    split at h
    · unfold Job.remaining at h
      cases hanswer : after.answer? with
      | none =>
        rw [hanswer] at h
        cases h
        exact Or.inl ⟨hsame.symm, rfl, rfl⟩
      | some r =>
        rw [hanswer] at h
        cases h
    · cases h
  · exact Or.inr (job?_eq_some.2 h)

/-- After an arrival the jobs are that of the new request, if it has one, and those before. -/
theorem job?_arrive {t : Traffic} {m : Nat} {new : Option Job} {job : Job} {desk : Desk}
    {log : List Note} (h : Traffic.job? ⟨desk, t.jobs ++ [new], log⟩ m = some job) :
    new = some job ∨ t.job? m = some job := by
  rw [job?_eq_some] at h
  dsimp only at h
  obtain hless | hle := Nat.lt_or_ge m t.jobs.length
  · rw [List.getElem?_append_left hless] at h
    exact Or.inr (job?_eq_some.2 h)
  · rw [List.getElem?_append_right hle] at h
    obtain rfl := List.mem_singleton.1 (List.mem_of_getElem? h)
    exact Or.inl rfl

end Traffic

/-- The answers to a request that is not admitted. -/
def TurnedAway (s : Settings) (r : Response) : Prop :=
  r = (Desk.opened s).tooLarge ∨ r = Desk.uploadsMissing ∨ r = Desk.tooBusy

/-- An arriving request is turned away and nothing changes, or it takes one of the free slots with
the files that are sent. -/
theorem Desk.enter_cases (d : Desk) (f : Form) :
    (∃ r, d.enter f = (.error r, d) ∧ TurnedAway d.settings r) ∨
      ∃ job, d.enter f = (.ok job, { d with freeSlots := d.freeSlots - 1 }) ∧
        0 < d.freeSlots ∧ job.stage = .admitted ∧ job.folders = [] ∧
        uploadFor? f .student = some job.student ∧
        uploadFor? f .reference = some job.reference := by
  unfold Desk.enter TurnedAway
  by_cases hlarge : d.sizeLimit < Int.ofNat f.size
  · rw [if_pos hlarge]
    exact Or.inl ⟨_, rfl, Or.inl rfl⟩
  rw [if_neg hlarge]
  cases hstudent : uploadFor? f .student with
  | none => exact Or.inl ⟨_, rfl, Or.inr (Or.inl rfl)⟩
  | some student =>
    cases hreference : uploadFor? f .reference with
    | none => exact Or.inl ⟨_, rfl, Or.inr (Or.inl rfl)⟩
    | some reference =>
      unfold Desk.takeSlot?
      by_cases hfree : d.freeSlots = 0
      · rw [hfree]
        exact Or.inl ⟨_, rfl, Or.inr (Or.inr rfl)⟩
      · rw [if_neg (by simpa using hfree)]
        exact Or.inr ⟨_, rfl, by omega, rfl, rfl, rfl, rfl⟩

/-- What a step of the service can be: the traffic after it. -/
inductive Traffic.Step (t : Traffic) (e : Event) : Traffic → Prop
  | idle : Step t e t
  | turnAway {r : Response} (hr : TurnedAway t.desk.settings r) :
      Step t e ⟨t.desk, t.jobs ++ [none], .turnedAway t.jobs.length r :: t.log⟩
  | enter {form : Form} {job : Job} (arrived : e = .arrive form)
      (student : uploadFor? form .student = some job.student)
      (reference : uploadFor? form .reference = some job.reference)
      (free : 0 < t.desk.freeSlots) (stage : job.stage = .admitted) (folders : job.folders = []) :
      Step t e ⟨{ t.desk with freeSlots := t.desk.freeSlots - 1 }, t.jobs ++ [some job],
        .tookSlot t.jobs.length :: t.log⟩
  | advance {n id : Nat} {job after : Job} {desk : Desk} {around : Surroundings}
      (taken : e = .advance n around id) (here : t.job? n = some job)
      (step : job.answer? = none → Advance t.desk around (ReportId.text id) job after desk) :
      Step t e (t.proceed n job after desk)
  | interrupt {n : Nat} {job : Job} (here : t.job? n = some job) (trouble : Trouble) :
      Step t e (t.proceed n job (job.interrupt trouble) t.desk)
  | fetch (name : String) : Step t e { t with log := .fetched name (t.desk.fetch name) :: t.log }

/-- The step that is taken at an event is one of the steps there are. -/
theorem Traffic.step_step (t : Traffic) (e : Event) : t.Step e (t.step e) := by
  unfold Traffic.step
  cases e with
  | arrive form =>
    dsimp only
    obtain ⟨r, henter, hr⟩ | ⟨job, henter, hfree, hstage, hfolders, hstudent, hreference⟩ :=
      t.desk.enter_cases form
    · rw [henter]
      exact .turnAway hr
    · rw [henter]
      exact .enter rfl hstudent hreference hfree hstage hfolders
  | advance n around id =>
    dsimp only
    cases hjob : t.job? n with
    | none => exact .idle
    | some job => exact .advance rfl hjob (t.desk.advance_step around (ReportId.text id))
  | interrupt n trouble =>
    dsimp only
    cases hjob : t.job? n with
    | none => exact .idle
    | some job => exact .interrupt hjob trouble
  | fetch name => exact .fetch name

/-- What holds at the start and is kept by each step holds in every run. -/
theorem Traffic.run_induction (holds : Traffic → Prop) {t : Traffic} (hstart : holds t)
    (events : List Event)
    (hstep : ∀ t after, ∀ e ∈ events, holds t → t.Step e after → holds after) :
    holds (t.run events) := by
  unfold Traffic.run
  induction events generalizing t with
  | nil => exact hstart
  | cons e events ih =>
    have hfirst : holds (t.step e) := hstep t _ e List.mem_cons_self hstart (t.step_step e)
    exact ih hfirst fun t after e' he' => hstep t after e' (List.mem_cons_of_mem e he')

/-! ## From start to end -/

namespace Desk

variable {d : Desk} {around : Surroundings} {name : String} {job : Job}

/-- A job with its answer is answered so. -/
theorem conclude_of_answer {r : Response} (h : job.answer? = some r) :
    d.conclude around name job = (r, d) := by
  rw [conclude]
  split
  · simp_all
  · simp_all

/-- A job without an answer goes on by one stage before it is answered. -/
theorem conclude_of_none (h : job.answer? = none) :
    d.conclude around name job =
      (d.advance around name job).2.conclude around name (d.advance around name job).1 := by
  rw [conclude]
  split
  · simp_all
  · rfl

end Desk

namespace Traffic

/-- An admitted request comes to the answer of `Desk.conclude` when it takes enough steps, and
leaves the service as that does and the other requests as they are. -/
theorem run_conclude (t : Traffic) {n : Nat} {job : Job} (around : Surroundings) (id : Nat)
    (hjob : t.job? n = some job) (hanswer : job.answer? = none) :
    ∃ k, (t.run (List.replicate k (.advance n around id))).desk =
        (t.desk.conclude around (ReportId.text id) job).2 ∧
      (t.run (List.replicate k (.advance n around id))).jobs = t.jobs.set n none ∧
      .answered n (t.desk.conclude around (ReportId.text id) job).1 ∈
        (t.run (List.replicate k (.advance n around id))).log := by
  -- The bound on the steps ahead falls with every step, so it carries the induction.
  induction hsteps : job.stepsLeft using Nat.strongRecOn generalizing t job with
  | ind steps ih =>
    obtain ⟨hlength, -⟩ := List.getElem?_eq_some_iff.1 (job?_eq_some.1 hjob)
    have hless := t.desk.stepsLeft_advance_lt around (ReportId.text id) hanswer
    have hstep : t.step (.advance n around id) = t.proceed n job
        (t.desk.advance around (ReportId.text id) job).1
        (t.desk.advance around (ReportId.text id) job).2 := by
      unfold step
      dsimp only
      rw [hjob]
    rw [Desk.conclude_of_none hanswer]
    generalize t.desk.advance around (ReportId.text id) job = next at hstep hless ⊢
    rw [proceed_eq] at hstep
    cases hnext : next.1.answer? with
    | some r =>
      rw [Desk.conclude_of_answer hnext]
      refine ⟨1, ?_⟩
      rw [List.replicate_one, run, List.foldl_cons, List.foldl_nil, hstep]
      unfold Job.remaining
      rw [hnext]
      exact ⟨rfl, rfl, List.mem_cons_self⟩
    | none =>
      have hjobs : (t.step (.advance n around id)).jobs = t.jobs.set n (some next.1) := by
        rw [hstep]
        unfold Job.remaining
        rw [hnext]
      have hhere : (t.step (.advance n around id)).job? n = some next.1 := by
        rw [job?_eq_some, hjobs, List.getElem?_set_self hlength]
      obtain ⟨k, hdesk, hafter, hlog⟩ := ih _ (hsteps ▸ hless) _ hhere hnext rfl
      have hdesk' : (t.step (.advance n around id)).desk = next.2 := by rw [hstep]
      rw [hdesk'] at hdesk hlog
      rw [hjobs, List.set_set] at hafter
      exact ⟨k + 1, hdesk, hafter, hlog⟩

end Traffic

end StructureGrader.Service
