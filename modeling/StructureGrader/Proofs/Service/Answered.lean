import StructureGrader.Proofs.Service.Steps
import StructureGrader.Proofs.Submission

/-!
# What a request that is answered with a report has compared

A request that gets a report goes through all of its stages, and at each of them it is known what the
stages before have come to (`Follows`): the settings, the folders in which the two files are saved,
the comparison of what is in them. Each step keeps this (`UnderWay.advance`), so at the end the answer
tells of a finished comparison of what was sent (`compare_reported`).
-/

namespace StructureGrader.Service

/-! ## Files that are saved -/

/-- A file that is sent, under the name that it is saved by. -/
def Upload.file (u : Upload) : NamedFile :=
  ⟨(Path.ofText u.fileName).name, u.bytes⟩

/-- What the folder for a file that is sent holds: the members of an archive, or a source file
alone. -/
inductive SavedAs (u : Upload) : Entry → Prop
  | archive {host : Host} {place : Place} {folder : Entry} (ends : endsIn u.fileName ".zip" = true)
      (extracted : (Archive.extract host place u.bytes).run .empty = (.ok (), folder)) : SavedAs u folder
  | source (ends : endsIn u.fileName sourceSuffix = true) :
      SavedAs u (.folder [(u.file.name, .file u.file.bytes)])

/-- The elements that are found where a file that is sent is saved. -/
def Received (u : Upload) (elements : List Element) : Prop :=
  ∃ folder, SavedAs u folder ∧ elementsIn folder = .ok elements

/-- A file that is sent is kept in a folder. -/
def KeptAt (s : Scratch) (place : Place) (u : Upload) : Prop :=
  ∃ folder, s.at? place = some (.entry folder) ∧ SavedAs u folder

/-- A source that was saved is one file under the name it came with. -/
theorem savedSource_eq_ok {u : Upload} {folder : Entry} (h : savedSource u = .ok folder) :
    folder = .folder [(u.file.name, .file u.file.bytes)] := by
  unfold savedSource at h
  dsimp only at h
  split at h
  · cases h
  · split at h
    · rename_i hput
      cases h
      obtain ⟨entries, e, hempty, rfl, hwrite⟩ := Entry.put_cons_eq_ok hput
      cases hempty
      cases hwrite
      rfl
    · cases h

section Saving

variable {around : Surroundings} {temporary folder place other : Place} {limit : Int} {side : Side}
  {u : Upload} {s after : Scratch}

/-- A source or an archive that was saved was saved by the rules for saving. -/
theorem saving_of_eq_ok (h : saveUpload around temporary folder limit side u s = (.ok place, after)) :
    Saving around temporary folder side u s (.ok place) after := by
  have hsaving := saveUpload_saving around temporary folder limit side u s
  rwa [h] at hsaving

/-- A file that is saved is kept where it is saved to. -/
theorem saveUpload_eq_ok (h : saveUpload around temporary folder limit side u s = (.ok place, after)) :
    KeptAt after place u := by
  unfold saveUpload at h
  dsimp only at h
  split at h
  · rename_i hends
    split at h
    · cases h
    · have hunpacking := Scratch.unpack_unpacking
        (s.put (folder ++ [side.name ++ ".zip"]) (.entry (.file u.bytes))) around.host temporary
        around.endings (.ok u.bytes)
      generalize Scratch.unpack _ around.host temporary around.endings (.ok u.bytes) = unpacked
        at hunpacking h
      obtain ⟨result, scratch⟩ := unpacked
      cases hunpacking with
      | noName | refused | failed => cases h
      | unpacked made extracted =>
        cases h
        exact ⟨_, Scratch.at?_cons_self _ _ _, .archive hends extracted⟩
  · split at h
    · rename_i hends
      split at h
      · cases h
      · rename_i sources hsources
        cases h
        rw [savedSource_eq_ok hsources]
        exact ⟨_, Scratch.at?_put_self _ _ _, .source hends⟩
    · cases h

/-- A file is saved in the folder of its request or in a new one beside that of the service. -/
theorem Saving.place_cases (h : Saving around temporary folder side u s (.ok place) after) :
    place = folder ++ [side.name] ∨ place.length = temporary.length + 1 := by
  cases h with
  | saved => exact Or.inl rfl
  | unpacked unpacking =>
    cases unpacking with
    | unpacked made =>
      obtain ⟨i, rfl, -, -⟩ := Scratch.newFolder?_eq_some made
      exact Or.inr (by rw [List.length_append]; rfl)

/-- To save a file changes nothing at places that are not for its side. -/
theorem Saving.at?_of_ne (h : Saving around temporary folder side u s (.ok place) after) {x : Kept}
    (hfile : folder ++ [side.name] ≠ other) (harchive : folder ++ [side.name ++ ".zip"] ≠ other)
    (hkept : s.at? other = some x) : after.at? other = some x := by
  cases h with
  | saved => rwa [Scratch.at?_put_of_ne hfile]
  | unpacked unpacking =>
    cases unpacking with
    | unpacked made =>
      obtain ⟨-, -, hfree, -⟩ := Scratch.newFolder?_eq_some made
      refine Scratch.at?_cons_of_not_isTaken hfree ?_
      rwa [Scratch.at?_put_of_ne harchive]

end Saving

/-! ## Reports on what is sent -/

/-- A report is on a finished comparison of what was sent. -/
def Reported (s : Settings) (around : Surroundings) (job : Job) (report : Report Float) : Prop :=
  ∃ settings result, s.forRequest job.threshold = .ok settings ∧
    Assessed settings around.clock (Received job.student) (Received job.reference) result ∧
    report = result.report

/-- An answer without a fault tells of a report on what was sent. -/
def Tells (s : Settings) (around : Surroundings) (name : String) (job : Job) (r : Response) : Prop :=
  r.status = 200 → ∃ report, Reported s around job report ∧
    r = reportResponse name (report.toJson .real)

/-- What the stages of a request have come to: of `job`, where the service was `d` at its start. -/
inductive Follows (d : Desk) (around : Surroundings) (name : String) (job : Job) (files : Scratch) :
    Stage → Prop
  | admitted : Follows d around name job files .admitted
  | configured {settings : Settings} (asked : d.settings.forRequest job.threshold = .ok settings) :
      Follows d around name job files (.configured settings)
  | housed {settings : Settings} {folder : Place}
      (asked : d.settings.forRequest job.threshold = .ok settings)
      (inside : folder.length = d.temporary.length + 2) :
      Follows d around name job files (.housed settings folder)
  | halfSaved {settings : Settings} {folder student : Place}
      (asked : d.settings.forRequest job.threshold = .ok settings)
      (inside : folder.length = d.temporary.length + 2)
      (place : student = folder ++ [Side.student.name] ∨ student.length = d.temporary.length + 1)
      (kept : KeptAt files student job.student) :
      Follows d around name job files (.halfSaved settings folder student)
  | saved {settings : Settings} {student reference : Place}
      (asked : d.settings.forRequest job.threshold = .ok settings)
      (kept : KeptAt files student job.student) (kept' : KeptAt files reference job.reference) :
      Follows d around name job files (.saved settings student reference)
  | graded {report : Report Float} (reported : Reported d.settings around job report) :
      Follows d around name job files (.graded report)
  | stored {report : Report Float} (reported : Reported d.settings around job report) :
      Follows d around name job files (.stored name report)
  | answered {r : Response} (tells : Tells d.settings around name job r) :
      Follows d around name job files (.answered r)
  | leaving {r : Response} (tells : Tells d.settings around name job r) :
      Follows d around name job files (.leaving r)
  | stuck : Follows d around name job files .stuck

/-- A request that is under way at a service, as it follows from its start. -/
structure UnderWay (d : Desk) (around : Surroundings) (name : String) (job : Job) (desk : Desk)
    (now : Job) : Prop where
  settings : desk.settings = d.settings
  temporary : desk.temporary = d.temporary
  student : now.student = job.student
  reference : now.reference = job.reference
  threshold : now.threshold = job.threshold
  follows : Follows d around name job desk.files now.stage

section Steps

variable {d desk : Desk} {around : Surroundings} {name : String} {job now : Job}

/-- The answer that tells of a failure is none without a fault. -/
theorem tells_response {s : Settings} (e : GradingError) : Tells s around name job e.response := by
  intro hstatus
  have hne : e.status ≠ 200 := by
    cases e with
    | archive error => cases error <;> simp [GradingError.status]
    | settings | file | stopped | noName => simp [GradingError.status]
  exact absurd hstatus hne

/-- Folders are graded by the elements in both, with no stop asked for and the clock at hand. -/
theorem gradeFolders_eq_ok {settings : Settings} {student reference : Entry} {report : Report Float}
    (h : gradeFolders settings around student reference = .ok report) :
    ∃ students references result, elementsIn student = .ok students ∧
      elementsIn reference = .ok references ∧
      assessUnder settings (fun _ => false) around.clock students references = .ok result ∧
      report = result.report := by
  have hread : ∀ {folder : Entry} {elements : List Element},
      elementsOfFolder folder = .ok elements → elementsIn folder = .ok elements := by
    intro folder elements helements
    unfold elementsOfFolder at helements
    unfold elementsIn
    split at helements
    · cases helements
      assumption
    · cases helements
  unfold gradeFolders at h
  simp only [bind_eq_ok_iff] at h
  obtain ⟨students, hstudents, references, hreferences, h⟩ := h
  split at h
  · rename_i result hresult
    cases h
    exact ⟨students, references, result, hread hstudents, hread hreferences, hresult, rfl⟩
  · cases h

/-- What is found in the two folders of a request is what was sent. -/
theorem reported_of_kept {s settings : Settings} {files : Scratch} {student reference : Place}
    {report : Report Float} (hasked : s.forRequest job.threshold = .ok settings)
    (hkept : KeptAt files student job.student) (hkept' : KeptAt files reference job.reference)
    (h : gradeFolders settings around (files.folderAt student) (files.folderAt reference) =
      .ok report) : Reported s around job report := by
  have hfolder : ∀ {place : Place} {folder : Entry}, files.at? place = some (.entry folder) →
      files.folderAt place = folder := by
    intro place folder hat
    unfold Scratch.folderAt
    rw [hat]
  obtain ⟨folder, hat, hsaved⟩ := hkept
  obtain ⟨folder', hat', hsaved'⟩ := hkept'
  rw [hfolder hat, hfolder hat'] at h
  obtain ⟨students, references, result, hstudents, hreferences, hresult, rfl⟩ :=
    gradeFolders_eq_ok h
  exact ⟨settings, result, hasked, ⟨students, references, ⟨folder, hsaved, hstudents⟩,
    ⟨folder', hsaved', hreferences⟩, hresult⟩, rfl⟩

/-- The submission is still where it is when the reference is saved. -/
theorem KeptAt.saveReference {temporary folder student place : Place} {limit : Int}
    {u v : Upload} {s after : Scratch} (h : KeptAt s student u)
    (hinside : folder.length = temporary.length + 2)
    (hplace : student = folder ++ [Side.student.name] ∨ student.length = temporary.length + 1)
    (hsave : saveUpload around temporary folder limit .reference v s = (.ok place, after)) :
    KeptAt after student u := by
  have hne : ∀ name, name ≠ Side.student.name → folder ++ [name] ≠ student := by
    rintro name hname rfl
    obtain hsame | hlength := hplace
    · rw [List.append_cancel_left_eq, List.singleton_inj] at hsame
      exact hname hsame
    · rw [List.length_append, List.length_singleton] at hlength
      omega
  obtain ⟨kept, hat, hsaved⟩ := h
  exact ⟨kept, (saving_of_eq_ok hsave).at?_of_ne (hne _ (by decide)) (hne _ (by decide)) hat, hsaved⟩

/-- Each step of a request keeps what is known of its stages. -/
theorem UnderWay.advance (h : UnderWay d around name job desk now) :
    UnderWay d around name job (desk.advance around name now).2 (desk.advance around name now).1 := by
  obtain ⟨student, reference, threshold, stage, folders⟩ := now
  obtain ⟨hsettings, htemporary, rfl, rfl, rfl, hfollows⟩ := h
  -- Only the files, the free slots, the stage and the folders change.
  have hkeep : ∀ {files : Scratch} {freeSlots : Nat} {next : Stage} {folders : List Place},
      Follows d around name job files next →
      UnderWay d around name job { desk with files := files, freeSlots := freeSlots }
        ⟨job.student, job.reference, job.threshold, next, folders⟩ :=
    fun hnext => ⟨hsettings, htemporary, rfl, rfl, rfl, hnext⟩
  have hfail : ∀ (e : GradingError) (files : Scratch),
      Follows d around name job files (.answered e.response) :=
    fun e _ => .answered (tells_response e)
  unfold Desk.advance
  dsimp only at hfollows ⊢
  cases hfollows with
  | admitted =>
    dsimp only
    rw [hsettings]
    split
    · exact hkeep (hfail _ _)
    · exact hkeep (.configured ‹_›)
  | configured asked =>
    dsimp only
    split
    · exact hkeep (hfail _ _)
    · rename_i made
      obtain ⟨i, rfl, -, -⟩ := Scratch.newFolder?_eq_some made
      refine hkeep (.housed asked ?_)
      unfold homeIn
      rw [htemporary, List.length_append, List.length_append]
      rfl
  | housed asked inside =>
    dsimp only
    split
    · exact hkeep (hfail _ _)
    · rename_i hsave
      have hplace := (saving_of_eq_ok hsave).place_cases
      rw [htemporary] at hplace
      exact hkeep (.halfSaved asked inside hplace (saveUpload_eq_ok hsave))
  | halfSaved asked inside place kept =>
    dsimp only
    split
    · exact hkeep (hfail _ _)
    · rename_i hsave
      have hkept' := saveUpload_eq_ok hsave
      rw [htemporary] at hsave
      exact hkeep (.saved asked (kept.saveReference inside place hsave) hkept')
  | saved asked kept kept' =>
    dsimp only
    split
    · exact hkeep (hfail _ _)
    · exact hkeep (.graded (reported_of_kept asked kept kept' ‹_›))
  | graded reported => exact hkeep (.stored reported)
  | stored reported => exact hkeep (.answered fun _ => ⟨_, reported, rfl⟩)
  | answered tells =>
    dsimp only
    split
    · exact hkeep .stuck
    · rename_i hgiven
      unfold Desk.giveBack? at hgiven
      split at hgiven
      · cases hgiven
      · cases hgiven
        exact hkeep (.leaving tells)
  | leaving tells =>
    dsimp only
    split
    · exact hkeep (.leaving tells)
    · exact hkeep (.leaving tells)
  | stuck => exact hkeep .stuck

/-- A request that is brought to its answer is told of a report on what was sent, or of a fault. -/
theorem UnderWay.tells (h : UnderWay d around name job desk now) :
    Tells d.settings around name job (desk.conclude around name now).1 := by
  -- The bound on the steps ahead falls with every step, so it carries the induction.
  induction hsteps : now.stepsLeft using Nat.strongRecOn generalizing desk now with
  | ind steps ih =>
    cases hanswer : now.answer? with
    | none =>
      rw [Desk.conclude_of_none hanswer]
      exact ih _ (hsteps ▸ desk.stepsLeft_advance_lt around name hanswer) h.advance rfl
    | some r =>
      rw [Desk.conclude_of_answer hanswer]
      have hfollows := h.follows
      unfold Job.answer? at hanswer
      split at hanswer
      · rename_i hstage _
        cases hanswer
        rw [hstage] at hfollows
        cases hfollows with
        | leaving tells => exact tells
      · cases hanswer
        intro hstatus
        cases hstatus
      · cases hanswer

/-- A request that is admitted brings along what the form says. -/
theorem enter_eq_ok {form : Form} (h : d.enter form = (.ok job, desk)) :
    desk.settings = d.settings ∧ desk.temporary = d.temporary ∧ job.stage = .admitted ∧
      uploadFor? form .student = some job.student ∧
      uploadFor? form .reference = some job.reference ∧ job.threshold = form.value? "threshold" := by
  unfold Desk.enter at h
  split at h
  · cases h
  · split at h
    · rename_i student reference hstudent hreference
      split at h
      · cases h
      · rename_i hslot
        unfold Desk.takeSlot? at hslot
        split at hslot
        · cases hslot
        · cases hslot
          cases h
          exact ⟨rfl, rfl, rfl, hstudent, hreference, rfl⟩
    · cases h

/-- A request that is not admitted is told of a fault. -/
theorem status_of_enter {form : Form} {r : Response} (h : d.enter form = (.error r, desk)) :
    r.status ≠ 200 := by
  obtain ⟨r', henter, haway⟩ | ⟨job, henter, -⟩ := d.enter_cases form
  · rw [h] at henter
    cases henter
    obtain rfl | rfl | rfl := haway <;>
      simp [Desk.tooLarge, Desk.uploadsMissing, Desk.tooBusy, Response.error]
  · rw [h] at henter
    cases henter

/-- A request whose answer is no fault is told of a report on the two files that it has sent. -/
theorem compare_reported {form : Form} (h : (d.compare around name form).1.status = 200) :
    ∃ student reference settings result, uploadFor? form .student = some student ∧
      uploadFor? form .reference = some reference ∧
      d.settings.forRequest (form.value? "threshold") = .ok settings ∧
      Assessed settings around.clock (Received student) (Received reference) result ∧
      (d.compare around name form).1 = reportResponse name (result.report.toJson .real) := by
  unfold Desk.compare at h ⊢
  split at h
  · rename_i henter
    exact absurd h (status_of_enter henter)
  · rename_i job desk henter
    obtain ⟨hsettings, htemporary, hstage, hstudent, hreference, hthreshold⟩ := enter_eq_ok henter
    have hstart : UnderWay desk around name job desk job :=
      ⟨rfl, rfl, rfl, rfl, rfl, hstage ▸ .admitted⟩
    obtain ⟨report, ⟨settings, result, hasked, hassessed, rfl⟩, hanswer⟩ := hstart.tells h
    rw [hsettings, hthreshold] at hasked
    exact ⟨job.student, job.reference, settings, result, hstudent, hreference, hasked, hassessed,
      hanswer⟩

end Steps

end StructureGrader.Service
