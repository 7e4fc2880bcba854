import StructureGrader.Proofs.Service.Reports

/-!
# What requests leave behind

Whatever is kept in temporary folders is accounted for (`Accounted`): it is one of the two folders that
the service starts with, a report that was stored, something in a folder of a request that is under way,
or the folder of an archive that a request has sent and that fails to unpack in a way that is no refusal.
A step of a request keeps what it makes below its own folders, which are taken away before the request is
over (`Advance.origin`, `Advance.folders_eq_nil`). So this holds in every run, and when no request is
under way the only folders for archives are those that such archives have left (`run_keepsOrder`).
-/

namespace StructureGrader.Service

/-! ## What requests have sent -/

/-- A file arrives with a request, for one of its sides. -/
def Arrives (events : List Event) (upload : Upload) : Prop :=
  ∃ form side, .arrive form ∈ events ∧ uploadFor? form side = some upload

/-- A step is taken on a machine. -/
def Runs (events : List Event) (host : Host) : Prop :=
  ∃ n around id, .advance n around id ∈ events ∧ around.host = host

/-- What an archive leaves on a machine that fails to unpack there, but is not refused: its folder,
with what was written to it before. -/
def LeftFrom (host : Host) (temporary : Place) (bytes : ByteArray) (item : Place × Kept) : Prop :=
  ∃ ending folder fault, item = (temporary ++ ["grader_" ++ ending], .entry folder) ∧
    (Archive.extract host (temporary ++ ["grader_" ++ ending]) bytes).run .empty =
      (.error (.failed fault), folder)

/-- Why something is kept. -/
inductive Accounted (temporary : Place) (events : List Event) (t : Traffic) :
    Place × Kept → Prop
  /-- The service starts with it. -/
  | own {item : Place × Kept} (start : item ∈ Shelf.opened temporary) :
      Accounted temporary events t item
  /-- It is a report that was stored. -/
  | report {n : Nat} {id : String} {report : Report Float} (stored : .stored n id report ∈ t.log) :
      Accounted temporary events t (reportPlace temporary id, .report (report.toJson .real))
  /-- It lies in a folder of a request that is under way. -/
  | underWay {n : Nat} {job : Job} {folder : Place} {item : Place × Kept}
      (here : t.job? n = some job) (mem : folder ∈ job.folders) (below : folder <+: item.1) :
      Accounted temporary events t item
  /-- It is left by an archive. -/
  | left {upload : Upload} {host : Host} {item : Place × Kept} (arrives : Arrives events upload)
      (runs : Runs events host) (left : LeftFrom host temporary upload.bytes item) :
      Accounted temporary events t item

/-! ## What one step keeps -/

section Saving

variable {around : Surroundings} {temporary folder place : Place} {side : Side} {upload : Upload}
  {s after : Scratch} {result : Except GradingError Place} {item : Place × Kept}

/-- What is kept after an archive is unpacked was kept before, or it is the new folder, or what the
archive leaves. -/
theorem origin_unpacking {host : Host} {endings : Nat → String} {bytes : ByteArray}
    {result : Except ExtractionError Place}
    (h : s.Unpacking host temporary endings (.ok bytes) result after) (hitem : item ∈ after) :
    item ∈ s ∨ result = .ok item.1 ∨ LeftFrom host temporary bytes item := by
  cases h with
  | noName | refused => exact Or.inl hitem
  | unpacked =>
    obtain rfl | hold := List.mem_cons.1 hitem
    · exact Or.inr (Or.inl rfl)
    · exact Or.inl hold
  | @failed place new entry fault made extracted =>
    obtain rfl | hold := List.mem_cons.1 hitem
    · obtain ⟨i, rfl, -, -⟩ := Scratch.newFolder?_eq_some made
      exact Or.inr (Or.inr ⟨_, entry, fault, rfl, extracted⟩)
    · exact Or.inl hold

/-- What is kept after something is put in a folder was kept before or lies there. -/
theorem origin_put {name : String} {x : Kept} (hitem : item ∈ s.put (folder ++ [name]) x) :
    item ∈ s ∨ folder <+: item.1 := by
  obtain rfl | ⟨hold, -⟩ := Scratch.mem_put.1 hitem
  · exact Or.inr (List.prefix_append folder [name])
  · exact Or.inl hold

/-- What is kept after a file is saved was kept before, or it lies in the folder for it or is the
one that its archive is unpacked to, or it is what the archive leaves. -/
theorem origin_saving (h : Saving around temporary folder side upload s result after)
    (hitem : item ∈ after) :
    item ∈ s ∨ folder <+: item.1 ∨ result = .ok item.1 ∨
      LeftFrom around.host temporary upload.bytes item := by
  cases h with
  | notChecked | notSaved | saved => exact (origin_put hitem).imp_right Or.inl
  | notUnpacked unpacking =>
    obtain hput | hnew | hleft := origin_unpacking unpacking hitem
    · exact (origin_put hput).imp_right Or.inl
    · cases hnew
    · exact Or.inr (Or.inr (Or.inr hleft))
  | unpacked unpacking =>
    obtain hput | hnew | hleft := origin_unpacking unpacking hitem
    · exact (origin_put hput).imp_right Or.inl
    · cases hnew
      exact Or.inr (Or.inr (Or.inl rfl))
    · exact Or.inr (Or.inr (Or.inr hleft))
  | otherKind => exact Or.inl hitem

end Saving

/-- Something lies in one of the folders of a request. -/
def Job.Covers (job : Job) (place : Place) : Prop :=
  ∃ folder ∈ job.folders, folder <+: place

/-- What lies in a folder of a request still does when it has more folders. -/
theorem Job.Covers.mono {job after : Job} {place : Place} (h : job.Covers place)
    (hfolders : ∀ folder ∈ job.folders, folder ∈ after.folders) : after.Covers place := by
  obtain ⟨folder, hmem, hbelow⟩ := h
  exact ⟨folder, hfolders folder hmem, hbelow⟩

section Advance

variable {d desk : Desk} {around : Surroundings} {name : String} {job after : Job}

/-- What is kept after a step of a request was kept before, and if it lay in a folder of the request
it still does; or it lies in one now, or is the report that is stored, or what an archive leaves
that the request has sent. -/
theorem Advance.origin (hstep : Advance d around name job after desk)
    (hhome : ∀ folder ∈ job.stage.home?, folder ∈ job.folders) (n : Nat) {item : Place × Kept}
    (hitem : item ∈ desk.files) :
    (item ∈ d.files ∧ (job.Covers item.1 → after.Covers item.1)) ∨ after.Covers item.1 ∨
      (∃ id report, .stored n id report ∈ job.stage.notes n after.stage ∧
        item = (reportPlace d.temporary id, .report (report.toJson .real))) ∨
      ∃ side, LeftFrom around.host d.temporary (job.upload side).bytes item := by
  cases hstep with
  | configure | grade | answer | fail | giveBack | stick => exact Or.inl ⟨hitem, id⟩
  | @house settings folder files stage made =>
    obtain ⟨i, -, -, rfl⟩ := Scratch.newFolder?_eq_some made
    obtain rfl | hold := List.mem_cons.1 hitem
    · exact Or.inr (Or.inl ⟨folder, List.mem_cons_self, List.prefix_refl _⟩)
    · exact Or.inl ⟨hold, fun hcovers => hcovers.mono fun _ => List.mem_cons_of_mem _⟩
  | @save side next folder place files stage saving isOpen home =>
    obtain hold | hbelow | hnew | hleft := origin_saving saving hitem
    · exact Or.inl ⟨hold, fun hcovers => hcovers.mono fun _ => List.mem_cons_of_mem _⟩
    · exact Or.inr (Or.inl ⟨folder, List.mem_cons_of_mem _ (hhome folder stage), hbelow⟩)
    · cases hnew
      exact Or.inr (Or.inl ⟨_, List.mem_cons_self, List.prefix_refl _⟩)
    · exact Or.inr (Or.inr (Or.inr ⟨side, hleft⟩))
  | @failSaving side folder files e stage saving =>
    obtain hold | hbelow | hnew | hleft := origin_saving saving hitem
    · exact Or.inl ⟨hold, id⟩
    · exact Or.inr (Or.inl ⟨folder, hhome folder stage, hbelow⟩)
    · cases hnew
    · exact Or.inr (Or.inr (Or.inr ⟨side, hleft⟩))
  | @store report stage =>
    obtain hreport | ⟨hold, -⟩ := Scratch.mem_put.1 hitem
    · rw [stage]
      exact Or.inr (Or.inr (Or.inl ⟨name, report, List.mem_singleton_self _, hreport⟩))
    · exact Or.inl ⟨hold, id⟩
  | @clear response folder folders stage left =>
    obtain ⟨hold, hoff⟩ := Scratch.mem_remove.1 hitem
    refine Or.inl ⟨hold, ?_⟩
    rintro ⟨other, hother, hbelow⟩
    rw [left] at hother
    obtain rfl | hrest := List.mem_cons.1 hother
    · -- The folder that is removed takes all that lies below it along.
      exact absurd hbelow hoff
    · exact ⟨other, hrest, hbelow⟩

/-- A request that is over has no folders left, where there was room for its slot. -/
theorem Advance.folders_eq_nil {r : Response} (hstep : Advance d around name job after desk)
    (hroom : job.holdsSlot = true → d.freeSlots < d.slots) (hover : after.answer? = some r) :
    after.folders = [] := by
  unfold Job.answer? at hover
  split at hover
  · assumption
  · rename_i hstuck
    cases hstep with
    | stick stage room =>
      have hslot : job.holdsSlot = true := by
        unfold Job.holdsSlot
        rw [stage]
      have := hroom hslot
      omega
    | save stage saving isOpen home =>
      cases hstuck
      cases isOpen
    | _ => cases hstuck
  · cases hover

/-- A request does not change what was sent with it. -/
theorem Advance.upload (hstep : Advance d around name job after desk) (side : Side) :
    after.upload side = job.upload side := by
  cases hstep <;> cases side <;> rfl

end Advance

/-! ## Runs -/

namespace Traffic

variable {t : Traffic} {n m : Nat} {job before after : Job} {desk : Desk}

/-- A step of one request leaves the jobs of the others as they are. -/
theorem job?_proceed_of_ne (hne : n ≠ m) (h : t.job? m = some job) :
    (t.proceed n before after desk).job? m = some job := by
  rw [job?_eq_some] at h ⊢
  rw [proceed_eq]
  dsimp only
  rwa [List.getElem?_set_ne hne]

/-- A request that is not over has its job. -/
theorem job?_proceed_self (h : t.job? n = some before) (hunder : after.answer? = none) :
    (t.proceed n before after desk).job? n = some after := by
  rw [job?_eq_some] at h ⊢
  obtain ⟨hlength, -⟩ := List.getElem?_eq_some_iff.1 h
  rw [proceed_eq]
  dsimp only
  rw [List.getElem?_set_self hlength]
  unfold Job.remaining
  rw [hunder]

/-- An arrival leaves the jobs of the others as they are. -/
theorem job?_append {new : Option Job} {log : List Note} (h : t.job? m = some job) :
    job? ⟨desk, t.jobs ++ [new], log⟩ m = some job := by
  rw [job?_eq_some] at h ⊢
  obtain ⟨hlength, -⟩ := List.getElem?_eq_some_iff.1 h
  dsimp only
  rwa [List.getElem?_append_left hlength]

end Traffic

/-- Everything that is kept is accounted for, and the files of requests that are under way are those
that have arrived. -/
structure Tidy (temporary : Place) (events : List Event) (t : Traffic) : Prop where
  kept : ∀ item ∈ t.desk.files, Accounted temporary events t item
  sent : ∀ n job, t.job? n = some job → ∀ side, Arrives events (job.upload side)

variable {temporary : Place} {events : List Event} {t : Traffic} {item : Place × Kept}

/-- Whatever is accounted for is so after a step that keeps the notes and the jobs. -/
theorem Accounted.mono {t' : Traffic} (h : Accounted temporary events t item)
    (hlog : ∀ note ∈ t.log, note ∈ t'.log) (hjobs : ∀ n job, t.job? n = some job →
      job.Covers item.1 → Accounted temporary events t' item) :
    Accounted temporary events t' item := by
  cases h with
  | own start => exact .own start
  | report stored => exact .report (hlog _ stored)
  | underWay here mem below => exact hjobs _ _ here ⟨_, mem, below⟩
  | left arrives runs left => exact .left arrives runs left

/-- A step of a request, where it covers what it has made or has nothing left. -/
theorem Tidy.proceed (h : Tidy temporary events t) {n : Nat} {job after : Job} {desk : Desk}
    (hjob : t.job? n = some job) (hupload : ∀ side, after.upload side = job.upload side)
    (hover : ∀ r, after.answer? = some r → after.folders = [])
    (hitems : ∀ item ∈ desk.files,
      (item ∈ t.desk.files ∧ (job.Covers item.1 → after.Covers item.1)) ∨ after.Covers item.1 ∨
        (∃ id report, .stored n id report ∈ job.stage.notes n after.stage ∧
          item = (reportPlace temporary id, .report (report.toJson .real))) ∨
        ∃ side host, Runs events host ∧ LeftFrom host temporary (job.upload side).bytes item) :
    Tidy temporary events (t.proceed n job after desk) := by
  have hlog : (t.proceed n job after desk).log = (after.answer?.map (Note.answered n)).toList ++
      (job.stage.notes n after.stage ++ t.log) := by
    rw [Traffic.proceed_eq]
  -- A request that still covers something is not over.
  have hcovers : ∀ item : Place × Kept, after.Covers item.1 →
      Accounted temporary events (t.proceed n job after desk) item := by
    rintro item ⟨folder, hfolder, hbelow⟩
    cases hanswer : after.answer? with
    | some r =>
      rw [hover r hanswer] at hfolder
      cases hfolder
    | none => exact .underWay (Traffic.job?_proceed_self hjob hanswer) hfolder hbelow
  refine ⟨?_, ?_⟩
  · intro item hitem
    have hdesk : (t.proceed n job after desk).desk = desk := by rw [Traffic.proceed_eq]
    rw [hdesk] at hitem
    obtain ⟨hold, hstays⟩ | hcovered | ⟨id, report, hnote, rfl⟩ |
      ⟨side, host, hruns, hleft⟩ := hitems item hitem
    · refine (h.kept item hold).mono ?_ ?_
      · intro note hnote
        rw [hlog]
        exact List.mem_append_right _ (List.mem_append_right _ hnote)
      · intro m other hother hcovered
        by_cases hsame : n = m
        · subst hsame
          rw [hjob, Option.some.injEq] at hother
          subst hother
          exact hcovers item (hstays hcovered)
        · obtain ⟨folder, hfolder, hbelow⟩ := hcovered
          exact .underWay (Traffic.job?_proceed_of_ne hsame hother) hfolder hbelow
    · exact hcovers item hcovered
    · refine .report (n := n) ?_
      rw [hlog]
      exact List.mem_append_right _ (List.mem_append_left _ hnote)
    · exact .left (h.sent n job hjob side) hruns hleft
  · intro m other hother side
    obtain ⟨-, rfl, -⟩ | hold := Traffic.job?_proceed hother
    · rw [hupload]
      exact h.sent n job hjob side
    · exact h.sent m other hold side

/-- An arrival, with what is sent. -/
theorem Tidy.arrive (h : Tidy temporary events t) {new : Option Job} {desk : Desk} {note : Note}
    (hfiles : desk.files = t.desk.files)
    (hnew : ∀ job, new = some job → ∀ side, Arrives events (job.upload side)) :
    Tidy temporary events ⟨desk, t.jobs ++ [new], note :: t.log⟩ := by
  refine ⟨?_, ?_⟩
  · intro item hitem
    dsimp only at hitem
    rw [hfiles] at hitem
    refine (h.kept item hitem).mono (fun _ hmem => List.mem_cons_of_mem _ hmem) ?_
    rintro n job hjob ⟨folder, hfolder, hbelow⟩
    exact .underWay (Traffic.job?_append hjob) hfolder hbelow
  · intro n job hjob
    obtain hjob | hold := Traffic.job?_arrive hjob
    · exact hnew job hjob
    · exact h.sent n job hold

/-- Every step leaves everything accounted for. -/
theorem Tidy.step {s : Settings} {after : Traffic} {e : Event} (he : e ∈ events)
    (h : Tidy temporary events t) (hsound : Sound s t) (hshelved : Shelved temporary t)
    (hstep : t.Step e after) : Tidy temporary events after := by
  cases hstep with
  | idle => exact h
  | turnAway => exact h.arrive rfl (fun _ => nofun)
  | @enter form new arrived student reference free stage folders =>
    subst arrived
    refine h.arrive rfl ?_
    rintro job ⟨⟩ side
    cases side with
    | student => exact ⟨form, .student, he, student⟩
    | reference => exact ⟨form, .reference, he, reference⟩
  | @advance n id job after desk around taken here step =>
    subst taken
    have hadvance := step (hsound.story_of here).answer?_eq_none
    refine h.proceed here hadvance.upload
      (fun r => hadvance.folders_eq_nil (hsound.room here)) ?_
    intro item hitem
    -- What a failed archive leaves is laid to the event that ran the request.
    have horigin := hadvance.origin (hshelved.apart n job here).home n hitem
    rw [hshelved.folder] at horigin
    have hruns : Runs events around.host := ⟨n, around, id, he, rfl⟩
    exact horigin.imp_right <| Or.imp_right <| Or.imp_right fun ⟨side, hleft⟩ =>
      ⟨side, around.host, hruns, hleft⟩
  | @interrupt n job here trouble =>
    have hanswer := (hsound.story_of here).answer?_eq_none
    obtain hsame | ⟨hstopped, -⟩ := job.interrupt_cases trouble
    · rw [hsame]
      refine h.proceed here (fun _ => rfl) ?_ fun item hitem => Or.inl ⟨hitem, id⟩
      intro r hover
      rw [hanswer] at hover
      cases hover
    · rw [hstopped]
      refine h.proceed here (fun side => by cases side <;> rfl) ?_
        fun item hitem => Or.inl ⟨hitem, id⟩
      intro r hover
      cases hover
  | fetch name =>
    refine ⟨fun item hitem => ?_, h.sent⟩
    refine (h.kept item hitem).mono (fun _ hmem => List.mem_cons_of_mem _ hmem) ?_
    rintro n job hjob ⟨folder, hfolder, hbelow⟩
    exact .underWay hjob hfolder hbelow

/-- What holds of a service with requests that run side by side: everything that is kept is
accounted for, and when no request is under way, a folder for an archive that is there was left by
one that fails to unpack in a way that is no refusal. -/
structure KeepsOrder (temporary : Place) (events : List Event) (t : Traffic) : Prop where
  accounted : ∀ item ∈ t.desk.files, Accounted temporary events t item
  idle : (∀ n, t.job? n = none) → ∀ ending, ∀ item ∈ t.desk.files,
    temporary ++ ["grader_" ++ ending] <+: item.1 →
      ∃ upload host, Arrives events upload ∧ Runs events host ∧
        LeftFrom host temporary upload.bytes item

/-- The folders of the service lie beside those for archives. -/
theorem not_prefix_opened {start : Place × Kept} (h : start ∈ Shelf.opened temporary)
    (ending : String) : ¬ temporary ++ ["grader_" ++ ending] <+: start.1 := by
  have hbelow : start.1 <+: shelfIn temporary := by
    unfold Shelf.opened at h
    obtain rfl | hhome := List.mem_cons.1 h
    · exact List.prefix_refl _
    · rw [List.mem_singleton.1 hhome]
      exact List.prefix_append _ _
  intro hfolder
  have hfile : shelfIn temporary <+: shelfIn temporary ++ [""] := List.prefix_append _ _
  exact apart_extraction temporary ending "" (hfolder.trans (hbelow.trans hfile))

/-- Every run keeps the service in order. -/
theorem run_keepsOrder (s : Settings) (temporary : Place) (events : List Event) :
    KeepsOrder temporary events ((Traffic.opened s temporary).run events) := by
  have hstart : Tidy temporary events (Traffic.opened s temporary) :=
    ⟨fun _ hitem => .own hitem, fun _ _ hjob => by cases hjob⟩
  have hrun := Traffic.run_induction
    (fun t => Sound s t ∧ Shelved temporary t ∧ Tidy temporary events t)
    ⟨sound_opened s temporary, shelved_opened s temporary, hstart⟩ events
    fun _ _ _ he ⟨hsound, hshelved, htidy⟩ hstep =>
      ⟨hsound.step hstep, hshelved.step hsound hstep, htidy.step he hsound hshelved hstep⟩
  obtain ⟨-, hshelved, htidy⟩ := hrun
  refine ⟨htidy.kept, ?_⟩
  intro hidle ending item hitem hfolder
  cases htidy.kept item hitem with
  | own start => exact absurd hfolder (not_prefix_opened start ending)
  | report stored =>
    rw [reportPlace_of_canonical (hshelved.given _ _ _ stored)] at hfolder
    exact absurd hfolder (apart_extraction temporary ending _)
  | underWay here mem below =>
    rw [hidle] at here
    cases here
  | left arrives runs left => exact ⟨_, _, arrives, runs, left⟩

end StructureGrader.Service
