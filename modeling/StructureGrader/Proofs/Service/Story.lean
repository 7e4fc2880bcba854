import StructureGrader.Proofs.Service.Steps
import Mathlib.Data.List.Count

/-!
# What happens to a request

Whatever the order in which requests take their steps, what is noted of one of them follows a plan
(`Story`): it is turned away, or it takes a slot, perhaps stores a report, gives its slot back and is
answered. A slot can be given back because it is one of those that are taken: the free slots and the
requests that hold one are as many as there are slots. `Sound` is all of this together; each step
keeps it (`Sound.step`), so it holds in every run (`run_sound`).
-/

namespace StructureGrader.Service

/-! ## Requests side by side -/

/-- Whether something has happened to a request. -/
def Note.isOn (request : Nat) : Note → Bool
  | .turnedAway n _ | .tookSlot n | .stored n _ _ | .gaveBack n | .overRelease n | .answered n _ =>
    n == request
  | .fetched _ _ => false

/-- A request that holds a slot is not answered. -/
theorem Job.any_remaining (job : Job) : job.remaining.any Job.holdsSlot = job.holdsSlot := by
  obtain ⟨student, reference, threshold, stage, folders⟩ := job
  cases stage with
  | leaving response =>
    cases folders with
    | nil => rfl
    | cons folder folders => rfl
  | _ => rfl

namespace Traffic

/-- The notes on a request, the last one first. -/
def notesOf (t : Traffic) (request : Nat) : List Note :=
  t.log.filter (Note.isOn request)

/-- How many requests hold a slot. -/
def holders (t : Traffic) : Nat :=
  t.jobs.countP fun job => job.any Job.holdsSlot

end Traffic

/-! ## The story of a request -/

/-- The note that a report is stored, if one is. -/
def storedNote (request : Nat) (kept : Option (String × Report Float)) : List Note :=
  (kept.map fun x => Note.stored request x.1 x.2).toList

/-- The only note of a storing is that of the report that was kept. -/
theorem mem_storedNote {request : Nat} {kept : Option (String × Report Float)} {note : Note} :
    note ∈ storedNote request kept ↔
      ∃ id report, kept = some (id, report) ∧ note = .stored request id report := by
  unfold storedNote
  cases kept with
  | none => simp
  | some x =>
    obtain ⟨id, report⟩ := x
    simp

/-- What a request is answered by the report that is stored for it: the answer with the report,
unless the request is stopped after that, and otherwise that of a failure. -/
def Outcome (kept : Option (String × Report Float)) (r : Response) : Prop :=
  match kept with
  | none => r.status = 400 ∨ r.status = 500 ∨ r.status = 504
  | some (name, report) =>
    r = reportResponse name (report.toJson .real) ∨ ∃ trouble : Trouble, r = trouble.response

/-- How far a request has come goes with the report that is stored for it. -/
def Stage.Agrees (kept : Option (String × Report Float)) : Stage → Prop
  | .stored name report => kept = some (name, report)
  | .answered r | .leaving r => Outcome kept r
  | .stuck => False
  | _ => kept = none

/-- What is noted of a request, the last thing first, by what is left of it. -/
inductive Story (s : Settings) (request : Nat) : Option (Option Job) → List Note → Prop
  | absent : Story s request none []
  | turnedAway {r : Response} (hr : TurnedAway s r) :
      Story s request (some none) [.turnedAway request r]
  | holding {job : Job} {kept : Option (String × Report Float)} (hslot : job.holdsSlot = true)
      (hstage : job.stage.Agrees kept) :
      Story s request (some (some job)) (storedNote request kept ++ [.tookSlot request])
  | leaving {job : Job} {kept : Option (String × Report Float)} {r : Response}
      (hstage : job.stage = .leaving r) (hleft : job.folders ≠ []) (hr : Outcome kept r) :
      Story s request (some (some job))
        (.gaveBack request :: (storedNote request kept ++ [.tookSlot request]))
  | answered {kept : Option (String × Report Float)} {r : Response} (hr : Outcome kept r) :
      Story s request (some none)
        (.answered request r :: .gaveBack request ::
          (storedNote request kept ++ [.tookSlot request]))

/-- A note on a request is among those on it. -/
theorem Traffic.mem_notesOf {t : Traffic} {n : Nat} {note : Note} (h : note ∈ t.log)
    (hon : note.isOn n = true) : note ∈ t.notesOf n :=
  List.mem_filter.2 ⟨h, hon⟩

/-- The state of a service that was opened with some settings: every slot is free or held by a
request, and every request follows the plan. -/
structure Sound (s : Settings) (t : Traffic) : Prop where
  settings : t.desk.settings = s
  slots : t.desk.freeSlots + t.holders = s.maxAnalyses.toNat
  story : ∀ request, Story s request t.jobs[request]? (t.notesOf request)

/-! ## What a step does to a story -/

/-- A request that holds a slot is not yet answered. -/
theorem Job.answer?_of_holdsSlot {job : Job} (h : job.holdsSlot = true) : job.answer? = none := by
  unfold Job.holdsSlot at h
  unfold Job.answer?
  cases hstage : job.stage with
  | leaving | stuck => simp [hstage] at h
  | _ => rfl

/-- A request whose grading failed is answered by the failure, and nothing is kept. -/
theorem GradingError.outcome (e : GradingError) : Outcome none e.response := by
  unfold Outcome GradingError.response Response.error GradingError.status
  cases e with
  | archive e => cases e <;> simp
  | _ => simp

/-- Trouble is an outcome whether or not a report is stored. -/
theorem Outcome.trouble (kept : Option (String × Report Float)) (trouble : Trouble) :
    Outcome kept trouble.response := by
  cases kept with
  | none => cases trouble <;> simp [Outcome, Trouble.response, Response.error]
  | some x => exact Or.inr ⟨trouble, rfl⟩

/-- A report is answered with status 200. -/
theorem reportResponse_status (name : String) (report : Json) :
    (reportResponse name report).status = 200 := by
  cases report <;> rfl

/-- The statuses of all outcomes. -/
theorem Outcome.status {kept : Option (String × Report Float)} {r : Response}
    (h : Outcome kept r) :
    r.status = 200 ∨ r.status = 400 ∨ r.status = 500 ∨ r.status = 504 := by
  cases kept with
  | none => exact Or.inr h
  | some x =>
    obtain rfl | ⟨trouble, rfl⟩ := h
    · exact Or.inl (reportResponse_status _ _)
    · exact Or.inr (Outcome.trouble none trouble)

/-- Only with a report is a request answered that it went well. -/
theorem Outcome.of_status {kept : Option (String × Report Float)} {r : Response}
    (h : Outcome kept r) (hstatus : r.status = 200) :
    ∃ name report, kept = some (name, report) ∧ r = reportResponse name (report.toJson .real) := by
  have hother : ∀ r : Response, Outcome none r → r.status ≠ 200 := by
    intro r hr heq
    unfold Outcome at hr
    omega
  cases kept with
  | none => exact absurd hstatus (hother r h)
  | some x =>
    obtain rfl | ⟨trouble, rfl⟩ := h
    · exact ⟨_, _, rfl, rfl⟩
    · exact absurd hstatus (hother _ (Outcome.trouble none trouble))

/-- Before it is graded a request has no report. -/
theorem Stage.agrees_of_isOpen {stage : Stage} (hopen : stage.isOpen = true)
    (kept : Option (String × Report Float)) : stage.Agrees kept ↔ kept = none := by
  cases stage with
  | admitted | configured | housed | halfSaved | saved => exact Iff.rfl
  | _ => cases hopen

/-- A request at work holds a slot. -/
theorem Job.holdsSlot_of_isOpen {job : Job} (hopen : job.stage.isOpen = true) :
    job.holdsSlot = true := by
  unfold Job.holdsSlot
  cases hstage : job.stage with
  | leaving | stuck =>
    rw [hstage] at hopen
    cases hopen
  | _ => rfl

section Story

variable {s : Settings} {n : Nat} {job after : Job} {kept : Option (String × Report Float)}
  {r : Response} {notes : List Note}

/-- A request that holds a slot is told of as one that holds it. -/
theorem Story.of_holdsSlot (hslot : after.holdsSlot = true) (hstage : after.stage.Agrees kept) :
    Story s n (some after.remaining)
      ((after.answer?.map (Note.answered n)).toList ++ (storedNote n kept ++ [.tookSlot n])) := by
  unfold Job.remaining
  rw [Job.answer?_of_holdsSlot hslot]
  exact .holding hslot hstage

/-- A request that has given its slot back is told of as answered or on its way out. -/
theorem Story.of_leaving (hstage : after.stage = .leaving r) (hr : Outcome kept r) :
    Story s n (some after.remaining)
      ((after.answer?.map (Note.answered n)).toList ++
        .gaveBack n :: (storedNote n kept ++ [.tookSlot n])) := by
  unfold Job.remaining Job.answer?
  rw [hstage]
  cases hleft : after.folders with
  | nil => exact .answered hr
  | cons folder folders => exact .leaving hstage (by simp [hleft]) hr

/-- A request that is under way is not yet answered. -/
theorem Story.answer?_eq_none (h : Story s n (some (some job)) notes) : job.answer? = none := by
  cases h with
  | holding hslot hstage => exact Job.answer?_of_holdsSlot hslot
  | leaving hstage hleft hr =>
    unfold Job.answer?
    rw [hstage]
    cases hfolders : job.folders with
    | nil => exact absurd hfolders hleft
    | cons folder folders => rfl

/-- The notes on a request tell of one report at most, and its answer goes with that. -/
theorem Story.exists_kept {state : Option (Option Job)} (h : Story s n state notes) :
    ∃ kept, (∀ id report, .stored n id report ∈ notes ↔ kept = some (id, report)) ∧
      ∀ r, .answered n r ∈ notes → Outcome kept r := by
  cases h with
  | absent => exact ⟨none, by simp, by simp⟩
  | turnedAway => exact ⟨none, by simp, by simp⟩
  | @holding _ kept => exact ⟨kept, by simp [mem_storedNote], by simp [mem_storedNote]⟩
  | @leaving _ kept => exact ⟨kept, by simp [mem_storedNote], by simp [mem_storedNote]⟩
  | @answered kept r hr =>
    refine ⟨kept, by simp [mem_storedNote], ?_⟩
    intro r' hanswered
    obtain rfl : r' = r := by simpa [mem_storedNote] using hanswered
    exact hr

/-- Before it is graded a request leaves no note, unless it takes a step that there is not. -/
theorem Stage.notes_of_isOpen {stage : Stage} (hopen : stage.isOpen = true) (next : Stage) :
    stage.notes n next = [] := by
  cases stage with
  | admitted | configured | housed | halfSaved | saved => rfl
  | _ => cases hopen

/-- A request that is stopped is told of as one that has its answer. -/
theorem Story.of_answer (hr : Outcome kept r) :
    Story s n (some (job.answer r).remaining)
      (((job.answer r).answer?.map (Note.answered n)).toList ++
        (storedNote n kept ++ [.tookSlot n])) :=
  Story.of_holdsSlot rfl hr

/-- Of a request that has not come nothing is noted. -/
theorem Story.eq_nil (h : Story s n none notes) : notes = [] := by
  cases h
  rfl

/-- The step of a request carries its story on, where there is room for the slot that it gives
back. -/
theorem Story.advance {d desk : Desk} {around : Surroundings} {name : String}
    (hstep : Advance d around name job after desk)
    (hroom : job.holdsSlot = true → d.freeSlots < d.slots)
    (h : Story s n (some (some job)) notes) :
    Story s n (some after.remaining)
      ((after.answer?.map (Note.answered n)).toList ++
        (job.stage.notes n after.stage ++ notes)) := by
  cases h with
  | leaving hstage hleft hr =>
    cases hstep with
    | clear stage left =>
      rw [hstage] at stage ⊢
      cases stage
      exact Story.of_leaving rfl hr
    | configure stage | house stage | store stage | answer stage | giveBack stage | stick stage =>
      rw [hstage] at stage
      cases stage
    | save stage | grade stage | fail _ stage | failSaving stage =>
      rw [hstage] at stage
      cases stage
  | @holding _ kept hslot hagrees =>
    -- Until it is graded there is no report for the request.
    have hopen : job.stage.isOpen = true → kept = none := fun h =>
      (Stage.agrees_of_isOpen h kept).1 hagrees
    cases hstep with
    | configure stage | house stage =>
      rw [stage] at hagrees ⊢
      exact Story.of_holdsSlot rfl hagrees
    | save stage saving isOpen home =>
      have hkept := hopen (Stage.isOpen_of_home stage)
      rw [Stage.notes_of_isOpen (Stage.isOpen_of_home stage)]
      exact Story.of_holdsSlot (Job.holdsSlot_of_isOpen isOpen)
        ((Stage.agrees_of_isOpen isOpen kept).2 hkept)
    | grade stage =>
      have hkept := hopen stage
      rw [Stage.notes_of_isOpen stage]
      exact Story.of_holdsSlot rfl hkept
    | fail e stage =>
      have hkept := hopen stage
      rw [Stage.notes_of_isOpen stage]
      subst hkept
      exact Story.of_answer e.outcome
    | failSaving stage saving =>
      have hkept := hopen (Stage.isOpen_of_home stage)
      rw [Stage.notes_of_isOpen (Stage.isOpen_of_home stage)]
      subst hkept
      exact Story.of_answer (GradingError.outcome _)
    | @store report stage =>
      rw [stage] at hagrees ⊢
      obtain rfl : kept = none := hagrees
      show Story s n _ (_ ++ (storedNote n (some (name, report)) ++ [.tookSlot n]))
      exact Story.of_holdsSlot rfl rfl
    | answer stage =>
      rw [stage] at hagrees ⊢
      obtain rfl : kept = _ := hagrees
      exact Story.of_answer (Or.inl rfl)
    | giveBack stage room =>
      rw [stage] at hagrees ⊢
      exact Story.of_leaving rfl hagrees
    | stick stage room =>
      have := hroom hslot
      omega
    | clear stage left =>
      unfold Job.holdsSlot at hslot
      rw [stage] at hslot
      cases hslot

/-- A stage that stays as it is adds no note. -/
theorem Stage.notes_self (stage : Stage) : stage.notes n stage = [] := by
  cases stage <;> rfl

/-- An answer adds no note of its own stage. -/
theorem Stage.notes_answered (stage : Stage) : stage.notes n (.answered r) = [] := by
  cases stage <;> rfl

/-- So does its interruption. -/
theorem Story.interrupt (trouble : Trouble) (h : Story s n (some (some job)) notes) :
    Story s n (some (job.interrupt trouble).remaining)
      (((job.interrupt trouble).answer?.map (Note.answered n)).toList ++
        (job.stage.notes n (job.interrupt trouble).stage ++ notes)) := by
  obtain hsame | ⟨hstopped, hslot⟩ := job.interrupt_cases trouble
  · have hanswer := h.answer?_eq_none
    have hremaining : job.remaining = some job := by
      unfold Job.remaining
      rw [hanswer]
    rw [hsame, hremaining, hanswer, Stage.notes_self]
    exact h
  · rw [hstopped, Job.answer, Stage.notes_answered]
    cases h with
    | leaving hstage hleft hr =>
      unfold Job.holdsSlot at hslot
      rw [hstage] at hslot
      cases hslot
    | @holding _ kept hslot hagrees => exact Story.of_answer (Outcome.trouble kept trouble)

end Story

/-! ## Slots -/

/-- How many slots a request holds. -/
def Job.slots (job : Job) : Nat :=
  if job.holdsSlot then 1 else 0

/-- A step takes as many slots from the service as it gives to the request. -/
theorem Advance.slots {d desk : Desk} {around : Surroundings} {name : String} {job after : Job}
    (hstep : Advance d around name job after desk)
    (hroom : job.holdsSlot = true → d.freeSlots < d.slots) :
    desk.freeSlots + after.slots = d.freeSlots + job.slots := by
  unfold Job.slots
  cases hstep with
  | save stage saving isOpen home =>
    rw [Job.holdsSlot_of_isOpen isOpen, Job.holdsSlot_of_isOpen (Stage.isOpen_of_home stage)]
  | grade stage | fail e stage =>
    rw [Job.holdsSlot_of_isOpen stage]
    rfl
  | failSaving stage saving =>
    rw [Job.holdsSlot_of_isOpen (Stage.isOpen_of_home stage)]
    rfl
  | stick stage room =>
    have hslot : job.holdsSlot = true := by
      unfold Job.holdsSlot
      rw [stage]
    have := hroom hslot
    omega
  | configure stage | house stage | store stage | answer stage | giveBack stage | clear stage =>
    simp [Job.holdsSlot, Job.answer, stage]

/-- Where a request is stopped, its slots stay as they are. -/
theorem Job.slots_interrupt (job : Job) (trouble : Trouble) :
    (job.interrupt trouble).slots = job.slots := by
  unfold Job.slots
  obtain hsame | ⟨hstopped, hslot⟩ := job.interrupt_cases trouble
  · rw [hsame]
  · rw [hstopped, hslot]
    rfl

/-- A request at work leaves the settings of the service as they are. -/
theorem Advance.settings {d desk : Desk} {around : Surroundings} {name : String} {job after : Job}
    (hstep : Advance d around name job after desk) : desk.settings = d.settings := by
  cases hstep <;> rfl

/-- A request at work leaves the folder for temporary files as it is. -/
theorem Advance.temporary {d desk : Desk} {around : Surroundings} {name : String} {job after : Job}
    (hstep : Advance d around name job after desk) : desk.temporary = d.temporary := by
  cases hstep <;> rfl

namespace Traffic

variable {t : Traffic} {n m : Nat} {job after : Job} {desk : Desk}

/-- A request that holds a slot is one of those that do. -/
theorem holders_pos (hjob : t.jobs[n]? = some (some job)) (hslot : job.holdsSlot = true) :
    0 < t.holders := by
  unfold holders
  rw [List.countP_pos_iff]
  exact ⟨some job, List.mem_of_getElem? hjob, hslot⟩

/-- When a request goes from one job to another, the slots that are held change by the slots of
these. -/
theorem holders_proceed (hjob : t.jobs[n]? = some (some job)) :
    (t.proceed n job after desk).holders + job.slots = t.holders + after.slots := by
  obtain ⟨hlength, hget⟩ := List.getElem?_eq_some_iff.1 hjob
  have hbefore : (t.jobs[n].any Job.holdsSlot) = job.holdsSlot := by rw [hget]; rfl
  have hpos : job.holdsSlot = true → 0 < t.holders := holders_pos hjob
  unfold holders at hpos ⊢
  rw [proceed_eq]
  dsimp only
  rw [List.countP_set hlength, hbefore, Job.any_remaining]
  unfold Job.slots
  cases hslot : job.holdsSlot with
  | false => simp
  | true =>
    have := hpos hslot
    simp only [if_true]
    omega

/-- What is noted of a step of a request is on that request. -/
theorem isOn_stepNotes {stage next : Stage} {note : Note}
    (h : note ∈ (after.answer?.map (Note.answered n)).toList ++ stage.notes n next) :
    note.isOn m = (n == m) := by
  obtain ⟨r, rfl⟩ | hnote := mem_stepNotes h
  · rfl
  · obtain ⟨name, report, rfl, -⟩ | rfl | rfl := Stage.mem_notes hnote <;> rfl

/-- What is noted of a request grows when that request goes on, and stays when another does. -/
theorem notesOf_proceed (t : Traffic) (n m : Nat) (before after : Job) (desk : Desk) :
    (t.proceed n before after desk).notesOf m =
      if n = m then
        (after.answer?.map (Note.answered n)).toList ++
          (before.stage.notes n after.stage ++ t.notesOf n)
      else t.notesOf m := by
  unfold notesOf
  rw [proceed_eq]
  dsimp only
  rw [← List.append_assoc, List.filter_append]
  by_cases hsame : n = m
  · subst hsame
    have hall : ((after.answer?.map (Note.answered n)).toList ++
        before.stage.notes n after.stage).filter (Note.isOn n) = _ :=
      List.filter_eq_self.2 fun note h => (isOn_stepNotes h).trans (beq_self_eq_true n)
    rw [if_pos rfl, hall, List.append_assoc]
  · have hnone : ((after.answer?.map (Note.answered n)).toList ++
        before.stage.notes n after.stage).filter (Note.isOn m) = [] :=
      List.filter_eq_nil_iff.2 fun note h => by simp [isOn_stepNotes h, hsame]
    rw [if_neg hsame, hnone, List.nil_append]

end Traffic

/-! ## Runs -/

/-- A request that takes a step, or is stopped, leaves the service sound when its own story goes on
and it holds no more slots than the service gives it. -/
theorem Sound.proceed {s : Settings} {t : Traffic} (h : Sound s t) {n : Nat} {job after : Job}
    {desk : Desk} (hjob : t.job? n = some job) (hsettings : desk.settings = t.desk.settings)
    (hslots : desk.freeSlots + after.slots = t.desk.freeSlots + job.slots)
    (hstory : Story s n (some after.remaining)
      ((after.answer?.map (Note.answered n)).toList ++
        (job.stage.notes n after.stage ++ t.notesOf n))) :
    Sound s (t.proceed n job after desk) := by
  rw [Traffic.job?_eq_some] at hjob
  obtain ⟨hlength, -⟩ := List.getElem?_eq_some_iff.1 hjob
  refine ⟨?_, ?_, ?_⟩
  · rw [Traffic.proceed_eq]
    exact hsettings.trans h.settings
  · have hholders : (t.proceed n job after desk).holders + job.slots = t.holders + after.slots :=
      Traffic.holders_proceed hjob
    have hdesk : (t.proceed n job after desk).desk = desk := by rw [Traffic.proceed_eq]
    have hcount := h.slots
    rw [hdesk]
    omega
  · intro m
    rw [Traffic.notesOf_proceed]
    -- Only the story of this request goes on.
    by_cases hsame : n = m
    · subst hsame
      rw [if_pos rfl, Traffic.proceed_eq]
      dsimp only
      rw [List.getElem?_set_self hlength]
      exact hstory
    · rw [if_neg hsame, Traffic.proceed_eq]
      dsimp only
      rw [List.getElem?_set_ne hsame]
      exact h.story m

/-- Where a request holds a slot there is room for one to be given back. -/
theorem Sound.room {s : Settings} {t : Traffic} (h : Sound s t) {n : Nat} {job : Job}
    (hjob : t.job? n = some job) (hslot : job.holdsSlot = true) :
    t.desk.freeSlots < t.desk.slots := by
  have hpos : 0 < t.holders := Traffic.holders_pos (Traffic.job?_eq_some.1 hjob) hslot
  have hcount := h.slots
  unfold Desk.slots
  rw [h.settings]
  omega

/-- What is left of a request, where there is one. -/
theorem Sound.story_of {s : Settings} {t : Traffic} (h : Sound s t) {n : Nat} {job : Job}
    (hjob : t.job? n = some job) : Story s n (some (some job)) (t.notesOf n) := by
  have hstory := h.story n
  rwa [Traffic.job?_eq_some.1 hjob] at hstory

/-- An arriving request has its place behind the others, and nothing is noted of it before. -/
theorem Sound.arrive {s : Settings} {t : Traffic} (h : Sound s t) {job : Option Job} {desk : Desk}
    {note : Note} (hsettings : desk.settings = t.desk.settings)
    (hslots : desk.freeSlots + (job.map Job.slots).getD 0 = t.desk.freeSlots)
    (hnote : ∀ m, note.isOn m = (t.jobs.length == m))
    (hstory : Story s t.jobs.length (some job) [note]) :
    Sound s ⟨desk, t.jobs ++ [job], note :: t.log⟩ := by
  -- There was no request in this place, so no story of one.
  have hbefore : t.notesOf t.jobs.length = [] := by
    have hlast := h.story t.jobs.length
    rw [List.getElem?_eq_none (Nat.le_refl _)] at hlast
    exact hlast.eq_nil
  refine ⟨hsettings.trans h.settings, ?_, ?_⟩
  · have hholders : Traffic.holders ⟨desk, t.jobs ++ [job], note :: t.log⟩ =
        t.holders + (job.map Job.slots).getD 0 := by
      unfold Traffic.holders
      rw [List.countP_append]
      cases job with
      | none => rfl
      | some job => simp [Job.slots, List.countP_cons]
    have hcount := h.slots
    rw [hholders]
    dsimp only
    omega
  · intro m
    unfold Traffic.notesOf at hbefore ⊢
    dsimp only
    rw [List.filter_cons, hnote]
    by_cases hsame : t.jobs.length = m
    · subst hsame
      rw [beq_self_eq_true, if_pos rfl, hbefore, List.getElem?_concat_length]
      exact hstory
    · rw [if_neg (by simpa using hsame)]
      have hold := h.story m
      unfold Traffic.notesOf at hold
      rcases Nat.lt_or_gt_of_ne hsame with hlt | hgt
      · rw [List.getElem?_eq_none (by omega)] at hold
        rw [List.getElem?_eq_none (by simp; omega)]
        exact hold
      · rw [List.getElem?_append_left hgt]
        exact hold

/-- Every step leaves the service sound. -/
theorem Sound.step {s : Settings} {t after : Traffic} {e : Event} (h : Sound s t)
    (hstep : t.Step e after) :
    Sound s after := by
  cases hstep with
  | idle => exact h
  | turnAway hr =>
    rw [h.settings] at hr
    exact h.arrive rfl rfl (fun _ => rfl) (.turnedAway hr)
  | @enter form job arrived student reference free stage folders =>
    have hslot : job.holdsSlot = true := Job.holdsSlot_of_isOpen (by rw [stage]; rfl)
    refine h.arrive rfl ?_ (fun _ => rfl) ?_
    · show t.desk.freeSlots - 1 + job.slots = t.desk.freeSlots
      unfold Job.slots
      rw [hslot, if_pos rfl]
      omega
    · show Story s t.jobs.length _ (storedNote t.jobs.length none ++ [.tookSlot t.jobs.length])
      exact .holding hslot (by rw [stage]; rfl)
  | advance taken here step =>
    have hstory := h.story_of here
    have hadvance := step hstory.answer?_eq_none
    have hroom := h.room here
    exact h.proceed here hadvance.settings (hadvance.slots hroom) (hstory.advance hadvance hroom)
  | @interrupt n job here trouble =>
    refine h.proceed here rfl ?_ ((h.story_of here).interrupt trouble)
    rw [job.slots_interrupt]
  | fetch name => exact ⟨h.settings, h.slots, h.story⟩

/-- A service that was just opened is sound. -/
theorem sound_opened (s : Settings) (temporary : Place) :
    Sound s (Traffic.opened s temporary) :=
  ⟨rfl, rfl, fun _ => .absent⟩

/-- In every run, every slot is free or held by a request, and every request follows the plan. -/
theorem run_sound (s : Settings) (temporary : Place) (events : List Event) :
    Sound s ((Traffic.opened s temporary).run events) :=
  Traffic.run_induction (Sound s) (sound_opened s temporary) events
    fun _ _ _ _ h hstep => h.step hstep

end StructureGrader.Service
