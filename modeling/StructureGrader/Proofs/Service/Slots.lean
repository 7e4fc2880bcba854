import StructureGrader.Proofs.Service.Story

/-!
# Slots are neither lost nor returned twice

Requests to compare arrive, take their steps in any order and are stopped at any point after they
took a slot. Of every run it holds that the free slots and the requests that hold one are as many as
the settings allow, and that each request takes a slot at most once and gives back each slot that it
took, once (`run_slotsKept`). A request that is not admitted leaves the slots alone, and one that is
comes to an answer and has given its slot back by then.
-/

namespace StructureGrader.Service

/-- What a request does with a slot. -/
inductive SlotMove
  | take
  | giveBack
  /-- It gives back a slot although all of them are free. -/
  | overRelease
deriving DecidableEq, Repr

/-- What a note says of slots. -/
def Note.slotMove? : Note → Option SlotMove
  | .tookSlot _ => some .take
  | .gaveBack _ => some .giveBack
  | .overRelease _ => some .overRelease
  | .turnedAway _ _ | .stored _ _ _ | .answered _ _ | .fetched _ _ => none

/-- The moves that are noted, in order; the notes stand with the last one first. -/
def movesOf (notes : List Note) : List SlotMove :=
  notes.reverse.filterMap Note.slotMove?

/-- What a request has done with slots so far. -/
def Traffic.slotMoves (t : Traffic) (request : Nat) : List SlotMove :=
  movesOf (t.notesOf request)

/-- The slots of a service that was opened with some settings are kept. -/
structure SlotsKept (s : Settings) (t : Traffic) : Prop where
  /-- Every slot is free or held by one request. -/
  count : t.desk.freeSlots + t.holders = s.maxAnalyses.toNat
  atMost : t.holders ≤ s.maxAnalyses.toNat
  /-- A request takes a slot at most once and gives back no slot that it did not take. -/
  once : ∀ n, t.slotMoves n = [] ∨ t.slotMoves n = [.take] ∨ t.slotMoves n = [.take, .giveBack]
  /-- A request that is under way has taken a slot; it holds the slot or has given it back. -/
  underWay : ∀ n job, t.job? n = some job →
    t.slotMoves n = if job.holdsSlot then [.take] else [.take, .giveBack]
  /-- A request that was admitted and is answered has given its slot back, and is not told that there
  was none. -/
  answered : ∀ n r, .answered n r ∈ t.log →
    t.slotMoves n = [.take, .giveBack] ∧ r ≠ Desk.tooBusy
  /-- A request that is told that all slots are taken, or that a file is missing or too long, never
  takes one. -/
  turnedAway : ∀ n r, .turnedAway n r ∈ t.log → TurnedAway s r ∧ t.slotMoves n = []
  /-- Whoever is not admitted changes nothing at all. -/
  refused : ∀ form r d, t.desk.enter form = (.error r, d) → TurnedAway s r ∧ d = t.desk
  /-- Without a file, or when every slot is held, a request is not admitted. -/
  refuses : ∀ form, uploadFor? form .student = none ∨ uploadFor? form .reference = none ∨
    t.holders = s.maxAnalyses.toNat → ∃ r, t.desk.enter form = (.error r, t.desk)
  /-- When no request is under way all slots are free. -/
  idle : (∀ n, t.job? n = none) → t.desk.freeSlots = s.maxAnalyses.toNat
  /-- A request that is under way comes to its answer by its own steps, and has given its slot back
  then. -/
  returns : ∀ n job, t.job? n = some job → ∀ around id, ∃ k r,
    .answered n r ∈ (t.run (List.replicate k (.advance n around id))).log ∧
      (t.run (List.replicate k (.advance n around id))).slotMoves n = [.take, .giveBack]

/-! ## Moves of a story -/

section Moves

variable {s : Settings} {n : Nat} {state : Option (Option Job)} {job : Job} {notes : List Note}
  {r : Response}

/-- To store a report is no move. -/
theorem movesOf_storedNote (kept : Option (String × Report Float)) :
    movesOf (storedNote n kept ++ [.tookSlot n]) = [.take] := by
  cases kept with
  | none => rfl
  | some x => rfl

/-- The moves of notes are those of the older ones and then that of the last. -/
theorem movesOf_cons (note : Note) :
    movesOf (note :: notes) = movesOf notes ++ note.slotMove?.toList := by
  unfold movesOf
  rw [List.reverse_cons, List.filterMap_append]
  cases hmove : note.slotMove? with
  | none => simp [hmove]
  | some move => simp [hmove]

/-- A request that is at work has taken a slot, and has given it back once it holds none. -/
theorem Story.movesOf_job (h : Story s n (some (some job)) notes) :
    movesOf notes = if job.holdsSlot then [.take] else [.take, .giveBack] := by
  cases h with
  | holding hslot hstage => rw [movesOf_storedNote, hslot, if_pos rfl]
  | leaving hstage hleft hr =>
    have hslot : job.holdsSlot = false := by
      unfold Job.holdsSlot
      rw [hstage]
    rw [movesOf_cons, movesOf_storedNote, hslot]
    rfl

/-- A request takes at most one slot and gives at most that one back. -/
theorem Story.movesOf_once (h : Story s n state notes) :
    movesOf notes = [] ∨ movesOf notes = [.take] ∨ movesOf notes = [.take, .giveBack] := by
  cases h with
  | absent => exact Or.inl rfl
  | turnedAway => exact Or.inl rfl
  | holding => exact Or.inr (Or.inl (movesOf_storedNote _))
  | leaving =>
    rw [movesOf_cons, movesOf_storedNote]
    exact Or.inr (Or.inr rfl)
  | answered =>
    rw [movesOf_cons, movesOf_cons, movesOf_storedNote]
    exact Or.inr (Or.inr rfl)

/-- Who is answered has given its slot back. -/
theorem Story.movesOf_answered (h : Story s n state notes) (hanswered : .answered n r ∈ notes) :
    movesOf notes = [.take, .giveBack] := by
  cases h with
  | absent => cases hanswered
  | turnedAway => simp at hanswered
  | holding | leaving => simp [mem_storedNote] at hanswered
  | answered =>
    rw [movesOf_cons, movesOf_cons, movesOf_storedNote]
    rfl

/-- A request that was turned away has never taken a slot. -/
theorem Story.movesOf_turnedAway (h : Story s n state notes)
    (haway : .turnedAway n r ∈ notes) : TurnedAway s r ∧ movesOf notes = [] := by
  cases h with
  | absent => cases haway
  | @turnedAway r' hr =>
    obtain rfl : r = r' := by simpa using haway
    exact ⟨hr, rfl⟩
  | holding | leaving | answered => simp [mem_storedNote] at haway

end Moves

/-! ## Runs -/

/-- A request that got as far as its outcome is not told that the service is busy. -/
theorem Outcome.ne_tooBusy {kept : Option (String × Report Float)} {r : Response}
    (h : Outcome kept r) : r ≠ Desk.tooBusy := by
  rintro rfl
  have hstatus := h.status
  simp [Desk.tooBusy, Response.error] at hstatus

/-- In every run of requests that arrive, take their steps in any order and are stopped at any
point, slots are kept. -/
theorem run_slotsKept (s : Settings) (temporary : Place) (events : List Event) :
    SlotsKept s ((Traffic.opened s temporary).run events) := by
  have hsound := run_sound s temporary events
  -- What is said of a request that runs to its end looks beyond these events.
  have hlater : ∀ more, Sound s (((Traffic.opened s temporary).run events).run more) := by
    intro more
    unfold Traffic.run
    rw [← List.foldl_append]
    exact run_sound s temporary (events ++ more)
  generalize (Traffic.opened s temporary).run events = t at hsound hlater
  have hcount := hsound.slots
  refine ⟨hcount, by omega, fun n => (hsound.story n).movesOf_once, ?_, ?_, ?_, ?_, ?_, ?_, ?_⟩
  · intro n job hjob
    exact (hsound.story_of hjob).movesOf_job
  · intro n r hr
    have hmem := Traffic.mem_notesOf hr (beq_self_eq_true n)
    obtain ⟨kept, -, houtcome⟩ := (hsound.story n).exists_kept
    exact ⟨(hsound.story n).movesOf_answered hmem, (houtcome r hmem).ne_tooBusy⟩
  · intro n r hr
    exact (hsound.story n).movesOf_turnedAway (Traffic.mem_notesOf hr (beq_self_eq_true n))
  · intro form r d hrefused
    obtain ⟨r', henter, hr⟩ | ⟨job, henter, -⟩ := t.desk.enter_cases form
    · rw [hrefused] at henter
      cases henter
      rw [hsound.settings] at hr
      exact ⟨hr, rfl⟩
    · rw [hrefused] at henter
      cases henter
  · intro form hwhy
    obtain ⟨r, henter, -⟩ | ⟨job, henter, hfree, hstage, hfolders, hstudent, hreference⟩ :=
      t.desk.enter_cases form
    · exact ⟨r, henter⟩
    · rw [hstudent, hreference] at hwhy
      obtain h | h | hall := hwhy
      · cases h
      · cases h
      · omega
  · -- The slots that are not free are those of requests at work, of which there are none.
    intro hidle
    have hnone : t.holders = 0 := by
      unfold Traffic.holders
      rw [List.countP_eq_zero]
      intro job hjob hslot
      obtain ⟨n, hn⟩ := List.getElem?_of_mem hjob
      cases job with
      | none => cases hslot
      | some job =>
        have := hidle n
        rw [Traffic.job?_eq_some.2 hn] at this
        cases this
    omega
  · intro n job hjob around id
    have hanswer := (hsound.story_of hjob).answer?_eq_none
    obtain ⟨k, -, -, hlog⟩ := t.run_conclude around id hjob hanswer
    refine ⟨k, _, hlog, ?_⟩
    exact ((hlater _).story n).movesOf_answered
      (Traffic.mem_notesOf hlog (beq_self_eq_true n))

end StructureGrader.Service
