import StructureGrader.Proofs.Text.Words

/-!
# Maximal runs

A test on characters takes a text apart into maximal runs of characters that pass it, with gaps of
other characters between them (`LaidOut`). Every text is taken apart in this way (`exists_laidOut`),
and the runs are those pieces of characters that pass the test which have no such character right
before or behind them (`MaximalRun.exists_laidOut_mem`, `LaidOut.exists_maximalRun`). When the
characters of the gaps are written as spaces, the words of the text are its runs
(`LaidOut.wordsOf_map`).
-/

namespace StructureGrader.Text

/-! ## Runs and gaps -/

/-- A piece of a text between two others is a maximal run of characters that pass a test. -/
structure MaximalRun (test : Char → Bool) (front run rest : List Char) : Prop where
  ne : run ≠ []
  chars : ∀ c ∈ run, test c = true
  before : ∀ c ∈ front.getLast?, test c = false
  behind : ∀ c ∈ rest.head?, test c = false

/-- A text consists of these runs, in this order, with gaps between them and at its ends. -/
inductive LaidOut (test : Char → Bool) : List (List Char) → List Char → Prop
  | gap {cs : List Char} (others : ∀ c ∈ cs, test c = false) : LaidOut test [] cs
  | run {gap run rest : List Char} {runs : List (List Char)} (others : ∀ c ∈ gap, test c = false)
      (ne : run ≠ []) (chars : ∀ c ∈ run, test c = true) (behind : ∀ c ∈ rest.head?, test c = false)
      (further : LaidOut test runs rest) : LaidOut test (run :: runs) (gap ++ (run ++ rest))

variable {test : Char → Bool} {gap front run rest cs ds : List Char} {runs more : List (List Char)}

namespace LaidOut

/-- More characters of a gap in front make no difference. -/
theorem gap_append (hgap : ∀ c ∈ gap, test c = false) (h : LaidOut test runs cs) :
    LaidOut test runs (gap ++ cs) := by
  cases h with
  | gap hothers => exact .gap (List.forall_mem_append.2 ⟨hgap, hothers⟩)
  | run hothers hne hchars hbehind hfurther =>
    rw [← List.append_assoc]
    exact .run (List.forall_mem_append.2 ⟨hgap, hothers⟩) hne hchars hbehind hfurther

/-- A character that passes the test starts a run in front of a gap, and joins a run that it stands
in front of. -/
theorem exists_cons {c : Char} (hc : test c = true) (h : LaidOut test runs cs) :
    ∃ more, LaidOut test more (c :: cs) := by
  have hsingle : ∀ d ∈ [c], test d = true := List.forall_mem_singleton.2 hc
  cases h with
  | gap hothers =>
    exact ⟨[[c]], .run (List.forall_mem_nil _) (List.cons_ne_nil c []) hsingle
      (fun d hd => hothers d (List.mem_of_mem_head? hd)) (.gap hothers)⟩
  | @run gap run rest runs hothers hne hchars hbehind hfurther =>
    rcases gap with _ | ⟨d, gap⟩
    · exact ⟨(c :: run) :: runs, .run (List.forall_mem_nil _) (List.cons_ne_nil c run)
        (List.forall_mem_cons.2 ⟨hc, hchars⟩) hbehind hfurther⟩
    · refine ⟨[c] :: run :: runs, .run (List.forall_mem_nil _) (List.cons_ne_nil c []) hsingle ?_
        (.run hothers hne hchars hbehind hfurther)⟩
      intro e he
      obtain rfl : d = e := Option.some.inj he
      exact hothers d List.mem_cons_self

end LaidOut

/-- Every text consists of runs and gaps. -/
theorem exists_laidOut (test : Char → Bool) (cs : List Char) : ∃ runs, LaidOut test runs cs := by
  induction cs with
  | nil => exact ⟨[], .gap (List.forall_mem_nil _)⟩
  | cons c cs ih =>
    obtain ⟨runs, h⟩ := ih
    cases hc : test c with
    | true => exact h.exists_cons hc
    | false =>
      have hgap : ∀ d ∈ [c], test d = false := List.forall_mem_singleton.2 hc
      exact ⟨runs, h.gap_append hgap⟩

/-! ## The runs are maximal -/

/-- Where a text ends in a gap another one can follow. -/
theorem LaidOut.append (h : LaidOut test runs cs) (hlast : ∀ c ∈ cs.getLast?, test c = false)
    (h' : LaidOut test more ds) : LaidOut test (runs ++ more) (cs ++ ds) := by
  induction h with
  | gap hothers => exact h'.gap_append hothers
  | @run gap run rest runs hothers hne hchars hbehind hfurther ih =>
    have hrest : rest ≠ [] := by
      -- Else the text would end in the run.
      rintro rfl
      have hmem := List.getLast_mem hne
      have hfalse := hlast (run.getLast hne) (by
        rw [List.append_nil, List.getLast?_append_of_ne_nil gap hne, List.getLast?_eq_getLast_of_ne_nil hne]
        rfl)
      rw [hchars _ hmem] at hfalse
      cases hfalse
    rw [← List.append_assoc gap, List.getLast?_append_of_ne_nil (gap ++ run) hrest] at hlast
    rw [List.append_assoc, List.append_assoc, List.cons_append]
    refine .run hothers hne hchars ?_ (ih hlast)
    rwa [List.head?_append_of_ne_nil rest hrest]

/-- A maximal run is one of the runs that the text consists of. -/
theorem MaximalRun.exists_laidOut_mem (h : MaximalRun test front run rest) :
    ∃ runs, run ∈ runs ∧ LaidOut test runs (front ++ (run ++ rest)) := by
  obtain ⟨runs, hfront⟩ := exists_laidOut test front
  obtain ⟨more, hrest⟩ := exists_laidOut test rest
  have hrun : LaidOut test (run :: more) ([] ++ (run ++ rest)) :=
    .run (List.forall_mem_nil _) h.ne h.chars h.behind hrest
  exact ⟨runs ++ run :: more, List.mem_append_right _ List.mem_cons_self, hfront.append h.before hrun⟩

/-- Each run that a text consists of is maximal. -/
theorem LaidOut.exists_maximalRun (h : LaidOut test runs cs) (hmem : run ∈ runs) :
    ∃ front rest, MaximalRun test front run rest ∧ cs = front ++ (run ++ rest) := by
  induction h with
  | gap => cases hmem
  | @run gap first rest runs hothers hne hchars hbehind hfurther ih =>
    rcases List.mem_cons.1 hmem with rfl | hmem
    · exact ⟨gap, rest,
        ⟨hne, hchars, fun c hc => hothers c (List.mem_of_mem_getLast? hc), hbehind⟩, rfl⟩
    · obtain ⟨front, rest', hmax, rfl⟩ := ih hmem
      have hfront : front ≠ [] := by
        -- Else the two runs would be one.
        rintro rfl
        obtain ⟨c, tail, hrun⟩ := List.exists_cons_of_ne_nil hmax.ne
        have hfalse := hbehind c (by rw [List.nil_append, hrun]; rfl)
        rw [hmax.chars c (hrun ▸ List.mem_cons_self)] at hfalse
        cases hfalse
      refine ⟨gap ++ (first ++ front), rest', ⟨hmax.ne, hmax.chars, ?_, hmax.behind⟩, ?_⟩
      · rw [← List.append_assoc, List.getLast?_append_of_ne_nil _ hfront]
        exact hmax.before
      · rw [List.append_assoc, List.append_assoc]

/-! ## Runs as words -/

/-- Blanks in front of a text are no words. -/
theorem wordsOf_blanks_append {w : List Char} (hw : ∀ c ∈ w, isBlank c = true) (cs : List Char) :
    wordsOf (w ++ cs) = wordsOf cs := by
  induction w with
  | nil => rfl
  | cons c w ih =>
    rw [List.cons_append, wordsOf, wordsFrom, if_pos (hw c List.mem_cons_self),
      if_pos List.isEmpty_nil]
    exact ih fun d hd => hw d (List.mem_cons_of_mem c hd)

/-- When gaps are written as spaces and runs in characters that are not blank, the words are the
runs. -/
theorem LaidOut.wordsOf_map {write : Char → Char} (hwrite : ∀ c, test c = true → isBlank (write c) = false)
    (h : LaidOut test runs cs) :
    wordsOf (cs.map fun c => if test c then write c else ' ') = runs.map (List.map write) := by
  have hgap : ∀ gap : List Char, (∀ c ∈ gap, test c = false) →
      ∀ d ∈ gap.map (fun c => if test c then write c else ' '), isBlank d = true := by
    intro gap hothers d hd
    obtain ⟨c, hc, rfl⟩ := List.mem_map.1 hd
    rw [hothers c hc]
    rfl
  induction h with
  | @gap cs hothers =>
    have hnone := wordsOf_blanks_append (hgap cs hothers) []
    rwa [List.append_nil] at hnone
  | @run gap run rest runs hothers hne hchars hbehind hfurther ih =>
    have hrun : run.map (fun c => if test c then write c else ' ') = run.map write :=
      List.map_congr_left fun c hc => if_pos (hchars c hc)
    have hwritten : ∀ d ∈ run.map write, isBlank d = false := by
      intro d hd
      obtain ⟨c, hc, rfl⟩ := List.mem_map.1 hd
      exact hwrite c (hchars c hc)
    have hsome : run.map write ≠ [] := by simpa using hne
    rw [List.map_append, List.map_append, wordsOf_blanks_append (hgap gap hothers), hrun, List.map_cons,
      ← ih]
    rcases rest with _ | ⟨d, rest⟩
    · rw [List.map_nil, List.append_nil, wordsOf_self hsome hwritten]
      rfl
    · -- The next gap starts with a space, which ends the word and adds none.
      have hd : test d = false := hbehind d rfl
      have hspace : ∀ tail : List Char, wordsOf (' ' :: tail) = wordsOf tail := fun tail =>
        wordsOf_blanks_append (List.forall_mem_singleton.2 rfl) tail
      rw [List.map_cons, hd, if_neg Bool.false_ne_true, wordsOf_append_blank hsome hwritten, hspace]

end StructureGrader.Text
