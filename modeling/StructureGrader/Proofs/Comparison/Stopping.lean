import StructureGrader.Proofs.Matching.Conservation

/-!
# How a comparison is stopped

`Session.compare` looks for a stop before it pairs anything. Here the same comparison is carried out
in turn (`Session.compareInTurn`): before each kind the signal is asked and then, with a limit, the
clock is read, the elements of the kind are paired, and outcomes are written when all kinds are
done. Questions are counted as they are put, so that it is known which answer of the signal and
which reading of the clock decides at a checkpoint.

`Progress.Before` is what holds before a checkpoint, and every checkpoint that lets pass keeps it
(`Before.check_none`). So a run of checkpoints ends at the first one that stops
(`Before.advance_some`) or has found what the summary says (`Before.advance_none`), and both ways to
compare are one (`compareInTurn_eq`). Where a comparison stops, and that it leaves nothing behind, is
`compare_stopped`.
-/

namespace StructureGrader

/-! ## Checkpoints -/

namespace Watch

/-- At a checkpoint the clock is further past its first reading than the limit allows. -/
def Late (w : Watch) (checkpoint : Nat) : Prop :=
  ∃ limit, w.limit = some limit ∧ w.clock 0 + limit.toFloat < w.clock (checkpoint + 1)

instance (w : Watch) (checkpoint : Nat) : Decidable (w.Late checkpoint) :=
  match h : w.limit with
  | none => isFalse fun ⟨limit, hlimit, _⟩ => by simp [h] at hlimit
  | some limit =>
    decidable_of_iff (w.clock 0 + limit.toFloat < w.clock (checkpoint + 1)) (by simp [Late, h])

/-- How often the clock has been read when this many checkpoints are passed: with a limit, at the
start and at each of them. -/
def readings (w : Watch) (passed : Nat) : Nat :=
  if w.limit.isSome then passed + 1 else 0

variable {w : Watch} {checkpoint : Nat} {kind : ElementKind} {kinds : List ElementKind}
  {stop : Stop}

/-- There is a stop at a checkpoint when the signal is set or, failing that, the clock is late. -/
theorem stopAt_eq_some : w.stopAt checkpoint kind = some stop ↔
    (w.signal checkpoint = true ∧ stop = .signalled kind) ∨
      (w.signal checkpoint = false ∧ ∃ limit, w.limit = some limit ∧
        w.clock 0 + limit.toFloat < w.clock (checkpoint + 1) ∧ stop = .timedOut limit kind) := by
  rw [stopAt]
  cases w.signal checkpoint with
  | true => simp [eq_comm]
  | false =>
    cases w.limit with
    | none => simp
    | some limit =>
      by_cases hlate : w.clock 0 + limit.toFloat < w.clock (checkpoint + 1) <;>
        simp [hlate, eq_comm]

/-- A comparison goes on at a checkpoint where nobody asks it to stop and it is not too late. -/
theorem stopAt_eq_none : w.stopAt checkpoint kind = none ↔
    w.signal checkpoint = false ∧ ¬ w.Late checkpoint := by
  rw [stopAt, Late]
  cases w.signal checkpoint with
  | true => simp
  | false => cases w.limit <;> simp

/-- The first of several checkpoints decides, or it lets pass and the others decide. -/
theorem firstStop_cons : w.firstStop checkpoint (kind :: kinds) =
    (w.stopAt checkpoint kind).or (w.firstStop (checkpoint + 1) kinds) := by
  rw [firstStop]
  cases w.stopAt checkpoint kind <;> rfl

/-- The first stop is a stop at some checkpoint, and every checkpoint before lets pass. -/
theorem firstStop_eq_some : w.firstStop checkpoint kinds = some stop ↔
    ∃ i kind, kinds[i]? = some kind ∧ w.stopAt (checkpoint + i) kind = some stop ∧
      ∀ j < i, w.signal (checkpoint + j) = false ∧ ¬ w.Late (checkpoint + j) := by
  induction kinds generalizing checkpoint with
  | nil => simp [firstStop]
  | cons first kinds ih =>
    have hnext : ∀ i, checkpoint + 1 + i = checkpoint + (i + 1) := fun i => by omega
    rw [firstStop_cons, Option.or_eq_some_iff, ih]
    simp only [hnext]
    constructor
    · rintro (hfirst | ⟨hpass, i, kind, hkind, hstop, hbefore⟩)
      · exact ⟨0, first, rfl, hfirst, by simp⟩
      · refine ⟨i + 1, kind, hkind, hstop, ?_⟩
        rintro (_ | j) hj
        · exact stopAt_eq_none.1 hpass
        · exact hbefore j (Nat.lt_of_succ_lt_succ hj)
    · rintro ⟨_ | i, kind, hkind, hstop, hbefore⟩
      · obtain rfl : first = kind := by simpa using hkind
        exact Or.inl hstop
      · exact Or.inr ⟨stopAt_eq_none.2 (hbefore 0 (Nat.succ_pos i)), i, kind, hkind, hstop,
          fun j hj => hbefore (j + 1) (Nat.succ_lt_succ hj)⟩

/-- There is no stop when every checkpoint lets pass. -/
theorem firstStop_eq_none : w.firstStop checkpoint kinds = none ↔
    ∀ i < kinds.length, w.signal (checkpoint + i) = false ∧ ¬ w.Late (checkpoint + i) := by
  induction kinds generalizing checkpoint with
  | nil => simp [firstStop]
  | cons first kinds ih =>
    have hnext : ∀ i, checkpoint + 1 + i = checkpoint + (i + 1) := fun i => by omega
    rw [firstStop_cons, Option.or_eq_none_iff, stopAt_eq_none, ih]
    simp only [hnext]
    constructor
    · rintro ⟨hfirst, hrest⟩ (_ | i) hi
      · exact hfirst
      · exact hrest i (Nat.lt_of_succ_lt_succ hi)
    · intro h
      exact ⟨h 0 (Nat.succ_pos _), fun i hi => h (i + 1) (Nat.succ_lt_succ hi)⟩

end Watch

/-! ## A comparison in turn -/

/-- A comparison under way. -/
structure Progress (α : Type) where
  session : Session α
  /-- What has been paired and left over so far. -/
  found : PassResult α Nat
  /-- How often the signal has been asked. -/
  asked : Nat
  /-- How often the clock has been read. -/
  read : Nat
  /-- The limit, and the reading of the clock up to which it lasts. -/
  deadline : Option (Amount × Float)

/-- The result with that for another kind behind it. -/
def PassResult.append {α β : Type} (r r' : PassResult α β) : PassResult α β :=
  ⟨r.pairings ++ r'.pairings, r.students ++ r'.students, r.references ++ r'.references⟩

variable {α : Type}

namespace Progress

/-- A comparison before its first checkpoint; with a limit the clock is read once. -/
def start (s : Session α) (w : Watch) : Progress α :=
  match w.limit with
  | none => ⟨s, ⟨[], [], []⟩, 0, 0, none⟩
  | some limit => ⟨s, ⟨[], [], []⟩, 0, 1, some (limit, w.clock 0 + limit.toFloat)⟩

/-- The checkpoint before a kind: the signal is asked and, where it is not set and there is a
deadline, the clock is read. -/
def check (p : Progress α) (w : Watch) (kind : ElementKind) : Option Stop × Progress α :=
  let asked : Progress α := { p with asked := p.asked + 1 }
  if w.signal p.asked then (some (.signalled kind), asked)
  else
    match p.deadline with
    | none => (none, asked)
    | some (limit, deadline) =>
      (if deadline < w.clock p.read then some (.timedOut limit kind) else none,
        { asked with read := p.read + 1 })

/-- Before a checkpoint nothing has been written, and each earlier checkpoint has asked the signal
and, where there is a limit, read the clock. -/
structure Before (p : Progress α) (s : Session α) (w : Watch) (checkpoint : Nat) : Prop where
  session : p.session = s
  asked : p.asked = checkpoint
  read : p.read = w.readings checkpoint
  deadline : p.deadline = w.limit.map fun limit => (limit, w.clock 0 + limit.toFloat)

/-- After a stop at a checkpoint nothing has been written either, and the clock has been read at
that checkpoint only where the signal was not set. -/
structure Stopped (p : Progress α) (s : Session α) (w : Watch) (checkpoint : Nat) : Prop where
  session : p.session = s
  asked : p.asked = checkpoint + 1
  read : p.read = w.readings (if w.signal checkpoint then checkpoint else checkpoint + 1)

variable {s : Session α} {w : Watch} {p : Progress α} {checkpoint : Nat} {kind : ElementKind}
  {kinds : List ElementKind} {stop : Stop}

/-- A comparison has found nothing before its first kind. -/
theorem start_found : (start s w).found = ⟨[], [], []⟩ := by
  rw [start]
  cases w.limit <;> rfl

/-- Before its first kind a comparison has read its watch at no checkpoint. -/
theorem before_start (s : Session α) (w : Watch) : (start s w).Before s w 0 := by
  rw [start]
  cases hlimit : w.limit with
  | none => exact ⟨rfl, rfl, by simp [Watch.readings, hlimit], by simp [hlimit]⟩
  | some limit => exact ⟨rfl, rfl, by simp [Watch.readings, hlimit], by simp [hlimit]⟩

/-- A checkpoint that stops. -/
theorem Before.check_some (h : p.Before s w checkpoint)
    (hstop : w.stopAt checkpoint kind = some stop) :
    ∃ q, p.check w kind = (some stop, q) ∧ q.Stopped s w checkpoint := by
  obtain ⟨hsession, hasked, hread, hdeadline⟩ := h
  rw [check, hasked, hdeadline]
  rcases Watch.stopAt_eq_some.1 hstop with ⟨hset, rfl⟩ | ⟨hset, limit, hlimit, hlate, rfl⟩
  · rw [if_pos hset]
    exact ⟨_, rfl, hsession, rfl, by simp [hset, hread]⟩
  · have hclock : p.read = checkpoint + 1 := by simp [hread, Watch.readings, hlimit]
    simp only [hset, hlimit, Option.map_some, Bool.false_eq_true, if_false, hclock, if_pos hlate]
    exact ⟨_, rfl, hsession, rfl, by simp [hset, Watch.readings, hlimit]⟩

/-- A checkpoint that lets pass. -/
theorem Before.check_none (h : p.Before s w checkpoint)
    (hpass : w.stopAt checkpoint kind = none) :
    ∃ q, p.check w kind = (none, q) ∧ q.Before s w (checkpoint + 1) ∧ q.found = p.found := by
  obtain ⟨hsession, hasked, hread, hdeadline⟩ := h
  obtain ⟨hset, hlate⟩ := Watch.stopAt_eq_none.1 hpass
  rw [check, hasked, if_neg (by simp [hset])]
  cases hlimit : w.limit with
  | none =>
    rw [hlimit, Option.map_none] at hdeadline
    rw [hdeadline]
    exact ⟨_, rfl, ⟨hsession, rfl, by simp [hread, Watch.readings, hlimit], by simp [hlimit]⟩, rfl⟩
  | some limit =>
    have hclock : p.read = checkpoint + 1 := by simp [hread, Watch.readings, hlimit]
    have hnot : ¬ w.clock 0 + limit.toFloat < w.clock (checkpoint + 1) := fun hlt =>
      hlate ⟨limit, hlimit, hlt⟩
    rw [hlimit, Option.map_some] at hdeadline
    simp only [hdeadline, hclock, if_neg hnot]
    exact ⟨_, rfl, ⟨hsession, rfl, by simp [Watch.readings, hlimit], by simp [hlimit]⟩, rfl⟩

variable [ScoreNumber α]

/-- The elements of one kind are paired. -/
def pairKind (p : Progress α) (threshold : α) (students references : List Nat)
    (kind : ElementKind) : Progress α :=
  { p with
    found := p.found.append ((p.session.matcher threshold).runKind students references kind) }

/-- Each kind in turn, until a checkpoint stops the comparison. -/
def advance (threshold : α) (w : Watch) (students references : List Nat) :
    List ElementKind → Progress α → Option Stop × Progress α
  | [], p => (none, p)
  | kind :: kinds, p =>
    match p.check w kind with
    | (some stop, p) => (some stop, p)
    | (none, p) =>
      advance threshold w students references kinds (p.pairKind threshold students references kind)

/-- The outcomes are written to the elements. -/
def finish (p : Progress α) : Progress α :=
  { p with session := { p.session with outcomes := p.session.outcomes.classify p.found } }

/-- The summary of what has been found. -/
def summary (p : Progress α) (students references : List Nat) : Summary α Nat :=
  { pairings := p.found.pairings
    unmatchedStudents := p.found.students
    unmatchedReferences := p.found.references
    overall := overallSimilarity (p.found.pairings.map Pairing.similarity) students.length
      references.length
    totalStudents := students.length
    totalReferences := references.length }

variable (threshold : α) (students references : List Nat)

/-- Pairing the elements of a kind puts no question and writes nothing. -/
theorem Before.pairKind (h : p.Before s w checkpoint) (kind : ElementKind) :
    (p.pairKind threshold students references kind).Before s w checkpoint :=
  ⟨h.session, h.asked, h.read, h.deadline⟩

/-- Kinds in turn, stopped at the first checkpoint that stops. -/
theorem Before.advance_some (h : p.Before s w checkpoint) {i : Nat} (hkind : kinds[i]? = some kind)
    (hstop : w.stopAt (checkpoint + i) kind = some stop)
    (hbefore : ∀ j < i, w.signal (checkpoint + j) = false ∧ ¬ w.Late (checkpoint + j)) :
    ∃ q, advance threshold w students references kinds p = (some stop, q) ∧
      q.Stopped s w (checkpoint + i) := by
  induction kinds generalizing p checkpoint i with
  | nil => simp at hkind
  | cons first kinds ih =>
    cases i with
    | zero =>
      obtain rfl : first = kind := by simpa using hkind
      obtain ⟨q, hq, hstopped⟩ := h.check_some hstop
      exact ⟨q, by rw [advance, hq], hstopped⟩
    | succ i =>
      have hnext : ∀ j, checkpoint + 1 + j = checkpoint + (j + 1) := fun j => by omega
      have hpass : w.stopAt checkpoint first = none :=
        Watch.stopAt_eq_none.2 (hbefore 0 (Nat.succ_pos i))
      obtain ⟨q, hq, hbeforeq, -⟩ := h.check_none hpass
      rw [advance, hq, ← hnext i]
      exact ih (hbeforeq.pairKind threshold students references first) hkind (by rwa [hnext i])
        fun j hj => by simpa only [hnext] using hbefore (j + 1) (Nat.succ_lt_succ hj)

/-- Kinds in turn, when every checkpoint lets pass. -/
theorem Before.advance_none (h : p.Before s w checkpoint)
    (hpass : ∀ i < kinds.length, w.signal (checkpoint + i) = false ∧ ¬ w.Late (checkpoint + i)) :
    ∃ q, advance threshold w students references kinds p = (none, q) ∧ q.session = s ∧
      q.found = (kinds.map ((s.matcher threshold).runKind students references)).foldl
        PassResult.append p.found := by
  induction kinds generalizing p checkpoint with
  | nil => exact ⟨p, rfl, h.session, rfl⟩
  | cons first kinds ih =>
    have hnext : ∀ j, checkpoint + 1 + j = checkpoint + (j + 1) := fun j => by omega
    have hfirst : w.stopAt checkpoint first = none :=
      Watch.stopAt_eq_none.2 (hpass 0 (Nat.succ_pos _))
    obtain ⟨q, hq, hbeforeq, hfound⟩ := h.check_none hfirst
    obtain ⟨r, hr, hsession, hfoundr⟩ :=
      ih (hbeforeq.pairKind threshold students references first)
        fun j hj => by simpa only [hnext] using hpass (j + 1) (Nat.succ_lt_succ hj)
    refine ⟨r, by rw [advance, hq]; exact hr, hsession, ?_⟩
    rw [hfoundr, Progress.pairKind, hfound, hbeforeq.session, List.map_cons, List.foldl_cons]

/-- The results for all kinds, put together in turn, are the summary of a comparison. -/
theorem summary_eq (m : Matcher α Nat)
    (hfound : p.found = (ElementKind.all.map (m.runKind students references)).foldl
      PassResult.append ⟨[], [], []⟩) :
    p.summary students references = m.summarize students references := by
  have hlists : p.found = ⟨(m.summarize students references).pairings,
      (m.summarize students references).unmatchedStudents,
      (m.summarize students references).unmatchedReferences⟩ := by
    simp [hfound, Matcher.summarize, PassResult.append, ElementKind.all]
  rw [summary, hlists]
  rfl

end Progress

variable [ScoreNumber α]

namespace Session

/-- A comparison that is carried out in turn, and how far it gets. -/
def compareInTurn (s : Session α) (threshold : α) (w : Watch) (students references : List Nat) :
    Except Stop (Summary α Nat) × Progress α :=
  match Progress.advance threshold w students references ElementKind.all (.start s w) with
  | (some stop, p) => (.error stop, p)
  | (none, p) => (.ok (p.summary students references), p.finish)

section Compare

variable (s : Session α) (threshold : α) {w : Watch} (students references : List Nat) {stop : Stop}

/-- A comparison that is stopped leaves the session as it was. -/
theorem compare_of_some (h : w.firstStop 0 ElementKind.all = some stop) :
    s.compare threshold w students references = (.error stop, s) := by
  rw [compare, Matcher.compare, h]

/-- A comparison that is not stopped writes the outcomes of its summary. -/
theorem compare_of_none (h : w.firstStop 0 ElementKind.all = none) :
    s.compare threshold w students references =
      (.ok ((s.matcher threshold).summarize students references),
        { s with
          outcomes := s.outcomes.classify
            ((s.matcher threshold).summarize students references).result }) := by
  rw [compare, Matcher.compare, h]

/-- A comparison in turn is stopped at the first checkpoint that stops. -/
theorem compareInTurn_of_some {i : Nat} {kind : ElementKind}
    (hkind : ElementKind.all[i]? = some kind) (hstop : w.stopAt i kind = some stop)
    (hbefore : ∀ j < i, w.signal j = false ∧ ¬ w.Late j) :
    ∃ q, s.compareInTurn threshold w students references = (.error stop, q) ∧
      q.Stopped s w i := by
  rw [← Nat.zero_add i] at hstop
  obtain ⟨q, hq, hstopped⟩ := (Progress.before_start s w).advance_some threshold students
    references hkind hstop fun j hj => by simpa using hbefore j hj
  exact ⟨q, by rw [compareInTurn, hq], by simpa using hstopped⟩

/-- A comparison in turn that is not stopped gives the summary and writes its outcomes. -/
theorem compareInTurn_of_none (h : w.firstStop 0 ElementKind.all = none) :
    ∃ q, s.compareInTurn threshold w students references =
        (.ok ((s.matcher threshold).summarize students references), q) ∧
      q.session = { s with
        outcomes := s.outcomes.classify
          ((s.matcher threshold).summarize students references).result } := by
  obtain ⟨q, hq, hsession, hfound⟩ := (Progress.before_start s w).advance_none threshold students
    references (Watch.firstStop_eq_none.1 h)
  rw [Progress.start_found] at hfound
  rw [compareInTurn, hq, ← Progress.summary_eq students references (s.matcher threshold) hfound]
  exact ⟨q.finish, rfl, by rw [Progress.finish, hsession]; rfl⟩

/-- Both ways to compare give the same answer and leave the same session. -/
theorem compareInTurn_eq (w : Watch) :
    (s.compareInTurn threshold w students references).1 =
        (s.compare threshold w students references).1 ∧
      (s.compareInTurn threshold w students references).2.session =
        (s.compare threshold w students references).2 := by
  cases hstop : w.firstStop 0 ElementKind.all with
  | some stop =>
    obtain ⟨i, kind, hkind, hi, hbefore⟩ := Watch.firstStop_eq_some.1 hstop
    simp only [Nat.zero_add] at hi hbefore
    obtain ⟨q, hq, hstopped⟩ :=
      s.compareInTurn_of_some threshold students references hkind hi hbefore
    rw [hq, s.compare_of_some threshold students references hstop]
    exact ⟨rfl, hstopped.session⟩
  | none =>
    obtain ⟨q, hq, hsession⟩ := s.compareInTurn_of_none threshold students references hstop
    rw [hq, s.compare_of_none threshold students references hstop]
    exact ⟨rfl, hsession⟩

variable {s threshold students references}

/-- A comparison is stopped where its watch stops it at one of the kinds, and leaves the session as
it was. -/
theorem compare_eq_error {after : Session α} :
    s.compare threshold w students references = (.error stop, after) ↔
      w.firstStop 0 ElementKind.all = some stop ∧ s = after := by
  cases h : w.firstStop 0 ElementKind.all with
  | some first => simp [compare_of_some s threshold students references h]
  | none => simp [compare_of_none s threshold students references h]

/-- A comparison that its watch never stops comes to the summary of its lists, and writes that to
the outcomes. -/
theorem compare_eq_ok {summary : Summary α Nat} {after : Session α} :
    s.compare threshold w students references = (.ok summary, after) ↔
      w.firstStop 0 ElementKind.all = none ∧
        (s.matcher threshold).summarize students references = summary ∧
        { s with outcomes := s.outcomes.classify summary.result } = after := by
  cases h : w.firstStop 0 ElementKind.all with
  | some stop => simp [compare_of_some s threshold students references h]
  | none =>
    rw [compare_of_none s threshold students references h, Prod.mk.injEq, Except.ok.injEq]
    constructor
    · rintro ⟨rfl, rfl⟩
      exact ⟨rfl, rfl, rfl⟩
    · rintro ⟨-, rfl, rfl⟩
      exact ⟨rfl, rfl⟩

/-- A comparison is stopped when at some checkpoint there is a reason to. -/
theorem exists_compare_eq_error {answer : Except Stop (Summary α Nat)} {after : Session α}
    (h : s.compare threshold w students references = (answer, after)) :
    (∃ stop, answer = .error stop) ↔
      ∃ i < ElementKind.all.length, w.signal i = true ∨ w.Late i := by
  have hsome : (∃ stop, answer = .error stop) ↔
      (w.firstStop 0 ElementKind.all).isSome = true := by
    cases answer with
    | error stop => simp [(compare_eq_error.1 h).1]
    | ok summary => simp [(compare_eq_ok.1 h).1]
  rw [hsome, ← Option.ne_none_iff_isSome, Ne, Watch.firstStop_eq_none]
  simp only [Nat.zero_add, not_forall, not_and_or, Bool.not_eq_false, not_not, exists_prop]

end Compare

/-- A comparison is stopped exactly when at some checkpoint the signal is set or the clock is late.
The message names the kind before which this happens first; where the signal is set there, it is the
one that is named and the clock is not read. Nothing has changed then on any element. -/
theorem compare_stopped (s : Session α) (threshold : α) (w : Watch)
    (students references : List Nat) (answer : Except Stop (Summary α Nat)) (after : Session α)
    (h : s.compare threshold w students references = (answer, after)) :
    ∃ progress, s.compareInTurn threshold w students references = (answer, progress) ∧
      progress.session = after ∧
      ((∃ stop, answer = .error stop) ↔
        ∃ i < ElementKind.all.length, w.signal i = true ∨ w.Late i) ∧
      ∀ stop, answer = .error stop →
        after = s ∧
          ∃ i kind, ElementKind.all[i]? = some kind ∧
            (∀ j < i, w.signal j = false ∧ ¬ w.Late j) ∧
            progress.asked = i + 1 ∧
            ((w.signal i = true ∧ progress.read = w.readings i ∧
                stop.message = "Comparison cancelled before the " ++ kind.name ++ " pass") ∨
              (w.signal i = false ∧ w.Late i ∧ progress.read = w.readings (i + 1) ∧
                ∃ limit, w.limit = some limit ∧
                  stop.message = "Comparison exceeded " ++ limit.text ++ "s before the " ++
                    kind.name ++ " pass")) := by
  obtain ⟨hturn, hsession⟩ := s.compareInTurn_eq threshold students references w
  rw [h] at hturn hsession
  refine ⟨_, Prod.ext hturn rfl, hsession, exists_compare_eq_error h, ?_⟩
  rintro stop rfl
  obtain ⟨hstop, rfl⟩ := compare_eq_error.1 h
  refine ⟨rfl, ?_⟩
  obtain ⟨i, kind, hkind, hi, hbefore⟩ := Watch.firstStop_eq_some.1 hstop
  simp only [Nat.zero_add] at hi hbefore
  obtain ⟨q, hq, -, hasked, hread⟩ :=
    s.compareInTurn_of_some threshold students references hkind hi hbefore
  rw [hq]
  refine ⟨i, kind, hkind, hbefore, hasked, ?_⟩
  rcases Watch.stopAt_eq_some.1 hi with ⟨hset, rfl⟩ | ⟨hset, limit, hlimit, hlate, rfl⟩
  · rw [hset, if_pos rfl] at hread
    exact Or.inl ⟨hset, hread, rfl⟩
  · rw [hset, if_neg Bool.false_ne_true] at hread
    exact Or.inr ⟨hset, ⟨limit, hlimit, hlate⟩, hread, limit, hlimit, rfl⟩

/-- A signal that is set before the methods, with a limit of one second on a clock that is set back
in between: the field has been paired by then, and the clock has been read three times. -/
theorem compare_stopped_samplePool :
    let w : Watch :=
      { signal := fun n => n == 2
        clock := fun n => [10.0, 10.5, 3.0, 99.0].getD n 99.0
        limit := some (.real 1.0) }
    let s := Matcher.samplePool
    ∃ stop progress, s.compare 0.7 w [0, 4] [1, 4] = (.error stop, s) ∧
      s.compareInTurn 0.7 w [0, 4] [1, 4] = (.error stop, progress) ∧
      progress.found.pairings.map Pairing.student = [4] ∧ progress.session = s ∧
      progress.read = 3 ∧ stop.message = "Comparison cancelled before the METHOD pass" := by
  intro w s
  have hbefore : ∀ j < 2, w.signal j = false ∧ ¬ w.Late j := by decide +kernel
  have hfirst : w.firstStop 0 ElementKind.all = some (.signalled .method) :=
    Watch.firstStop_eq_some.2 ⟨2, .method, rfl, rfl, by simpa using hbefore⟩
  have hcompare := s.compare_of_some 0.7 [0, 4] [1, 4] hfirst
  obtain ⟨progress, hturn, hsession, -, -⟩ :=
    compare_stopped s 0.7 w [0, 4] [1, 4] _ _ hcompare
  obtain rfl : (s.compareInTurn 0.7 w [0, 4] [1, 4]).2 = progress := by rw [hturn]
  have hpaired : (s.compareInTurn 0.7 w [0, 4] [1, 4]).2.found.pairings.map Pairing.student =
      [4] := by decide +kernel
  have hread : (s.compareInTurn 0.7 w [0, 4] [1, 4]).2.read = 3 := by decide +kernel
  exact ⟨_, _, hcompare, hturn, hpaired, hsession, hread, rfl⟩

end Session

end StructureGrader
