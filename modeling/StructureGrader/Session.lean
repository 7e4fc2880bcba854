import StructureGrader.Report.Document
import StructureGrader.Settings
import StructureGrader.Similarity.Scorer

/-!
# Sessions

A session is a pool of elements and the outcome that stands on each of them. Elements are known by
their positions in the pool, so that one element may be listed several times, on either side or on
both. `Session.step` carries out one step and says what it answers; only a comparison that is not
stopped, and the marks that are set by hand, change outcomes.
-/

namespace StructureGrader

variable {α : Type}

/-- A pool of elements and what is known about each. -/
structure Session (α : Type) where
  elements : Array Element
  outcomes : Outcomes α Nat

/-- What can be done in a session; elements are given by their positions. -/
inductive Step (α : Type)
  | markMatched (x : Nat) (similarity : α)
  | markUnmatched (x : Nat) (matchType : MatchType)
  | edit (x : Nat) (element : Element)
  | agree (x y : Nat)
  | score (x y : Nat)
  | suggestScore (x : Nat) (similarity : Option α)
  | suggest (x : Nat) (differences : List String)
  | look (x : Nat)
  | compare (threshold : α) (watch : Watch) (students references : List Nat)

/-- What a step answers. -/
inductive Answer (α : Type)
  | done
  | verdict (agree : Bool)
  | score (value : α)
  | percentage (value : Int)
  | suggestion (value : Suggestion)
  | element (value : Graded α)
  | summary (value : Summary α Nat)
  | stopped (stop : Stop)

namespace Session

/-- The element at a position; there is an empty one at positions outside of the pool. -/
def view (s : Session α) (x : Nat) : Element :=
  s.elements.getD x ⟨none, .type, none, none, 0, "", ""⟩

/-- The element at a position with its outcome. -/
def graded (s : Session α) (x : Nat) : Graded α :=
  ⟨s.view x, s.outcomes x⟩

variable [ScoreNumber α]

/-- A session on elements of which nothing is known yet. -/
def fresh (elements : Array Element) : Session α :=
  ⟨elements, fun _ => .fresh⟩

/-- The matcher that works on the pool of a session. -/
def matcher (s : Session α) (threshold : α) : Matcher α Nat :=
  ⟨s.view, Weights.default.score, threshold⟩

/-- The session after an outcome is written to a position. -/
def mark (s : Session α) (x : Nat) (outcome : Outcome α) : Session α :=
  { s with outcomes := s.outcomes.set x outcome }

/-- A comparison of two lists of positions, and the session after it. A comparison that is stopped
leaves everything as it was. -/
def compare (s : Session α) (threshold : α) (w : Watch) (students references : List Nat) :
    Except Stop (Summary α Nat) × Session α :=
  match (s.matcher threshold).compare w students references with
  | .error stop => (.error stop, s)
  | .ok summary => (.ok summary, { s with outcomes := s.outcomes.classify summary.result })

/-- The answer to a step, and the session after it. -/
def step (s : Session α) : Step α → Answer α × Session α
  | .markMatched x similarity => (.done, s.mark x (.paired similarity))
  | .markUnmatched x matchType => (.done, s.mark x (.unpaired matchType))
  | .edit x element => (.done, { s with elements := s.elements.setIfInBounds x element })
  | .agree x y => (.verdict ((s.view x).agrees (s.view y)), s)
  | .score x y => (.score (Weights.default.score (s.view x) (s.view y)), s)
  | .suggestScore x similarity => (.percentage (suggestedScore (s.outcomes x) similarity), s)
  | .suggest x differences =>
    (.suggestion (StructureGrader.suggest (s.view x) (s.outcomes x) differences), s)
  | .look x => (.element (s.graded x), s)
  | .compare threshold w students references =>
    match s.compare threshold w students references with
    | (.error stop, after) => (.stopped stop, after)
    | (.ok summary, after) => (.summary summary, after)

/-- The session after several steps. -/
def run (s : Session α) : List (Step α) → Session α
  | [] => s
  | step :: steps => (s.step step).2.run steps

end Session

/-! ## One comparison -/

/-- A finished comparison and the session that it leaves. -/
structure Assessment (α : Type) where
  session : Session α
  summary : Summary α Nat

variable [ScoreNumber α]

/-- The comparison of two lists of elements, none of which stands in the other. -/
def assess (threshold : α) (w : Watch) (students references : List Element) :
    Except Stop (Assessment α) :=
  let session := Session.fresh (students ++ references).toArray
  let places := List.range (students.length + references.length)
  match session.compare threshold w (places.take students.length) (places.drop students.length) with
  | (.error stop, _) => .error stop
  | (.ok summary, after) => .ok ⟨after, summary⟩

/-- The report on a comparison. -/
def Assessment.report (a : Assessment α) : Report α :=
  Report.of a.session.view a.session.outcomes a.summary

/-- What the settings ask of a comparison, next to a stop signal and a clock. -/
def Settings.watch (s : Settings) (signal : Nat → Bool) (clock : Nat → Float) : Watch :=
  ⟨signal, clock, s.timeout⟩

end StructureGrader
