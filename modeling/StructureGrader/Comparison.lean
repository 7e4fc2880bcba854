import StructureGrader.Outcome
import StructureGrader.Number.Amount

/-!
# Comparing a submission with a reference

A comparison runs the matcher once for each kind of element and puts the results together. Before
each kind it may be stopped: by a signal, which is asked first, or by the clock, which is read once
at the start and once at each checkpoint that is reached (`Watch`). A comparison that is stopped
has no result at all.
-/

namespace StructureGrader

open ScoreNumber

variable {α β : Type}

/-! ## Stopping -/

/-- The answers of the stop signal and the readings of the clock, by number, and the time allowed,
where there is a limit. -/
structure Watch where
  /-- The answer of the signal when it is asked for the `n`-th time, from zero. -/
  signal : Nat → Bool := fun _ => false
  /-- The clock when it is read for the `n`-th time, from zero. -/
  clock : Nat → Float := fun _ => 0.0
  limit : Option Amount := none

/-- Why a comparison has stopped, and before which kind. -/
inductive Stop
  | signalled (kind : ElementKind)
  | timedOut (limit : Amount) (kind : ElementKind)
deriving Repr

/-- The wording of a stop. -/
def Stop.message : Stop → String
  | .signalled kind => "Comparison cancelled before the " ++ kind.name ++ " pass"
  | .timedOut limit kind =>
    "Comparison exceeded " ++ limit.text ++ "s before the " ++ kind.name ++ " pass"

/-- The stop at a checkpoint, if there is one there. -/
def Watch.stopAt (w : Watch) (checkpoint : Nat) (kind : ElementKind) : Option Stop :=
  if w.signal checkpoint then some (.signalled kind)
  else
    match w.limit with
    | none => none
    | some limit =>
      if w.clock 0 + limit.toFloat < w.clock (checkpoint + 1) then some (.timedOut limit kind)
      else none

/-- The first stop at the checkpoints from a number on, one before each kind. -/
def Watch.firstStop (w : Watch) : Nat → List ElementKind → Option Stop
  | _, [] => none
  | checkpoint, kind :: kinds =>
    match w.stopAt checkpoint kind with
    | some stop => some stop
    | none => w.firstStop (checkpoint + 1) kinds

/-! ## Comparing -/

/-- The elements of one kind, in order. -/
def ofKind (view : β → Element) (kind : ElementKind) (xs : List β) : List β :=
  xs.filter fun x => (view x).kind == kind

/-- The elements by kind, in the order of the kinds. -/
def groupByKind (view : β → Element) (xs : List β) : List (ElementKind × List β) :=
  ElementKind.all.map fun kind => (kind, ofKind view kind xs)

/-- The mean similarity of the pairs, scaled by the share of the larger side that they cover. There
is one unless that side counts nothing while the first counts less. -/
def overallSimilarity [ScoreNumber α] (similarities : List α) (students references : Int) : α :=
  if similarities.isEmpty || students == 0 then zero
  else
    let average := sum similarities / ofNat similarities.length
    let coverage := ofNat similarities.length / ofInt (max students references)
    average * coverage

/-- A finished comparison. -/
structure Summary (α β : Type) where
  pairings : List (Pairing α β)
  unmatchedStudents : List β
  unmatchedReferences : List β
  overall : α
  totalStudents : Nat
  totalReferences : Nat
deriving Repr

namespace Summary

/-- What a comparison pairs and leaves over. -/
def result (s : Summary α β) : PassResult α β :=
  ⟨s.pairings, s.unmatchedStudents, s.unmatchedReferences⟩

end Summary

namespace Matcher

variable [ScoreNumber α]

/-- The result of the matcher on the elements of one kind. -/
def runKind (m : Matcher α β) (students references : List β) (kind : ElementKind) :
    PassResult α β :=
  m.run (ofKind m.view kind students) (ofKind m.view kind references)

/-- The comparison of two lists of elements, kind by kind. -/
def summarize (m : Matcher α β) (students references : List β) : Summary α β :=
  let results := ElementKind.all.map (m.runKind students references)
  let pairings := results.flatMap PassResult.pairings
  { pairings := pairings
    unmatchedStudents := results.flatMap PassResult.students
    unmatchedReferences := results.flatMap PassResult.references
    overall :=
      overallSimilarity (pairings.map Pairing.similarity) students.length references.length
    totalStudents := students.length
    totalReferences := references.length }

/-- The comparison of two lists of elements, unless it is stopped. -/
def compare (m : Matcher α β) (w : Watch) (students references : List β) :
    Except Stop (Summary α β) :=
  match w.firstStop 0 ElementKind.all with
  | some stop => .error stop
  | none => .ok (m.summarize students references)

end Matcher

end StructureGrader
