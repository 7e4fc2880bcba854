import StructureGrader.Difference
import StructureGrader.Similarity.Scorer

/-!
# Pairing elements of one kind

Elements are paired in two passes over the submission. The exact pass gives each element the first
reference element left with the same name and signature; the approximate pass gives each element
still alone the reference element left with the highest positive score, the first of several, where
the score reaches the threshold. An element that gets none is not tried again. The passes work on
lists of anything that stands for an element (`view`), so that one element may stand in a list more
than once.
-/

namespace StructureGrader

open ScoreNumber

variable {α β : Type}

/-- Two elements that were paired, how similar they are, and how their signatures differ. -/
structure Pairing (α β : Type) where
  student : β
  reference : β
  similarity : α
  differences : List Difference
deriving Repr

/-- What a pass pairs and what it leaves over, each in the order of its list. -/
structure PassResult (α β : Type) where
  pairings : List (Pairing α β)
  students : List β
  references : List β
deriving Repr

namespace PassResult

/-- The result with one more pairing in front. -/
def pairFirst (r : PassResult α β) (p : Pairing α β) : PassResult α β :=
  { r with pairings := p :: r.pairings }

/-- The result with one more element of the submission left over in front. -/
def leaveFirst (r : PassResult α β) (s : β) : PassResult α β :=
  { r with students := s :: r.students }

end PassResult

/-- The first element that passes a test, and all others. -/
def takeFirst (p : β → Bool) : List β → Option (β × List β)
  | [] => none
  | r :: rs => if p r then some (r, rs) else (takeFirst p rs).map fun (x, rest) => (x, r :: rest)

/-- The element with the highest score above `bar`, the first of several, with its score and all
others. -/
def takeBest [ScoreNumber α] (score : β → α) (bar : α) : List β → Option (β × α × List β)
  | [] => none
  | r :: rs =>
    let v := score r
    if bar < v then
      match takeBest score v rs with
      | some (x, w, rest) => some (x, w, r :: rest)
      | none => some (r, v, rs)
    else (takeBest score bar rs).map fun (x, w, rest) => (x, w, r :: rest)

/-- What pairing needs: how an element is seen, how a pair is scored, and from which score on it is
accepted. -/
structure Matcher (α β : Type) where
  view : β → Element
  score : Element → Element → α
  threshold : α

namespace Matcher

variable [ScoreNumber α]

/-- The pairing of two elements with a similarity. -/
def pair (m : Matcher α β) (s r : β) (similarity : α) : Pairing α β :=
  { student := s
    reference := r
    similarity := similarity
    differences := explain α (some (m.view s).kind) (m.view s).signature (m.view r).signature }

/-- Pairs elements of the same name and signature. -/
def exactPass (m : Matcher α β) : List β → List β → PassResult α β
  | [], references => ⟨[], [], references⟩
  | s :: ss, references =>
    match takeFirst (fun r => (m.view s).agrees (m.view r)) references with
    | some (r, rest) => (m.exactPass ss rest).pairFirst (m.pair s r one)
    | none => (m.exactPass ss references).leaveFirst s

/-- Pairs elements with the best-scoring reference element left, from the threshold on. -/
def approximatePass (m : Matcher α β) : List β → List β → PassResult α β
  | [], references => ⟨[], [], references⟩
  | s :: ss, references =>
    match takeBest (fun r => m.score (m.view s) (m.view r)) zero references with
    | some (r, v, rest) =>
      if m.threshold ≤ v then (m.approximatePass ss rest).pairFirst (m.pair s r v)
      else (m.approximatePass ss references).leaveFirst s
    | none => (m.approximatePass ss references).leaveFirst s

/-- The exact pass, then the approximate one on what it leaves over. -/
def run (m : Matcher α β) (students references : List β) : PassResult α β :=
  let exact := m.exactPass students references
  let approximate := m.approximatePass exact.students exact.references
  { approximate with pairings := exact.pairings ++ approximate.pairings }

end Matcher

end StructureGrader
