import StructureGrader.Matching

/-!
# What a comparison leaves on its elements

An outcome says whether an element was paired, in what way, and with what similarity. Outcomes are
written in order: the pairings, then the extra elements, then the missing ones, and of several
outcomes for one element the last one stays (`Outcomes`).
-/

namespace StructureGrader

open ScoreNumber

variable {α β : Type}

/-- What a comparison found out about one element. -/
structure Outcome (α : Type) where
  matched : Bool
  matchType : Option MatchType
  similarity : α
deriving Repr

namespace Outcome

variable [ScoreNumber α]

/-- The outcome of an element that was never compared. -/
def fresh : Outcome α := ⟨false, none, zero⟩

/-- From this similarity on a pair counts as exact. -/
def exactThreshold : α := decimal 95 2

/-- The outcome of a paired element. -/
def paired (similarity : α) : Outcome α :=
  ⟨true, some (if exactThreshold ≤ similarity then .exact else .similar), similarity⟩

/-- The outcome of an element that was left over. -/
def unpaired (matchType : MatchType) : Outcome α :=
  ⟨false, some matchType, zero⟩

end Outcome

/-- The outcomes of all elements. -/
abbrev Outcomes (α β : Type) := β → Outcome α

namespace Outcomes

variable [DecidableEq β]

/-- The outcomes after one of them is written. -/
def set (o : Outcomes α β) (x : β) (outcome : Outcome α) : Outcomes α β :=
  fun y => if y = x then outcome else o y

/-- The outcomes after the same one is written to each element of a list. -/
def setAll (o : Outcomes α β) (xs : List β) (outcome : Outcome α) : Outcomes α β :=
  xs.foldl (fun o x => o.set x outcome) o

variable [ScoreNumber α]

/-- The outcomes after the two sides of a pairing are written. -/
def setPairing (o : Outcomes α β) (p : Pairing α β) : Outcomes α β :=
  (o.set p.student (.paired p.similarity)).set p.reference (.paired p.similarity)

/-- The outcomes after a result is written to its elements. -/
def classify (o : Outcomes α β) (r : PassResult α β) : Outcomes α β :=
  ((r.pairings.foldl setPairing o).setAll r.students (.unpaired .extra)).setAll
    r.references (.unpaired .missing)

end Outcomes

end StructureGrader
