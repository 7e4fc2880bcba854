import StructureGrader.Proofs.Similarity.Script
import Mathlib.Algebra.Order.Group.Abs
import Mathlib.Algebra.Order.Group.Int

/-!
# The table of distances

The distance is computed row by row. A row belongs to a beginning of the longer text and holds the
least numbers of moves from it to each beginning of the shorter one (`tableRow`); the characters of
a beginning are taken from its last one on, so that the next row has one more in front
(`nextRow_eq`). Along equal characters the table takes the entry on the diagonal without a look at
the other two, which is the least of the three there (`entry_eq`). The last entry of the last row
belongs to both whole texts (`lastRow_getLastD`), whichever of them runs down the table
(`charDistance_eq`).

So the distance is the length of the shortest script (`editDistance_isLeast`), and what scripts tell
about the recursion holds of it (`editDistance_metric`).
-/

namespace StructureGrader

variable {c d : Char} {p done ds b : List Char}

/-- The entries of a row behind the one for `done`, for one, two and more of the characters that
follow it; `done` holds the last character first. -/
def entriesBehind (p : List Char) : List Char → List Char → List Nat
  | _, [] => []
  | done, d :: ds => leastMoves p (d :: done) :: entriesBehind p (d :: done) ds

/-- The row of the table for `p`, which holds the last character first. -/
def tableRow (p b : List Char) : List Nat :=
  leastMoves p [] :: entriesBehind p [] b

/-- An entry is the least of its three neighbours with a move, and the one on the diagonal is the
least where the characters are equal. -/
theorem entry_eq :
    (if c == d then leastMoves p done
      else 1 + min (min (leastMoves p (d :: done)) (leastMoves (c :: p) done))
        (leastMoves p done)) = leastMoves (c :: p) (d :: done) := by
  by_cases hcd : c = d
  · rw [if_pos (beq_iff_eq.2 hcd), hcd, leastMoves_cons_self]
  · rw [if_neg (by simpa using hcd), leastMoves_cons_cons, if_neg hcd]
    omega

/-- One row computed from the row above holds the least numbers of moves for a prefix longer by one.
-/
theorem nextEntries_eq :
    nextEntries c ds (leastMoves p done) (entriesBehind p done ds) (leastMoves (c :: p) done) =
      entriesBehind (c :: p) done ds := by
  -- By induction on the characters to come: each entry is the left neighbour of the next one.
  induction ds generalizing done with
  | nil => rfl
  | cons d ds ih =>
    rw [entriesBehind, nextEntries, entry_eq, ih]
    rfl

/-- One more character makes the next row of one row. -/
theorem nextRow_eq : nextRow c b (tableRow p b) = tableRow (c :: p) b := by
  have hfirst : leastMoves p [] + 1 = leastMoves (c :: p) [] := by simp
  rw [tableRow, nextRow, hfirst, nextEntries_eq]
  rfl

/-- The rows computed one after another hold the least numbers of moves for all prefixes of the
first text. -/
theorem foldl_nextRow (a : List Char) :
    a.foldl (fun row c => nextRow c b row) (tableRow p b) = tableRow (a.reverse ++ p) b := by
  induction a generalizing p with
  | nil => rfl
  | cons c a ih => rw [List.foldl_cons, nextRow_eq, ih, List.reverse_cons, List.append_assoc]; rfl

/-- The first row counts the characters of the second text. -/
theorem entriesBehind_nil : entriesBehind [] done ds = List.range' (done.length + 1) ds.length := by
  induction ds generalizing done with
  | nil => rfl
  | cons d ds ih => simp [entriesBehind, ih, List.range'_succ]

/-- The last row holds the least numbers of moves for the whole first text. -/
theorem lastRow_eq (a b : List Char) : lastRow a b = tableRow a.reverse b := by
  have hstart : List.range (b.length + 1) = tableRow [] b := by
    rw [tableRow, entriesBehind_nil, List.range_eq_range', List.range'_succ, leastMoves_nil_left]
    rfl
  rw [lastRow, hstart, foldl_nextRow, List.append_nil]

/-- The last entry of a row is the least number of moves for the whole second text. -/
theorem entriesBehind_getLastD :
    (entriesBehind p done ds).getLastD (leastMoves p done) = leastMoves p (ds.reverse ++ done) := by
  induction ds generalizing done with
  | nil => rfl
  | cons d ds ih =>
    rw [entriesBehind, List.getLastD_cons, ih, List.reverse_cons, List.append_assoc]
    rfl

/-- The last entry of the table belongs to both whole texts. -/
theorem lastRow_getLastD (a b : List Char) : (lastRow a b).getLastD 0 = leastMoves a b := by
  rw [lastRow_eq, tableRow, List.getLastD_cons, entriesBehind_getLastD, List.append_nil,
    leastMoves_reverse]

/-- The table comes to the least number of moves, whichever text runs down. -/
theorem charDistance_eq (a b : List Char) : charDistance a b = leastMoves a b := by
  -- Without a character in the shorter text there is no table, and all of the other one is deleted.
  have htable : ∀ long short : List Char,
      (if short.isEmpty then long.length else (lastRow long short).getLastD 0) =
        leastMoves long short := by
    intro long short
    by_cases hempty : short.isEmpty
    · rw [if_pos hempty, List.isEmpty_iff.1 hempty, leastMoves_nil_right]
    · rw [if_neg hempty, lastRow_getLastD]
  by_cases hshorter : a.length < b.length
  · simp only [charDistance, if_pos hshorter, htable]
    exact leastMoves_comm b a
  · simp only [charDistance, if_neg hshorter, htable]

/-- The edit distance is the least number of moves. -/
theorem editDistance_eq (a b : String) : editDistance a b = leastMoves a.toList b.toList :=
  charDistance_eq a.toList b.toList

/-- The edit distance is symmetric. -/
theorem editDistance_comm (a b : String) : editDistance a b = editDistance b a := by
  rw [editDistance_eq, editDistance_eq, leastMoves_comm]

/-- The edit distance is the length of the shortest script of single insertions, deletions and
substitutions that turns the one text into the other, which is the least number of moves. -/
theorem editDistance_isLeast (a b : String) :
    IsLeast {n | ∃ script : List Edit, script.length = n ∧
      runScript script a.toList = some b.toList} (editDistance a b) ∧
      editDistance a b = leastMoves a.toList b.toList := by
  rw [editDistance_eq]
  exact ⟨leastMoves_isLeast a.toList b.toList, rfl⟩

/-- The edit distance is a metric. It is at least the difference of the lengths and at most the
greater length, and what both texts begin or end with does not count. -/
theorem editDistance_metric (a b c p s : String) :
    (editDistance a b = 0 ↔ a = b) ∧
      editDistance a b = editDistance b a ∧
      editDistance a c ≤ editDistance a b + editDistance b c ∧
      |(a.length : Int) - b.length| ≤ editDistance a b ∧
      editDistance a b ≤ max a.length b.length ∧
      editDistance (p ++ a ++ s) (p ++ b ++ s) = editDistance a b := by
  simp only [editDistance_eq]
  have hcomm : leastMoves a.toList b.toList = leastMoves b.toList a.toList :=
    leastMoves_comm a.toList b.toList
  refine ⟨leastMoves_eq_zero.trans String.toList_inj, hcomm, leastMoves_triangle _ _ _, ?_, ?_, ?_⟩
  · have hlonger := length_le_add_leastMoves a.toList b.toList
    have hshorter := length_le_add_leastMoves b.toList a.toList
    rw [String.length_toList, String.length_toList] at hlonger hshorter
    rw [abs_le]
    omega
  · have hmax := leastMoves_le_max a.toList b.toList
    rwa [String.length_toList, String.length_toList] at hmax
  · rw [String.toList_append, String.toList_append, String.toList_append, String.toList_append,
      leastMoves_append_right, leastMoves_append_left]

end StructureGrader
