import StructureGrader.Archive.Unpacking

/-!
# What is kept, step by step

What stands at a place after something is put somewhere or a folder is taken away (`at?_put_self`,
`at?_put_of_ne`, `at?_remove`), and which items there are then (`mem_put`, `mem_remove`). A new folder
stands where nothing is (`newFolder?_eq_some`), so it only adds to what is kept, and to take it away
leaves what was kept before. `Unpacking` says what can become of an archive.
-/

namespace StructureGrader.Scratch

variable {s : Scratch} {place other : Place} {x : Kept}

/-! ## Items -/

/-- After a write there is what was written, and what was there at the other places. -/
theorem mem_put {item : Place × Kept} :
    item ∈ s.put place x ↔ item = (place, x) ∨ item ∈ s ∧ item.1 ≠ place := by
  unfold put
  rw [List.mem_cons, List.mem_filter, bne_iff_ne]

/-- After the removal of a place there is what was there at the places not below it. -/
theorem mem_remove {item : Place × Kept} :
    item ∈ s.remove place ↔ item ∈ s ∧ ¬ place <+: item.1 := by
  unfold remove
  rw [List.mem_filter, Bool.not_eq_true', ← Bool.not_eq_true, List.isPrefixOf_iff_prefix]

/-- A place is free where nothing is at it or below it. -/
theorem isTaken_eq_false_iff : s.isTaken place = false ↔ ∀ item ∈ s, ¬ place <+: item.1 := by
  unfold isTaken
  rw [List.any_eq_false]
  simp only [List.isPrefixOf_iff_prefix]

/-! ## Places -/

/-- What stands first at a place is what is found there. -/
theorem at?_cons_self (place : Place) (x : Kept) (s : Scratch) :
    Scratch.at? ((place, x) :: s) place = some x := by
  unfold at?
  rw [List.find?_cons, beq_self_eq_true]
  rfl

/-- What was written at a place is found there. -/
theorem at?_put_self (s : Scratch) (place : Place) (x : Kept) : (s.put place x).at? place = some x :=
  at?_cons_self place x _

/-- What stands first at another place is passed over. -/
theorem at?_cons_of_ne (h : place ≠ other) : Scratch.at? ((place, x) :: s) other = s.at? other := by
  unfold at?
  rw [List.find?_cons, beq_false_of_ne h]

/-- A place at which everything is left in has what it had. -/
theorem at?_filter {left : Place × Kept → Bool} (h : ∀ item, item.1 = other → left item = true) :
    Scratch.at? (s.filter left) other = s.at? other := by
  unfold at?
  induction s with
  | nil => rfl
  | cons item s ih =>
    by_cases hitem : item.1 = other
    · rw [List.filter_cons, h item hitem, if_pos rfl, List.find?_cons, List.find?_cons, hitem,
        beq_self_eq_true]
    · have hne : (item.1 == other) = false := beq_false_of_ne hitem
      rw [List.filter_cons, List.find?_cons, hne]
      split
      · rw [List.find?_cons, hne]
        exact ih
      · exact ih

/-- At any other place there is what there was. -/
theorem at?_put_of_ne (h : place ≠ other) : (s.put place x).at? other = s.at? other := by
  have hleft : ∀ item : Place × Kept, item.1 = other → (item.1 != place) = true := by
    rintro item rfl
    rw [bne_iff_ne]
    exact Ne.symm h
  have hrest : Scratch.at? (s.filter fun y => y.1 != place) other = s.at? other :=
    at?_filter hleft
  unfold put
  rw [at?_cons_of_ne h]
  exact hrest

/-- Outside of a folder there is what there was before it was taken away. -/
theorem at?_remove (h : ¬ place <+: other) : (s.remove place).at? other = s.at? other := by
  unfold remove
  apply at?_filter
  rintro item rfl
  rwa [Bool.not_eq_true', ← Bool.not_eq_true, List.isPrefixOf_iff_prefix]

/-! ## New folders -/

/-- Where nothing is, what is put there is added. -/
theorem put_of_not_isTaken (h : s.isTaken place = false) : s.put place x = (place, x) :: s := by
  unfold put
  rw [isTaken_eq_false_iff] at h
  rw [List.filter_eq_self.2]
  intro item hitem
  rw [bne_iff_ne]
  rintro rfl
  exact h item hitem (List.prefix_refl _)

/-- What is kept stays where it is when something is added where nothing is. -/
theorem at?_cons_of_not_isTaken (h : s.isTaken place = false) {y : Kept}
    (hother : s.at? other = some y) : Scratch.at? ((place, x) :: s) other = some y := by
  have hne : place ≠ other := by
    rintro rfl
    unfold at? at hother
    rw [Option.map_eq_some_iff] at hother
    obtain ⟨item, hfind, -⟩ := hother
    have hitem := List.find?_some hfind
    rw [beq_iff_eq] at hitem
    rw [isTaken_eq_false_iff] at h
    exact h item (List.mem_of_find?_eq_some hfind) (hitem ▸ List.prefix_refl _)
  rw [at?_cons_of_ne hne]
  exact hother

/-- To take it away again leaves what was there before. -/
theorem remove_cons_of_not_isTaken (h : s.isTaken place = false) :
    Scratch.remove ((place, x) :: s) place = s := by
  unfold remove
  rw [isTaken_eq_false_iff] at h
  have hfront : place.isPrefixOf place = true :=
    List.isPrefixOf_iff_prefix.2 (List.prefix_refl place)
  have hself : (!place.isPrefixOf place) = false := congrArg not hfront
  rw [List.filter_cons, hself, if_neg Bool.false_ne_true, List.filter_eq_self.2]
  intro item hitem
  rw [Bool.not_eq_true', ← Bool.not_eq_true, List.isPrefixOf_iff_prefix]
  exact h item hitem

/-- A place that is found free is one of those tried. -/
theorem freePlace?_eq_some {around : Place} {front : String} {endings : Nat → String} {n : Nat}
    {tries : Nat} (h : s.freePlace? around front endings n tries = some place) :
    ∃ i, place = around ++ [front ++ endings i] ∧ s.isTaken place = false := by
  induction tries generalizing n with
  | zero => cases h
  | succ tries ih =>
    unfold freePlace? at h
    dsimp only at h
    by_cases htaken : s.isTaken (around ++ [front ++ endings n]) = true
    · rw [if_pos htaken] at h
      exact ih h
    · rw [if_neg htaken, Option.some.injEq] at h
      subst h
      exact ⟨n, rfl, Bool.eq_false_iff.2 htaken⟩

/-- A new folder stands where nothing was. -/
theorem newFolder?_eq_some {around : Place} {front : String} {endings : Nat → String}
    {after : Scratch} (h : s.newFolder? around front endings = some (place, after)) :
    ∃ i, place = around ++ [front ++ endings i] ∧ s.isTaken place = false ∧
      after = (place, .entry .empty) :: s := by
  unfold newFolder? at h
  rw [Option.map_eq_some_iff] at h
  obtain ⟨place', hfree, heq⟩ := h
  obtain ⟨i, hplace, htaken⟩ := freePlace?_eq_some hfree
  rw [put_of_not_isTaken htaken, Prod.mk.injEq] at heq
  obtain ⟨rfl, rfl⟩ := heq
  exact ⟨i, hplace, htaken, rfl⟩

/-! ## Archives -/

/-- What can become of an archive: the folder with its members or the failure, and what is kept
then. -/
inductive Unpacking (s : Scratch) (host : Host) (around : Place) (endings : Nat → String)
    (archive : Except UnpackError ByteArray) : Except ExtractionError Place → Scratch → Prop
  | noName (taken : s.newFolder? around "grader_" endings = none) :
      Unpacking s host around endings archive (.error .noName) s
  | unpacked {place : Place} {new : Scratch} {folder : Entry}
      (made : s.newFolder? around "grader_" endings = some (place, new))
      (extracted : Archive.extractFrom host place archive = (.ok (), folder)) :
      Unpacking s host around endings archive (.ok place) ((place, .entry folder) :: s)
  | refused {place : Place} {new : Scratch} {folder : Entry} {e : ArchiveError}
      (made : s.newFolder? around "grader_" endings = some (place, new))
      (extracted : Archive.extractFrom host place archive = (.error (.refused e), folder)) :
      Unpacking s host around endings archive (.error (.unpack (.refused e))) s
  | failed {place : Place} {new : Scratch} {folder : Entry} {fault : ArchiveFault}
      (made : s.newFolder? around "grader_" endings = some (place, new))
      (extracted : Archive.extractFrom host place archive = (.error (.failed fault), folder)) :
      Unpacking s host around endings archive (.error (.unpack (.failed fault)))
        ((place, .entry folder) :: s)

/-- Unpacking an archive goes the way unpacking goes. -/
theorem unpack_unpacking (s : Scratch) (host : Host) (around : Place) (endings : Nat → String)
    (archive : Except UnpackError ByteArray) :
    Unpacking s host around endings archive (s.unpack host around endings archive).1
      (s.unpack host around endings archive).2 := by
  unfold unpack
  cases hnew : s.newFolder? around "grader_" endings with
  | none => exact .noName hnew
  | some new =>
    obtain ⟨place, after⟩ := new
    obtain ⟨-, -, hfree, rfl⟩ := newFolder?_eq_some hnew
    dsimp only
    -- The folder that was made stands first, and what it comes to hold takes its place.
    have hput : ∀ y, Scratch.put ((place, Kept.entry .empty) :: s) place y = (place, y) :: s := by
      intro y
      have hself : ((place, Kept.entry .empty).1 != place) = false := bne_self_eq_false place
      have hrest : s.put place y = (place, y) :: s := put_of_not_isTaken hfree
      unfold put at hrest ⊢
      rw [List.filter_cons, hself, if_neg Bool.false_ne_true]
      exact hrest
    generalize hextracted : Archive.extractFrom host place archive = extracted
    obtain ⟨result, folder⟩ := extracted
    dsimp only
    rw [hput]
    cases result with
    | ok => exact .unpacked hnew hextracted
    | error error =>
      cases error with
      | refused e =>
        rw [remove_cons_of_not_isTaken hfree]
        exact .refused hnew hextracted
      | failed f => exact .failed hnew hextracted

/-- What is kept after a failure to unpack: the folder goes where the archive is refused, and else
it stays. -/
def afterFailure (s : Scratch) (place : Place) (folder : Entry) : UnpackError → Scratch
  | .refused _ => s
  | .failed _ => (place, .entry folder) :: s

/-- A failure in the new folder is the failure to unpack. -/
theorem unpack_of_error {host : Host} {around : Place} {endings : Nat → String}
    {archive : Except UnpackError ByteArray} {new : Scratch} {folder : Entry} {error : UnpackError}
    (hmade : s.newFolder? around "grader_" endings = some (place, new))
    (hfailed : Archive.extractFrom host place archive = (.error error, folder)) :
    s.unpack host around endings archive =
      (.error (.unpack error), s.afterFailure place folder error) := by
  have hunpacking := s.unpack_unpacking host around endings archive
  generalize s.unpack host around endings archive = unpacked at hunpacking ⊢
  obtain ⟨result, after⟩ := unpacked
  cases hunpacking with
  | noName taken =>
    rw [taken] at hmade
    cases hmade
  | unpacked made extracted =>
    rw [made] at hmade
    cases hmade
    rw [extracted] at hfailed
    cases hfailed
  | refused made extracted | failed made extracted =>
    rw [made] at hmade
    cases hmade
    rw [extracted] at hfailed
    cases hfailed
    rfl

end StructureGrader.Scratch
