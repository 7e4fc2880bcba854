import StructureGrader.Files.Listing
import Mathlib.Data.List.Nodup
import Mathlib.Data.List.Perm.Basic
import Mathlib.Data.String.Basic

/-!
# The listing of a folder

What is listed below a folder is listed entry by entry (`filesIn_eq_flatMap`), and then sorted by
components, which is a linear order (`componentsLE_trans`, `componentsLE_total`,
`componentsLE_antisymm`). Where no folder holds two entries of one name (`DistinctNames`) no two
files have the same components (`DistinctNames.nodup`), so that the files decide their order:
listings of the same files are the same list (`eq_of_listed`).

A path with double dots that can be followed leads to the same entry as the path that its text comes
to without them (`findFrom_normalFrom`); so the listing at a path is that of the folder the path
leads to (`Disk.sourcesAt_eq`).
-/

namespace StructureGrader

/-! ## The order of components -/

/-- Lists of components are compared by their first ones, and where these are equal by the others.
-/
theorem componentsLE_cons (a b : String) (as bs : List String) :
    componentsLE (a :: as) (b :: bs) = if a == b then componentsLE as bs else decide (a < b) :=
  rfl

/-- The order of components is transitive. -/
theorem componentsLE_trans (as bs cs : List String) (h₁ : componentsLE as bs = true)
    (h₂ : componentsLE bs cs = true) : componentsLE as cs = true := by
  induction as generalizing bs cs with
  | nil => rfl
  | cons a as ih =>
    cases bs with
    | nil => cases h₁
    | cons b bs =>
      cases cs with
      | nil => cases h₂
      | cons c cs =>
        simp only [componentsLE_cons, beq_iff_eq] at h₁ h₂ ⊢
        -- Either component may be the one that decides; the first that differs does.
        split_ifs at h₁ h₂ with hab hbc hbc
        · rw [if_pos (hab.trans hbc)]
          exact ih bs cs h₁ h₂
        · rw [hab, if_neg hbc]
          exact h₂
        · rw [← hbc, if_neg hab]
          exact h₁
        · have hlt : a < c := String.lt_trans (of_decide_eq_true h₁) (of_decide_eq_true h₂)
          rw [if_neg (ne_of_lt hlt)]
          exact decide_eq_true hlt

/-- Of two lists of components one comes before the other. -/
theorem componentsLE_total (as bs : List String) :
    (componentsLE as bs || componentsLE bs as) = true := by
  induction as generalizing bs with
  | nil => rfl
  | cons a as ih =>
    cases bs with
    | nil => rfl
    | cons b bs =>
      simp only [componentsLE_cons, beq_iff_eq]
      rcases lt_trichotomy a b with hab | rfl | hab
      · rw [if_neg hab.ne, decide_eq_true hab, Bool.true_or]
      · rw [if_pos rfl, if_pos rfl]
        exact ih bs
      · rw [if_neg hab.ne, decide_eq_true hab, Bool.or_true]

/-- Two lists of components that come before each other are equal. -/
theorem componentsLE_antisymm (as bs : List String) (h₁ : componentsLE as bs = true)
    (h₂ : componentsLE bs as = true) : as = bs := by
  induction as generalizing bs with
  | nil =>
    cases bs with
    | nil => rfl
    | cons b bs => cases h₂
  | cons a as ih =>
    cases bs with
    | nil => cases h₁
    | cons b bs =>
      simp only [componentsLE_cons, beq_iff_eq] at h₁ h₂
      by_cases hab : a = b
      · rw [if_pos hab] at h₁
        rw [if_pos hab.symm] at h₂
        rw [hab, ih bs h₁ h₂]
      · rw [if_neg hab] at h₁
        rw [if_neg (Ne.symm hab)] at h₂
        exact absurd (of_decide_eq_true h₂) (lt_asymm (of_decide_eq_true h₁))

/-- Different components in this order are in the order of lists. -/
theorem lt_of_componentsLE {as bs : List String} (h : componentsLE as bs = true) (hne : as ≠ bs) :
    as < bs := by
  induction as generalizing bs with
  | nil =>
    cases bs with
    | nil => exact absurd rfl hne
    | cons b bs => exact List.nil_lt_cons b bs
  | cons a as ih =>
    cases bs with
    | nil => cases h
    | cons b bs =>
      rw [componentsLE_cons] at h
      rw [List.cons_lt_cons_iff]
      split_ifs at h with hab
      · obtain rfl := beq_iff_eq.1 hab
        exact .inr ⟨rfl, ih h fun heq => hne (congrArg _ heq)⟩
      · exact .inl (of_decide_eq_true h)

namespace Entry

/-! ## Files entry by entry -/

/-- What one entry of a folder adds to the listing. -/
def filesUnder (entry : String × Entry) : List (List String × ByteArray) :=
  if isHiddenName entry.1 then [] else filesNamed entry.1 entry.2

/-- The files of a folder are those of its entries, in order. -/
theorem filesIn_eq_flatMap (entries : List (String × Entry)) :
    filesIn entries = entries.flatMap filesUnder := by
  induction entries with
  | nil => rfl
  | cons entry entries ih =>
    rw [filesIn, ih, List.flatMap_cons]
    rfl

/-- The files of a folder are those of its first entry and then those of the others. -/
theorem filesIn_cons (entry : String × Entry) (entries : List (String × Entry)) :
    filesIn (entry :: entries) = filesUnder entry ++ filesIn entries := by
  rw [filesIn_eq_flatMap, filesIn_eq_flatMap, List.flatMap_cons]

/-- A hidden entry has no files to list. -/
theorem filesUnder_of_hidden {name : String} (h : isHiddenName name = true) (entry : Entry) :
    filesUnder (name, entry) = [] :=
  if_pos h

/-- The components of a file below an entry start with the name of the entry. -/
theorem head?_of_mem_filesUnder {entry : String × Entry} {file : List String × ByteArray}
    (h : file ∈ filesUnder entry) : file.1.head? = some entry.1 := by
  obtain ⟨name, entry⟩ := entry
  unfold filesUnder at h
  split_ifs at h with hhidden
  · cases h
  · cases entry with
    | file bytes =>
      rw [filesNamed] at h
      split_ifs at h with hname
      · rw [List.mem_singleton.1 h]
        rfl
      · cases h
    | folder entries =>
      rw [filesNamed, List.mem_map] at h
      obtain ⟨inner, -, rfl⟩ := h
      rfl

/-! ## Distinct names -/

/-- No folder among the entries and below holds two entries of one name. -/
inductive DistinctNames : List (String × Entry) → Prop
  | nil : DistinctNames []
  | file {name : String} {entries : List (String × Entry)} (bytes : ByteArray)
      (fresh : name ∉ entries.map Prod.fst) (rest : DistinctNames entries) :
      DistinctNames ((name, .file bytes) :: entries)
  | folder {name : String} {inner entries : List (String × Entry)}
      (fresh : name ∉ entries.map Prod.fst) (below : DistinctNames inner)
      (rest : DistinctNames entries) : DistinctNames ((name, .folder inner) :: entries)

/-- What an entry adds is apart from what entries of other names add. -/
theorem disjoint_filesUnder {entry : String × Entry} {entries : List (String × Entry)}
    (fresh : entry.1 ∉ entries.map Prod.fst) :
    ((filesUnder entry).map Prod.fst).Disjoint ((filesIn entries).map Prod.fst) := by
  intro parts hunder hrest
  obtain ⟨file, hfile, rfl⟩ := List.mem_map.1 hunder
  obtain ⟨other, hother, heq⟩ := List.mem_map.1 hrest
  rw [filesIn_eq_flatMap, List.mem_flatMap] at hother
  obtain ⟨entry', hentry', hother⟩ := hother
  have hname : some entry'.1 = some entry.1 := by
    rw [← head?_of_mem_filesUnder hother, heq, head?_of_mem_filesUnder hfile]
  exact fresh (Option.some.inj hname ▸ List.mem_map_of_mem hentry')

/-- No two files have the same components. -/
theorem DistinctNames.nodup {entries : List (String × Entry)} (h : DistinctNames entries) :
    ((filesIn entries).map Prod.fst).Nodup := by
  induction h with
  | nil => exact List.nodup_nil
  | @file name entries bytes fresh rest ih =>
    rw [filesIn_cons, List.map_append]
    refine List.Nodup.append ?_ ih (disjoint_filesUnder fresh)
    unfold filesUnder filesNamed
    split_ifs <;> simp
  | @folder name inner entries fresh below rest ihbelow ih =>
    rw [filesIn_cons, List.map_append]
    refine List.Nodup.append ?_ ih (disjoint_filesUnder fresh)
    unfold filesUnder filesNamed
    split_ifs
    · exact List.nodup_nil
    · -- The name of the folder stands before all components alike.
      have hcons : (((filesIn inner).map Prod.fst).map (name :: ·)).Nodup :=
        ihbelow.map fun _ _ h => (List.cons.inj h).2
      rw [List.map_map] at hcons ⊢
      exact hcons

/-! ## The listing -/

/-- Sorting the files of a folder neither adds one nor takes one away. -/
theorem sourceFiles_perm (entries : List (String × Entry)) :
    (sourceFiles entries).Perm (filesIn entries) :=
  List.mergeSort_perm _ _

/-- The files of a folder are listed in the order of their components. -/
theorem sourceFiles_pairwise (entries : List (String × Entry)) :
    (sourceFiles entries).Pairwise fun a b => componentsLE a.1 b.1 = true :=
  List.pairwise_mergeSort (fun a b c => componentsLE_trans a.1 b.1 c.1)
    (fun a b => componentsLE_total a.1 b.1) _

/-- Two lists of the same files in order are the same list. -/
theorem eq_of_listed {files files' : List (List String × ByteArray)}
    (hnodup : (files.map Prod.fst).Nodup) (hperm : files.Perm files')
    (h : files.Pairwise fun a b => componentsLE a.1 b.1 = true)
    (h' : files'.Pairwise fun a b => componentsLE a.1 b.1 = true) : files = files' := by
  refine List.Perm.eq_of_pairwise ?_ h h' hperm
  intro a b ha hb hab hba
  exact List.inj_on_of_nodup_map hnodup ha (hperm.mem_iff.2 hb)
    (componentsLE_antisymm a.1 b.1 hab hba)

/-! ## Following paths -/

/-- One step from a folder. -/
theorem findFrom_folder (above : List Entry) (entries : List (String × Entry)) (part : String)
    (parts : List String) :
    findFrom above (.folder entries) (part :: parts) =
      if isTooLong part then .error .nameTooLong
      else if part == ".." then
        match above with
        | [] => findFrom [] (.folder entries) parts
        | up :: more => findFrom more up parts
      else
        match named? part entries with
        | none => .error .missing
        | some entry => findFrom (.folder entries :: above) entry parts :=
  rfl

/-- Names, from the inside out, that lead from a folder to an entry, with the folders around it. -/
inductive Leads (root : Entry) : List String → List Entry → Entry → Prop
  | start : Leads root [] [] root
  | down {names : List String} {above : List Entry} {entries : List (String × Entry)}
      {name : String} {entry : Entry} (way : Leads root names above (.folder entries))
      (short : isTooLong name = false) (plain : name ≠ "..")
      (found : named? name entries = some entry) :
      Leads root (name :: names) (.folder entries :: above) entry

/-- One goes on from where the names lead. -/
theorem Leads.findFrom_append {root here : Entry} {names : List String} {above : List Entry}
    (h : Leads root names above here) (parts : List String) :
    findFrom [] root (names.reverse ++ parts) = findFrom above here parts := by
  induction h generalizing parts with
  | start => rfl
  | @down names above entries name entry way short plain found ih =>
    have hplain : ¬ (name == "..") = true := fun h => plain (beq_iff_eq.1 h)
    rw [List.reverse_cons, List.append_assoc, List.singleton_append, ih, findFrom_folder, short,
      if_neg Bool.false_ne_true, if_neg hplain, found]

/-- A path that can be followed comes to names that lead to the same entry. -/
theorem Leads.exists_of_findFrom {root here entry : Entry} {names parts : List String}
    {above : List Entry} (h : Leads root names above here)
    (hfind : findFrom above here parts = .ok entry) :
    ∃ names' above', Path.normalFrom names parts = names'.reverse ∧ Leads root names' above' entry := by
  induction parts generalizing names above here with
  | nil =>
    cases hfind
    exact ⟨names, above, rfl, h⟩
  | cons part parts ih =>
    rw [Path.normalFrom]
    cases here with
    | file bytes => simp [findFrom] at hfind
    | folder entries =>
      rw [findFrom_folder] at hfind
      split_ifs at hfind with hlong hdots
      · -- A double dot leads to the folder around, and the outermost folder is its own.
        rw [if_pos hdots]
        cases h with
        | start => exact ih .start hfind
        | down way short plain found => exact ih way hfind
      · rw [if_neg hdots]
        cases hnamed : named? part entries with
        | none => simp [hnamed] at hfind
        | some inner =>
          rw [hnamed] at hfind
          exact ih (h.down (Bool.eq_false_iff.2 hlong) (fun h => hdots (beq_iff_eq.2 h)) hnamed)
            hfind

/-- Double dots that can be followed lead to where the text without them leads. -/
theorem Leads.findFrom_normalFrom {root here entry : Entry} {names parts : List String}
    {above : List Entry} (h : Leads root names above here)
    (hfind : findFrom above here parts = .ok entry) :
    findFrom [] root (Path.normalFrom names parts) = .ok entry := by
  obtain ⟨names', above', hnames, hleads⟩ := h.exists_of_findFrom hfind
  rw [hnames, ← List.append_nil names'.reverse, hleads.findFrom_append]
  rfl

end Entry

/-- The listing at a path that leads to a folder is that of the folder, where the place of the path
can be written down at all. -/
theorem Disk.sourcesAt_eq {d : Disk} {p : Path} {entries : List (String × Entry)}
    (h : d.find p = .ok (.folder entries)) :
    d.sourcesAt p =
      if (⟨"/", d.placeOf p⟩ : Path).hasNul then .error .nulInPath
      else .ok (Entry.sourceFiles entries) := by
  have hfind : Entry.findFrom [] d.root (d.partsOf p) = .ok (.folder entries) := by
    unfold Disk.find at h
    split_ifs at h
    exact h
  have hplace : Entry.findFrom [] d.root (d.partsOf ⟨"/", d.placeOf p⟩) =
      .ok (.folder entries) :=
    Entry.Leads.start.findFrom_normalFrom hfind
  unfold Disk.sourcesAt Disk.find
  dsimp only
  by_cases hnul : (⟨"/", d.placeOf p⟩ : Path).hasNul
  · rw [if_pos hnul, if_pos hnul]
  · rw [if_neg hnul, if_neg hnul, hplace]

end StructureGrader
