import StructureGrader.Proofs.Files.Sources

/-!
# Files without elements

Files that do not fit the grammar, files that are no source files, and all that is hidden or lies
below something hidden may be added to a submission at any place (`Idle`, `Additions`). They may
stand anywhere among the good files, so the listing of the submission is another one; but with the
files that do not fit the grammar left out it is the same list (`sourceFiles_additions`), and it is
only from the files that do fit that elements come (`elementsOfFiles_filter`). So a submission has
the same elements before and after, in the same order and with the same file names
(`elementsAt_extended`), and the comparison of two submissions comes to the same
(`assessAt_extended`).
-/

namespace StructureGrader

open Syntax

variable {files : List SourceFile} {name : String} {entries entries' : List (String × Entry)}

/-! ## Files that fit the grammar -/

/-- Whether a file is read as a source text. -/
def SourceFile.fits (file : SourceFile) : Bool :=
  (parse? (Text.ofFile file.2)).isSome

/-- A file that does not fit has no elements. -/
theorem elementsOfFile_of_not_fits {file : SourceFile} (h : file.fits = false) (name : String) :
    elementsOfFile file.2 name = [] := by
  have hnone : parse? (Text.ofFile file.2) = none := Option.not_isSome_iff_eq_none.1 (by
    rw [← SourceFile.fits, h]
    exact Bool.false_ne_true)
  rw [elementsOfFile, elementsOf, hnone]

/-- Elements come from the files that fit. -/
theorem elementsOfFiles_filter (fileName : List String → String) (files : List SourceFile) :
    elementsOfFiles fileName (files.filter SourceFile.fits) = elementsOfFiles fileName files := by
  induction files with
  | nil => rfl
  | cons file files ih =>
    unfold elementsOfFiles at ih ⊢
    by_cases h : file.fits
    · rw [List.filter_cons_of_pos h, List.flatMap_cons, List.flatMap_cons, ih]
    · have hnone := elementsOfFile_of_not_fits (Bool.eq_false_iff.2 h) (fileName file.1)
      rw [List.filter_cons_of_neg h, List.flatMap_cons, hnone, List.nil_append, ih]

namespace Entry

/-! ## Additions -/

/-- An entry that under its name holds no source file that fits the grammar. -/
inductive Idle : String → Entry → Prop
  /-- A hidden file, or a hidden folder with all that lies below it. -/
  | hidden {name : String} (hidden : isHiddenName name = true) (entry : Entry) : Idle name entry
  /-- A file without the ending of source files. -/
  | other {name : String} (ending : isSourceName name = false) (bytes : ByteArray) :
      Idle name (.file bytes)
  /-- A file that does not fit the grammar. -/
  | unfit {bytes : ByteArray} (name : String) (unfit : parse? (Text.ofFile bytes) = none) :
      Idle name (.file bytes)
  /-- A folder of such entries. -/
  | folder {entries : List (String × Entry)} (name : String)
      (idle : ∀ entry ∈ entries, Idle entry.1 entry.2) : Idle name (.folder entries)

/-- The second list of entries is the first one with idle entries added, there or in folders below,
and in any order; hidden entries may change altogether. -/
inductive Additions : List (String × Entry) → List (String × Entry) → Prop
  | nil : Additions [] []
  | file {entries entries' : List (String × Entry)} (name : String) (bytes : ByteArray)
      (rest : Additions entries entries') :
      Additions ((name, .file bytes) :: entries) ((name, .file bytes) :: entries')
  | folder {inner inner' entries entries' : List (String × Entry)} (name : String)
      (below : Additions inner inner') (rest : Additions entries entries') :
      Additions ((name, .folder inner) :: entries) ((name, .folder inner') :: entries')
  | hidden {name : String} {entries entries' : List (String × Entry)}
      (hidden : isHiddenName name = true) (entry entry' : Entry)
      (rest : Additions entries entries') :
      Additions ((name, entry) :: entries) ((name, entry') :: entries')
  | add {name : String} {entry : Entry} {entries entries' : List (String × Entry)}
      (idle : Idle name entry) (rest : Additions entries entries') :
      Additions entries ((name, entry) :: entries')
  | reorder {entries entries' entries'' : List (String × Entry)}
      (before : Additions entries entries') (perm : entries'.Perm entries'') :
      Additions entries entries''

/-- What lies in a folder fits or not, whatever the name of the folder. -/
theorem filter_fits_filesNamed_folder (name : String) (entries : List (String × Entry)) :
    (filesNamed name (.folder entries)).filter SourceFile.fits =
      ((filesIn entries).filter SourceFile.fits).map fun (parts, bytes) => (name :: parts, bytes) := by
  have hfits : (SourceFile.fits ∘ fun (file : SourceFile) => (name :: file.1, file.2)) =
      SourceFile.fits :=
    funext fun file => by rw [Function.comp_apply, SourceFile.fits, SourceFile.fits]
  rw [filesNamed, List.filter_map, hfits]

/-- Where the entries of a list add no file that fits, none lies below the list. -/
theorem filter_fits_filesIn
    (h : ∀ entry ∈ entries, (filesUnder entry).filter SourceFile.fits = []) :
    (filesIn entries).filter SourceFile.fits = [] := by
  rw [filesIn_eq_flatMap, List.filter_flatMap, List.flatMap_eq_nil_iff]
  exact h

/-- Among the files below an idle entry none fits. -/
theorem Idle.filter_fits {entry : Entry} (h : Idle name entry) :
    (filesUnder (name, entry)).filter SourceFile.fits = [] := by
  induction h with
  | hidden hidden entry => rw [filesUnder_of_hidden hidden, List.filter_nil]
  | other ending bytes =>
    unfold filesUnder filesNamed
    rw [ending, if_neg Bool.false_ne_true, ite_self, List.filter_nil]
  | @unfit bytes name unfit =>
    have hfits : SourceFile.fits ([name], bytes) = false := by
      rw [SourceFile.fits, unfit, Option.isSome_none]
    unfold filesUnder filesNamed
    split_ifs
    · rfl
    · rw [List.filter_cons_of_neg (by rw [hfits]; exact Bool.false_ne_true), List.filter_nil]
    · rfl
  | @folder entries name idle ih =>
    unfold filesUnder
    split_ifs
    · rfl
    · rw [filter_fits_filesNamed_folder, filter_fits_filesIn ih, List.map_nil]

/-- The files that fit are the same files before and after. -/
theorem Additions.filter_fits_perm (h : Additions entries entries') :
    ((filesIn entries').filter SourceFile.fits).Perm
      ((filesIn entries).filter SourceFile.fits) := by
  induction h with
  | nil => exact List.Perm.refl _
  | file name bytes rest ih =>
    rw [filesIn_cons, filesIn_cons, List.filter_append, List.filter_append]
    exact ih.append_left _
  | @folder inner inner' entries entries' name below rest ihbelow ih =>
    rw [filesIn_cons, filesIn_cons, List.filter_append, List.filter_append]
    refine List.Perm.append ?_ ih
    unfold filesUnder
    split_ifs
    · exact List.Perm.refl _
    · rw [filter_fits_filesNamed_folder, filter_fits_filesNamed_folder]
      exact ihbelow.map _
  | hidden hidden entry entry' rest ih =>
    rw [filesIn_cons, filesIn_cons, filesUnder_of_hidden hidden, filesUnder_of_hidden hidden]
    exact ih
  | add idle rest ih =>
    rw [filesIn_cons, List.filter_append, idle.filter_fits, List.nil_append]
    exact ih
  | reorder before perm ih =>
    rw [filesIn_eq_flatMap] at ih ⊢
    exact ((perm.symm.flatMap_right filesUnder).filter _).trans ih

/-- The files that fit are listed alike before and after. -/
theorem sourceFiles_additions (h : Additions entries entries') (distinct : DistinctNames entries') :
    (sourceFiles entries').filter SourceFile.fits =
      (sourceFiles entries).filter SourceFile.fits := by
  have hnodup : (((sourceFiles entries').filter SourceFile.fits).map Prod.fst).Nodup := by
    have hall : ((sourceFiles entries').map Prod.fst).Nodup :=
      ((sourceFiles_perm entries').map Prod.fst).nodup_iff.2 distinct.nodup
    exact hall.sublist (List.filter_sublist.map Prod.fst)
  have hperm : ((sourceFiles entries').filter SourceFile.fits).Perm
      ((sourceFiles entries).filter SourceFile.fits) :=
    ((sourceFiles_perm entries').filter _).trans
      (h.filter_fits_perm.trans ((sourceFiles_perm entries).filter _).symm)
  exact eq_of_listed hnodup hperm ((sourceFiles_pairwise entries').filter _)
    ((sourceFiles_pairwise entries).filter _)

end Entry

/-! ## Submissions with additions -/

namespace Disk

/-- On the second disk a path leads to the folder that it leads to on the first one, with things
added that hold no source file that fits the grammar. -/
structure ExtendedAt (d d' : Disk) (p : Path) : Prop where
  home : d'.home = d.home
  folders : ∃ entries entries', d.find p = .ok (.folder entries) ∧
    d'.find p = .ok (.folder entries') ∧ Entry.Additions entries entries' ∧
    Entry.DistinctNames entries'

end Disk

variable {d d' : Disk} {p student reference : Path}

/-- A submission has the same elements before and after. -/
theorem elementsAt_extended (h : d.ExtendedAt d' p) : elementsAt d' p = elementsAt d p := by
  obtain ⟨entries, entries', hfind, hfind', hadditions, hdistinct⟩ := h.folders
  have helements : elementsOfFiles nameFromFolder (Entry.sourceFiles entries') =
      elementsOfFiles nameFromFolder (Entry.sourceFiles entries) := by
    rw [← elementsOfFiles_filter, Entry.sourceFiles_additions hadditions hdistinct,
      elementsOfFiles_filter]
  rw [elementsAt_folder hfind, elementsAt_folder hfind', Disk.sourcesAt_eq hfind,
    Disk.sourcesAt_eq hfind', Disk.placeOf_of_home_eq h.home]
  by_cases hnul : (⟨"/", d.placeOf p⟩ : Path).hasNul
  · rw [if_pos hnul, if_pos hnul]
  · rw [if_neg hnul, if_neg hnul]
    exact congrArg Except.ok helements

/-- Two submissions compare alike before and after additions to either of them: the comparison
comes to the same summary, over the same elements, or stops in the same way. -/
theorem assessAt_extended (hs : d.ExtendedAt d' student) (hr : d.ExtendedAt d' reference)
    (settings : Settings) (signal : Nat → Bool) (clock : Nat → Float) :
    assessAt d' settings signal clock student reference =
      assessAt d settings signal clock student reference := by
  unfold assessAt
  rw [elementsAt_extended hs, elementsAt_extended hr]

/-! ## A submission with additions -/

/-- A source file with one class. -/
def classFile (name : String) : Entry :=
  .file ("class " ++ name ++ " \x7b int size; \x7d").toUTF8

/-- A source file that breaks off. -/
def brokenFile : Entry :=
  .file "class \x7b".toUTF8

/-- A disk with a submission and a reference. -/
def plainDisk : Disk :=
  ⟨.folder [
    ("student", .folder [("B.java", classFile "B"), ("src", .folder [("A.java", classFile "A")])]),
    ("reference", .folder [("A.java", classFile "A")])], []⟩

/-- The submission and the reference with things added: a broken file that sorts before the good
ones, another one in a folder of its own, a hidden folder with a good file, and notes. -/
def paddedDisk : Disk :=
  ⟨.folder [
    ("student", .folder [(".backup", .folder [("B.java", classFile "B")]),
      ("src", .folder [("notes.txt", classFile "N"), ("A.java", classFile "A")]),
      ("B.java", classFile "B"), ("A.java", brokenFile)]),
    ("reference", .folder [("__MACOSX", .folder [("A.java", classFile "A")]),
      ("A.java", classFile "A"), ("old", .folder [("A.java", brokenFile)])])], []⟩

/-- A broken file does not fit the grammar. -/
theorem brokenFile_unfit : parse? (Text.ofFile "class \x7b".toUTF8) = none :=
  Option.isNone_iff_eq_none.1 (by decide +kernel)

/-- The padded disk holds the student's sources of the plain one and files beside them that are no
sources. -/
theorem plainDisk_extended_student :
    plainDisk.ExtendedAt paddedDisk ⟨"", ["student"]⟩ where
  home := rfl
  folders := by
    refine ⟨_, _, rfl, rfl, ?_, ?_⟩
    · have hinner : Entry.Additions [("A.java", classFile "A")]
          [("notes.txt", classFile "N"), ("A.java", classFile "A")] :=
        .add (.other (by decide +kernel) _) (.file _ _ .nil)
      -- The folder lists the two old entries the other way round.
      have hswap : Entry.Additions
          [("B.java", classFile "B"), ("src", .folder [("A.java", classFile "A")])]
          [("B.java", classFile "B"), ("src", .folder [("notes.txt", classFile "N"),
            ("A.java", classFile "A")]), ("A.java", brokenFile)] :=
        .file _ _ (.folder _ hinner (.add (.unfit _ brokenFile_unfit) .nil))
      exact .add (.hidden (by decide +kernel) _) (.reorder hswap (List.Perm.swap _ _ _))
    · refine .folder (by decide) (.file _ (by decide) .nil) (.folder (by decide) ?_ ?_)
      · exact .file _ (by decide) (.file _ (by decide) .nil)
      · exact .file _ (by decide) (.file _ (by decide) .nil)

/-- The padded disk holds the reference's sources of the plain one and files beside them that are no
sources. -/
theorem plainDisk_extended_reference :
    plainDisk.ExtendedAt paddedDisk ⟨"", ["reference"]⟩ where
  home := rfl
  folders := by
    refine ⟨_, _, rfl, rfl, ?_, ?_⟩
    · have hold : Entry.Idle "old" (.folder [("A.java", brokenFile)]) :=
        .folder _ (by
          intro entry hentry
          rw [List.mem_singleton.1 hentry]
          exact .unfit _ brokenFile_unfit)
      exact .add (.hidden (by decide +kernel) _) (.file _ _ (.add hold .nil))
    · refine .folder (by decide) (.file _ (by decide) .nil) (.file _ (by decide) ?_)
      exact .folder (by decide) (.file _ (by decide) .nil) .nil

/-- The padded disk is assessed as the plain one is. -/
theorem assessAt_extended_paddedDisk :
    plainDisk.ExtendedAt paddedDisk ⟨"", ["student"]⟩ ∧
      plainDisk.ExtendedAt paddedDisk ⟨"", ["reference"]⟩ ∧
      assessAt paddedDisk .default (fun _ => false) (fun _ => 0.0) ⟨"", ["student"]⟩
          ⟨"", ["reference"]⟩ =
        assessAt plainDisk .default (fun _ => false) (fun _ => 0.0) ⟨"", ["student"]⟩
          ⟨"", ["reference"]⟩ :=
  ⟨plainDisk_extended_student, plainDisk_extended_reference,
    assessAt_extended plainDisk_extended_student plainDisk_extended_reference .default _ _⟩

end StructureGrader
