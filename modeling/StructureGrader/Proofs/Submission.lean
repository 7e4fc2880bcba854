import StructureGrader.Proofs.Archive.Unpacked
import StructureGrader.Proofs.Comparison.Stopping
import StructureGrader.Proofs.Files.Sources

/-!
# What a submitted file stands for

A submission that is one file, a source file or an archive, is known by its name and its bytes alone
(`Submitted`), and has no two lists of elements (`Submitted.unique`). For an archive this is so because
the folder that it is unpacked to holds the same wherever it is made (`Archive.extract_unique`). A file
may be read where it lies (`FileAt.submitted`) or in a folder with nothing else in it
(`elementsIn_file`).
-/

namespace StructureGrader

/-! ## Archives unpacked in different places -/

namespace Archive

/-- Two parts of writing that leave the same folder where both of them go well. -/
def Alike (w w' : Writing) : Prop :=
  ∀ ⦃tree after after' : Entry⦄, w.run tree = (.ok (), after) → w'.run tree = (.ok (), after') →
    after = after'

/-- Parts that are alike one by one are alike in a row. -/
theorem Alike.bind {w w' v v' : Writing} (hfirst : Alike w w') (hrest : Alike v v') :
    Alike (w >>= fun _ => v) (w' >>= fun _ => v') := by
  intro tree after after' h h'
  rw [run_bind_eq_ok_iff] at h h'
  obtain ⟨_, next, hw, hv⟩ := h
  obtain ⟨_, next', hw', hv'⟩ := h'
  obtain rfl := hfirst hw hw'
  exact hrest hv hv'

section Place

variable {host host' : Host} {place place' : Place} {b : ByteArray} {m : Member}

/-- Something is put below a folder alike, wherever that is. -/
theorem alike_writeAt {write : Option Entry → Except FileError Entry} {parts : List String} :
    Alike (writeAt place write parts) (writeAt place' write parts) := by
  intro tree after after' h h'
  have hput := put_of_writeAt h
  rw [put_of_writeAt h'] at hput
  exact (Except.ok.inj hput).symm

/-- Folders are made alike below every place. -/
theorem alike_makeFolders {made parts : List String} :
    Alike (makeFolders place made parts) (makeFolders place' made parts) := by
  induction parts generalizing made with
  | nil => exact fun _ _ _ h h' => congrArg Prod.snd (h.symm.trans h')
  | cons part parts ih =>
    intro tree after after' h h'
    unfold makeFolders at h h'
    dsimp only at h h'
    erw [run_get_bind] at h h'
    revert h h'
    cases Entry.findFrom [] tree (made ++ [part]) with
    | ok found => exact fun h h' => ih h h'
    | error error => exact fun h h' => (alike_writeAt.bind ih) h h'

/-- A member is opened by its header alone. -/
theorem openedAt_of_dataStart {limit start : Nat} (h : dataStart limit b m = .ok start) :
    openedAt b m m.offset.toNat = .ok start := by
  unfold dataStart at h
  split_ifs at h
  · cases h
  · cases h
  · exact h

/-- Where the data of a member start does not depend on how far the machine can go in a file. -/
theorem dataStart_unique {limit limit' start start' : Nat} (h : dataStart limit b m = .ok start)
    (h' : dataStart limit' b m = .ok start') : start = start' := by
  have hopened := openedAt_of_dataStart h
  rw [openedAt_of_dataStart h'] at hopened
  exact (Except.ok.inj hopened).symm

/-- A member is written alike below every place. -/
theorem alike_writeMember : Alike (writeMember host place b m) (writeMember host' place' b m) := by
  unfold writeMember
  dsimp only
  refine alike_makeFolders.bind ?_
  split
  · exact alike_writeAt
  · cases hstart : dataStart host.seekLimit b m with
    | error error => exact fun _ _ _ h => by cases h
    | ok start =>
      cases hstart' : dataStart host'.seekLimit b m with
      | error error => exact fun _ _ _ _ h' => by cases h'
      | ok start' =>
        obtain rfl := dataStart_unique hstart hstart'
        refine alike_writeAt.bind (alike_writeAt.bind ?_)
        intro tree after after' h h'
        rw [← (run_of_eq_ok h).2, ← (run_of_eq_ok h').2]

/-- Members are written alike below every place. -/
theorem alike_writeMembers {all ms : List Member} :
    Alike (writeMembers host place b all ms) (writeMembers host' place' b all ms) := by
  induction ms with
  | nil => exact fun _ _ _ h h' => congrArg Prod.snd (h.symm.trans h')
  | cons m ms ih => exact alike_writeMember.bind ih

/-- An archive that is unpacked in two places, be it on two machines, holds the same in both. -/
theorem extract_unique {after after' : Entry}
    (h : (extract host place b).run .empty = (.ok (), after))
    (h' : (extract host' place' b).run .empty = (.ok (), after')) : after = after' := by
  obtain ⟨members, hmembers, -, hwrite⟩ := extract_eq_ok h
  obtain ⟨members', hmembers', -, hwrite'⟩ := extract_eq_ok h'
  rw [hmembers] at hmembers'
  cases hmembers'
  exact alike_writeMembers hwrite hwrite'

end Place

end Archive

/-! ## A submission by its name and bytes -/

/-- A file with its name. -/
structure NamedFile where
  name : String
  bytes : ByteArray

/-- The suffix of the name of a file, in small letters. -/
def NamedFile.suffix (f : NamedFile) : String :=
  Text.lower (Path.suffixOf f.name)

/-- The elements of the files in a folder that is looked at from the inside. -/
def elementsIn (folder : Entry) : Except FileError (List Element) :=
  elementsAt ⟨folder, []⟩ ⟨"", []⟩

/-- The elements that a file stands for: its own where it is a source file, those of the files in it
where it is an archive, and else none. -/
inductive Submitted (f : NamedFile) : List Element → Prop
  | source (suffix : f.suffix = sourceSuffix) : Submitted f (elementsOfFile f.bytes f.name)
  | archive {host : Host} {place : Place} {folder : Entry} {elements : List Element}
      (suffix : f.suffix = ".zip")
      (extracted : (Archive.extract host place f.bytes).run .empty = (.ok (), folder))
      (read : elementsIn folder = .ok elements) : Submitted f elements
  | other (notArchive : f.suffix ≠ ".zip") (notSource : f.suffix ≠ sourceSuffix) : Submitted f []

/-- The ending of a source is not that of an archive. -/
theorem sourceSuffix_ne_zip : sourceSuffix ≠ ".zip" := by decide

section Submitted

variable {f student reference : NamedFile} {elements elements' : List Element}

/-- The name and the bytes decide. -/
theorem Submitted.unique (h : Submitted f elements) (h' : Submitted f elements') :
    elements = elements' := by
  cases h with
  | source suffix =>
    cases h' with
    | source => rfl
    | archive suffix' => exact absurd (suffix.symm.trans suffix') sourceSuffix_ne_zip
    | other notArchive notSource => exact absurd suffix notSource
  | archive suffix extracted read =>
    cases h' with
    | source suffix' => exact absurd (suffix'.symm.trans suffix) sourceSuffix_ne_zip
    | archive suffix' extracted' read' =>
      rw [Archive.extract_unique extracted extracted', read'] at read
      cases read
      rfl
    | other notArchive => exact absurd suffix notArchive
  | other notArchive notSource =>
    cases h' with
    | source suffix => exact absurd suffix notSource
    | archive suffix => exact absurd suffix notArchive
    | other => rfl

/-- A finished comparison, under some settings, of elements that two submissions stand for. -/
def Assessed (s : Settings) (clock : Nat → Float) (student reference : List Element → Prop)
    (a : Assessment Float) : Prop :=
  ∃ students references, student students ∧ reference references ∧
    assessUnder s (fun _ => false) clock students references = .ok a

/-- An assessment of two submissions is one of any that the same elements can stand for. -/
theorem Assessed.mono {s : Settings} {clock : Nat → Float} {students references : List Element → Prop}
    {students' references' : List Element → Prop} {a : Assessment Float}
    (h : Assessed s clock students references a) (hstudents : ∀ es, students es → students' es)
    (hreferences : ∀ es, references es → references' es) : Assessed s clock students' references' a := by
  obtain ⟨xs, ys, hxs, hys, hcompared⟩ := h
  exact ⟨xs, ys, hstudents xs hxs, hreferences ys hys, hcompared⟩

/-- The result of a comparison that is not stopped does not depend on what could have stopped it. -/
theorem assess_unique {threshold : Float} {w w' : Watch} {students references : List Element}
    {a a' : Assessment Float} (h : assess threshold w students references = .ok a)
    (h' : assess threshold w' students references = .ok a') : a = a' := by
  unfold assess at h h'
  dsimp only at h h'
  split at h
  · cases h
  rename_i summary after hcompare
  split at h'
  · cases h'
  rename_i summary' after' hcompare'
  obtain ⟨-, rfl, rfl⟩ := Session.compare_eq_ok.1 hcompare
  obtain ⟨-, rfl, rfl⟩ := Session.compare_eq_ok.1 hcompare'
  exact Except.ok.inj (h.symm.trans h')

/-- Two files have at most one finished comparison, however long it took or might have taken. -/
theorem Assessed.unique {s s' : Settings} {clock clock' : Nat → Float} {a a' : Assessment Float}
    (hthreshold : s.threshold = s'.threshold)
    (h : Assessed s clock (Submitted student) (Submitted reference) a)
    (h' : Assessed s' clock' (Submitted student) (Submitted reference) a') : a = a' := by
  obtain ⟨students, references, hstudent, hreference, hcompared⟩ := h
  obtain ⟨students', references', hstudent', hreference', hcompared'⟩ := h'
  obtain rfl := hstudent.unique hstudent'
  obtain rfl := hreference.unique hreference'
  unfold assessUnder at hcompared hcompared'
  rw [hthreshold] at hcompared
  exact assess_unique hcompared hcompared'

end Submitted

/-! ## A file where it lies -/

/-- A component that is there and does not lead upwards. -/
structure IsName (name : String) : Prop where
  ne_empty : name ≠ ""
  ne_up : name ≠ ".."

/-- A path leads to a file and bears its name. -/
structure FileAt (d : Disk) (p : Path) (f : NamedFile) : Prop where
  found : d.find p = .ok (.file f.bytes)
  name_eq : p.name = f.name

/-- The place of a path bears the name of the path. -/
theorem Disk.name_placeOf (d : Disk) {p : Path} (h : IsName p.name) :
    (⟨"/", d.placeOf p⟩ : Path).name = p.name := by
  have hparts : p.parts = p.parts.dropLast ++ [p.name] := by
    have hsome := h.ne_empty
    unfold Path.name at hsome ⊢
    rw [List.getLastD_eq_getLast?] at hsome ⊢
    cases hlast : p.parts.getLast? with
    | none =>
      rw [hlast] at hsome
      exact absurd rfl hsome
    | some last => exact (List.dropLast_append_getLast? last hlast).symm
  have hplace : ∃ front, d.partsOf p = front ++ [p.name] := by
    unfold Disk.partsOf
    rw [hparts]
    split
    · exact ⟨d.home ++ p.parts.dropLast, by simp⟩
    · exact ⟨p.parts.dropLast, by simp⟩
  obtain ⟨front, hfront⟩ := hplace
  unfold Path.name Disk.placeOf
  dsimp only
  rw [hfront, Path.normalFrom_concat h.ne_up, List.getLastD_concat]
  rfl

/-- What stands at a place is what the path leads to, where the place can be written down at all. -/
theorem Disk.find_placeOf {d : Disk} {p : Path} {e : Entry} (h : d.find p = .ok e) :
    d.find ⟨"/", d.placeOf p⟩ =
      if (⟨"/", d.placeOf p⟩ : Path).hasNul then .error .nulInPath else .ok e := by
  have hfind : Entry.findFrom [] d.root (d.partsOf p) = .ok e := by
    unfold Disk.find at h
    split_ifs at h
    exact h
  have hplace : Entry.findFrom [] d.root (d.partsOf ⟨"/", d.placeOf p⟩) = .ok e :=
    Entry.Leads.start.findFrom_normalFrom hfind
  unfold Disk.find
  rw [hplace]

section File

variable {d : Disk} {p : Path} {f : NamedFile}

/-- The listing at a path that leads to a file is that file, if it is a source file by its suffix.
-/
theorem FileAt.sourcesAt (h : FileAt d p f) (hname : IsName f.name) :
    d.sourcesAt p = if (⟨"/", d.placeOf p⟩ : Path).hasNul then .error .nulInPath
      else .ok (if f.suffix = sourceSuffix then [([f.name], f.bytes)] else []) := by
  have hplace : (⟨"/", d.placeOf p⟩ : Path).name = f.name := by
    rw [d.name_placeOf (h.name_eq ▸ hname), h.name_eq]
  unfold Disk.sourcesAt Path.hasSuffix
  dsimp only
  rw [Disk.find_placeOf h.found, hplace]
  by_cases hnul : (⟨"/", d.placeOf p⟩ : Path).hasNul
  · rw [if_pos hnul, if_pos hnul]
  · rw [if_neg hnul, if_neg hnul]
    exact congrArg Except.ok (if_congr beq_iff_eq rfl rfl)

/-- A file that is no archive is read where it lies. -/
theorem FileAt.submitted (h : FileAt d p f) (hname : IsName f.name) (hplain : f.suffix ≠ ".zip")
    {elements : List Element} (hread : elementsAt d p = .ok elements) : Submitted f elements := by
  have hfile : d.isFolderAt p = false := by
    unfold Disk.isFolderAt
    rw [h.found]
  unfold elementsAt at hread
  rw [hfile, if_neg Bool.false_ne_true, h.sourcesAt hname] at hread
  by_cases hnul : (⟨"/", d.placeOf p⟩ : Path).hasNul
  · rw [if_pos hnul] at hread
    cases hread
  · rw [if_neg hnul, Except.map, Except.ok.injEq] at hread
    rw [← hread, elementsOfFiles]
    by_cases hsource : f.suffix = sourceSuffix
    · rw [if_pos hsource, List.flatMap_singleton]
      exact .source hsource
    · rw [if_neg hsource, List.flatMap_nil]
      exact .other hplain hsource

end File

/-- A source file that is alone in a folder has the elements that it has where it lies, unless its
name hides it. -/
theorem elementsIn_file {name : String} (hsource : isSourceName name = true) (bytes : ByteArray) :
    elementsIn (.folder [(name, .file bytes)]) =
      .ok (if isHiddenName name then [] else elementsOfFile bytes name) := by
  have hfind : Disk.find ⟨.folder [(name, .file bytes)], []⟩ ⟨"", []⟩ =
      .ok (.folder [(name, .file bytes)]) := rfl
  have hplace : ¬ (⟨"/", Disk.placeOf ⟨.folder [(name, .file bytes)], []⟩ ⟨"", []⟩⟩ : Path).hasNul =
      true := Bool.false_ne_true
  have hlisted : Entry.sourceFiles [(name, .file bytes)] =
      if isHiddenName name then [] else [([name], bytes)] := by
    unfold Entry.sourceFiles
    rw [Entry.filesIn_cons, Entry.filesUnder, Entry.filesNamed, if_pos hsource, Entry.filesIn,
      List.append_nil]
    split
    · exact List.mergeSort_nil
    · exact List.mergeSort_singleton _
  rw [elementsIn, elementsAt_folder hfind, Disk.sourcesAt_eq hfind, hlisted, if_neg hplace, Except.map,
    elementsOfFiles]
  split
  · rfl
  · rw [List.flatMap_singleton]
    rfl

end StructureGrader
