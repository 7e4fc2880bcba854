import StructureGrader.Proofs.Archive.Unpacked
import StructureGrader.Proofs.Extraction.Declarations
import StructureGrader.Proofs.Files.Listing
import StructureGrader.Proofs.Files.Places
import StructureGrader.Proofs.Text.SmallLetters
import StructureGrader.Submission

/-!
# The source files of a tree

A tree has no two entries of one name in a folder (`Entry.IsTree`). What is listed at a folder of it
are the source files below (`Entry.mem_filesIn_iff`): those that no hidden name leads to and whose
own name ends in the suffix of source files, in capital letters or small ones (`isSourceName_iff`).
Their components increase (`Entry.IsTree.sourceFiles_increasing`), so the listing is the same list
in whatever order the entries stand (`Entry.Reordered.sourceFiles_eq`).

A listed file is found again at the place of the folder with its components behind it
(`Disk.find_below`), and these are what the elements of the file are named by, so that each of them tells
where it stands (`standsBelow_of_isSource`).
-/

namespace StructureGrader

/-! ## Names -/

/-- A name ends in the suffix of source files, in capital letters or small ones. -/
def EndsInJava (name : String) : Prop :=
  ∃ front tail, name.toList = front ++ tail ∧ tail.map Char.toLower = ".java".toList

/-- A name is that of a source where it ends in `.java`, in whatever case. -/
theorem isSourceName_iff {name : String} : isSourceName name = true ↔ EndsInJava name := by
  have hword : ∀ d ∈ sourceSuffix.toList, d.toNat < 128 ∧ d ≠ 'k' := by decide
  rw [isSourceName, List.isSuffixOf_iff_suffix, Text.suffix_lower_iff fun d hd => (hword d hd).1]
  simp only [Text.spells_iff hword]
  rfl

/-- A name is not hidden where it has no dot in front and is not that of the folder for Macintosh files.
-/
theorem isHiddenName_eq_false_iff {name : String} :
    isHiddenName name = false ↔ name.toList.head? ≠ some '.' ∧ name ≠ "__MACOSX" := by
  rw [isHiddenName, Bool.or_eq_false_iff, beq_eq_false_iff_ne, beq_eq_false_iff_ne]

/-- A name that the system gives to an entry. -/
structure IsEntryName (name : String) : Prop extends Path.IsComponent name where
  nul_notMem : Char.ofNat 0 ∉ name.toList
  short : Entry.isTooLong name = false

instance (name : String) : Decidable (IsEntryName name) :=
  decidable_of_iff (Path.IsComponent name ∧ Char.ofNat 0 ∉ name.toList ∧ Entry.isTooLong name = false)
    ⟨fun h => ⟨h.1, h.2.1, h.2.2⟩, fun h => ⟨h.1, h.2, h.3⟩⟩

namespace Entry

variable {name : String} {entries entries' : List (String × Entry)} {root here e : Entry}
  {parts names : List String} {above : List Entry} {bytes : ByteArray}

/-! ## Trees -/

/-- A file, or a folder as the system keeps it: no two entries have the same name, and the same is
true of the folders below. -/
inductive IsTree : Entry → Prop
  | file (bytes : ByteArray) : IsTree (.file bytes)
  | folder {entries : List (String × Entry)} (distinct : (entries.map Prod.fst).Nodup)
      (names : ∀ entry ∈ entries, IsEntryName entry.1) (below : ∀ entry ∈ entries, IsTree entry.2) :
      IsTree (.folder entries)

/-- Entries have distinct names where those of one folder are, and those of every folder below. -/
theorem distinctNames_of_nodup (hdistinct : (entries.map Prod.fst).Nodup)
    (hbelow : ∀ entry ∈ entries, ∀ inner, entry.2 = .folder inner → DistinctNames inner) :
    DistinctNames entries := by
  induction entries with
  | nil => exact .nil
  | cons entry entries ih =>
    obtain ⟨name, e⟩ := entry
    rw [List.map_cons, List.nodup_cons] at hdistinct
    obtain ⟨hfirst, hbelow⟩ := List.forall_mem_cons.1 hbelow
    have hrest := ih hdistinct.2 hbelow
    cases e with
    | file bytes => exact .file bytes hdistinct.1 hrest
    | folder inner => exact .folder hdistinct.1 (hfirst inner rfl) hrest

/-- The names in a tree are distinct. -/
theorem IsTree.distinctNames (h : IsTree (.folder entries)) : DistinctNames entries := by
  generalize htree : Entry.folder entries = tree at h
  induction h generalizing entries with
  | file bytes => cases htree
  | folder distinct names below ih =>
    cases htree
    exact distinctNames_of_nodup distinct fun entry hentry inner hinner => ih entry hentry hinner.symm

/-- Where no two entries have the same name each entry is found under its name. -/
theorem named?_eq_some_iff (hdistinct : (entries.map Prod.fst).Nodup) :
    named? name entries = some e ↔ (name, e) ∈ entries := by
  induction entries with
  | nil => exact iff_of_false (by simp [named?]) List.not_mem_nil
  | cons first entries ih =>
    obtain ⟨n, inner⟩ := first
    rw [List.map_cons, List.nodup_cons] at hdistinct
    unfold named? at ih ⊢
    rw [List.find?_cons, List.mem_cons, Prod.mk.injEq]
    by_cases hn : n = name
    · subst hn
      have hnot : (n, e) ∉ entries := fun hmem =>
        hdistinct.1 (List.mem_map.2 ⟨(n, e), hmem, rfl⟩)
      rw [beq_self_eq_true, and_iff_right rfl, or_iff_left hnot]
      exact ⟨fun h => (Option.some.inj h).symm, fun h => congrArg some h.symm⟩
    · rw [beq_false_of_ne hn, ← ih hdistinct.2, or_iff_right fun h => hn h.1.symm]

/-- What stands under a name in a tree is a tree, and the name is one that entries have. -/
theorem IsTree.named? (h : IsTree (.folder entries)) (hnamed : named? name entries = some e) :
    IsEntryName name ∧ e.IsTree := by
  cases h with
  | folder distinct names below =>
    have hmem := (named?_eq_some_iff distinct).1 hnamed
    exact ⟨names _ hmem, below _ hmem⟩

/-! ## Files that are listed -/

/-- A file below a folder that is to be listed: nothing on the way is hidden, and its name ends in
the suffix of source files. -/
structure IsSource (folder : Entry) (parts : List String) (bytes : ByteArray) : Prop where
  found : folder.within? parts = some (.file bytes)
  shown : ∀ part ∈ parts, part.toList.head? ≠ some '.' ∧ part ≠ "__MACOSX"
  suffix : ∃ folders name, parts = folders ++ [name] ∧ EndsInJava name

/-- A file that stands in the folder itself. -/
theorem isSource_file_iff {content : ByteArray} (hnamed : named? name entries = some (.file content)) :
    IsSource (.folder entries) (name :: parts) bytes ↔
      isHiddenName name = false ∧ parts = [] ∧ content = bytes ∧ isSourceName name = true := by
  rw [isHiddenName_eq_false_iff, isSourceName_iff]
  constructor
  · rintro ⟨hfound, hshown, folders, last, hlast, hsuffix⟩
    rw [within?, hnamed, Option.bind_some] at hfound
    cases parts with
    | nil =>
      obtain rfl : name = last := by simpa using congrArg List.getLast? hlast
      cases hfound
      exact ⟨hshown name List.mem_cons_self, rfl, rfl, hsuffix⟩
    | cons part parts => cases hfound
  · rintro ⟨hshown, rfl, rfl, hsuffix⟩
    refine ⟨?_, List.forall_mem_singleton.2 hshown, [], name, rfl, hsuffix⟩
    rw [within?, hnamed]
    rfl

/-- A file that stands below another folder there. -/
theorem isSource_folder_iff {inner : List (String × Entry)}
    (hnamed : named? name entries = some (.folder inner)) :
    IsSource (.folder entries) (name :: parts) bytes ↔
      isHiddenName name = false ∧ IsSource (.folder inner) parts bytes := by
  have hwithin :
      (Entry.folder entries).within? (name :: parts) = (Entry.folder inner).within? parts := by
    rw [within?, hnamed, Option.bind_some]
  rw [isHiddenName_eq_false_iff]
  constructor
  · rintro ⟨hfound, hshown, folders, last, hlast, hsuffix⟩
    rw [hwithin] at hfound
    obtain ⟨hname, hshown⟩ := List.forall_mem_cons.1 hshown
    refine ⟨hname, hfound, hshown, ?_⟩
    cases folders with
    | nil =>
      -- The way does not end here, where a folder stands.
      cases hlast
      cases hfound
    | cons first folders =>
      cases hlast
      exact ⟨folders, last, rfl, hsuffix⟩
  · rintro ⟨hname, hfound, hshown, folders, last, rfl, hsuffix⟩
    exact ⟨hwithin.trans hfound, List.forall_mem_cons.2 ⟨hname, hshown⟩, name :: folders, last, rfl,
      hsuffix⟩

/-- The files below a name, in entries of distinct names, are those of the entry with that name. -/
theorem mem_filesIn_cons_iff (hdistinct : (entries.map Prod.fst).Nodup) :
    (name :: parts, bytes) ∈ filesIn entries ↔
      ∃ e, named? name entries = some e ∧ isHiddenName name = false ∧
        (name :: parts, bytes) ∈ filesNamed name e := by
  rw [filesIn_eq_flatMap, List.mem_flatMap]
  constructor
  · rintro ⟨⟨n, e⟩, hmem, hfile⟩
    obtain rfl : name = n := Option.some.inj (head?_of_mem_filesUnder hfile)
    unfold filesUnder at hfile
    split_ifs at hfile with hhidden
    · cases hfile
    · exact ⟨e, (named?_eq_some_iff hdistinct).2 hmem, Bool.eq_false_iff.2 hhidden, hfile⟩
  · rintro ⟨e, hnamed, hhidden, hfile⟩
    refine ⟨(name, e), (named?_eq_some_iff hdistinct).1 hnamed, ?_⟩
    unfold filesUnder
    rwa [hhidden, if_neg Bool.false_ne_true]

/-- What is listed below a folder are its source files. -/
theorem mem_filesIn_iff (h : IsTree (.folder entries)) :
    (parts, bytes) ∈ filesIn entries ↔ IsSource (.folder entries) parts bytes := by
  induction parts generalizing entries with
  | nil =>
    refine iff_of_false (fun hmem => ?_) fun hsource => ?_
    · rw [filesIn_eq_flatMap, List.mem_flatMap] at hmem
      obtain ⟨entry, -, hfile⟩ := hmem
      cases head?_of_mem_filesUnder hfile
    · cases hsource.found
  | cons name parts ih =>
    have hdistinct : (entries.map Prod.fst).Nodup := by
      cases h
      assumption
    rw [mem_filesIn_cons_iff hdistinct]
    -- What stands under the first name decides: a file ends the way there, and below a folder the rest
    -- of the way is one of the folder's own.
    cases hnamed : named? name entries with
    | none =>
      refine iff_of_false (by simp) fun hsource => ?_
      have hfound := hsource.found
      rw [within?, hnamed] at hfound
      cases hfound
    | some e =>
      simp only [Option.some.injEq, exists_eq_left']
      cases e with
      | file content =>
        rw [isSource_file_iff hnamed, filesNamed]
        refine and_congr_right fun _ => ?_
        split_ifs with hsuffix
        · rw [List.mem_singleton, Prod.mk.injEq, List.cons.injEq, and_iff_right rfl,
            and_iff_left hsuffix, eq_comm (a := bytes)]
        · exact iff_of_false List.not_mem_nil fun h => hsuffix h.2.2
      | folder inner =>
        rw [isSource_folder_iff hnamed, ← ih (h.named? hnamed).2, filesNamed]
        refine and_congr_right fun _ => ?_
        rw [List.mem_map]
        constructor
        · rintro ⟨file, hfile, heq⟩
          cases heq
          exact hfile
        · exact fun hfile => ⟨(parts, bytes), hfile, rfl⟩

/-- No two files are listed with the same components, and these increase. -/
theorem IsTree.sourceFiles_increasing (h : IsTree (.folder entries)) :
    (sourceFiles entries).Pairwise fun a b => a.1 < b.1 := by
  have hnodup : ((sourceFiles entries).map Prod.fst).Nodup :=
    ((sourceFiles_perm entries).map Prod.fst).nodup_iff.2 h.distinctNames.nodup
  exact ((sourceFiles_pairwise entries).and (List.pairwise_map.1 hnodup)).imp fun h =>
    lt_of_componentsLE h.1 h.2

/-! ## Entries in another order -/

/-- The entries of a folder, or of folders below it, stand in another order. -/
inductive Reordered : List (String × Entry) → List (String × Entry) → Prop
  | perm {entries entries' : List (String × Entry)} (h : entries.Perm entries') :
      Reordered entries entries'
  | inside {inner inner' : List (String × Entry)} (name : String) (entries : List (String × Entry))
      (h : Reordered inner inner') :
      Reordered ((name, .folder inner) :: entries) ((name, .folder inner') :: entries)
  | trans {entries entries' entries'' : List (String × Entry)} (h : Reordered entries entries')
      (h' : Reordered entries' entries'') : Reordered entries entries''

/-- The same files are listed. -/
theorem Reordered.filesIn_perm (h : Reordered entries entries') :
    (filesIn entries).Perm (filesIn entries') := by
  induction h with
  | perm h =>
    rw [filesIn_eq_flatMap, filesIn_eq_flatMap]
    exact h.flatMap_right _
  | inside name entries h ih =>
    rw [filesIn_cons, filesIn_cons]
    refine List.Perm.append_right _ ?_
    unfold filesUnder filesNamed
    split_ifs
    · exact List.Perm.refl _
    · exact ih.map _
  | trans h h' ih ih' => exact ih.trans ih'

/-- The listing is the same list. -/
theorem Reordered.sourceFiles_eq (h : Reordered entries entries') (hdistinct : DistinctNames entries) :
    sourceFiles entries' = sourceFiles entries := by
  have hnodup : ((sourceFiles entries).map Prod.fst).Nodup :=
    ((sourceFiles_perm entries).map Prod.fst).nodup_iff.2 hdistinct.nodup
  have hperm : (sourceFiles entries).Perm (sourceFiles entries') :=
    (sourceFiles_perm entries).trans (h.filesIn_perm.trans (sourceFiles_perm entries').symm)
  exact (eq_of_listed hnodup hperm (sourceFiles_pairwise entries) (sourceFiles_pairwise entries')).symm

/-! ## Paths in a tree -/

/-- Names that lead to an entry of a tree are names of entries, and what they lead to is a tree. -/
theorem Leads.isTree (h : Leads root names above here) (hroot : root.IsTree) :
    here.IsTree ∧ ∀ name ∈ names, IsEntryName name := by
  induction h with
  | start => exact ⟨hroot, List.forall_mem_nil _⟩
  | down way short plain found ih =>
    obtain ⟨hname, htree⟩ := ih.1.named? found
    exact ⟨htree, List.forall_mem_cons.2 ⟨hname, ih.2⟩⟩

/-- What lies below an entry of a tree is found there. -/
theorem IsTree.findFrom_of_within? (h : here.IsTree) (hwithin : here.within? parts = some e)
    (above : List Entry) : findFrom above here parts = .ok e ∧ ∀ part ∈ parts, IsEntryName part := by
  induction parts generalizing here above with
  | nil =>
    rw [within?] at hwithin
    cases hwithin
    exact ⟨rfl, List.forall_mem_nil _⟩
  | cons part parts ih =>
    cases here with
    | file content => cases hwithin
    | folder entries =>
      rw [within?] at hwithin
      obtain ⟨inner, hnamed, hwithin⟩ := Option.bind_eq_some_iff.1 hwithin
      obtain ⟨hpart, htree⟩ := h.named? hnamed
      obtain ⟨hfind, hparts⟩ := ih htree hwithin (.folder entries :: above)
      refine ⟨?_, List.forall_mem_cons.2 ⟨hpart, hparts⟩⟩
      rw [findFrom_folder, hpart.short, if_neg Bool.false_ne_true, beq_false_of_ne hpart.ne_up,
        if_neg Bool.false_ne_true, hnamed]
      exact hfind

end Entry

open Entry (IsTree Reordered)

variable {d d' : Disk} {p : Path} {entries : List (String × Entry)} {e : Entry}
  {parts : List String} {bytes : ByteArray}

/-- A path of names of entries has no zero character in it. -/
theorem hasNul_of_names {root : String} (h : ∀ part ∈ parts, IsEntryName part) :
    (⟨root, parts⟩ : Path).hasNul = false := by
  unfold Path.hasNul
  rw [List.any_eq_false]
  intro part hpart
  rw [List.contains_iff_mem]
  exact (h part hpart).nul_notMem

namespace Disk

/-- The names of a place lead to what the path leads to. -/
theorem leads_of_find (hfind : d.find p = .ok e) :
    ∃ names above, d.placeOf p = names.reverse ∧ Entry.Leads d.root names above e := by
  unfold find at hfind
  split_ifs at hfind
  exact Entry.Leads.start.exists_of_findFrom hfind

/-- A path in a tree leads to a tree, and its place can be written down. -/
theorem isTree_of_find (hd : d.root.IsTree) (hfind : d.find p = .ok e) :
    e.IsTree ∧ ∀ name ∈ d.placeOf p, IsEntryName name := by
  obtain ⟨names, above, hnames, hleads⟩ := leads_of_find hfind
  obtain ⟨htree, hall⟩ := hleads.isTree hd
  refine ⟨htree, fun name hname => ?_⟩
  rw [hnames, List.mem_reverse] at hname
  exact hall name hname

/-- What lies below the entry that a path leads to is found at its place. -/
theorem find_below (hd : d.root.IsTree) (hfind : d.find p = .ok e) {inner : Entry}
    (hwithin : e.within? parts = some inner) :
    d.find ⟨"/", d.placeOf p ++ parts⟩ = .ok inner ∧ Place.Canonical parts := by
  obtain ⟨htree, hplace⟩ := isTree_of_find hd hfind
  obtain ⟨names, above, hnames, hleads⟩ := leads_of_find hfind
  obtain ⟨hinner, hparts⟩ := htree.findFrom_of_within? hwithin above
  have hnul : (⟨"/", d.placeOf p ++ parts⟩ : Path).hasNul = false :=
    hasNul_of_names (List.forall_mem_append.2 ⟨hplace, hparts⟩)
  refine ⟨?_, fun part hpart => (hparts part hpart).toIsComponent⟩
  rw [find, hnul, if_neg Bool.false_ne_true, ← hinner, ← hleads.findFrom_append, ← hnames]
  rfl

/-- The listing at a path that leads to a folder of a tree is that of the folder. -/
theorem sourcesAt_tree (hd : d.root.IsTree) (hfind : d.find p = .ok (.folder entries)) :
    d.sourcesAt p = .ok (Entry.sourceFiles entries) := by
  rw [sourcesAt_eq hfind, hasNul_of_names (isTree_of_find hd hfind).2, if_neg Bool.false_ne_true]

/-- On the second disk a path leads to the folder that it leads to on the first one, with the
entries there and below in another order. -/
structure ReorderedAt (d d' : Disk) (p : Path) : Prop where
  home : d'.home = d.home
  folders : ∃ entries entries', d.find p = .ok (.folder entries) ∧
    d'.find p = .ok (.folder entries') ∧ Reordered entries entries'

/-- A path stands for the same place on two disks with one home. -/
theorem placeOf_of_home_eq (h : d'.home = d.home) (p : Path) : d'.placeOf p = d.placeOf p := by
  unfold placeOf partsOf
  rw [h]

/-- The sources at a path are the same on a disk whose entries are put in another order. -/
theorem ReorderedAt.sourcesAt_eq (hd : d.root.IsTree) (h : d.ReorderedAt d' p) :
    d'.sourcesAt p = d.sourcesAt p := by
  obtain ⟨entries, entries', hfind, hfind', hreordered⟩ := h.folders
  rw [Disk.sourcesAt_eq hfind, Disk.sourcesAt_eq hfind', placeOf_of_home_eq h.home,
    hreordered.sourceFiles_eq (isTree_of_find hd hfind).1.distinctNames]

end Disk

/-! ## Elements of a submission -/

/-- The elements of a folder are those of its source files, named as seen from it. -/
theorem elementsAt_folder (h : d.find p = .ok (.folder entries)) :
    elementsAt d p = (d.sourcesAt p).map (elementsOfFiles nameFromFolder) := by
  have hfolder : d.isFolderAt p = true := by
    unfold Disk.isFolderAt
    rw [h]
  unfold elementsAt
  dsimp only
  rw [if_pos hfolder]

/-- The elements at a path are the same on a disk whose entries are put in another order. -/
theorem elementsAt_reordered (hd : d.root.IsTree) (h : d.ReorderedAt d' p) :
    elementsAt d' p = elementsAt d p := by
  have hsources := h.sourcesAt_eq hd
  obtain ⟨entries, entries', hfind, hfind', -⟩ := h.folders
  rw [elementsAt_folder hfind, elementsAt_folder hfind', hsources]

/-- The elements of a text carry the file they were asked for. -/
theorem file_of_mem_elementsOf {source file : String} {x : Element} (h : x ∈ elementsOf source file) :
    x.file = file := by
  cases hunit : Syntax.parse? source with
  | none =>
    unfold elementsOf at h
    rw [hunit] at h
    cases h
  | some unit =>
    rw [elementsOf_eq_map hunit] at h
    obtain ⟨i, -, rfl⟩ := List.mem_map.1 h
    rfl

/-- An element is one of the file that its file name leads to as seen from a place. -/
def StandsBelow (d : Disk) (place : Place) (x : Element) : Prop :=
  ∃ bytes, d.bytesAt ⟨"/", place.join x.file⟩ = .ok bytes ∧ x ∈ elementsOfFile bytes x.file

/-- Each element of a listed file stands in the file that its name leads to from the folder. -/
theorem standsBelow_of_isSource (hd : d.root.IsTree) (hfind : d.find p = .ok (.folder entries))
    (hsource : Entry.IsSource (.folder entries) parts bytes) {x : Element}
    (hx : x ∈ elementsOfFile bytes (nameFromFolder parts)) : StandsBelow d (d.placeOf p) x := by
  obtain ⟨hbelow, hcanonical⟩ := Disk.find_below hd hfind hsource.found
  have hne : parts ≠ [] := by
    rintro rfl
    cases hsource.found
  have hfile : x.file = nameFromFolder parts := file_of_mem_elementsOf hx
  refine ⟨bytes, ?_, hfile ▸ hx⟩
  rw [hfile, nameFromFolder, Place.join_intercalate hne hcanonical, Disk.bytesAt, hbelow]

/-- Wherever a path leads to a folder in a tree of entries, the source files below that folder are
listed, each of them once and in increasing order of their components, and the elements of the
submission are those of these files in this order. Each stands in the file that its file name leads
to from the folder. None of this changes when entries stand in another order, and neither does the
comparison of two submissions. -/
theorem sourcesAt_listing (hd : d.root.IsTree) (hfind : d.find p = .ok (.folder entries)) :
    ∃ files : List SourceFile, d.sourcesAt p = .ok files ∧
      (∀ parts bytes, (parts, bytes) ∈ files ↔ Entry.IsSource (.folder entries) parts bytes) ∧
      (files.Pairwise fun a b => a.1 < b.1) ∧
      elementsAt d p = .ok (elementsOfFiles nameFromFolder files) ∧
      (∀ x ∈ elementsOfFiles nameFromFolder files, StandsBelow d (d.placeOf p) x) ∧
      ∀ d' : Disk, d.ReorderedAt d' p →
        d'.sourcesAt p = .ok files ∧ elementsAt d' p = elementsAt d p ∧
        ∀ (q : Path) (settings : Settings) (signal : Nat → Bool) (clock : Nat → Float),
          d.ReorderedAt d' q →
          assessAt d' settings signal clock p q = assessAt d settings signal clock p q := by
  have hsources := Disk.sourcesAt_tree hd hfind
  have htree := (Disk.isTree_of_find hd hfind).1
  have hlisted : ∀ parts bytes, (parts, bytes) ∈ Entry.sourceFiles entries ↔
      Entry.IsSource (.folder entries) parts bytes := fun parts bytes =>
    (Entry.sourceFiles_perm entries).mem_iff.trans (Entry.mem_filesIn_iff htree)
  refine ⟨_, hsources, hlisted, htree.sourceFiles_increasing, ?_, fun x hx => ?_, fun d' h => ?_⟩
  · rw [elementsAt_folder hfind, hsources]
    rfl
  · obtain ⟨⟨parts, bytes⟩, hfile, hx⟩ := List.mem_flatMap.1 hx
    exact standsBelow_of_isSource hd hfind ((hlisted parts bytes).1 hfile) hx
  · have helements := elementsAt_reordered hd h
    refine ⟨(h.sourcesAt_eq hd).trans hsources, helements, fun q settings signal clock h' => ?_⟩
    unfold assessAt
    rw [helements, elementsAt_reordered hd h']

/-- A folder with a file that is listed in a folder whose name is that of a source file, another one
beside it, and one below a hidden folder. -/
def mixedEntries : List (String × Entry) :=
  [("b.JAVA", .file "class B \x7b \x7d".toUTF8), (".git", .folder [("C.java", .file .empty)]),
    ("A.java", .folder [("notes", .file .empty), ("D.Java", .file .empty)])]

/-- The same folder, listed the other way round. -/
def turnedEntries : List (String × Entry) :=
  [("A.java", .folder [("D.Java", .file .empty), ("notes", .file .empty)]),
    (".git", .folder [("C.java", .file .empty)]), ("b.JAVA", .file "class B \x7b \x7d".toUTF8)]

/-- The entries of the example make up a tree. -/
theorem isTree_mixedEntries : Entry.IsTree (.folder [("s", .folder mixedEntries)]) := by
  have hfile : ∀ name bytes, IsEntryName name → Entry.IsTree (.folder [(name, .file bytes)]) := by
    intro name bytes hname
    refine .folder (List.nodup_singleton name) (List.forall_mem_singleton.2 hname) ?_
    exact List.forall_mem_singleton.2 (.file bytes)
  have hinner : Entry.IsTree (.folder mixedEntries) := by
    refine .folder (by decide) (by decide) ?_
    refine List.forall_mem_cons.2 ⟨.file _, List.forall_mem_cons.2 ⟨hfile _ _ (by decide), ?_⟩⟩
    refine List.forall_mem_singleton.2 (.folder (by decide) (by decide) ?_)
    exact List.forall_mem_cons.2 ⟨.file _, List.forall_mem_singleton.2 (.file _)⟩
  exact .folder (by decide) (by decide) (List.forall_mem_singleton.2 hinner)

/-- The turned entries are the example's in another order. -/
theorem reordered_mixedEntries : Entry.Reordered mixedEntries turnedEntries := by
  refine .trans (.perm (List.reverse_perm mixedEntries).symm) (.inside "A.java" _ (.perm ?_))
  exact List.Perm.swap _ _ []

/-- The example's sources are listed with the one in upper case and without the hidden one, in
either order. -/
theorem sourcesAt_listing_mixedEntries :
    Entry.IsTree (.folder [("s", .folder mixedEntries)]) ∧
    ∃ files, Disk.sourcesAt ⟨.folder [("s", .folder mixedEntries)], []⟩ ⟨"", ["s"]⟩ = .ok files ∧
      (["A.java", "D.Java"], ByteArray.empty) ∈ files ∧ (∀ bytes, ([".git", "C.java"], bytes) ∉ files) ∧
      Disk.sourcesAt ⟨.folder [("s", .folder turnedEntries)], []⟩ ⟨"", ["s"]⟩ = .ok files := by
  have hfind : Disk.find ⟨.folder [("s", .folder mixedEntries)], []⟩ ⟨"", ["s"]⟩ =
      .ok (.folder mixedEntries) := rfl
  have hreordered : Disk.ReorderedAt ⟨.folder [("s", .folder mixedEntries)], []⟩
      ⟨.folder [("s", .folder turnedEntries)], []⟩ ⟨"", ["s"]⟩ :=
    ⟨rfl, _, _, hfind, rfl, reordered_mixedEntries⟩
  obtain ⟨files, hfiles, hlisted, -, -, -, hother⟩ := sourcesAt_listing isTree_mixedEntries hfind
  refine ⟨isTree_mixedEntries, files, hfiles, (hlisted _ _).2 ?_, fun bytes hmem => ?_,
    (hother _ hreordered).1⟩
  · exact ⟨rfl, by decide, ["A.java"], "D.Java", rfl, ['D'], ".Java".toList, rfl, by decide⟩
  · exact (((hlisted _ _).1 hmem).shown ".git" List.mem_cons_self).1 (by decide)

end StructureGrader
