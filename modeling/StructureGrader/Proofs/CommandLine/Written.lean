import StructureGrader.CommandLine.Command
import StructureGrader.Proofs.Files.Scratch
import StructureGrader.Proofs.Submission

/-!
# What a command that is carried out has written

A command goes well when each of its parts does. The archives are then unpacked and still there when
they are read (`Ready`), so that the elements it compares are those of the files it is given
(`Ready.submitted`), and the comparison is a finished one (`assessment_eq_ok`). The report is in the file
that it is asked for, unless the page is written over it (`perform_written`).
-/

namespace StructureGrader

/-- A file that is written is put at its place, and nothing else about the disk changes. -/
theorem Disk.writeFileAt_eq_ok {d after : Disk} {p : Path} {bytes : ByteArray}
    (h : d.writeFileAt p bytes = .ok after) : after.home = d.home ∧
      Entry.put (Entry.writeFile bytes) (d.placeOf p) d.root = .ok after.root := by
  have hwritten : (Entry.put (Entry.writeFile bytes) (d.placeOf p) d.root).map
      (fun root => { d with root := root }) = .ok after := by
    unfold Disk.writeFileAt at h
    dsimp only at h
    split at h
    · cases h
    · exact h
    · split at h
      · split at h
        · cases h
        · exact h
      · cases h
      · cases h
    · cases h
  cases hroot : Entry.put (Entry.writeFile bytes) (d.placeOf p) d.root with
  | error e =>
    rw [hroot] at hwritten
    cases hwritten
  | ok root =>
    rw [hroot] at hwritten
    cases hwritten
    exact ⟨rfl, rfl⟩

/-- The bytes of an archive that is unpacked can be read. -/
theorem Archive.extractFrom_archiveAt {d : Disk} {p : Path} {host : Host} {place : Place}
    {folder : Entry}
    (h : Archive.extractFrom host place (Archive.archiveAt d p) = (.ok (), folder)) :
    ∃ bytes, d.find p = .ok (.file bytes) ∧
      (Archive.extract host place bytes).run .empty = (.ok (), folder) := by
  unfold Archive.archiveAt Disk.bytesAt at h
  cases hfind : d.find p with
  | error e =>
    rw [hfind] at h
    cases h
  | ok e =>
    rw [hfind] at h
    cases e with
    | file bytes => exact ⟨bytes, rfl, h⟩
    | folder entries => cases h

namespace CommandLine

variable {around : Surroundings} {limit : Int} {p : Path} {source : Source} {w after : Workplace}
  {scratch later : Scratch} {f : NamedFile}

/-! ## Reading submissions -/

/-- A part that makes nothing goes well when its result does, and leaves everything as it was. -/
theorem run_of_eq_ok_iff {ε α : Type} {error : ε → CommandError} {result : Except ε α} {a : α} :
    (Task.of error result).run w = (.ok a, after) ↔ result = .ok a ∧ w = after := by
  cases result with
  | error e =>
    refine ⟨fun h => ?_, fun h => ?_⟩
    · cases h
    · cases h.1
  | ok b =>
    refine ⟨fun h => ?_, ?_⟩
    · cases h
      exact ⟨rfl, rfl⟩
    · rintro ⟨h, rfl⟩
      cases h
      rfl

/-- A submission is ready to be read: where it lies, or in the folder that its archive is unpacked
to. -/
inductive Ready (around : Surroundings) (p : Path) (scratch : Scratch) : Source → Prop
  | path (plain : p.hasSuffix ".zip" = false) : Ready around p scratch (.path p)
  | unpacked {host : Host} {place : Place} {bytes : ByteArray} {folder : Entry}
      (archive : p.hasSuffix ".zip" = true)
      (found : around.files.find p = .ok (.file bytes))
      (extracted : (Archive.extract host place bytes).run .empty = (.ok (), folder))
      (kept : scratch.at? place = some (.entry folder)) : Ready around p scratch (.unpacked place)

/-- What is kept at some time is still there later. -/
def Lasts (scratch later : Scratch) : Prop :=
  ∀ place x, scratch.at? place = some x → later.at? place = some x

/-- A submission that is ready to be read stays so as long as what is kept lasts. -/
theorem Ready.mono (h : Ready around p scratch source) (hlasts : Lasts scratch later) :
    Ready around p later source := by
  cases h with
  | path plain => exact .path plain
  | unpacked archive found extracted kept => exact .unpacked archive found extracted (hlasts _ _ kept)

/-- To unpack an archive takes the place of nothing. -/
theorem unpackAt_eq_ok (harchive : p.hasSuffix ".zip" = true)
    (h : (unpackAt around p).run w = (.ok source, after)) :
    Ready around p after.scratch source ∧ Lasts w.scratch after.scratch ∧ after.files = w.files := by
  have hunpacking := w.scratch.unpack_unpacking around.host around.temporary around.endings
    (Archive.archiveAt around.files p)
  unfold unpackAt ExceptT.mk ExceptT.run at h
  dsimp only at h
  generalize w.scratch.unpack around.host around.temporary around.endings
    (Archive.archiveAt around.files p) = unpacked at hunpacking h
  obtain ⟨result, scratch⟩ := unpacked
  cases hunpacking with
  | noName | refused | failed => cases h
  | @unpacked place new folder made extracted =>
    cases h
    obtain ⟨bytes, hfound, hextracted⟩ := Archive.extractFrom_archiveAt extracted
    obtain ⟨-, -, hfree, -⟩ := Scratch.newFolder?_eq_some made
    exact ⟨.unpacked harchive hfound hextracted (Scratch.at?_cons_self _ _ _),
      fun _ _ hkept => Scratch.at?_cons_of_not_isTaken hfree hkept, rfl⟩

/-- To look for a submission makes it ready to be read, and takes the place of nothing. -/
theorem sourceAt_eq_ok (h : (sourceAt around limit p).run w = (.ok source, after)) :
    Ready around p after.scratch source ∧ Lasts w.scratch after.scratch ∧ after.files = w.files := by
  unfold sourceAt at h
  split at h
  · rename_i harchive
    obtain ⟨_, middle, hvalid, hunpack⟩ := run_bind_eq_ok_iff.1 h
    obtain ⟨-, rfl⟩ := run_of_eq_ok_iff.1 hvalid
    exact unpackAt_eq_ok harchive hunpack
  · rename_i hplain
    split at h
    · cases h
      exact ⟨.path (Bool.eq_false_iff.2 hplain), fun _ _ hkept => hkept, rfl⟩
    · cases h
    · cases h

/-- The elements that are read from a submission are those that its file stands for. -/
theorem Ready.submitted {elements : List Element} (hready : Ready around p w.scratch source)
    (hfile : FileAt around.files p f) (hname : IsName f.name)
    (h : (elementsFrom around source).run w = (.ok elements, after)) :
    Submitted f elements ∧ w = after := by
  have hsuffix : p.hasSuffix ".zip" = (f.suffix == ".zip") := by
    unfold Path.hasSuffix
    rw [hfile.name_eq]
    rfl
  cases hready with
  | path plain =>
    obtain ⟨hread, rfl⟩ := run_of_eq_ok_iff.1 h
    rw [hsuffix, beq_eq_false_iff_ne] at plain
    exact ⟨hfile.submitted hname plain hread, rfl⟩
  | @unpacked host place bytes folder archive found extracted kept =>
    unfold elementsFrom at h
    obtain ⟨w', middle, hget, hread⟩ := run_bind_eq_ok_iff.1 h
    cases hget
    dsimp only at hread
    obtain ⟨helements, rfl⟩ := run_of_eq_ok_iff.1 hread
    rw [hfile.found] at found
    cases found
    rw [hsuffix, beq_iff_eq] at archive
    have hfolder : Scratch.folderAt w.scratch place = folder := by
      unfold Scratch.folderAt
      rw [kept]
    rw [hfolder] at helements
    exact ⟨.archive archive extracted helements, rfl⟩

/-! ## A whole command -/

variable {a : Arguments} {student reference : NamedFile}

/-- The comparison of a command that goes well is a finished one of the two files that it is given.
-/
theorem assessment_eq_ok {result : Assessment Float}
    (hstudent : FileAt around.files (.ofText a.student) student) (hname : IsName student.name)
    (hreference : FileAt around.files (.ofText a.reference) reference)
    (hname' : IsName reference.name)
    (h : (assessment around a).run (.start around) = (.ok result, after)) :
    after.files = around.files ∧ ∃ settings, settingsFor around a = .ok settings ∧
      Assessed settings around.clock (Submitted student) (Submitted reference) result := by
  obtain ⟨p, w, hplan, hresult⟩ := run_bind_eq_ok_iff.1 h
  obtain ⟨hcompared, rfl⟩ := run_of_eq_ok_iff.1 hresult
  unfold plan at hplan
  simp only [run_bind_eq_ok_iff] at hplan
  obtain ⟨settings, w₁, hsettings, source, w₂, hsource, source', w₃, hsource', students, w₄, hread,
    references, w₅, hread', hplan⟩ := hplan
  obtain ⟨hasked, rfl⟩ := run_of_eq_ok_iff.1 hsettings
  obtain ⟨hready, -, hfiles⟩ := sourceAt_eq_ok hsource
  -- The first archive is still there when the second one is unpacked.
  obtain ⟨hready', hlasts, hfiles'⟩ := sourceAt_eq_ok hsource'
  obtain ⟨hstudents, rfl⟩ := (hready.mono hlasts).submitted hstudent hname hread
  obtain ⟨hreferences, rfl⟩ := hready'.submitted hreference hname' hread'
  cases hplan
  exact ⟨hfiles'.trans hfiles, settings, hasked, students, references, hstudents, hreferences,
    hcompared⟩

/-- A report that is asked for is put at its place. -/
theorem writeReport_eq_ok {path text : String} (hpath : path ≠ "")
    (h : (writeReport (some path) text).run w = (.ok (), after)) : after.files.home = w.files.home ∧
      Entry.put (Entry.writeFile text.toUTF8) (w.files.placeOf (.ofText path)) w.files.root =
        .ok after.files.root := by
  unfold writeReport at h
  dsimp only at h
  rw [beq_false_of_ne hpath, if_neg Bool.false_ne_true] at h
  simp only [run_bind_eq_ok_iff] at h
  obtain ⟨w₁, w₂, hget, files, w₃, hwrite, hmodify⟩ := h
  cases hget
  obtain ⟨hwritten, rfl⟩ := run_of_eq_ok_iff.1 hwrite
  cases hmodify
  exact Disk.writeFileAt_eq_ok hwritten

/-- A report that is written elsewhere, or not at all, leaves a file as it is. -/
theorem within?_writeReport {path : Option String} {text : String} {place : List String}
    {bytes : ByteArray} (h : (writeReport path text).run w = (.ok (), after))
    (helsewhere : ∀ other, path = some other → other ≠ "" →
      w.files.placeOf (.ofText other) ≠ place)
    (hfile : w.files.root.within? place = some (.file bytes)) :
    after.files.root.within? place = some (.file bytes) := by
  cases path with
  | none =>
    cases h
    exact hfile
  | some other =>
    by_cases hother : other = ""
    · subst hother
      cases h
      exact hfile
    · obtain ⟨-, hput⟩ := writeReport_eq_ok hother h
      obtain ⟨e, hafter, rfl⟩ :=
        Entry.within?_putFile hput (helsewhere other rfl hother).symm hfile
      exact hafter

/-- A command that ends well has written its report, on a finished comparison of the two files that
it is given, where it is asked for. -/
theorem perform_written {words : List String} {out : String} (hwords : argumentsOf words = .ok a)
    (hwell : (perform around words).ending.exitCode = 0) (hjson : a.json = some out) (hout : out ≠ "")
    (hpage : ∀ page, a.html = some page → page ≠ "" →
      around.files.placeOf (.ofText page) ≠ around.files.placeOf (.ofText out))
    (hstudent : FileAt around.files (.ofText a.student) student) (hname : IsName student.name)
    (hreference : FileAt around.files (.ofText a.reference) reference)
    (hname' : IsName reference.name) :
    ∃ settings result, settingsFor around a = .ok settings ∧
      Assessed settings around.clock (Submitted student) (Submitted reference) result ∧
      (perform around words).files.root.within? (around.files.placeOf (.ofText out)) =
        some (.file (jsonText result.report).toUTF8) := by
  unfold perform at hwell ⊢
  rw [hwords] at hwell ⊢
  dsimp only at hwell ⊢
  cases hrun : (carryOut around a).run (.start around) with
  | mk outcome last =>
    rw [hrun] at hwell
    cases outcome with
    | error e => cases hwell
    | ok output =>
      unfold carryOut at hrun
      simp only [run_bind_eq_ok_iff] at hrun
      obtain ⟨result, w, hresult, _, w₁, hwritten, _, w₂, hpaged, hend⟩ := hrun
      cases hend
      obtain ⟨hfiles, settings, hsettings, hassessed⟩ :=
        assessment_eq_ok hstudent hname hreference hname' hresult
      refine ⟨settings, result, hsettings, hassessed, ?_⟩
      rw [hjson] at hwritten
      obtain ⟨hhome, hput⟩ := writeReport_eq_ok hout hwritten
      rw [hfiles] at hhome hput
      have hplace : ∀ path, w₁.files.placeOf path = around.files.placeOf path := by
        intro path
        unfold Disk.placeOf Disk.partsOf
        rw [hhome]
      refine within?_writeReport hpaged ?_ (Entry.within?_putFile_self hput).1
      intro page hasked hsome
      rw [hplace]
      exact hpage page hasked hsome

end CommandLine

end StructureGrader
