import StructureGrader.CommandLine.Command
import StructureGrader.Proofs.Files.Scratch
import StructureGrader.Proofs.Sequence

/-!
# What a command leaves behind

A command makes a folder for each archive, and takes away those that it knows of at its end. While its
parts go well, all of them are known (`Clean`), and a part that fails leaves none either, unless an
archive fails to unpack in a way that is no refusal: the folder of that archive is not known to the
command. So a command leaves everything in temporary folders as it was, or that one folder more
(`perform_scratch`).
-/

namespace StructureGrader

/-! ## Taking folders away -/

namespace Scratch

/-- What is left when folders are taken away is what lay in none of them. -/
theorem mem_foldl_remove {folders : List Place} {s : Scratch} {item : Place × Kept} :
    item ∈ folders.foldl remove s ↔ item ∈ s ∧ ∀ folder ∈ folders, ¬ folder <+: item.1 := by
  induction folders generalizing s with
  | nil => simp
  | cons folder folders ih =>
    rw [List.foldl_cons, ih, mem_remove, List.forall_mem_cons, and_assoc]

/-- An item that lies below none of the folders stays in front of what is left of the others. -/
theorem foldl_remove_cons {folders : List Place} {item : Place × Kept}
    (h : ∀ folder ∈ folders, ¬ folder <+: item.1) (s : Scratch) :
    folders.foldl remove (item :: s) = item :: folders.foldl remove s := by
  induction folders generalizing s with
  | nil => rfl
  | cons folder folders ih =>
    obtain ⟨hfirst, hrest⟩ := List.forall_mem_cons.1 h
    have hstays : Scratch.remove (item :: s) folder = item :: s.remove folder := by
      have htest : (!folder.isPrefixOf item.1) = true := by
        rwa [Bool.not_eq_true', ← Bool.not_eq_true, List.isPrefixOf_iff_prefix]
      unfold remove
      rw [List.filter_cons, htest, if_pos rfl]
    rw [List.foldl_cons, List.foldl_cons, hstays]
    exact ih hrest _

end Scratch

namespace CommandLine

variable {around : Surroundings} {α : Type}

/-! ## Parts of a command -/

/-- What is left in temporary folders when those that the command knows of are taken away. -/
def Workplace.left (w : Workplace) : Scratch :=
  w.folders.foldl Scratch.remove w.scratch

/-- The command knows of all temporary folders that it has made. -/
structure Clean (around : Surroundings) (w : Workplace) : Prop where
  left : w.left = around.scratch
  named : ∀ folder ∈ w.folders, ∃ i, folder = around.temporary ++ ["grader_" ++ around.endings i]
  there : ∀ folder ∈ w.folders, ∃ x, (folder, x) ∈ w.scratch

/-- What is left in temporary folders goes with the way in which a command ends: it is what was
there at the start, and where an archive passes its check and fails to unpack in a way that is no
refusal, the folder of that archive as well. -/
def LeftBy (around : Surroundings) (ending : Ending) (left : Scratch) : Prop :=
  match ending with
  | .failed (.archive (.failed fault)) =>
      (∃ p limit, Archive.validateAt around.files p limit = .error (.failed fault) ∧
        left = around.scratch) ∨
      ∃ p place folder, around.scratch.isTaken place = false ∧
        Archive.extractFrom around.host place (Archive.archiveAt around.files p) =
          (.error (.failed fault), folder) ∧
        left = (place, .entry folder) :: around.scratch
  | _ => left = around.scratch

/-- What a part of a command leaves when it fails. -/
def Leaves (around : Surroundings) (e : CommandError) (w : Workplace) : Prop :=
  LeftBy around (.failed e) w.left

/-- Whether an archive fails to unpack in a way that is no refusal. -/
def CommandError.isFault : CommandError → Bool
  | .archive (.failed _) => true
  | _ => false

/-- A failure that is no fault of an archive leaves what was there at the start. -/
theorem Clean.leaves {w : Workplace} (h : Clean around w) {e : CommandError}
    (he : e.isFault = false) : Leaves around e w := by
  unfold Leaves LeftBy
  split
  · rename_i heq
    cases heq
    cases he
  · exact h.left

/-- A part that makes nothing and fails in no such way leaves nothing. -/
theorem keeps_of {ε : Type} {error : ε → CommandError} {result : Except ε α}
    (h : ∀ e, result = .error e → (error e).isFault = false) :
    Keeps (Clean around) (Leaves around) (Task.of error result) := by
  refine ⟨fun w hw => ?_⟩
  cases result with
  | error e => exact hw.leaves (h e rfl)
  | ok a => exact hw

/-- A failure that ends a part. -/
theorem keeps_throw {e : CommandError} (he : e.isFault = false) :
    Keeps (Clean around) (Leaves around) (throw e : Task α) :=
  ⟨fun _ hw => hw.leaves he⟩

/-- A new folder lies below none of those that the command knows of. -/
theorem Clean.not_prefix {w : Workplace} (h : Clean around w) {place : Place} {i : Nat}
    (named : place = around.temporary ++ ["grader_" ++ around.endings i])
    (free : w.scratch.isTaken place = false) : ∀ folder ∈ w.folders, ¬ folder <+: place := by
  intro folder hfolder hprefix
  obtain ⟨j, hname⟩ := h.named folder hfolder
  obtain ⟨x, hx⟩ := h.there folder hfolder
  have hlength : folder.length = place.length := by
    rw [hname, named, List.length_append, List.length_append]
    rfl
  have heq : folder = place := hprefix.eq_of_length hlength
  rw [Scratch.isTaken_eq_false_iff] at free
  exact free _ hx (heq ▸ List.prefix_refl _)

/-- With a new folder there is that folder and what is left without it. -/
theorem Clean.left_cons {w : Workplace} (h : Clean around w) {place : Place} {i : Nat}
    (named : place = around.temporary ++ ["grader_" ++ around.endings i])
    (free : w.scratch.isTaken place = false) (x : Kept) :
    w.folders.foldl Scratch.remove ((place, x) :: w.scratch) = (place, x) :: around.scratch := by
  rw [Scratch.foldl_remove_cons (h.not_prefix named free), ← h.left]
  rfl

/-- The place of a new folder is none at which something is kept at the start. -/
theorem Clean.free {w : Workplace} (h : Clean around w) {place : Place}
    (free : w.scratch.isTaken place = false) : around.scratch.isTaken place = false := by
  rw [Scratch.isTaken_eq_false_iff] at free ⊢
  intro item hitem
  rw [← h.left, Workplace.left, Scratch.mem_foldl_remove] at hitem
  exact free item hitem.1

/-- To unpack an archive leaves nothing that the command does not know of, unless it fails. -/
theorem keeps_unpackAt (p : Path) :
    Keeps (Clean around) (Leaves around) (unpackAt around p) := by
  refine ⟨fun w hw => ?_⟩
  have hunpacking := w.scratch.unpack_unpacking around.host around.temporary around.endings
    (Archive.archiveAt around.files p)
  unfold unpackAt ExceptT.mk ExceptT.run
  dsimp only
  -- Of the unpacking only its outcome matters, which `Scratch.Unpacking` lists.
  generalize w.scratch.unpack around.host around.temporary around.endings
    (Archive.archiveAt around.files p) = unpacked at hunpacking ⊢
  obtain ⟨result, scratch⟩ := unpacked
  cases hunpacking with
  | noName | refused => exact hw.leaves rfl
  | failed made extracted =>
    obtain ⟨i, named, free, -⟩ := Scratch.newFolder?_eq_some made
    exact .inr ⟨p, _, _, hw.free free, extracted, hw.left_cons named free _⟩
  | @unpacked place new folder made extracted =>
    obtain ⟨i, named, free, -⟩ := Scratch.newFolder?_eq_some made
    refine ⟨?_, ?_, ?_⟩
    · show (w.folders ++ [place]).foldl Scratch.remove ((place, .entry folder) :: w.scratch) = _
      rw [List.foldl_append, hw.left_cons named free]
      exact Scratch.remove_cons_of_not_isTaken (hw.free free)
    · intro other hother
      obtain hold | hnew := List.mem_append.1 hother
      · exact hw.named other hold
      · rw [List.mem_singleton.1 hnew]
        exact ⟨i, named⟩
    · intro other hother
      obtain hold | hnew := List.mem_append.1 hother
      · obtain ⟨x, hx⟩ := hw.there other hold
        exact ⟨x, List.mem_cons_of_mem _ hx⟩
      · rw [List.mem_singleton.1 hnew]
        exact ⟨_, List.mem_cons_self⟩

/-- To check an archive leaves nothing, however it fails. -/
theorem keeps_check (limit : Int) (p : Path) :
    Keeps (Clean around) (Leaves around)
      (Task.of .ofCheck (Archive.validateAt around.files p limit)) := by
  refine ⟨fun w hw => ?_⟩
  cases hcheck : Archive.validateAt around.files p limit with
  | ok _ => exact hw
  | error e =>
    cases e with
    | refused e => exact hw.leaves rfl
    | failed fault =>
      cases fault with
      | file e path => exact hw.leaves rfl
      | _ => exact .inl ⟨p, limit, hcheck, hw.left⟩

/-- To look for a submission leaves nothing that the command does not know of, unless an archive
fails. -/
theorem keeps_sourceAt (limit : Int) (p : Path) :
    Keeps (Clean around) (Leaves around) (sourceAt around limit p) := by
  unfold sourceAt
  split
  · exact (keeps_check limit p).bind fun _ => keeps_unpackAt p
  · split
    · exact .pure _
    · exact keeps_throw rfl
    · exact keeps_throw rfl

/-- To read the elements of a submission leaves nothing behind. -/
theorem keeps_elementsFrom (source : Source) :
    Keeps (Clean around) (Leaves around) (elementsFrom around source) := by
  unfold elementsFrom
  cases source with
  | path p => exact keeps_of fun _ _ => rfl
  | unpacked place => exact Keeps.get.bind fun w => keeps_of fun _ _ => rfl

/-- To plan the comparison, with all archives that it needs. -/
theorem keeps_plan (a : Arguments) : Keeps (Clean around) (Leaves around) (plan around a) := by
  have hsettings : Keeps (Clean around) (Leaves around)
      (Task.of CommandError.settings (settingsFor around a)) :=
    keeps_of (by intro e _; rfl)
  unfold plan
  refine hsettings.bind fun settings => ?_
  refine Keeps.bind (keeps_sourceAt _ _) fun student => ?_
  refine Keeps.bind (keeps_sourceAt _ _) fun reference => ?_
  refine Keeps.bind (keeps_elementsFrom student) fun students => ?_
  exact Keeps.bind (keeps_elementsFrom reference) fun references => .pure _

/-- A report is written to a file, which is none of the temporary folders. -/
theorem keeps_writeReport (path : Option String) (text : String) :
    Keeps (Clean around) (Leaves around) (writeReport path text) := by
  unfold writeReport
  cases path with
  | none => exact .pure _
  | some path =>
    dsimp only
    split
    · exact .pure _
    · have hwritten (w : Workplace) : Keeps (Clean around) (Leaves around)
          (Task.of (.file · (Path.ofText path).text)
            (w.files.writeFileAt (Path.ofText path) text.toUTF8)) :=
        keeps_of (by intro e _; rfl)
      refine Keeps.get.bind fun w => (hwritten w).bind fun files => ?_
      exact ⟨fun w hw => ⟨hw.left, hw.named, hw.there⟩⟩

/-- A command leaves nothing that it does not know of, unless an archive fails. -/
theorem keeps_carryOut (a : Arguments) :
    Keeps (Clean around) (Leaves around) (carryOut around a) := by
  have hassessment : Keeps (Clean around) (Leaves around) (assessment around a) :=
    (keeps_plan a).bind fun _ => keeps_of (by intro e _; rfl)
  unfold carryOut
  refine hassessment.bind fun assessment => ?_
  exact (keeps_writeReport _ _).bind fun _ => (keeps_writeReport _ _).bind fun _ => .pure _

/-! ## A whole command -/

/-- However a command ends, what is kept in temporary folders is what was kept before, unless an
archive fails to unpack in a way that is no refusal: then its folder is left, and nothing else. -/
theorem perform_scratch (around : Surroundings) (words : List String) :
    LeftBy around (perform around words).ending (perform around words).scratch := by
  unfold perform
  cases argumentsOf words with
  | error ending => rfl
  | ok a =>
    have hstart : Clean around (.start around) := ⟨rfl, nofun, nofun⟩
    have hend := (keeps_carryOut a).run (.start around) hstart
    dsimp only
    generalize (carryOut around a).run (.start around) = result at hend ⊢
    obtain ⟨e | output, w⟩ := result
    · exact hend
    · exact hend.left

end CommandLine

end StructureGrader
