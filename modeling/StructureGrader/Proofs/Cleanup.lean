import StructureGrader.Proofs.Archive.Unpacked
import StructureGrader.Proofs.CommandLine.Cleanup
import StructureGrader.Proofs.Service.Cleanup

/-!
# What becomes of the folders for archives

An archive is unpacked to a new folder. When that goes well the folder holds every member, and when the
archive is refused the folder is taken away again (`Scratch.AllOrNothing`). Any other failure is no refusal
and leaves the folder (`Scratch.unpack_of_fault`), as an encrypted member does (`unpack_encrypted`). Nobody
else takes that folder away, while all other folders for archives are gone when a command ends or no
request is under way (`unpacking_settled`).
-/

namespace StructureGrader

namespace Scratch

/-- Unpacking is all or nothing for an archive: there is a new folder with every member, or a
failure that leaves what was kept before and, where a folder was made, is a refusal. -/
def AllOrNothing (s : Scratch) (host : Host) (around : Place) (endings : Nat → String)
    (archive : Except UnpackError ByteArray) : Prop :=
  match s.unpack host around endings archive with
  | (.ok place, after) => s.isTaken place = false ∧ ∃ b folder, archive = .ok b ∧
      after = (place, .entry folder) :: s ∧ Archive.HoldsAll host place b folder
  | (.error (.unpack (.failed _)), _) => False
  | (.error _, after) => after = s

section Unpack

variable {s : Scratch} {host : Host} {around place : Place} {endings : Nat → String}
  {archive : Except UnpackError ByteArray} {new : Scratch} {folder : Entry} {fault : ArchiveFault}

/-- A failure that is no refusal leaves the new folder. -/
theorem unpack_of_fault (hmade : s.newFolder? around "grader_" endings = some (place, new))
    (hfault : Archive.extractFrom host place archive = (.error (.failed fault), folder)) :
    s.unpack host around endings archive =
      (.error (.unpack (.failed fault)), (place, .entry folder) :: s) :=
  unpack_of_error hmade hfault

/-- Unpacking is all or nothing unless the archive fails in a way that is no refusal. -/
theorem allOrNothing_iff : s.AllOrNothing host around endings archive ↔
    ∀ place new folder fault, s.newFolder? around "grader_" endings = some (place, new) →
      Archive.extractFrom host place archive ≠ (.error (.failed fault), folder) := by
  constructor
  · intro h place new folder fault hmade hfault
    unfold AllOrNothing at h
    rw [unpack_of_fault hmade hfault] at h
    exact h
  · intro h
    have hunpacking := s.unpack_unpacking host around endings archive
    unfold AllOrNothing
    generalize s.unpack host around endings archive = unpacked at hunpacking ⊢
    obtain ⟨result, after⟩ := unpacked
    cases hunpacking with
    | noName | refused => rfl
    | failed made extracted => exact h _ _ _ _ made extracted
    | unpacked made extracted =>
      obtain ⟨-, -, free, -⟩ := newFolder?_eq_some made
      cases archive with
      | error e => cases extracted
      | ok b => exact ⟨free, b, _, rfl, rfl, Archive.extract_holdsAll extracted⟩

end Unpack

end Scratch

/-- What becomes of the folders for archives. Unpacking is all or nothing unless the archive fails
in a way that is no refusal; then its folder stays. No command leaves any other folder for an
archive, and no request does when it is over. -/
theorem unpacking_settled (s : Scratch) (host : Host) (around : Place) (endings : Nat → String)
    (archive : Except UnpackError ByteArray) (surroundings : CommandLine.Surroundings)
    (words : List String) (settings : Settings) (temporary : Place) (events : List Service.Event) :
    (s.AllOrNothing host around endings archive ↔
      ∀ place new folder fault, s.newFolder? around "grader_" endings = some (place, new) →
        Archive.extractFrom host place archive ≠ (.error (.failed fault), folder)) ∧
    (∀ place new folder fault, s.newFolder? around "grader_" endings = some (place, new) →
      Archive.extractFrom host place archive = (.error (.failed fault), folder) →
        s.unpack host around endings archive =
          (.error (.unpack (.failed fault)), (place, .entry folder) :: s)) ∧
    CommandLine.LeftBy surroundings (CommandLine.perform surroundings words).ending
      (CommandLine.perform surroundings words).scratch ∧
    Service.KeepsOrder temporary events
      ((Service.Traffic.opened settings temporary).run events) :=
  ⟨Scratch.allOrNothing_iff, fun _ _ _ _ => Scratch.unpack_of_fault,
    CommandLine.perform_scratch surroundings words, Service.run_keepsOrder settings temporary events⟩

/-- An archive with one member, which is encrypted. -/
def encryptedArchive : ByteArray :=
  ⟨#[0x50, 0x4b, 0x03, 0x04, 0x14, 0x00, 0x01, 0x00, 0x00, 0x00, 0x83, 0x18, 0x22, 0x50, 0x49, 0x4b,
    0x21, 0x17, 0x0a, 0x00, 0x00, 0x00, 0x0a, 0x00, 0x00, 0x00, 0x06, 0x00, 0x00, 0x00, 0x41, 0x2e,
    0x6a, 0x61, 0x76, 0x61, 0x63, 0x6c, 0x61, 0x73, 0x73, 0x20, 0x41, 0x20, 0x7b, 0x7d, 0x50, 0x4b,
    0x01, 0x02, 0x14, 0x03, 0x14, 0x00, 0x01, 0x00, 0x00, 0x00, 0x83, 0x18, 0x22, 0x50, 0x49, 0x4b,
    0x21, 0x17, 0x0a, 0x00, 0x00, 0x00, 0x0a, 0x00, 0x00, 0x00, 0x06, 0x00, 0x00, 0x00, 0x00, 0x00,
    0x00, 0x00, 0x00, 0x00, 0x00, 0x00, 0xa4, 0x01, 0x00, 0x00, 0x00, 0x00, 0x41, 0x2e, 0x6a, 0x61,
    0x76, 0x61, 0x50, 0x4b, 0x05, 0x06, 0x00, 0x00, 0x00, 0x00, 0x01, 0x00, 0x01, 0x00, 0x34, 0x00,
    0x00, 0x00, 0x2e, 0x00, 0x00, 0x00, 0x00, 0x00]⟩

/-- That archive is not unpacked and not refused, and its folder stays. -/
theorem unpack_encrypted :
    ¬ Scratch.AllOrNothing [] {} ["tmp"] toString (.ok encryptedArchive) ∧
      (Scratch.unpack [] {} ["tmp"] toString (.ok encryptedArchive)).2.isTaken
        ["tmp", "grader_0"] = true := by
  have hfailed : (Scratch.unpack [] {} ["tmp"] toString (.ok encryptedArchive)).1 =
      .error (.unpack (.failed
        (.encrypted "<ZipInfo filename='A.java' filemode='?rw-r--r--' file_size=10>"))) := by
    decide +kernel
  refine ⟨?_, by decide +kernel⟩
  unfold Scratch.AllOrNothing
  generalize Scratch.unpack [] {} ["tmp"] toString (.ok encryptedArchive) = unpacked at hfailed
  obtain ⟨result, after⟩ := unpacked
  subst hfailed
  exact id

end StructureGrader
