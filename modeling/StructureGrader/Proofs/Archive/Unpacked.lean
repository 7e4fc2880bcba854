import StructureGrader.Archive.Unpacking
import StructureGrader.Proofs.Sequence
import Mathlib.Data.List.Induction

/-!
# What an unpacked archive holds

To write below a folder changes what lies at the place of writing and leaves every file and every
folder elsewhere (`Entry.within?_put_self`, `Entry.within?_put_of_ne`). What each step of writing a
member keeps is kept by all of them, whether they go well or fail (`keeps_writeMember`,
`keeps_writeMembers`). So when the members of an archive are all written, each of them is there: a
folder for a member that is one, and for any other member the bytes of the member that is written last
at its place (`extract_holdsAll`).
-/

namespace StructureGrader

namespace Entry

/-! ## Looking into a folder -/

/-- What lies below an entry at the end of some components, none of which leads upwards. -/
def within? : Entry → List String → Option Entry
  | e, [] => some e
  | .file _, _ :: _ => none
  | .folder entries, part :: parts => (named? part entries).bind fun e => e.within? parts

/-- Below an empty folder there is nothing. -/
theorem within?_empty {parts : List String} (h : parts ≠ []) : empty.within? parts = none := by
  cases parts with
  | nil => exact absurd rfl h
  | cons part parts => rfl

/-- What is put under a name in a folder is found there. -/
theorem named?_setNamed_self (name : String) (e : Entry) (entries : List (String × Entry)) :
    named? name (setNamed name e entries) = some e := by
  unfold named?
  induction entries with
  | nil => simp [setNamed]
  | cons first rest ih =>
    obtain ⟨n, x⟩ := first
    by_cases h : n = name
    · simp [setNamed, h]
    · simpa [setNamed, h] using ih

/-- What is put under one name in a folder leaves what the others stand for. -/
theorem named?_setNamed_of_ne {name other : String} (h : name ≠ other) (e : Entry)
    (entries : List (String × Entry)) :
    named? other (setNamed name e entries) = named? other entries := by
  unfold named?
  induction entries with
  | nil => simp [setNamed, h]
  | cons first rest ih =>
    obtain ⟨n, x⟩ := first
    by_cases hn : n = name
    · simp [setNamed, hn, h]
    · rw [setNamed, if_neg (by simpa using hn), List.find?_cons, List.find?_cons]
      cases n == other with
      | true => rfl
      | false => exact ih

/-- An entry that stays what it is: a file with the same bytes, or a folder. -/
def StaysAs : Entry → Entry → Prop
  | .file bytes, e => e = .file bytes
  | .folder _, e => ∃ entries, e = .folder entries

/-- Every entry stays what it is when nothing happens. -/
theorem staysAs_self (e : Entry) : e.StaysAs e := by
  cases e with
  | file bytes => rfl
  | folder entries => exact ⟨entries, rfl⟩

/-- Whether an entry is a folder. -/
def isFolder : Entry → Bool
  | .file _ => false
  | .folder _ => true

/-- What stays what it is twice stays what it is. -/
theorem StaysAs.trans {e₁ e₂ e₃ : Entry} (h : e₁.StaysAs e₂) (h' : e₂.StaysAs e₃) :
    e₁.StaysAs e₃ := by
  cases e₁ with
  | file bytes =>
    obtain rfl : e₂ = .file bytes := h
    exact h'
  | folder entries =>
    obtain ⟨entries', rfl⟩ := h
    exact h'

/-- What stays what it is stays of its kind. -/
theorem StaysAs.isFolder_eq {e e' : Entry} (h : e.StaysAs e') : e'.isFolder = e.isFolder := by
  cases e with
  | file bytes =>
    obtain rfl : e' = .file bytes := h
    rfl
  | folder entries =>
    obtain ⟨entries', rfl⟩ := h
    rfl

/-! ## Writing below a folder -/

section Put

variable {write : Option Entry → Except FileError Entry} {tree after : Entry}
  {parts other : List String}

/-- To write below a folder is to write at the entry that the first component leads to, or below
it. -/
theorem put_cons_eq_ok {part : String} (h : put write (part :: parts) tree = .ok after) :
    ∃ entries e, tree = .folder entries ∧ after = .folder (setNamed part e entries) ∧
      (if parts = [] then write (named? part entries)
        else put write parts ((named? part entries).getD empty)) = .ok e := by
  cases tree with
  | file bytes => cases h
  | folder entries =>
    unfold put at h
    dsimp only at h
    split at h
    · cases h
    · simp only [List.isEmpty_iff] at h
      cases hwritten : (if parts = [] then write (named? part entries)
          else put write parts ((named? part entries).getD empty)) with
      | error e =>
        rw [hwritten] at h
        cases h
      | ok e =>
        rw [hwritten] at h
        cases h
        exact ⟨entries, e, rfl, rfl, hwritten⟩

/-- Nothing lies below an entry that is not there, or that is there as an empty folder. -/
theorem within?_getD_empty (inner : Option Entry) (h : parts ≠ []) :
    (inner.getD empty).within? parts = inner.bind fun e => e.within? parts := by
  cases inner with
  | none => exact within?_empty h
  | some e => rfl

/-- What is written is what then lies there. -/
theorem within?_put_self (h : put write parts tree = .ok after) :
    ∃ e, write (tree.within? parts) = .ok e ∧ after.within? parts = some e := by
  induction parts generalizing tree after with
  | nil => cases tree <;> cases h
  | cons part parts ih =>
    obtain ⟨entries, inner, rfl, rfl, hinner⟩ := put_cons_eq_ok h
    rw [within?, within?, named?_setNamed_self]
    by_cases hlast : parts = []
    · subst hlast
      rw [if_pos rfl] at hinner
      refine ⟨inner, ?_, rfl⟩
      rw [← hinner]
      cases named? part entries <;> rfl
    · rw [if_neg hlast] at hinner
      obtain ⟨e, hwrite, hafter⟩ := ih hinner
      rw [within?_getD_empty _ hlast] at hwrite
      exact ⟨e, hwrite, hafter⟩

/-- What lies elsewhere is still there: a file as it was, and a folder as a folder. -/
theorem within?_put_of_ne {e : Entry}
    (hwrite : ∀ entries e, write (some (.folder entries)) = .ok e → e = .folder entries)
    (h : put write parts tree = .ok after) (hne : other ≠ parts)
    (hother : tree.within? other = some e) :
    ∃ e', after.within? other = some e' ∧ e.StaysAs e' := by
  induction parts generalizing tree after other with
  | nil => cases tree <;> cases h
  | cons part parts ih =>
    obtain ⟨entries, inner, rfl, rfl, hinner⟩ := put_cons_eq_ok h
    cases other with
    | nil =>
      cases hother
      exact ⟨_, rfl, _, rfl⟩
    | cons first others =>
      rw [within?, Option.bind_eq_some_iff] at hother
      obtain ⟨x, hx, hothers⟩ := hother
      by_cases hfirst : part = first
      · subst hfirst
        have hrest : others ≠ parts := fun heq => hne (by rw [heq])
        rw [hx] at hinner
        rw [within?, named?_setNamed_self]
        by_cases hlast : parts = []
        · rw [if_pos hlast] at hinner
          rw [hlast] at hrest
          -- Something lies below `x`, so that is a folder, and to write to it changes nothing.
          obtain ⟨next, more, rfl⟩ := List.exists_cons_of_ne_nil hrest
          cases x with
          | file bytes => cases hothers
          | folder below =>
            obtain rfl := hwrite below inner hinner
            exact ⟨e, hothers, e.staysAs_self⟩
        · rw [if_neg hlast] at hinner
          exact ih hinner hrest hothers
      · rw [within?, named?_setNamed_of_ne hfirst, hx]
        exact ⟨e, hothers, e.staysAs_self⟩

/-- To write a folder leaves everything as it was, also what lies in its place. -/
theorem within?_putFolder {e : Entry} (h : put writeFolder parts tree = .ok after)
    (hother : tree.within? other = some e) :
    ∃ e', after.within? other = some e' ∧ e.StaysAs e' := by
  have hwrite : ∀ entries e, writeFolder (some (.folder entries)) = .ok e → e = .folder entries := by
    intro entries e he
    cases he
    rfl
  by_cases hne : other = parts
  · obtain ⟨written, hwritten, hafter⟩ := within?_put_self h
    rw [hne] at hother ⊢
    rw [hother] at hwritten
    cases e with
    | file bytes => cases hwritten
    | folder entries =>
      obtain rfl := hwrite entries written hwritten
      exact ⟨_, hafter, entries, rfl⟩
  · exact within?_put_of_ne hwrite h hne hother

/-- A folder is written to where nothing or a folder is, and is there then. -/
theorem within?_putFolder_self (h : put writeFolder parts tree = .ok after) :
    ∃ entries, after.within? parts = some (.folder entries) := by
  obtain ⟨written, hwritten, hafter⟩ := within?_put_self h
  cases hinner : tree.within? parts with
  | none =>
    rw [hinner] at hwritten
    cases hwritten
    exact ⟨[], hafter⟩
  | some e =>
    rw [hinner] at hwritten
    cases e with
    | file bytes => cases hwritten
    | folder entries =>
      cases hwritten
      exact ⟨entries, hafter⟩

/-- To write a file leaves everything elsewhere as it was. -/
theorem within?_putFile {bytes : ByteArray} {e : Entry}
    (h : put (writeFile bytes) parts tree = .ok after) (hne : other ≠ parts)
    (hother : tree.within? other = some e) :
    ∃ e', after.within? other = some e' ∧ e.StaysAs e' := by
  refine within?_put_of_ne ?_ h hne hother
  intro entries e he
  cases he

/-- A file is written to where nothing or a file is, and is there then. -/
theorem within?_putFile_self {bytes : ByteArray} (h : put (writeFile bytes) parts tree = .ok after) :
    after.within? parts = some (.file bytes) ∧
      ∀ e, tree.within? parts = some e → e.isFolder = false := by
  obtain ⟨written, hwritten, hafter⟩ := within?_put_self h
  cases hinner : tree.within? parts with
  | none =>
    rw [hinner] at hwritten
    cases hwritten
    exact ⟨hafter, nofun⟩
  | some e =>
    rw [hinner] at hwritten
    cases e with
    | file old =>
      cases hwritten
      refine ⟨hafter, ?_⟩
      rintro _ ⟨⟩
      rfl
    | folder entries => cases hwritten

end Put

end Entry

namespace Archive

open Entry (StaysAs)

/-! ## What writing leaves -/

/-- At a place below a folder lies what an entry stays as. -/
def StillAt (other : List String) (e tree : Entry) : Prop :=
  ∃ e', tree.within? other = some e' ∧ e.StaysAs e'

/-- At a place below a folder lies an entry of a kind. -/
def KindAt (other : List String) (isFolder : Bool) (tree : Entry) : Prop :=
  ∃ e, tree.within? other = some e ∧ e.isFolder = isFolder

/-- What lies at a place stays what it is as long as nothing is done. -/
theorem stillAt_self {other : List String} {e tree : Entry} (h : tree.within? other = some e) :
    StillAt other e tree :=
  ⟨e, h, e.staysAs_self⟩

section Write

variable {good : Entry → Prop} {bad : UnpackError → Entry → Prop} {host : Host} {place : Place}
  {b : ByteArray} {m : Member} {all ms : List Member} {tree after e : Entry}
  {write : Option Entry → Except FileError Entry} {parts other : List String} {isFolder : Bool}

/-- What is written is put at its place. -/
theorem put_of_writeAt (h : (writeAt place write parts).run tree = (.ok (), after)) :
    Entry.put write parts tree = .ok after := by
  unfold writeAt at h
  rw [ExceptT.run_mk] at h
  dsimp only at h
  split at h
  · cases h
  · cases hput : Entry.put write parts tree with
    | error e =>
      rw [hput] at h
      cases h
    | ok written =>
      rw [hput] at h
      cases h
      rfl

/-- A write that fails changes nothing, so it keeps what is kept when something is put at a place.
-/
theorem keeps_writeAt
    (hput : ∀ tree after, Entry.put write parts tree = .ok after → good tree → good after)
    (hfailed : ∀ fault tree, good tree → bad (.failed fault) tree) :
    Keeps good bad (writeAt place write parts) := by
  refine ⟨fun tree htree => ?_⟩
  unfold writeAt
  rw [ExceptT.run_mk]
  dsimp only
  by_cases hlong : pathBound ≤ (Place.text (place ++ parts)).utf8ByteSize
  · rw [if_pos hlong]
    exact hfailed _ tree htree
  · rw [if_neg hlong]
    cases hwritten : Entry.put write parts tree with
    | error e => exact hfailed _ tree htree
    | ok after => exact hput tree after hwritten htree

/-- To write a folder leaves everything as it was. -/
theorem stillAt_writeFolder :
    Keeps (StillAt other e) (fun _ => StillAt other e) (writeAt place Entry.writeFolder parts) := by
  refine keeps_writeAt ?_ fun _ _ => id
  rintro tree after hput ⟨e₁, h₁, hstays₁⟩
  obtain ⟨e₂, h₂, hstays₂⟩ := Entry.within?_putFolder hput h₁
  exact ⟨e₂, h₂, hstays₁.trans hstays₂⟩

/-- To write a file leaves everything elsewhere as it was. -/
theorem stillAt_writeFile {bytes : ByteArray} (hne : other ≠ parts) :
    Keeps (StillAt other e) (fun _ => StillAt other e)
      (writeAt place (Entry.writeFile bytes) parts) := by
  refine keeps_writeAt ?_ fun _ _ => id
  rintro tree after hput ⟨e₁, h₁, hstays₁⟩
  obtain ⟨e₂, h₂, hstays₂⟩ := Entry.within?_putFile hput hne h₁
  exact ⟨e₂, h₂, hstays₁.trans hstays₂⟩

/-- What leaves every entry as it is leaves the kind of every entry. -/
theorem kindAt_of_stillAt {w : Writing}
    (h : ∀ e, Keeps (StillAt other e) (fun _ => StillAt other e) w) :
    Keeps (KindAt other isFolder) (fun _ => KindAt other isFolder) w := by
  refine ⟨?_⟩
  rintro tree ⟨e, hplace, rfl⟩
  have hstill := (h e).run tree (stillAt_self hplace)
  generalize w.run tree = ran at hstill ⊢
  obtain ⟨_ | a, after⟩ := ran <;>
  · obtain ⟨e', hafter, hstays⟩ := hstill
    exact ⟨e', hafter, hstays.isFolder_eq⟩

/-- To write a file leaves the kind of every entry. -/
theorem kindAt_writeFile {bytes : ByteArray} :
    Keeps (KindAt other isFolder) (fun _ => KindAt other isFolder)
      (writeAt place (Entry.writeFile bytes) parts) := by
  by_cases hne : other = parts
  · subst hne
    refine keeps_writeAt ?_ fun _ _ => id
    rintro tree after hput ⟨e, hplace, rfl⟩
    obtain ⟨hafter, hkind⟩ := Entry.within?_putFile_self hput
    exact ⟨.file bytes, hafter, (hkind e hplace).symm⟩
  · exact kindAt_of_stillAt fun e => stillAt_writeFile hne

/-! ## Writing one member -/

/-- A part that writes nothing leaves everything. -/
theorem keeps_of {result : Except UnpackError Unit} :
    Keeps good (fun _ => good) (Writing.of result) := by
  refine ⟨fun tree htree => ?_⟩
  cases result <;> exact htree

/-- A part that writes nothing goes well where its result does. -/
theorem run_of_eq_ok {result : Except UnpackError Unit}
    (h : (Writing.of result).run tree = (.ok (), after)) : result = .ok () ∧ tree = after := by
  cases h
  exact ⟨rfl, rfl⟩

/-- What is kept when folders are written is kept when they are made along a path. -/
theorem keeps_makeFolders {made : List String}
    (hfolder : ∀ parts, Keeps good bad (writeAt place Entry.writeFolder parts)) :
    Keeps good bad (makeFolders place made parts) := by
  induction parts generalizing made with
  | nil => exact .pure _
  | cons part parts ih =>
    unfold makeFolders
    refine Keeps.get.bind fun tree => ?_
    cases Entry.findFrom [] tree (made ++ [part]) with
    | ok found => exact ih
    | error error => exact (hfolder _).bind fun _ => ih

/-- What is kept when folders are written anywhere and a file in the place of a member is kept when
the member is written. -/
theorem keeps_writeMember (hfolder : ∀ parts, Keeps good bad (writeAt place Entry.writeFolder parts))
    (hfile : ∀ bytes, Keeps good bad (writeAt place (Entry.writeFile bytes) (writtenParts m.name)))
    (hstart : ∀ error, dataStart host.seekLimit b m = .error error →
      Keeps good bad (Writing.of (.error error)))
    (hbytes : ∀ start, Keeps good bad (Writing.of (memberBytes b m start).2)) :
    Keeps good bad (writeMember host place b m) := by
  unfold writeMember
  dsimp only
  refine (keeps_makeFolders hfolder).bind fun _ => ?_
  split
  · exact hfolder _
  · cases hopened : dataStart host.seekLimit b m with
    | error error => exact hstart error hopened
    | ok start => exact (hfile _).bind fun _ => (hfile _).bind fun _ => hbytes start

/-- How a member is written: folders are made, and then a folder or the file with its bytes is put
in its place. -/
theorem writeMember_eq_ok (h : (writeMember host place b m).run tree = (.ok (), after)) :
    (m.isFolder = true ∧ ∃ way, Entry.put Entry.writeFolder (writtenParts m.name) way = .ok after) ∨
      (m.isFolder = false ∧ ∃ start bytes opened, dataStart host.seekLimit b m = .ok start ∧
        memberBytes b m start = (bytes, .ok ()) ∧
        Entry.put (Entry.writeFile bytes) (writtenParts m.name) opened = .ok after) := by
  unfold writeMember at h
  dsimp only at h
  rw [run_bind_eq_ok_iff] at h
  obtain ⟨_, way, -, h⟩ := h
  split at h
  · rename_i hfolder
    exact .inl ⟨hfolder, way, put_of_writeAt h⟩
  · rename_i hfile
    cases hstart : dataStart host.seekLimit b m with
    | error error =>
      rw [hstart] at h
      cases h
    | ok start =>
      rw [hstart] at h
      unfold writeBytes at h
      dsimp only at h
      rw [run_bind_eq_ok_iff] at h
      obtain ⟨_, opened, -, h⟩ := h
      rw [run_bind_eq_ok_iff] at h
      obtain ⟨_, written, hput, h⟩ := h
      obtain ⟨hresult, rfl⟩ := run_of_eq_ok h
      exact .inr ⟨Bool.eq_false_iff.2 hfile, start, _, opened, rfl, Prod.ext rfl hresult,
        put_of_writeAt hput⟩

/-- To write a member leaves everything elsewhere as it was. -/
theorem stillAt_writeMember (hne : other ≠ writtenParts m.name) :
    Keeps (StillAt other e) (fun _ => StillAt other e) (writeMember host place b m) :=
  keeps_writeMember (fun _ => stillAt_writeFolder) (fun _ => stillAt_writeFile hne)
    (fun _ _ => keeps_of) fun _ => keeps_of

/-- Nothing that is there changes its kind when a member is written. -/
theorem kindAt_writeMember :
    Keeps (KindAt other isFolder) (fun _ => KindAt other isFolder) (writeMember host place b m) :=
  keeps_writeMember (fun _ => kindAt_of_stillAt fun _ => stillAt_writeFolder)
    (fun _ => kindAt_writeFile) (fun _ _ => keeps_of) fun _ => keeps_of

/-- The bytes of a member that can be read are no more than promised and have the checksum. -/
theorem memberBytes_eq_ok {start : Nat} {bytes : ByteArray}
    (h : memberBytes b m start = (bytes, .ok ())) :
    bytes.size ≤ m.size ∧ (checksum bytes).toNat = m.checksum := by
  unfold memberBytes at h
  dsimp only at h
  split at h
  · cases h
  · rename_i p hlast
    rw [Prod.mk.injEq] at h
    obtain ⟨rfl, hsum⟩ := h
    refine ⟨?_, ?_⟩
    · unfold firstBytes stretch
      rw [ByteArray.size_extract]
      omega
    · split at hsum
      · rename_i heq
        rwa [beq_iff_eq] at heq
      · cases hsum

/-! ## A member in its place -/

/-- A folder holds a member: a folder in its place if it is one, and else the bytes that its data
stand for, which are no more than promised and have the checksum. -/
structure Holds (host : Host) (b : ByteArray) (folder : Entry) (m : Member) : Prop where
  ofFolder : m.isFolder = true →
    ∃ entries, folder.within? (writtenParts m.name) = some (.folder entries)
  ofFile : m.isFolder = false → ∃ start bytes, dataStart host.seekLimit b m = .ok start ∧
    memberBytes b m start = (bytes, .ok ()) ∧ bytes.size ≤ m.size ∧
    (checksum bytes).toNat = m.checksum ∧
    folder.within? (writtenParts m.name) = some (.file bytes)

/-- In the place of a member that a folder holds is an entry of its kind. -/
theorem Holds.kindAt (h : Holds host b tree m) : KindAt (writtenParts m.name) m.isFolder tree := by
  cases hkind : m.isFolder with
  | true =>
    obtain ⟨entries, hplace⟩ := h.ofFolder hkind
    exact ⟨_, hplace, rfl⟩
  | false =>
    obtain ⟨start, bytes, -, -, -, -, hplace⟩ := h.ofFile hkind
    exact ⟨_, hplace, rfl⟩

/-- A folder holds a member as long as the place of that stays as it is. -/
theorem Holds.of_stillAt (h : Holds host b tree m)
    (hstays : ∀ e, StillAt (writtenParts m.name) e tree → StillAt (writtenParts m.name) e after) :
    Holds host b after m := by
  refine ⟨fun hkind => ?_, fun hkind => ?_⟩
  · obtain ⟨entries, hplace⟩ := h.ofFolder hkind
    obtain ⟨e', hafter, entries', rfl⟩ := hstays _ (stillAt_self hplace)
    exact ⟨entries', hafter⟩
  · obtain ⟨start, bytes, hstart, hbytes, hsize, hsum, hplace⟩ := h.ofFile hkind
    obtain ⟨e', hafter, rfl⟩ := hstays _ (stillAt_self hplace)
    exact ⟨start, bytes, hstart, hbytes, hsize, hsum, hafter⟩

/-- A member that is written is there. -/
theorem holds_writeMember (h : (writeMember host place b m).run tree = (.ok (), after)) :
    Holds host b after m := by
  obtain ⟨hfolder, way, hput⟩ | ⟨hfile, start, bytes, opened, hstart, hbytes, hput⟩ :=
    writeMember_eq_ok h
  · refine ⟨fun _ => Entry.within?_putFolder_self hput, fun hkind => ?_⟩
    rw [hfolder] at hkind
    cases hkind
  · obtain ⟨hsize, hsum⟩ := memberBytes_eq_ok hbytes
    refine ⟨fun hkind => ?_, fun _ =>
      ⟨start, bytes, hstart, hbytes, hsize, hsum, (Entry.within?_putFile_self hput).1⟩⟩
    rw [hfile] at hkind
    cases hkind

end Write

/-! ## Writing all members -/

/-- The member that is written last at a place. -/
def lastAt? (members : List Member) (parts : List String) : Option Member :=
  members.reverse.find? fun m => writtenParts m.name == parts

section Members

variable {host : Host} {place : Place} {b : ByteArray} {all ms : List Member} {m last : Member}
  {tree after : Entry} {parts : List String}

/-- The member written last at a place is one of the later members if any is written there, and else
the first. -/
theorem lastAt?_cons (m : Member) (ms : List Member) (parts : List String) :
    lastAt? (m :: ms) parts =
      (lastAt? ms parts).or (if writtenParts m.name = parts then some m else none) := by
  unfold lastAt?
  rw [List.reverse_cons, List.find?_append, List.find?_singleton]
  simp only [beq_iff_eq]

/-- The member written last at a place is written there. -/
theorem writtenParts_lastAt? (h : lastAt? ms parts = some last) :
    writtenParts last.name = parts := by
  have htest := List.find?_some h
  rwa [beq_iff_eq] at htest

/-- The member that stands for a name bears it. -/
theorem name_lastNamed (all : List Member) (m : Member) : (lastNamed all m).name = m.name := by
  unfold lastNamed
  cases hfind : all.reverse.find? fun other => other.name == m.name with
  | none => rfl
  | some other =>
    have htest := List.find?_some hfind
    rwa [beq_iff_eq] at htest

/-- What is found first by a test is found first by a stricter test that it passes. -/
theorem find?_of_imp {α : Type} {loose strict : α → Bool} {xs : List α} {x : α}
    (himp : ∀ y, strict y = true → loose y = true) (h : xs.find? loose = some x)
    (hx : strict x = true) : xs.find? strict = some x := by
  induction xs with
  | nil => cases h
  | cons y ys ih =>
    rw [List.find?_cons] at h ⊢
    cases hloose : loose y with
    | true =>
      rw [hloose] at h
      cases h
      rw [hx]
    | false =>
      have hstrict : strict y = false :=
        Bool.eq_false_iff.2 fun hy => Bool.eq_false_iff.1 hloose (himp y hy)
      rw [hloose] at h
      rw [hstrict]
      exact ih h

/-- The member that is written last at its place is the last one of its name. -/
theorem lastNamed_lastAt? (h : lastAt? all parts = some last) : lastNamed all last = last := by
  have hparts := writtenParts_lastAt? h
  have hfind : all.reverse.find? (fun other => other.name == last.name) = some last := by
    refine find?_of_imp ?_ h (beq_self_eq_true _)
    intro other hname
    rw [beq_iff_eq] at hname ⊢
    rw [hname, hparts]
  unfold lastNamed
  rw [hfind]
  rfl

/-- Members are written when the first one is written and then the others. -/
theorem run_writeMembers_cons
    (h : (writeMembers host place b all (m :: ms)).run tree = (.ok (), after)) :
    ∃ next, (writeMember host place b (lastNamed all m)).run tree = (.ok (), next) ∧
      (writeMembers host place b all ms).run next = (.ok (), after) := by
  unfold writeMembers at h
  rw [run_bind_eq_ok_iff] at h
  obtain ⟨_, next, hfirst, hrest⟩ := h
  exact ⟨next, hfirst, hrest⟩

/-- What is kept when one member is written is kept when several are. -/
theorem keeps_writeMembers {good : Entry → Prop} {bad : UnpackError → Entry → Prop}
    (h : ∀ m ∈ ms, Keeps good bad (writeMember host place b (lastNamed all m))) :
    Keeps good bad (writeMembers host place b all ms) := by
  induction ms with
  | nil => exact .pure _
  | cons m ms ih =>
    obtain ⟨hfirst, hrest⟩ := List.forall_mem_cons.1 h
    exact hfirst.bind fun _ => ih hrest

/-- What no member is written to stays as it is. -/
theorem stillAt_writeMembers {e : Entry} (hnone : lastAt? ms parts = none) :
    Keeps (StillAt parts e) (fun _ => StillAt parts e) (writeMembers host place b all ms) := by
  unfold lastAt? at hnone
  rw [List.find?_eq_none] at hnone
  refine keeps_writeMembers fun m hm => stillAt_writeMember ?_
  rw [name_lastNamed]
  rintro rfl
  exact hnone m (List.mem_reverse.2 hm) (beq_self_eq_true _)

/-- At every place that members are written to lies the last one of them. -/
theorem holds_writeMembers (h : (writeMembers host place b all ms).run tree = (.ok (), after))
    (hlast : lastAt? ms parts = some last) : Holds host b after (lastNamed all last) := by
  induction ms generalizing tree with
  | nil => cases hlast
  | cons m ms ih =>
    obtain ⟨next, hwrite, hrest⟩ := run_writeMembers_cons h
    rw [lastAt?_cons] at hlast
    cases hlater : lastAt? ms parts with
    | some later =>
      rw [hlater, Option.some_or] at hlast
      exact ih hrest (hlater.trans hlast)
    | none =>
      rw [hlater, Option.none_or] at hlast
      split at hlast
      · rename_i hparts
        cases hlast
        -- No later member is written to this place, so the first one stays.
        apply (holds_writeMember hwrite).of_stillAt
        intro e he
        rw [name_lastNamed, hparts] at he ⊢
        exact (stillAt_writeMembers hlater).of_run_eq_ok he hrest
      · cases hlast

/-- In the place of each member that is written is an entry of its kind. -/
theorem kindAt_of_mem (h : (writeMembers host place b all ms).run tree = (.ok (), after))
    (hm : m ∈ ms) : KindAt (writtenParts m.name) m.isFolder after := by
  induction ms generalizing tree with
  | nil => cases hm
  | cons first ms ih =>
    obtain ⟨next, hwrite, hrest⟩ := run_writeMembers_cons h
    obtain rfl | hmem := List.mem_cons.1 hm
    · have hkind := (holds_writeMember hwrite).kindAt
      have hfolder : (lastNamed all m).isFolder = m.isFolder := by
        unfold Member.isFolder
        rw [name_lastNamed]
      rw [name_lastNamed, hfolder] at hkind
      exact (keeps_writeMembers fun _ _ => kindAt_writeMember).of_run_eq_ok hkind hrest
    · exact ih hrest hmem

end Members

/-- No name in an archive leads out of a folder, and the folder holds every member: where several
are written to one place they are all folders or all files, and there is the last one of them. -/
def HoldsAll (host : Host) (place : Place) (b : ByteArray) (folder : Entry) : Prop :=
  ∃ members, membersOf b = .ok members ∧ ∀ m ∈ members,
    leadsBelow host.links place m.name = .ok true ∧
    ∃ last, lastAt? members (writtenParts m.name) = some last ∧ last.isFolder = m.isFolder ∧
      Holds host b folder last

/-- A name is no reason to refuse when it leads below the place. -/
theorem checkName_eq_ok_iff {links : Links} {place : Place} {m : Member} :
    checkName links place m = .ok () ↔ leadsBelow links place m.name = .ok true := by
  unfold checkName
  cases leadsBelow links place m.name with
  | error fault => exact iff_of_false nofun nofun
  | ok isBelow => cases isBelow <;> simp

/-- Names are looked at to the end when each of them leads below the place. -/
theorem checkNames_eq_ok_iff {links : Links} {place : Place} {ms : List Member} :
    checkNames links place ms = .ok () ↔ ∀ m ∈ ms, leadsBelow links place m.name = .ok true := by
  induction ms with
  | nil => exact iff_of_true rfl nofun
  | cons m ms ih =>
    rw [List.forall_mem_cons, ← checkName_eq_ok_iff, ← ih, checkNames, bind_eq_ok_iff]
    exact ⟨fun ⟨_, hfirst, hrest⟩ => ⟨hfirst, hrest⟩, fun ⟨hfirst, hrest⟩ => ⟨(), hfirst, hrest⟩⟩

/-- An archive is unpacked when all names in it lead below the place and its members are written. -/
theorem extract_eq_ok {host : Host} {place : Place} {b : ByteArray} {folder : Entry}
    (h : (extract host place b).run .empty = (.ok (), folder)) :
    ∃ members, membersOf b = .ok members ∧ checkNames host.links place members = .ok () ∧
      (writeMembers host place b members members).run .empty = (.ok (), folder) := by
  unfold extract at h
  cases hmembers : membersOf b with
  | error e =>
    rw [hmembers] at h
    cases h
  | ok members =>
    rw [hmembers] at h
    dsimp only at h
    cases hnames : checkNames host.links place members with
    | error e =>
      rw [hnames] at h
      cases h
    | ok _ =>
      rw [hnames] at h
      exact ⟨members, rfl, hnames, h⟩

/-- When an archive is unpacked, the folder holds every member. -/
theorem extract_holdsAll {host : Host} {place : Place} {b : ByteArray} {folder : Entry}
    (h : (extract host place b).run .empty = (.ok (), folder)) : HoldsAll host place b folder := by
  obtain ⟨members, hmembers, hnames, hwrite⟩ := extract_eq_ok h
  refine ⟨members, hmembers, fun m hm => ⟨checkNames_eq_ok_iff.1 hnames m hm, ?_⟩⟩
  cases hlast : lastAt? members (writtenParts m.name) with
  | none =>
    unfold lastAt? at hlast
    rw [List.find?_eq_none] at hlast
    exact absurd (beq_self_eq_true _) (hlast m (List.mem_reverse.2 hm))
  | some last =>
    have hholds := holds_writeMembers hwrite hlast
    rw [lastNamed_lastAt? hlast] at hholds
    -- Both members have the kind of the entry that lies in their place.
    obtain ⟨e, hplace, hkind⟩ := kindAt_of_mem hwrite hm
    obtain ⟨e', hplace', hkind'⟩ := hholds.kindAt
    rw [writtenParts_lastAt? hlast, hplace] at hplace'
    cases hplace'
    exact ⟨last, rfl, hkind'.symm.trans hkind, hholds⟩

end Archive

end StructureGrader
