import StructureGrader.Proofs.Archive.Unpacked
import StructureGrader.Proofs.Files.Links
import StructureGrader.Proofs.Files.Scratch

/-!
# Names that lead out of a folder

Before anything of an archive is written, each name is followed as a path from the folder, through
the symbolic links of the machine, and what it leads to has to lie strictly below the folder
(`LeadsBelow`). The check compares texts, and for a folder as it is made for an archive that is
enough (`leadsBelow_eq_true_iff`): the slash behind the folder tells it from others whose names go
on.

On a path without links it is the text alone that decides (`StaysBelow`), and a name that at no
point leads upwards out of the folder meets none (`keepsInside_spares`). Elsewhere the two may part,
both ways (`text_not_decisive`).

The members of an archive are written when all names lead below, and then no name is a reason to fail
(`blamesNoName_writeMembers`); else nothing is written (`extract_confined`).
-/

namespace StructureGrader

namespace Archive

variable {links : Links} {place : Place} {name : String}

/-! ## A folder for an archive -/

/-- A folder as it is made for an archive: the components of its place name entries, and no link
stands there, above or below. -/
structure IsFresh (links : Links) (place : Place) : Prop where
  canonical : place.Canonical
  ne_root : place ≠ []
  above : ∀ link ∈ links, ¬ link.1 <+: place
  below : ∀ link ∈ links, ¬ place <+: link.1

/-- A name leads to a place strictly below the folder once links are followed. -/
def LeadsBelow (links : Links) (place : Place) (name : String) : Prop :=
  ∃ a part rest, links.resolve (place.textOf name) = .ok a ∧ a.front = "" ∧
    a.place = place ++ part :: rest

/-- The text of the path to a name comes to a place strictly below the folder. -/
def StaysBelow (place : Place) (name : String) : Prop :=
  ∃ part rest, Path.NormalizesTo (place.textOf name) (place ++ part :: rest)

section Fresh

variable (h : IsFresh links place)

include h

/-- No link stands at the folder, above or below. -/
theorem IsFresh.at?_eq_none {other : Place} (hother : other <+: place ∨ place <+: other) :
    links.at? other = none := by
  have hfind : (links.find? fun link => link.1 == other) = none := by
    rw [List.find?_eq_none]
    intro link hlink heq
    rw [beq_iff_eq] at heq
    obtain habove | hbelow := hother
    · exact h.above link hlink (heq ▸ habove)
    · exact h.below link hlink (heq ▸ hbelow)
  rw [Links.at?, hfind, Option.map_none]

/-- The way down to the folder meets no link. -/
theorem IsFresh.visited_append (here front : Place) (pieces : List String)
    (hplace : place = here ++ front) : ∀ other ∈ Links.visited here (front ++ pieces),
      links.at? other = none ∨ other ∈ Links.visited place pieces := by
  induction front generalizing here with
  | nil =>
    rw [List.append_nil] at hplace
    exact fun other hother => .inr (hplace ▸ hother)
  | cons part front ih =>
    have hpart : Path.IsComponent part :=
      h.canonical part (hplace ▸ List.mem_append_right _ List.mem_cons_self)
    have hnext : place = (here ++ [part]) ++ front := by
      rw [hplace, List.append_assoc, List.singleton_append]
    have hcounts : ¬ (part = "" ∨ part = ".") := not_or.2 ⟨hpart.ne_empty, hpart.ne_dot⟩
    rw [List.cons_append, Links.visited, if_neg hcounts, if_neg hpart.ne_up]
    refine List.forall_mem_cons.2 ⟨.inl ?_, ih _ hnext⟩
    exact h.at?_eq_none (.inl (hnext ▸ List.prefix_append _ _))

/-- The path to the folder leads to it. -/
theorem IsFresh.resolve_text : links.resolve place.text = .ok { place := place } := by
  have hspares : links.Spares place.text := by
    intro other hother
    rw [Place.pieces_text h.canonical] at hother
    have hvisited := h.visited_append [] place [] rfl other
    rw [List.append_nil] at hvisited
    exact (hvisited hother).resolve_right List.not_mem_nil
  have hnormal : (Path.ofText place.text).normal = place := by
    rw [Path.normal, Place.parts_text h.canonical, Path.normalFrom_of_canonical h.canonical]
    rfl
  have hleads := hspares.leadsTo
  rw [hnormal] at hleads
  exact (Links.resolve_settled_iff.2 ⟨rfl, hleads⟩).1

end Fresh

/-! ## The check of a name -/

/-- No component starts with a slash, so a folder is not found behind one more slash. -/
theorem not_text_prefix_slash (hplace : place.Canonical) (hroot : place ≠ []) {s : String}
    (hs : ∀ c ∈ s.toList.head?, c = '/') : ¬ (place.text ++ "/").toList <+: ("/" ++ s).toList := by
  obtain ⟨part, rest, rfl⟩ := List.exists_cons_of_ne_nil hroot
  have hpart := hplace part List.mem_cons_self
  obtain ⟨c, cs, hchars⟩ := List.exists_cons_of_ne_nil
    (fun h => hpart.ne_empty (String.toList_eq_nil_iff.1 h))
  have hslash : c ≠ '/' := by
    have hnotMem := hpart.slash_notMem
    rw [hchars, List.mem_cons, not_or] at hnotMem
    exact Ne.symm hnotMem.1
  rw [String.toList_append, String.toList_append, Place.toList_text_cons, hchars]
  intro hprefix
  obtain ⟨more, hmore⟩ : c :: (cs ++ (Place.text rest).toList) ++ "/".toList <+: s.toList :=
    (List.cons_prefix_cons.1 hprefix).2
  rw [← hmore] at hs
  exact hslash (hs c rfl)

/-- The text of a place that can be written down starts with that of a folder and a slash where it
lies strictly below the folder. -/
theorem text_prefix_text_iff (h : IsFresh links place) {a : Arrival} (ha : Links.Plain a) :
    (place.text ++ "/").toList <+: a.text.toList ↔
      a.front = "" ∧ ∃ part rest, a.place = place ++ part :: rest := by
  have hroot (s : String) (hs : ∀ c ∈ s.toList.head?, c = '/') :=
    not_text_prefix_slash h.canonical h.ne_root hs
  have hhead : ∀ c ∈ (if a.place.isEmpty then "/" else a.place.text).toList.head?, c = '/' := by
    split
    · exact fun c hc => (Option.some.inj hc).symm
    · exact Place.head?_toList_text a.place
  unfold Arrival.text
  obtain hfront | hfront := ha.front
  · rw [hfront, String.empty_append, and_iff_right rfl]
    cases hplace : a.place with
    | nil => exact iff_of_false (hroot "" nofun) (by simp)
    | cons part rest =>
      rw [← hplace, if_neg (by rw [hplace]; exact Bool.false_ne_true)]
      exact Place.text_prefix_iff h.canonical ha.canonical
  · rw [hfront]
    exact iff_of_false (hroot _ hhead) fun hempty => absurd hempty.1 (by decide)

/-- The comparison of texts lets exactly the names pass that lead to a place below the folder. -/
theorem leadsBelow_eq_true_iff (h : IsFresh links place) :
    leadsBelow links place name = .ok true ↔ LeadsBelow links place name := by
  have hbase : Arrival.text { place := place } = place.text := by
    rw [Arrival.text, String.empty_append, if_neg (by simpa using h.ne_root)]
  unfold leadsBelow LeadsBelow
  rw [h.resolve_text]
  cases htarget : links.resolve (place.textOf name) with
  | error fault => exact iff_of_false nofun (fun ⟨_, _, _, heq, _⟩ => by cases heq)
  | ok a =>
    have hverdict := text_prefix_text_iff h (Links.plain_of_resolve htarget)
    rw [← hbase] at hverdict
    constructor
    · intro heq
      obtain ⟨hfront, part, rest, hplace⟩ :=
        hverdict.1 (List.isPrefixOf_iff_prefix.1 (Except.ok.inj heq))
      exact ⟨a, part, rest, rfl, hfront, hplace⟩
    · rintro ⟨b, part, rest, heq, hfront, hplace⟩
      rw [Except.ok.injEq] at heq
      subst heq
      exact congrArg Except.ok
        (List.isPrefixOf_iff_prefix.2 (hverdict.2 ⟨hfront, part, rest, hplace⟩))

/-- Where the path to a name leads to a place, it is for that place to be below the folder. -/
theorem leadsBelow_iff_of_leadsTo {there : Place}
    (h : links.LeadsTo (place.textOf name) there) :
    LeadsBelow links place name ↔ ∃ part rest, there = place ++ part :: rest := by
  obtain ⟨hresolve, -⟩ := Links.resolve_settled_iff (a := { place := there }).2 ⟨rfl, h⟩
  constructor
  · rintro ⟨a, part, rest, heq, -, hplace⟩
    rw [hresolve, Except.ok.injEq] at heq
    rw [← heq] at hplace
    exact ⟨part, rest, hplace⟩
  · rintro ⟨part, rest, hplace⟩
    exact ⟨_, part, rest, hresolve, rfl, hplace⟩

/-- On a path without links the text decides. -/
theorem leadsBelow_iff_staysBelow (h : links.Spares (place.textOf name)) :
    LeadsBelow links place name ↔ StaysBelow place name := by
  rw [leadsBelow_iff_of_leadsTo h.leadsTo, StaysBelow]
  simp only [Path.normalizesTo_iff, eq_comm]

/-! ## Names that never leave -/

/-- Pieces that at no point lead further up than `depth` components. -/
def keepsInside : Nat → List String → Bool
  | _, [] => true
  | depth, piece :: pieces =>
    if piece = "" ∨ piece = "." then keepsInside depth pieces
    else if piece = ".." then depth != 0 && keepsInside (depth - 1) pieces
    else keepsInside (depth + 1) pieces

/-- A path that never leaves a folder comes by nothing else. -/
theorem prefix_of_keepsInside {pieces : List String} (more : Place)
    (h : keepsInside more.length pieces = true) :
    ∀ other ∈ Links.visited (place ++ more) pieces, place <+: other := by
  induction pieces generalizing more with
  | nil => exact fun _ => nofun
  | cons piece pieces ih =>
    rw [keepsInside] at h
    rw [Links.visited]
    by_cases hempty : piece = "" ∨ piece = "."
    · rw [if_pos hempty] at h ⊢
      exact ih more h
    · rw [if_neg hempty] at h ⊢
      by_cases hup : piece = ".."
      · rw [if_pos hup, Bool.and_eq_true, bne_iff_ne] at h
        rw [if_pos hup]
        have hmore : more ≠ [] := fun hnil => h.1 (by rw [hnil]; rfl)
        rw [List.dropLast_append_of_ne_nil hmore]
        refine ih more.dropLast ?_
        rw [List.length_dropLast]
        exact h.2
      · rw [if_neg hup] at h ⊢
        rw [List.append_assoc]
        refine List.forall_mem_cons.2 ⟨List.prefix_append _ _, ih (more ++ [piece]) ?_⟩
        rw [List.length_append]
        exact h

/-- A name that at no point leads out of the folder meets no link. -/
theorem keepsInside_spares (h : IsFresh links place) (hrelative : name.toList.head? ≠ some '/')
    (hinside : keepsInside 0 (Path.pieces name) = true) : links.Spares (place.textOf name) := by
  have htext : place.textOf name = place.text ++ "/" ++ name := by
    rw [Place.textOf, if_neg (by simpa using hrelative)]
  intro other hother
  rw [htext, Path.pieces_append_slash, Place.pieces_text h.canonical] at hother
  obtain hnone | hbelow := h.visited_append [] place (Path.pieces name) rfl other hother
  · exact hnone
  · refine h.at?_eq_none (.inr (prefix_of_keepsInside [] hinside other ?_))
    rwa [List.append_nil]

/-! ## Failures that no name is blamed for -/

section Blame

variable {α β : Type}

/-- A step that does not fail because of where a name leads. -/
def BlamesNoName (x : Except UnpackError α) : Prop :=
  ∀ name, x ≠ .error (.refused (.escapes name))

/-- A step that goes well blames no name. -/
theorem blamesNoName_ok (a : α) : BlamesNoName (.ok a) := nofun

/-- A failure that nobody foresaw blames no name. -/
theorem blamesNoName_failed (fault : ArchiveFault) : BlamesNoName (failed fault : Except _ α) := nofun

/-- To find the structure of an archive broken is to blame no name. -/
theorem blamesNoName_malformed (rule : Malformed) : BlamesNoName (malformed rule : Except _ α) := nofun

/-- Two steps in a row blame no name if neither of them does. -/
theorem BlamesNoName.bind {x : Except UnpackError α} {f : α → Except UnpackError β}
    (hx : BlamesNoName x) (hf : ∀ a, BlamesNoName (f a)) : BlamesNoName (x >>= f) := by
  cases x with
  | ok a => exact hf a
  | error e =>
    intro name heq
    cases heq
    exact hx name rfl

/-- A choice between two steps blames no name if neither of them does. -/
theorem BlamesNoName.ite {c : Prop} [Decidable c] {x y : Except UnpackError α} (hx : BlamesNoName x)
    (hy : BlamesNoName y) : BlamesNoName (if c then x else y) := by
  split
  · exact hx
  · exact hy

/-- To read a name may fail for its bytes, not for where it leads. -/
theorem blamesNoName_nameOf (flags : Nat) (bytes : ByteArray) : BlamesNoName (nameOf flags bytes) := by
  unfold nameOf
  refine .ite ?_ (blamesNoName_ok _)
  split
  · exact blamesNoName_ok _
  · exact blamesNoName_failed _

/-- To open a member fails for its header, never for its name. -/
theorem blamesNoName_dataStart (seekLimit : Nat) (b : ByteArray) (m : Member) :
    BlamesNoName (dataStart seekLimit b m) := by
  have hopened (i : Nat) : BlamesNoName (openedAt b m i) := by
    unfold openedAt
    refine .ite (blamesNoName_malformed _) (.ite (blamesNoName_malformed _)
      (.ite (blamesNoName_failed _) (.ite (blamesNoName_failed _) ?_)))
    refine (blamesNoName_nameOf _ _).bind fun name => ?_
    exact .ite (blamesNoName_malformed _) (.ite (blamesNoName_malformed _)
      (.ite (blamesNoName_failed _) (.ite (blamesNoName_failed _) (blamesNoName_ok _))))
  exact .ite (blamesNoName_failed _) (.ite (blamesNoName_failed _) (hopened _))

/-- To read a member fails for its data, never for its name. -/
theorem blamesNoName_memberBytes (b : ByteArray) (m : Member) (start : Nat) :
    BlamesNoName (memberBytes b m start).2 := by
  unfold memberBytes
  dsimp only
  split
  · exact blamesNoName_failed _
  · exact .ite (blamesNoName_ok _) (blamesNoName_malformed _)

/-- A part of writing whose failures no name is blamed for. -/
abbrev Blameless (w : Writing) : Prop :=
  Keeps (fun _ => True) (fun e _ => BlamesNoName (.error e : Except UnpackError Unit)) w

/-- A part that writes nothing fails only as its result says. -/
theorem blameless_of {result : Except UnpackError Unit} (h : BlamesNoName result) :
    Blameless (Writing.of result) := by
  refine ⟨fun _ _ => ?_⟩
  cases result with
  | ok _ => trivial
  | error e => exact h

/-- Something that cannot be written fails for the files in the way. -/
theorem blameless_writeAt (place : Place) (write : Option Entry → Except FileError Entry)
    (parts : List String) : Blameless (writeAt place write parts) :=
  keeps_writeAt (fun _ _ _ => id) fun fault _ _ => blamesNoName_failed fault

/-- Once members are written, no name is a reason to stop. -/
theorem blamesNoName_writeMembers (host : Host) (place : Place) (b : ByteArray) (all ms : List Member)
    (tree : Entry) : BlamesNoName ((writeMembers host place b all ms).run tree).1 := by
  have hmember (m : Member) : Blameless (writeMember host place b m) :=
    keeps_writeMember (fun _ => blameless_writeAt _ _ _) (fun _ => blameless_writeAt _ _ _)
      (fun error herror => blameless_of fun name heq =>
        blamesNoName_dataStart host.seekLimit b m name (by rw [herror, Except.error.inj heq]))
      fun start => blameless_of (blamesNoName_memberBytes b m start)
  have hmembers : Blameless (writeMembers host place b all ms) :=
    keeps_writeMembers fun m _ => hmember (lastNamed all m)
  have hrun := hmembers.run tree trivial
  generalize (writeMembers host place b all ms).run tree = ran at hrun ⊢
  obtain ⟨_ | _, after⟩ := ran
  · exact hrun
  · exact blamesNoName_ok ()

end Blame

/-! ## The check of an archive -/

section Extract

variable {host : Host} {b : ByteArray} {members : List Member} {e : UnpackError}

/-- Names are looked at up to the first one that is a reason to stop. -/
theorem checkNames_eq_error (h : checkNames links place members = .error e) :
    ∃ before m after, members = before ++ m :: after ∧ checkName links place m = .error e ∧
      ∀ m' ∈ before, leadsBelow links place m'.name = .ok true := by
  induction members with
  | nil => cases h
  | cons first rest ih =>
    cases hfirst : checkName links place first with
    | error e' =>
      rw [checkNames, hfirst] at h
      cases h
      exact ⟨[], first, rest, rfl, hfirst, List.forall_mem_nil _⟩
    | ok _ =>
      rw [checkNames, hfirst] at h
      obtain ⟨before, m, after, rfl, hm, hbefore⟩ := ih h
      exact ⟨first :: before, m, after, rfl, hm,
        List.forall_mem_cons.2 ⟨checkName_eq_ok_iff.1 hfirst, hbefore⟩⟩

/-- Why a name is a reason to stop: it leads somewhere else, or a link on its path cannot be read.
-/
theorem checkName_eq_error (h : IsFresh links place) {m : Member}
    (hname : checkName links place m = .error e) :
    e = .refused (.escapes m.name) ∧ (∃ a, links.resolve (place.textOf m.name) = .ok a) ∨
      ∃ fault link, links.resolve (place.textOf m.name) = .error (fault, link) ∧
        e = .failed (.file fault link.text) := by
  unfold checkName leadsBelow at hname
  rw [h.resolve_text] at hname
  cases htarget : links.resolve (place.textOf m.name) with
  | error fault =>
    rw [htarget] at hname
    cases hname
    exact .inr ⟨fault.1, fault.2, rfl, rfl⟩
  | ok a =>
    rw [htarget] at hname
    refine .inl ⟨?_, a, rfl⟩
    change (if _ then _ else _) = _ at hname
    split at hname
    · cases hname
    · cases hname
      rfl

/-- What becomes of an archive with members in a folder for it. -/
inductive Extraction (host : Host) (place : Place) (b : ByteArray) (members : List Member) : Prop
  /-- All names lead below, the members are written, and no name is a reason to fail. -/
  | written (below : ∀ m ∈ members, LeadsBelow host.links place m.name)
      (extracted : extract host place b = writeMembers host place b members members)
      (blameless : BlamesNoName ((extract host place b).run .empty).1)
  /-- The archive is refused for the first name that leads somewhere else. Nothing is written, and
  nothing of the folder is kept. -/
  | refused {before after : List Member} {m : Member} {a : Arrival}
      (split : members = before ++ m :: after)
      (below : ∀ m' ∈ before, LeadsBelow host.links place m'.name)
      (resolved : host.links.resolve (place.textOf m.name) = .ok a)
      (out : ¬ LeadsBelow host.links place m.name)
      (extracted : (extract host place b).run .empty = (.error (.refused (.escapes m.name)), .empty))
      (unpacked : ∀ (s new : Scratch) (around : Place) (endings : Nat → String),
        s.newFolder? around "grader_" endings = some (place, new) →
        s.unpack host around endings (.ok b) = (.error (.unpack (.refused (.escapes m.name))), s))
  /-- A link on the path to a name cannot be read. Nothing is written. -/
  | unreadable {before after : List Member} {m : Member} {fault : FileError} {link : Place}
      (split : members = before ++ m :: after)
      (below : ∀ m' ∈ before, LeadsBelow host.links place m'.name)
      (resolved : host.links.resolve (place.textOf m.name) = .error (fault, link))
      (extracted : (extract host place b).run .empty =
        (.error (.failed (.file fault link.text)), .empty))

/-- For every folder as it is made for an archive, a name passes the check where it leads to a place
strictly below the folder once links are followed. That is the place that its path leads to, if it
leads to any; on a path without links it is the one that the text comes to, and a name that never
leaves the folder meets none. An archive is written, refused or not read by its names alone. -/
theorem extract_confined {host : Host} (h : IsFresh host.links place) :
    (∀ name, leadsBelow host.links place name = .ok true ↔ LeadsBelow host.links place name) ∧
    (∀ name there, host.links.LeadsTo (place.textOf name) there →
      (LeadsBelow host.links place name ↔ ∃ part rest, there = place ++ part :: rest)) ∧
    (∀ name, host.links.Spares (place.textOf name) →
      (LeadsBelow host.links place name ↔ StaysBelow place name)) ∧
    (∀ name, name.toList.head? ≠ some '/' → keepsInside 0 (Path.pieces name) = true →
      host.links.Spares (place.textOf name)) ∧
    ∀ b members, membersOf b = .ok members → Extraction host place b members := by
  refine ⟨fun name => leadsBelow_eq_true_iff h, fun name there => leadsBelow_iff_of_leadsTo,
    fun name => leadsBelow_iff_staysBelow, fun name => keepsInside_spares h, ?_⟩
  intro b members hmembers
  cases hnames : checkNames host.links place members with
  | ok _ =>
    have hextract : extract host place b = writeMembers host place b members members := by
      simp only [extract, hmembers, hnames]
    refine .written ?_ hextract ?_
    · exact fun m hm => (leadsBelow_eq_true_iff h).1 (checkNames_eq_ok_iff.1 hnames m hm)
    · rw [hextract]
      exact blamesNoName_writeMembers host place b members members .empty
  | error e =>
    have hextract : (extract host place b).run .empty = (.error e, .empty) := by
      simp only [extract, hmembers, hnames]
      rfl
    -- The first name that fails the check either leads out of the folder or cannot be followed.
    obtain ⟨before, m, after, hsplit, hm, hpassed⟩ := checkNames_eq_error hnames
    have hbefore : ∀ m' ∈ before, LeadsBelow host.links place m'.name :=
      fun m' hm' => (leadsBelow_eq_true_iff h).1 (hpassed m' hm')
    obtain ⟨rfl, a, hresolved⟩ | ⟨fault, link, hresolved, rfl⟩ := checkName_eq_error h hm
    · refine .refused hsplit hbefore hresolved ?_ hextract fun s new around endings hmade =>
        Scratch.unpack_of_error hmade hextract
      rw [← leadsBelow_eq_true_iff h, ← checkName_eq_ok_iff, hm]
      exact nofun
    · exact .unreadable hsplit hbefore hresolved hextract

end Extract

/-! ## Archives of empty members -/

/-- A number in so many bytes, the lowest one first. -/
def numberBytes (n : Nat) : Nat → List UInt8
  | 0 => []
  | width + 1 => UInt8.ofNat n :: numberBytes (n / 256) width

/-- The header of an empty member. -/
def emptyHeader (name : List UInt8) : List UInt8 :=
  numberBytes headerMark 4 ++ numberBytes 20 2 ++ numberBytes 0 20 ++ numberBytes name.length 2 ++
    numberBytes 0 2 ++ name

/-- The directory entry of an empty member that asks for a version, with its header at an offset. -/
def emptyEntry (name : List UInt8) (version offset : Nat) : List UInt8 :=
  numberBytes 0x02014B50 4 ++ numberBytes 20 2 ++ numberBytes version 2 ++ numberBytes 0 20 ++
    numberBytes name.length 2 ++ numberBytes 0 12 ++ numberBytes offset 4 ++ name

/-- An archive of empty members: their names, and the version that each of them asks for. -/
def emptyMembers (members : List (String × Nat)) : ByteArray :=
  let (headers, entries) := members.foldl (fun (headers, entries) (name, version) =>
    let bytes := name.toUTF8.data.toList
    (headers ++ emptyHeader bytes, entries ++ emptyEntry bytes version headers.length)) ([], [])
  ⟨(headers ++ entries ++ numberBytes 0x06054B50 4 ++ numberBytes 0 4 ++
    numberBytes members.length 2 ++ numberBytes members.length 2 ++
    numberBytes entries.length 4 ++ numberBytes headers.length 4 ++ numberBytes 0 2).toArray⟩

/-- A machine on which one folder is a link to another, and one leads back to the root. -/
def linkedHost : Host :=
  { links := [(["bin"], .ok "usr/bin"), (["proc", "self"], .ok "1"), (["proc", "1", "root"], .ok "/")] }

/-- A name that leads to a folder beside the one it is unpacked to, whose name goes on, is refused
and nothing is kept. A name that leads out of the folder and back would lead below it. -/
theorem extract_confined_straying : IsFresh linkedHost.links ["tmp", "grader_"] ∧
    LeadsBelow linkedHost.links ["tmp", "grader_"] "../grader_/B" ∧
    ¬ LeadsBelow linkedHost.links ["tmp", "grader_"] "../grader_1/C" ∧
    (extract linkedHost ["tmp", "grader_"] (emptyMembers [("../grader_1/C", 20)])).run .empty =
      (.error (.refused (.escapes "../grader_1/C")), .empty) ∧
    Scratch.unpack [] linkedHost ["tmp"] (fun _ => "") (.ok (emptyMembers [("../grader_1/C", 20)])) =
      (.error (.unpack (.refused (.escapes "../grader_1/C"))), []) := by
  have hfresh : IsFresh linkedHost.links ["tmp", "grader_"] :=
    ⟨by decide, by decide, by decide, by decide⟩
  obtain ⟨hverdict, -, -, -, hall⟩ := extract_confined hfresh
  have hback : LeadsBelow linkedHost.links ["tmp", "grader_"] "../grader_/B" :=
    (hverdict _).1 (by decide +kernel)
  have hout : ¬ LeadsBelow linkedHost.links ["tmp", "grader_"] "../grader_1/C" := by
    rw [← hverdict]
    decide +kernel
  have hnames : (membersOf (emptyMembers [("../grader_1/C", 20)])).toOption.map
      (List.map Member.name) = some ["../grader_1/C"] := by decide +kernel
  cases hmembers : membersOf (emptyMembers [("../grader_1/C", 20)]) with
  | error e =>
    rw [hmembers] at hnames
    cases hnames
  | ok members =>
    rw [hmembers] at hnames
    obtain ⟨m, rfl, hname⟩ := List.map_eq_singleton_iff.1 (Option.some.inj hnames)
    have hresolved : (linkedHost.links.resolve
        (Place.textOf ["tmp", "grader_"] "../grader_1/C")).isOk = true := by decide +kernel
    have honly {before after : List Member} {m' : Member} (split : [m] = before ++ m' :: after) :
        m' = m :=
      List.mem_singleton.1 (split ▸ List.mem_append_right _ List.mem_cons_self)
    cases hall _ _ hmembers with
    | written below =>
      have hbelow := below m List.mem_cons_self
      rw [hname] at hbelow
      exact absurd hbelow hout
    | refused split below resolved out extracted unpacked =>
      rw [honly split, hname] at extracted unpacked
      exact ⟨hfresh, hback, hout, extracted, unpacked [] _ ["tmp"] (fun _ => "") rfl⟩
    | unreadable split below resolved =>
      rw [honly split, hname] at resolved
      rw [resolved] at hresolved
      cases hresolved

/-- The text of a path alone does not decide: one name that stays below by its text is refused, as
its path leads through a link to another folder, and one that leads out by its text is unpacked, as
its path leads back. Nor is an archive always refused for a name that leads out: what its directory
asks for may not be supported. -/
theorem text_not_decisive :
    IsFresh linkedHost.links ["tmp", "d"] ∧
    (StaysBelow ["tmp", "d"] "/bin/../tmp/d/A" ∧
      ((extract linkedHost ["tmp", "d"] (emptyMembers [("/bin/../tmp/d/A", 20)])).run .empty).1 =
        .error (.refused (.escapes "/bin/../tmp/d/A"))) ∧
    (¬ StaysBelow ["tmp", "d"] "/proc/self/root/tmp/d/A" ∧
      ((extract linkedHost ["tmp", "d"] (emptyMembers [("/proc/self/root/tmp/d/A", 20)])).run .empty).1 =
        .ok ()) ∧
    ¬ StaysBelow ["tmp", "d"] "../x" ∧
      ((extract linkedHost ["tmp", "d"] (emptyMembers [("../x", 20), ("B", 99)])).run .empty).1 =
        .error (.failed (.unsupported (.version 99))) := by
  have hfresh : IsFresh linkedHost.links ["tmp", "d"] :=
    ⟨by decide, by decide, by decide, by decide⟩
  have hout : ∀ name first second rest, (Path.ofText (Place.textOf ["tmp", "d"] name)).normal =
      first :: second :: rest → (first ≠ "tmp" ∨ second ≠ "d") → ¬ StaysBelow ["tmp", "d"] name := by
    rintro name first second rest hnormal hne ⟨part, more, hcomes⟩
    rw [Path.normalizesTo_iff, hnormal, List.cons_append, List.cons_append, List.cons.injEq,
      List.cons.injEq] at hcomes
    exact hne.elim (· hcomes.1.symm) (· hcomes.2.1.symm)
  refine ⟨hfresh, ⟨⟨"A", [], Path.normalizesTo_iff.2 (by decide +kernel)⟩, by decide +kernel⟩,
    ⟨?_, by decide +kernel⟩, ?_, by decide +kernel⟩
  · exact hout _ "proc" "self" ["root", "tmp", "d", "A"] (by decide +kernel) (.inl (by decide))
  · exact hout _ "tmp" "x" [] (by decide +kernel) (.inr (by decide))

end Archive

end StructureGrader
