import StructureGrader.Files.Path
import StructureGrader.Proofs.Text.Occurrence
import Mathlib.Logic.Relation

/-!
# Places and the texts of paths

The components of a path are the stretches of its text between slashes that say something, and the
stretches of two texts with a slash in between are those of the first and then those of the second
(`Path.pieces_append_slash`). A place whose components all name entries is read off its text again
(`Place.parts_text`), and lies strictly below another one where the text of that with a slash starts
its own text (`Place.text_prefix_iff`).

By its text alone a path from the root can be made shorter until it is the text of such a place: what
says nothing is dropped, and a double dot takes a component back (`Path.Shortens`). In whatever order
that is done, it comes to one place (`Path.normalizesTo_iff`).
-/

namespace StructureGrader

namespace Path

/-- A component that names an entry of a folder. -/
structure IsComponent (part : String) : Prop where
  ne_empty : part ≠ ""
  ne_dot : part ≠ "."
  ne_up : part ≠ ".."
  slash_notMem : '/' ∉ part.toList

instance (part : String) : Decidable (IsComponent part) :=
  decidable_of_iff (part ≠ "" ∧ part ≠ "." ∧ part ≠ ".." ∧ '/' ∉ part.toList)
    ⟨fun h => ⟨h.1, h.2.1, h.2.2.1, h.2.2.2⟩, fun h => ⟨h.1, h.2, h.3, h.4⟩⟩

/-! ## Components of a text -/

variable {part xs ys cs : List Char} {p : String}

/-- At a slash a piece ends. -/
theorem piecesFrom_slash (part cs : List Char) :
    piecesFrom part ('/' :: cs) = part.reverse :: piecesFrom [] cs :=
  rfl

/-- Any other character goes into the piece that is being read. -/
theorem piecesFrom_cons {c : Char} (h : c ≠ '/') (part cs : List Char) :
    piecesFrom part (c :: cs) = piecesFrom (c :: part) cs :=
  if_neg fun heq => h (beq_iff_eq.1 heq)

/-- Characters without slashes belong to the stretch under way. -/
theorem piecesFrom_append_of_notMem (h : '/' ∉ xs) (part ys : List Char) :
    piecesFrom part (xs ++ ys) = piecesFrom (xs.reverse ++ part) ys := by
  induction xs generalizing part with
  | nil => rfl
  | cons x xs ih =>
    rw [List.mem_cons, not_or] at h
    rw [List.cons_append, piecesFrom_cons (Ne.symm h.1), ih h.2, List.reverse_cons, List.append_assoc,
      List.singleton_append]

/-- A text without slashes is one component. -/
theorem piecesFrom_of_notMem (h : '/' ∉ cs) (part : List Char) :
    piecesFrom part cs = [part.reverse ++ cs] := by
  have hpieces := piecesFrom_append_of_notMem h part []
  have hend : piecesFrom (cs.reverse ++ part) [] = [(cs.reverse ++ part).reverse] := rfl
  rwa [List.append_nil, hend, List.reverse_append, List.reverse_reverse] at hpieces

/-- A slash ends a stretch, and the next one starts behind it. -/
theorem piecesFrom_append_slash (part xs ys : List Char) :
    piecesFrom part (xs ++ '/' :: ys) = piecesFrom part xs ++ piecesFrom [] ys := by
  induction xs generalizing part with
  | nil => rfl
  | cons x xs ih =>
    rw [List.cons_append]
    by_cases hx : x = '/'
    · rw [hx, piecesFrom_slash, piecesFrom_slash, ih, List.cons_append]
    · rw [piecesFrom_cons hx, piecesFrom_cons hx, ih]

/-- No piece of a text has a slash in it, where none is in the piece being read. -/
theorem slash_notMem_of_mem_piecesFrom (hpart : '/' ∉ part) :
    ∀ piece ∈ piecesFrom part cs, '/' ∉ piece := by
  induction cs generalizing part with
  | nil =>
    intro piece hpiece
    obtain rfl := List.mem_singleton.1 hpiece
    rwa [List.mem_reverse]
  | cons c cs ih =>
    by_cases hc : c = '/'
    · rw [hc, piecesFrom_slash]
      exact List.forall_mem_cons.2 ⟨by rwa [List.mem_reverse], ih List.not_mem_nil⟩
    · rw [piecesFrom_cons hc]
      refine ih ?_
      rw [List.mem_cons, not_or]
      exact ⟨Ne.symm hc, hpart⟩

/-- No piece of a path's text has a slash in it. -/
theorem slash_notMem_of_mem_pieces {s : String} (h : p ∈ pieces s) : '/' ∉ p.toList := by
  obtain ⟨cs, hcs, rfl⟩ := List.mem_map.1 h
  rw [String.toList_ofList]
  exact slash_notMem_of_mem_piecesFrom List.not_mem_nil cs hcs

/-- Whether a stretch of a text is a component. -/
def counts (piece : String) : Bool :=
  piece != "" && piece != "."

/-- A piece counts where it is neither empty nor a dot. -/
theorem counts_iff : counts p = true ↔ p ≠ "" ∧ p ≠ "." := by
  rw [counts, Bool.and_eq_true, bne_iff_ne, bne_iff_ne]

/-- A piece does not count where it is empty or a dot. -/
theorem not_counts_iff : counts p = false ↔ p = "" ∨ p = "." := by
  rw [← Bool.not_eq_true, counts_iff, not_and_or, not_not, not_not]

/-- A component of a path counts. -/
theorem IsComponent.counts (h : IsComponent p) : counts p = true :=
  counts_iff.2 ⟨h.ne_empty, h.ne_dot⟩

/-- The components of the path a text stands for are its pieces that count. -/
theorem parts_ofText (s : String) : (ofText s).parts = (pieces s).filter counts :=
  rfl

/-- A path has no root where its text starts with no slash. -/
theorem rootOf_eq_empty_iff (s : String) :
    rootOf s = "" ↔ (s.toList.takeWhile (· == '/')).length = 0 := by
  rw [rootOf]
  split
  · rename_i hzero
    exact iff_of_true rfl hzero
  · rename_i htwo
    exact iff_of_false (by decide) fun hzero => absurd (htwo.symm.trans hzero) (by decide)
  · rename_i hzero _
    exact iff_of_false (by decide) hzero

/-- A path starts from the working folder unless its text starts with a slash. -/
theorem isRelative_ofText (s : String) : (ofText s).isRelative = (s.toList.head? != some '/') := by
  have hroot : (ofText s).isRelative = true ↔ (s.toList.takeWhile (· == '/')).length = 0 :=
    beq_iff_eq.trans (rootOf_eq_empty_iff s)
  rw [Bool.eq_iff_iff, hroot, bne_iff_ne]
  cases s.toList with
  | nil => exact iff_of_true rfl nofun
  | cons c cs =>
    rw [List.takeWhile_cons, List.head?_cons, Ne, Option.some_inj]
    by_cases hc : c = '/'
    · rw [if_pos (beq_iff_eq.2 hc)]
      exact iff_of_false nofun (not_not_intro hc)
    · rw [if_neg (beq_iff_eq.not.2 hc)]
      exact iff_of_true rfl hc

/-- The pieces of two texts with a slash between them are those of both. -/
theorem pieces_append_slash (s t : String) : pieces (s ++ "/" ++ t) = pieces s ++ pieces t := by
  have hlist : (s ++ "/" ++ t).toList = s.toList ++ '/' :: t.toList := by
    rw [String.toList_append, String.toList_append, List.append_assoc]
    rfl
  rw [pieces, hlist, piecesFrom_append_slash, List.map_append]
  rfl

/-- The pieces of components joined by slashes are these components. -/
theorem pieces_intercalate {parts : List String} (hne : parts ≠ [])
    (h : ∀ p ∈ parts, '/' ∉ p.toList) : pieces ("/".intercalate parts) = parts := by
  induction parts with
  | nil => exact absurd rfl hne
  | cons p parts ih =>
    obtain ⟨hp, hparts⟩ := List.forall_mem_cons.1 h
    have hfirst : pieces p = [p] := by
      rw [pieces, piecesFrom_of_notMem hp]
      simp
    cases parts with
    | nil => rw [String.intercalate_singleton, hfirst]
    | cons q parts =>
      rw [String.intercalate_cons_of_ne_nil (List.cons_ne_nil q parts), pieces_append_slash, hfirst,
        ih (List.cons_ne_nil q parts) hparts, List.singleton_append]

/-- Components joined by slashes do not start with a slash. -/
theorem head?_intercalate_ne {parts : List String} (hne : parts ≠ [])
    (h : ∀ p ∈ parts, IsComponent p) : ("/".intercalate parts).toList.head? ≠ some '/' := by
  cases parts with
  | nil => exact absurd rfl hne
  | cons p parts =>
    obtain ⟨hp, -⟩ := List.forall_mem_cons.1 h
    obtain ⟨rest, htext⟩ : ∃ rest, "/".intercalate (p :: parts) = p ++ rest := by
      cases parts with
      | nil => exact ⟨"", by simp⟩
      | cons q parts =>
        exact ⟨_, by rw [String.intercalate_cons_of_ne_nil (List.cons_ne_nil q parts),
          String.append_assoc]⟩
    rw [htext, String.toList_append]
    cases hlist : p.toList with
    | nil => exact absurd (String.toList_eq_nil_iff.1 hlist) hp.ne_empty
    | cons c cs =>
      have hslash := hp.slash_notMem
      rw [hlist, List.mem_cons, not_or] at hslash
      rw [List.cons_append, List.head?_cons]
      exact fun heq => hslash.1 (Option.some.inj heq).symm

/-- Components with slashes between them are the text of their path. -/
theorem ofText_intercalate {parts : List String} (hne : parts ≠ [])
    (h : ∀ p ∈ parts, IsComponent p) : ofText ("/".intercalate parts) = ⟨"", parts⟩ := by
  have hrelative := isRelative_ofText ("/".intercalate parts)
  rw [bne_iff_ne.2 (head?_intercalate_ne hne h)] at hrelative
  have hparts : (ofText ("/".intercalate parts)).parts = parts := by
    rw [parts_ofText, pieces_intercalate hne fun p hp => (h p hp).slash_notMem]
    exact List.filter_eq_self.2 fun p hp => (h p hp).counts
  have hroot : (ofText ("/".intercalate parts)).root = "" := beq_iff_eq.1 hrelative
  calc ofText ("/".intercalate parts)
      = ⟨(ofText ("/".intercalate parts)).root, (ofText ("/".intercalate parts)).parts⟩ := rfl
    _ = ⟨"", parts⟩ := by rw [hroot, hparts]

end Path

/-! ## Places -/

namespace Place

/-- A place each component of which names an entry. -/
def Canonical (place : Place) : Prop :=
  ∀ part ∈ place, Path.IsComponent part

instance (place : Place) : Decidable place.Canonical :=
  List.decidableBAll _ _

variable {place target : Place} {part : String}

/-- Components lead from a place to what they name below it. -/
theorem join_intercalate {parts : List String} (hne : parts ≠ []) (h : Canonical parts)
    (place : Place) : place.join ("/".intercalate parts) = place ++ parts := by
  unfold join
  rw [Path.ofText_intercalate hne h]
  exact if_pos rfl

/-- A component leads to the entry of that name. -/
theorem join_component (h : Path.IsComponent part) (place : Place) :
    place.join part = place ++ [part] := by
  have hjoin := join_intercalate (List.cons_ne_nil part []) (List.forall_mem_singleton.2 h) place
  rwa [String.intercalate_singleton] at hjoin

/-- What comes behind the first name of a canonical place is canonical. -/
theorem Canonical.tail (h : Canonical (part :: place)) : place.Canonical :=
  (List.forall_mem_cons.1 h).2

/-- The text of a place is a slash, its first name and the text of the rest. -/
theorem toList_text_cons (part : String) (place : Place) :
    (text (part :: place)).toList = '/' :: (part.toList ++ place.text.toList) := by
  rw [text, List.map_cons, String.join_cons, String.toList_append, String.toList_append]
  rfl

/-- The text of a place starts with a slash if there is any. -/
theorem head?_toList_text (place : Place) : ∀ c ∈ place.text.toList.head?, c = '/' := by
  cases place with
  | nil => exact nofun
  | cons part place =>
    rw [toList_text_cons]
    exact fun c hc => (Option.some.inj hc).symm

/-- The text of a place with a slash behind it starts with a slash. -/
theorem exists_toList_text_slash (place : Place) :
    ∃ xs, place.text.toList ++ ['/'] = '/' :: xs := by
  cases place with
  | nil => exact ⟨[], rfl⟩
  | cons part place =>
    rw [toList_text_cons]
    exact ⟨_, rfl⟩

/-- The text of a place starts with a slash, and its components follow. -/
theorem pieces_text (h : place.Canonical) : Path.pieces place.text = "" :: place := by
  have hpieces : ∀ part, Path.piecesFrom part place.text.toList =
      part.reverse :: place.map String.toList := by
    induction place with
    | nil => exact fun part => rfl
    | cons p place ih =>
      intro part
      have hp := (h p List.mem_cons_self).slash_notMem
      rw [toList_text_cons, Path.piecesFrom_slash, Path.piecesFrom_append_of_notMem hp, ih h.tail,
        List.append_nil, List.reverse_reverse]
      rfl
  have htexts : (place.map String.toList).map String.ofList = place := by
    simp
  rw [Path.pieces, hpieces, List.map_cons, htexts]
  rfl

/-- A place is read off its text again. -/
theorem parts_text (h : place.Canonical) : (Path.ofText place.text).parts = place := by
  rw [Path.parts_ofText, pieces_text h, List.filter_cons_of_neg (by decide)]
  exact List.filter_eq_self.2 fun part hpart => (h part hpart).counts

/-- Components are told from what follows by the slash. -/
theorem prefix_component_iff {part other xs ys : List Char} (hpart : '/' ∉ part) (hother : '/' ∉ other)
    (hys : ∀ c ∈ ys.head?, c = '/') :
    part ++ '/' :: xs <+: other ++ ys ↔ part = other ∧ '/' :: xs <+: ys := by
  constructor
  · intro h
    cases ys with
    | nil =>
      rw [List.append_nil] at h
      exact absurd (h.subset (by simp)) hother
    | cons c ys =>
      obtain rfl : c = '/' := hys c rfl
      -- Neither component goes on behind the slash, so each of them starts the other one.
      have hle : part <+: other :=
        (Text.prefix_append_cons_iff hpart).1 ((List.prefix_append part _).trans h)
      obtain ⟨rest, heq⟩ := h
      rw [List.append_assoc, List.cons_append] at heq
      have hge : other <+: part := (Text.prefix_append_cons_iff hother).1 ⟨_, heq.symm⟩
      obtain rfl := hle.eq_of_length_le hge.length_le
      exact ⟨rfl, rest, List.append_cancel_left heq⟩
  · rintro ⟨rfl, h⟩
    exact (List.prefix_append_right_inj part).2 h

/-- A place lies strictly below another one where the text of that with a slash starts its own text.
-/
theorem text_prefix_iff (hplace : place.Canonical) (htarget : target.Canonical) :
    (place.text ++ "/").toList <+: target.text.toList ↔ ∃ part rest, target = place ++ part :: rest := by
  rw [String.toList_append]
  change _ ++ ['/'] <+: _ ↔ _
  induction place generalizing target with
  | nil =>
    cases target with
    | nil => exact iff_of_false (by decide) (by simp)
    | cons t target =>
      rw [toList_text_cons]
      exact iff_of_true ⟨_, rfl⟩ ⟨t, target, rfl⟩
  | cons p place ih =>
    cases target with
    | nil =>
      rw [toList_text_cons]
      exact iff_of_false (by simp [text]) (by simp)
    | cons t target =>
      have hp := (hplace p List.mem_cons_self).slash_notMem
      have ht := (htarget t List.mem_cons_self).slash_notMem
      have hrest := ih hplace.tail htarget.tail
      -- A slash stands behind the first component, be it the last one of the place or not.
      obtain ⟨xs, hxs⟩ := exists_toList_text_slash place
      rw [hxs] at hrest
      rw [toList_text_cons, toList_text_cons, List.cons_append, List.append_assoc, List.cons_prefix_cons,
        and_iff_right rfl, hxs, prefix_component_iff hp ht (head?_toList_text target), hrest,
        String.toList_inj]
      constructor
      · rintro ⟨rfl, part, rest, rfl⟩
        exact ⟨part, rest, rfl⟩
      · rintro ⟨part, rest, heq⟩
        rw [List.cons_append, List.cons.injEq] at heq
        exact ⟨heq.1.symm, part, rest, heq.2⟩

end Place

/-! ## Paths made shorter -/

namespace Path

open Place (Canonical)

/-- A path from the root made one step shorter by its text alone: an empty component or a single dot
says nothing, a double dot takes the component in front of it back, and at the root it leads
nowhere. -/
inductive Shortens : List String → List String → Prop
  | empty (front rest : List String) : Shortens (front ++ "" :: rest) (front ++ rest)
  | dot (front rest : List String) : Shortens (front ++ "." :: rest) (front ++ rest)
  | back {part : String} (front rest : List String) (h : IsComponent part) :
      Shortens (front ++ part :: ".." :: rest) (front ++ rest)
  | top (rest : List String) : Shortens (".." :: rest) rest

/-- A text comes to a place when its components are made shorter until all of them name entries. -/
def NormalizesTo (s : String) (place : Place) : Prop :=
  Relation.ReflTransGen Shortens (pieces s) place ∧ place.Canonical

variable {ps qs above : List String} {place : Place} {part : String}

/-- At `..` the last name read so far is dropped. -/
theorem normalFrom_up (above ps : List String) :
    normalFrom above (".." :: ps) = normalFrom above.tail ps :=
  rfl

/-- Any other name is added to those read so far. -/
theorem normalFrom_cons (h : part ≠ "..") (above ps : List String) :
    normalFrom above (part :: ps) = normalFrom (part :: above) ps :=
  if_neg fun heq => h (beq_iff_eq.1 heq)

/-- A name with `..` behind it can be left out anywhere in a path. -/
theorem normalFrom_back (h : part ≠ "..") (front rest above : List String) :
    normalFrom above (front ++ part :: ".." :: rest) = normalFrom above (front ++ rest) := by
  induction front generalizing above with
  | nil => rw [List.nil_append, List.nil_append, normalFrom_cons h, normalFrom_up, List.tail_cons]
  | cons p front ih =>
    rw [List.cons_append, List.cons_append]
    by_cases hp : p = ".."
    · rw [hp, normalFrom_up, normalFrom_up, ih]
    · rw [normalFrom_cons hp, normalFrom_cons hp, ih]

/-- A component that is no double dot stays the last one. -/
theorem normalFrom_concat {last : String} (h : last ≠ "..") (above parts : List String) :
    normalFrom above (parts ++ [last]) = normalFrom above parts ++ [last] := by
  induction parts generalizing above with
  | nil =>
    rw [List.nil_append, normalFrom_cons h]
    exact List.reverse_cons
  | cons part parts ih =>
    rw [List.cons_append]
    by_cases hpart : part = ".."
    · rw [hpart, normalFrom_up, normalFrom_up, ih]
    · rw [normalFrom_cons hpart, normalFrom_cons hpart, ih]

/-- No step changes what the path comes to. -/
theorem Shortens.normalFrom_eq (h : Shortens ps qs) :
    normalFrom [] (ps.filter counts) = normalFrom [] (qs.filter counts) := by
  cases h with
  | empty front rest => rw [List.filter_append, List.filter_append, List.filter_cons_of_neg (by decide)]
  | dot front rest => rw [List.filter_append, List.filter_append, List.filter_cons_of_neg (by decide)]
  | back front rest h =>
    rw [List.filter_append, List.filter_append, List.filter_cons_of_pos h.counts,
      List.filter_cons_of_pos (by decide), normalFrom_back h.ne_up]
  | top rest => rw [List.filter_cons_of_pos (by decide), normalFrom_up, List.tail_nil]

/-- A path and the shorter ones it can be rewritten to have one normal form. -/
theorem normalFrom_of_steps (h : Relation.ReflTransGen Shortens ps qs) :
    normalFrom [] (ps.filter counts) = normalFrom [] (qs.filter counts) := by
  induction h with
  | refl => rfl
  | tail _ hstep ih => exact ih.trans hstep.normalFrom_eq

/-- The names of a canonical place are all kept by the normal form. -/
theorem normalFrom_of_canonical (h : place.Canonical) (above : List String) :
    normalFrom above place = above.reverse ++ place := by
  induction place generalizing above with
  | nil => exact (List.append_nil _).symm
  | cons p place ih =>
    rw [normalFrom_cons (h p List.mem_cons_self).ne_up, ih h.tail, List.reverse_cons, List.append_assoc,
      List.singleton_append]

/-- With the components so far in front of it a path can be made shorter until all of them name
entries. -/
theorem shortens_normalFrom (habove : ∀ part ∈ above, IsComponent part)
    (hps : ∀ p ∈ ps, '/' ∉ p.toList) :
    Relation.ReflTransGen Shortens (above.reverse ++ ps) (normalFrom above (ps.filter counts)) ∧
      Canonical (normalFrom above (ps.filter counts)) := by
  induction ps generalizing above with
  | nil =>
    rw [List.append_nil]
    exact ⟨.refl, fun part hpart => habove part (List.mem_reverse.1 hpart)⟩
  | cons p ps ih =>
    -- The components so far all name entries, so a double dot takes the last of them back, and any other
    -- component that counts is one more of them.
    obtain ⟨hp, hrest⟩ := List.forall_mem_cons.1 hps
    by_cases hcounts : counts p = true
    · rw [List.filter_cons_of_pos hcounts]
      obtain ⟨hempty, hdot⟩ := counts_iff.1 hcounts
      by_cases hup : p = ".."
      · subst hup
        rw [normalFrom_up]
        cases above with
        | nil =>
          obtain ⟨hsteps, hcanonical⟩ := ih habove hrest
          exact ⟨.head (.top ps) hsteps, hcanonical⟩
        | cons part above =>
          obtain ⟨hpart, habove⟩ := List.forall_mem_cons.1 habove
          obtain ⟨hsteps, hcanonical⟩ := ih habove hrest
          rw [List.reverse_cons, List.append_assoc, List.singleton_append]
          exact ⟨.head (.back above.reverse ps hpart) hsteps, hcanonical⟩
      · rw [normalFrom_cons hup]
        have hmore := ih (List.forall_mem_cons.2 ⟨⟨hempty, hdot, hup, hp⟩, habove⟩) hrest
        rwa [List.reverse_cons, List.append_assoc, List.singleton_append] at hmore
    · obtain ⟨hsteps, hcanonical⟩ := ih habove hrest
      rw [List.filter_cons_of_neg hcounts]
      refine ⟨.head ?_ hsteps, hcanonical⟩
      rw [counts_iff, not_and_or, not_not, not_not] at hcounts
      obtain rfl | rfl := hcounts
      · exact .empty above.reverse ps
      · exact .dot above.reverse ps

/-- A text comes to one place, in whatever order it is made shorter. -/
theorem normalizesTo_iff {s : String} : NormalizesTo s place ↔ place = (ofText s).normal := by
  rw [normal, parts_ofText]
  constructor
  · rintro ⟨hsteps, hcanonical⟩
    have hcounts : place.filter counts = place :=
      List.filter_eq_self.2 fun part hpart => (hcanonical part hpart).counts
    rw [normalFrom_of_steps hsteps, hcounts, normalFrom_of_canonical hcanonical]
    rfl
  · rintro rfl
    exact shortens_normalFrom (List.forall_mem_nil _) fun p hp => slash_notMem_of_mem_pieces hp

end Path

end StructureGrader
