import StructureGrader.Proofs.Extraction.Layout

/-!
# The name in a type path

A named type is a path: identifiers with points between them, where type arguments may follow each
of them and white space may stand between any two tokens (`TypePath`). The name that is read off its
text is the last identifier in front of the first type arguments, with a space before it where white
space follows its point (`TypePath.simpleTypeName_text`). This is the last identifier of the path
exactly when no white space is there and no type arguments stand before an identifier that is
spelled otherwise (`TypePath.nameRead_eq_iff`).
-/

namespace StructureGrader

open Syntax Text

/-! ## Blanks at the ends -/

/-- Blanks at the end are dropped up to the last character that is not blank. -/
theorem dropEnd_append_cons {c : Char} (hc : isBlank c = false) (xs ys : List Char) :
    ((xs ++ c :: ys).reverse.dropWhile isBlank).reverse =
      xs ++ c :: (ys.reverse.dropWhile isBlank).reverse := by
  have hstop : (c :: xs.reverse).dropWhile isBlank = c :: xs.reverse := by
    rw [List.dropWhile_cons, if_neg (Bool.eq_false_iff.1 hc)]
  have hrest : (ys.reverse ++ c :: xs.reverse).dropWhile isBlank =
      ys.reverse.dropWhile isBlank ++ c :: xs.reverse := by
    rw [List.dropWhile_append]
    split_ifs with hempty
    · rw [List.isEmpty_iff.1 hempty, hstop, List.nil_append]
    · rfl
  rw [List.reverse_append, List.reverse_cons, List.append_assoc, List.singleton_append, hrest,
    List.reverse_append, List.reverse_cons, List.reverse_reverse, List.append_assoc,
    List.singleton_append]

/-- A character that does not occur differs from all that do. -/
theorem bne_of_not_mem {c : Char} {cs : List Char} (h : c ∉ cs) : ∀ d ∈ cs, (d != c) = true :=
  fun _ hd => bne_iff_ne.2 (ne_of_mem_of_not_mem hd h)

/-- The first and the last character of a text are not blank. -/
structure IsTrim (cs : List Char) : Prop where
  head : ∃ c xs, cs = c :: xs ∧ isBlank c = false
  last : ∃ xs c, cs = xs ++ [c] ∧ isBlank c = false

namespace IsTrim

variable {cs blanks : List Char}

/-- Characters without blanks have none at their ends. -/
theorem of_solid (hne : cs ≠ []) (h : ∀ c ∈ cs, isBlank c = false) : IsTrim cs where
  head := by
    obtain ⟨c, xs, rfl⟩ := List.exists_cons_of_ne_nil hne
    exact ⟨c, xs, rfl, h c List.mem_cons_self⟩
  last :=
    ⟨cs.dropLast, cs.getLast hne, (List.dropLast_append_getLast hne).symm,
      h _ (List.getLast_mem hne)⟩

/-- What starts with one trimmed text and ends with another one is trimmed. -/
theorem append {ds : List Char} (hcs : IsTrim cs) (hds : IsTrim ds) (mid : List Char) :
    IsTrim (cs ++ (mid ++ ds)) where
  head := by
    obtain ⟨c, xs, rfl, hc⟩ := hcs.head
    exact ⟨c, xs ++ (mid ++ ds), rfl, hc⟩
  last := by
    obtain ⟨xs, c, rfl, hc⟩ := hds.last
    exact ⟨cs ++ (mid ++ xs), c, by rw [List.append_assoc, List.append_assoc], hc⟩

/-- Blanks made one at a time leave the ends as they are. -/
theorem collapse (h : IsTrim cs) : IsTrim (collapseChars cs) where
  head := by
    obtain ⟨c, xs, rfl, hc⟩ := h.head
    exact ⟨c, collapseFrom false xs, collapseFrom_append_cons hc [] xs false, hc⟩
  last := by
    obtain ⟨xs, c, rfl, hc⟩ := h.last
    exact ⟨collapseFrom false xs, c, collapseFrom_append_cons hc xs [] false, hc⟩

/-- Its last character ends every run. -/
theorem collapse_append (h : IsTrim cs) (ys : List Char) :
    collapseChars (cs ++ ys) = collapseChars cs ++ collapseFrom false ys := by
  obtain ⟨xs, c, rfl, hc⟩ := h.last
  unfold collapseChars
  rw [List.append_assoc, List.singleton_append, collapseFrom_append_cons hc,
    collapseFrom_append_cons hc, List.append_assoc]
  rfl

/-- Where no blank is in front none is dropped there. -/
theorem dropWhile_append (h : IsTrim cs) (more : List Char) :
    (cs ++ more).dropWhile isBlank = cs ++ more := by
  obtain ⟨c, xs, rfl, hc⟩ := h.head
  rw [List.cons_append, List.dropWhile_cons, if_neg (Bool.eq_false_iff.1 hc)]

/-- Blanks behind such characters are dropped. -/
theorem strip_append_blanks (h : IsTrim cs) (hblank : ∀ c ∈ blanks, isBlank c = true) :
    stripChars (cs ++ blanks) = cs := by
  have hnone : blanks.reverse.dropWhile isBlank = [] :=
    List.dropWhile_eq_nil_iff.2 fun c hc => hblank c (List.mem_reverse.1 hc)
  unfold stripChars stripWhere
  rw [h.dropWhile_append]
  obtain ⟨xs, c, rfl, hc⟩ := h.last
  rw [List.append_assoc, List.singleton_append, dropEnd_append_cons hc, hnone, List.reverse_nil]

/-- Of what is put behind such characters nothing is dropped up to the last character that is not blank.
-/
theorem strip_append_cons (h : IsTrim cs) {c : Char} (hc : isBlank c = false)
    (mid ys : List Char) : ∃ zs, stripChars (cs ++ (mid ++ c :: ys)) = cs ++ (mid ++ c :: zs) := by
  refine ⟨(ys.reverse.dropWhile isBlank).reverse, ?_⟩
  unfold stripChars stripWhere
  rw [h.dropWhile_append, ← List.append_assoc, dropEnd_append_cons hc, List.append_assoc]

/-- In front of the first angle bracket the blanks at the end are dropped. -/
theorem strip_before_bracket {rest : List Char} (h : IsTrim cs) (hopen : '<' ∉ cs)
    (hblank : ∀ c ∈ blanks, isBlank c = true) (hrest : rest = [] ∨ ∃ more, rest = '<' :: more) :
    stripChars ((stripChars (collapseChars (cs ++ (blanks ++ rest)))).takeWhile (· != '<')) =
      collapseChars cs := by
  have hspaces : ∀ d ∈ collapseFrom false blanks, isBlank d = true := by
    intro d hd
    rcases mem_collapseFrom hd with rfl | hd
    · decide
    · exact hblank d hd
  have hword : '<' ∉ collapseChars cs := fun hmem =>
    (mem_collapseFrom hmem).elim (by decide) hopen
  have hbefore : '<' ∉ collapseChars cs ++ collapseFrom false blanks := fun hmem =>
    (List.mem_append.1 hmem).elim hword fun hmem => absurd (hspaces _ hmem) (by decide)
  -- Without a bracket all blanks behind the text go at once; with one, the first strip stops behind
  -- it and the second one takes those in front of it.
  rcases hrest with rfl | ⟨more, rfl⟩
  · have hstrip : stripChars (collapseChars cs ++ []) = collapseChars cs :=
      h.collapse.strip_append_blanks (by simp)
    rw [List.append_nil] at hstrip
    rw [List.append_nil, h.collapse_append, h.collapse.strip_append_blanks hspaces,
      List.takeWhile_eq_self_iff.2 (bne_of_not_mem hword), hstrip]
  · have hcollapse : collapseFrom false (blanks ++ '<' :: more) =
        collapseFrom false blanks ++ '<' :: collapseFrom false more :=
      collapseFrom_append_cons (by decide) blanks more false
    obtain ⟨zs, hzs⟩ := h.collapse.strip_append_cons (c := '<') (by decide)
      (collapseFrom false blanks) (collapseFrom false more)
    rw [h.collapse_append, hcollapse, hzs, ← List.append_assoc,
      List.takeWhile_append_of_pos (bne_of_not_mem hbefore),
      List.takeWhile_cons_of_neg (by decide), List.append_nil,
      h.collapse.strip_append_blanks hspaces]

end IsTrim

/-- The characters behind the last point. -/
def behindPoint (cs : List Char) : List Char :=
  (cs.reverse.takeWhile (· != '.')).reverse

/-- Without a point all characters stand behind the last one. -/
theorem behindPoint_of_not_mem {cs : List Char} (h : '.' ∉ cs) : behindPoint cs = cs := by
  have hpoint := bne_of_not_mem (mt List.mem_reverse.1 h)
  unfold behindPoint
  rw [List.takeWhile_eq_self_iff.2 hpoint, List.reverse_reverse]

/-- Characters without a point are all that stands behind the point in front of them. -/
theorem behindPoint_append {cs : List Char} (h : '.' ∉ cs) (before : List Char) :
    behindPoint (before ++ '.' :: cs) = cs := by
  have hpoint := bne_of_not_mem (mt List.mem_reverse.1 h)
  unfold behindPoint
  rw [List.reverse_append, List.reverse_cons, List.append_assoc, List.singleton_append,
    List.takeWhile_append_of_pos hpoint, List.takeWhile_cons_of_neg (by decide), List.append_nil,
    List.reverse_reverse]

/-! ## Paths -/

/-- No blank is part of an identifier. -/
theorem isIdentifierPart_of_isBlank {c : Char} (h : isBlank c = true) :
    isIdentifierPart c = false := by
  have hcodes : c.toNat ∈ List.range 33 ++ [0x85, 0xA0, 0x1680, 0x2028, 0x2029, 0x202F, 0x205F,
      0x3000] ++ List.range' 0x2000 11 := by
    simp only [isBlank, Bool.or_eq_true, Bool.and_eq_true, decide_eq_true_eq, beq_iff_eq] at h
    simp only [List.mem_append, List.mem_range, List.mem_cons, List.not_mem_nil, or_false,
      List.mem_range'_1]
    omega
  have hnone : ∀ n ∈ List.range 33 ++ [0x85, 0xA0, 0x1680, 0x2028, 0x2029, 0x202F, 0x205F,
      0x3000] ++ List.range' 0x2000 11, isIdentifierPart (Char.ofNat n) = false := by
    decide +kernel
  have hc := hnone c.toNat hcodes
  rwa [Char.ofNat_toNat] at hc

/-- A word of a path. -/
structure Identifier where
  text : String
  ne_nil : text.toList ≠ []
  isPart : ∀ c ∈ text.toList, isIdentifierPart c = true
deriving DecidableEq

namespace Identifier

/-- The text as a word, if it is one. -/
def of? (s : String) : Option Identifier :=
  if h : s.toList ≠ [] ∧ ∀ c ∈ s.toList, isIdentifierPart c = true then some ⟨s, h.1, h.2⟩ else none

/-- An identifier is the text that it is read from. -/
theorem text_of? {s : String} {n : Identifier} (h : of? s = some n) : n.text = s := by
  obtain ⟨_, hsome⟩ := Option.dite_none_right_eq_some.1 h
  exact congrArg text (Option.some.inj hsome).symm

variable (n : Identifier)

/-- No blank stands in an identifier. -/
theorem solid : ∀ c ∈ n.text.toList, isBlank c = false := by
  intro c hc
  by_contra hblank
  have hpart := isIdentifierPart_of_isBlank (Bool.eq_true_of_not_eq_false hblank)
  rw [n.isPart c hc] at hpart
  cases hpart

/-- An identifier has no blanks at its ends. -/
theorem isTrim : IsTrim n.text.toList :=
  .of_solid n.ne_nil n.solid

/-- No mark is part of a word. -/
theorem not_mem {c : Char} (hc : isIdentifierPart c = false) : c ∉ n.text.toList := by
  intro hmem
  rw [n.isPart c hmem] at hc
  cases hc

end Identifier

/-- The white space between two tokens, or nothing. -/
structure Gap where
  text : String
  blank : ∀ c ∈ text.toList, isBlank c = true
deriving DecidableEq

namespace Gap

/-- The text between two tokens as white space, if it is that. -/
def of? (s : String) : Option Gap :=
  if h : ∀ c ∈ s.toList, isBlank c = true then some ⟨s, h⟩ else none

/-- A gap is the text that it is read from. -/
theorem text_of? {s : String} {g : Gap} (h : of? s = some g) : g.text = s := by
  obtain ⟨_, hsome⟩ := Option.dite_none_right_eq_some.1 h
  exact congrArg text (Option.some.inj hsome).symm

/-- What is left of white space where every run is one space. -/
def shown (g : Gap) : String :=
  if g.text = "" then "" else " "

/-- A gap shows as one space or as nothing when blanks are made one. -/
theorem collapse_append (g : Gap) (cs : List Char) (hcs : ∀ c ∈ cs, isBlank c = false) :
    collapseFrom false (g.text.toList ++ cs) = g.shown.toList ++ cs := by
  unfold shown
  split_ifs with hempty
  · rw [hempty]
    exact collapseFrom_of_solid hcs false
  · have hne : g.text.toList ≠ [] := fun hnil => hempty (String.toList_eq_nil_iff.1 hnil)
    rw [collapseFrom_blanks hne g.blank, collapseFrom_of_solid hcs]
    rfl

end Gap

/-- A list of type arguments with its brackets. -/
structure ArgumentList where
  text : String
  opens : text.toList.head? = some '<'
deriving DecidableEq

/-- The text as a list of type arguments, if it starts like one. -/
def ArgumentList.of? (s : String) : Option ArgumentList :=
  if h : s.toList.head? = some '<' then some ⟨s, h⟩ else none

/-- A list of type arguments is the text that it is read from. -/
theorem ArgumentList.text_of? {s : String} {l : ArgumentList} (h : of? s = some l) :
    l.text = s := by
  obtain ⟨_, hsome⟩ := Option.dite_none_right_eq_some.1 h
  exact congrArg text (Option.some.inj hsome).symm

/-- A named type as it is written. -/
inductive TypePath
  /-- One word. -/
  | name (n : Identifier)
  /-- A path with type arguments behind it. -/
  | arguments (path : TypePath) (gap : Gap) (list : ArgumentList)
  /-- A path, a point and one more word. -/
  | member (path : TypePath) (before after : Gap) (n : Identifier)
deriving DecidableEq

namespace TypePath

/-- The text of a path. -/
def text : TypePath → String
  | .name n => n.text
  | .arguments p gap list => p.text ++ (gap.text ++ list.text)
  | .member p before after n => p.text ++ (before.text ++ ("." ++ (after.text ++ n.text)))

/-- The last word that is not in type arguments. -/
def last : TypePath → Identifier
  | .name n => n
  | .arguments p _ _ => p.last
  | .member _ _ _ n => n

/-- The white space between the last point and the word behind it. -/
def lastGap : TypePath → Gap
  | .name _ => ⟨"", by decide⟩
  | .arguments p _ _ => p.lastGap
  | .member _ _ after _ => after

/-- Whether there are type arguments anywhere. -/
def hasArguments : TypePath → Bool
  | .name _ => false
  | .arguments _ _ _ => true
  | .member p _ _ _ => p.hasArguments

/-- The part of a path in front of its first type arguments. -/
def front : TypePath → TypePath
  | .name n => .name n
  | .arguments p _ _ => p.front
  | .member p before after n => if p.hasArguments then p.front else .member p before after n

/-- What a signature shows of a path: the last word in front of the first type arguments, and the
white space before it. -/
def nameRead (p : TypePath) : String :=
  p.front.lastGap.shown ++ p.front.last.text

/-- It is the last word of the path unless white space stands before it, or type arguments before a
last word that is spelled otherwise. -/
theorem nameRead_eq_iff (p : TypePath) :
    p.nameRead = p.last.text ↔ p.front.lastGap.text = "" ∧ p.front.last.text = p.last.text := by
  unfold nameRead Gap.shown
  split_ifs with hgap
  · rw [String.empty_append]
    exact (and_iff_right hgap).symm
  · refine iff_of_false (fun heq => ?_) fun h => hgap h.1
    have hspace : ' ' ∈ p.last.text.toList := by
      rw [← heq, String.toList_append]
      exact List.mem_append_left _ List.mem_cons_self
    exact p.last.not_mem (by decide) hspace

/-! ## The text of a path -/

/-- A path without type arguments has nothing behind its front. -/
theorem front_eq_self {p : TypePath} (h : p.hasArguments = false) : p.front = p := by
  cases p with
  | name n => rfl
  | arguments p gap list => cases h
  | member p before after n => exact if_neg (Bool.eq_false_iff.1 h)

/-- The front of a path has no type arguments. -/
theorem hasArguments_front (p : TypePath) : p.front.hasArguments = false := by
  induction p with
  | name n => rfl
  | arguments p gap list ih => exact ih
  | member p before after n ih =>
    rw [front]
    split_ifs with h
    · exact ih
    · exact Bool.eq_false_iff.2 h

/-- Behind the front there is nothing, or white space and type arguments. -/
theorem text_eq_front (p : TypePath) :
    ∃ blanks rest, p.text.toList = p.front.text.toList ++ (blanks ++ rest) ∧
      (∀ c ∈ blanks, isBlank c = true) ∧ (p.hasArguments = false ∧ rest = [] ∨
        p.hasArguments = true ∧ ∃ more, rest = '<' :: more) := by
  induction p with
  | name n => exact ⟨[], [], (List.append_nil _).symm, by simp, .inl ⟨rfl, rfl⟩⟩
  | arguments p gap list ih =>
    obtain ⟨blanks, rest, htext, hblank, ⟨harguments, -⟩ | ⟨-, more, rfl⟩⟩ := ih
    · -- These are the first type arguments: the front is the whole path before them.
      obtain ⟨more, hmore⟩ := List.head?_eq_some_iff.1 list.opens
      refine ⟨gap.text.toList, list.text.toList, ?_, gap.blank, .inr ⟨rfl, more, hmore⟩⟩
      rw [text, front, front_eq_self harguments, String.toList_append, String.toList_append]
    · refine ⟨blanks, '<' :: (more ++ (gap.text.toList ++ list.text.toList)), ?_, hblank,
        .inr ⟨rfl, _, rfl⟩⟩
      rw [text, front, String.toList_append, String.toList_append, htext, List.append_assoc,
        List.append_assoc, List.cons_append]
  | member p before after n ih =>
    obtain ⟨blanks, rest, htext, hblank, ⟨harguments, -⟩ | ⟨harguments, more, rfl⟩⟩ := ih
    · refine ⟨[], [], ?_, by simp, .inl ⟨harguments, rfl⟩⟩
      rw [front_eq_self (p := .member p before after n) harguments, List.append_nil, List.append_nil]
    · refine ⟨blanks, '<' :: (more ++ (before.text ++ ("." ++ (after.text ++ n.text))).toList), ?_,
        hblank, .inr ⟨harguments, _, rfl⟩⟩
      rw [text, front, if_pos harguments, String.toList_append, htext, List.append_assoc,
        List.append_assoc, List.cons_append]

/-- A member of a path is written behind the path, with a point and the two gaps around that. -/
theorem toList_text_member (p : TypePath) (before after : Gap) (n : Identifier) :
    (member p before after n).text.toList = p.text.toList ++
      (before.text.toList ++ '.' :: (after.text.toList ++ n.text.toList)) := by
  simp only [text, String.toList_append]
  rfl

/-- Without type arguments a path starts and ends with a word. -/
theorem isTrim_text {p : TypePath} (h : p.hasArguments = false) : IsTrim p.text.toList := by
  induction p with
  | name n => exact n.isTrim
  | arguments p gap list => cases h
  | member p before after n ih =>
    have htrim := (ih h).append n.isTrim (before.text.toList ++ '.' :: after.text.toList)
    rwa [List.append_assoc, List.cons_append, ← toList_text_member] at htrim

/-- A path without type arguments has no bracket in its text. -/
theorem not_mem_text {p : TypePath} (h : p.hasArguments = false) : '<' ∉ p.text.toList := by
  have hgap : ∀ g : Gap, '<' ∉ g.text.toList := by
    intro g hmem
    have hblank := g.blank _ hmem
    revert hblank
    decide
  have hword : ∀ n : Identifier, '<' ∉ n.text.toList := fun n => n.not_mem (by decide)
  induction p with
  | name n => exact hword n
  | arguments p gap list => cases h
  | member p before after n ih =>
    simp only [toList_text_member, List.mem_append, List.mem_cons, not_or]
    exact ⟨ih h, hgap before, by decide, hgap after, hword n⟩

/-- What can be in no identifier is not in one behind a gap, unless it is a space. -/
theorem not_mem_shown_append (g : Gap) (n : Identifier) {c : Char} (hc : isIdentifierPart c = false)
    (hspace : c ≠ ' ') : c ∉ g.shown.toList ++ n.text.toList := by
  unfold Gap.shown
  split_ifs
  · exact n.not_mem hc
  · exact List.not_mem_cons_of_ne_of_not_mem hspace (n.not_mem hc)

/-- A path is written with something. -/
theorem text_ne_empty (p : TypePath) : p.text ≠ "" := by
  obtain ⟨blanks, rest, htext, -⟩ := p.text_eq_front
  obtain ⟨c, xs, hfront, -⟩ := (isTrim_text p.hasArguments_front).head
  rintro hempty
  rw [hempty, hfront] at htext
  cases htext

/-- What stands behind the last point of a path without type arguments, with one space for every run
of blanks. -/
theorem behindPoint_collapse {p : TypePath} (h : p.hasArguments = false) :
    behindPoint (collapseChars p.text.toList) = p.lastGap.shown.toList ++ p.last.text.toList := by
  have hnone : ∀ (g : Gap) (n : Identifier), '.' ∉ g.shown.toList ++ n.text.toList := fun g n =>
    not_mem_shown_append g n (by decide) (by decide)
  cases p with
  | name n =>
    have hword : collapseChars n.text.toList = n.text.toList := collapseFrom_of_solid n.solid false
    show behindPoint (collapseChars n.text.toList) = n.text.toList
    rw [hword, behindPoint_of_not_mem (n.not_mem (by decide))]
  | arguments p gap list => cases h
  | member p before after n =>
    -- The point between the words ends every run of blanks, and none stands behind it.
    have hcollapse := collapseFrom_append_cons (c := '.') (by decide)
      (p.text.toList ++ before.text.toList) (after.text.toList ++ n.text.toList) false
    rw [after.collapse_append _ n.solid] at hcollapse
    rw [toList_text_member, ← List.append_assoc, collapseChars, hcollapse,
      behindPoint_append (hnone after n)]
    rfl

/-- The name that is read off the text of a path. -/
theorem simpleTypeName_text (p : TypePath) : simpleTypeName p.text = p.nameRead := by
  have hfront := p.hasArguments_front
  obtain ⟨blanks, rest, htext, hblank, hrest⟩ := p.text_eq_front
  have hbare := IsTrim.strip_before_bracket (isTrim_text hfront) (not_mem_text hfront) hblank
    (hrest.imp And.right And.right)
  have hread : simpleTypeName p.text = String.ofList (behindPoint (stripChars
      ((stripChars (collapseChars p.text.toList)).takeWhile (· != '<')))) := by
    unfold simpleTypeName tidy
    rw [String.toList_ofList]
    rfl
  rw [hread, htext, hbare, behindPoint_collapse hfront, ← String.toList_append,
    String.ofList_toList]
  rfl

/-- Scope and type arguments are left out. -/
example : simpleTypeName "java.util.List<T>" = "List" := by
  decide +kernel

end TypePath

end StructureGrader
