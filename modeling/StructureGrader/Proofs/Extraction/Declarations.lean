import StructureGrader.Proofs.Extraction.Sites
import Mathlib.Data.List.Forall2

/-!
# One element for each declaration

The items of a compilation unit are its declarations of classes, interfaces, methods and
constructors, and the declarators of its fields and constants, in the order of the text and at any
depth (`itemsOf`). The elements of a text are exactly these (`elementsOf_items`): each has the text
of its declaration, which is a part of the source, and the line on which that part starts. So lines
never decrease along the list, and of two items the later one is inside of the earlier one, or has
the same text, or stands behind it.
-/

namespace StructureGrader

open Syntax

/-! ## Items -/

/-- What one element is taken from. -/
structure Item where
  /-- The declaration. -/
  site : Site
  kind : ElementKind
  /-- What holds the declared name: a declarator of a field, else the declaration itself. -/
  named : Tree

/-- The items of a construct: one for a declaration, but for fields and constants one for each
declarator. -/
def itemsAt (s : Site) : List Item :=
  match s.construct.kind with
  | .classDeclaration | .interfaceDeclaration => [⟨s, .type, s.construct⟩]
  | .fieldDeclaration | .constantDeclaration =>
    (s.construct.childrenOfKind .variableDeclarator).map fun d => ⟨s, .field, d⟩
  | .methodDeclaration => [⟨s, .method, s.construct⟩]
  | .constructorDeclaration => [⟨s, .constructor, s.construct⟩]
  | _ => []

/-- The items of a compilation unit in the order of its text. -/
def itemsOf (unit : Tree) : List Item :=
  (unit.sites 0).flatMap itemsAt

namespace Item

/-- The signature of an item. -/
def signature (i : Item) : String :=
  match i.kind with
  | .type => (typeHeader (i.site.construct.kind == .interfaceDeclaration) i.named).render
  | .field => (fieldHeader i.site.construct i.named).render
  | .method => (methodHeader i.named).render
  | .constructor => (constructorHeader i.named).render

/-- The element of an item; `before` is the text in front of its declaration. -/
def element (origin : Origin) (before : String) (i : Item) : Element :=
  { name := some (nameOf i.named)
    kind := i.kind
    signature := some i.signature
    source := some i.site.construct.source
    line := lineEnds before + 1
    file := origin.file
    package := origin.package }

end Item

/-- The items at a site are items of that site. -/
theorem site_of_mem_itemsAt {s : Site} {i : Item} (h : i ∈ itemsAt s) : i.site = s := by
  unfold itemsAt at h
  split at h
  case h_3 | h_4 =>
    obtain ⟨d, -, rfl⟩ := List.mem_map.1 h
    rfl
  case h_7 => exact absurd h List.not_mem_nil
  all_goals exact congrArg Item.site (List.mem_singleton.1 h)

/-- What is declared is read off the items. -/
theorem declared_eq (start : Nat) (t : Tree) :
    declared t = (itemsAt ⟨start, t⟩).map fun i => (i.kind, nameOf i.named, i.signature) := by
  unfold declared itemsAt
  cases h : t.kind with
  | classDeclaration | interfaceDeclaration =>
    dsimp only
    rw [List.map_singleton]
    dsimp only [Item.signature]
    rw [h]
    rfl
  | fieldDeclaration | constantDeclaration =>
    dsimp only
    rw [List.map_map]
    rfl
  | _ => rfl

/-- The lines that end in two texts are those of the first and those of the second. -/
theorem lineEnds_append (s t : String) : lineEnds (s ++ t) = lineEnds s + lineEnds t := by
  unfold lineEnds
  rw [String.toList_append, List.count_append]

/-- The elements that a declaration stands for are those of the items at its site. -/
theorem elementsDeclared_eq (origin : Origin) (before : String) (start : Nat) (t : Tree) :
    elementsDeclared origin (lineEnds before) t =
      (itemsAt ⟨start, t⟩).map (Item.element origin (before ++ leadText t.lead)) := by
  unfold elementsDeclared
  rw [declared_eq start, List.map_map]
  apply List.map_congr_left
  intro i hi
  have hsource : t.source = i.site.construct.source := by
    rw [site_of_mem_itemsAt hi]
  unfold Item.element
  rw [lineEnds_append, ← hsource, Int.natCast_add]
  rfl

/-! ## Elements -/

/-- The first characters of a text. -/
def textBefore (source : String) (n : Nat) : String :=
  String.ofList (source.toList.take n)

/-- What stands before a position is what comes first in the source. -/
theorem textBefore_eq {source before after : String} (h : before ++ after = source) :
    textBefore source before.length = before := by
  unfold textBefore
  rw [← h, String.toList_append, ← String.length_toList, List.take_left, String.ofList_toList]

mutual

/-- The elements of a tree are those of the items in it. -/
theorem treeElements_eq (origin : Origin) {source : String} : ∀ {t : Tree} {before after : String},
    before ++ t.fullText ++ after = source →
    treeElements origin (lineEnds before) t = ((t.sites before.length).flatMap itemsAt).map fun i =>
      i.element origin (textBefore source i.site.start)
  | .leaf _ _, _, _, _ => rfl
  | .node k cs, before, after, h => by
    have hplace : before ++ leadText (Syntax.Tree.node k cs).lead ++
        ((Syntax.Tree.node k cs).source ++ after) = source := by
      rw [← h, Tree.fullText_eq, String.append_assoc, String.append_assoc, String.append_assoc]
    rw [treeElements, Tree.sites, List.flatMap_cons, List.map_append,
      elementsDeclared_eq origin before
        (before.length + (leadText (Syntax.Tree.node k cs).lead).length),
      forestElements_eq origin h]
    refine congrArg (· ++ _) (List.map_congr_left fun i hi => ?_)
    rw [site_of_mem_itemsAt hi, ← String.length_append, textBefore_eq hplace]

/-- The elements of several trees are those of the items at their sites, each with the source before it.
-/
theorem forestElements_eq (origin : Origin) {source : String} :
    ∀ {cs : List Tree} {before after : String},
    before ++ textOf (Tree.tokensOfAll cs) ++ after = source →
    forestElements origin (lineEnds before) cs =
      ((sitesOfAll before.length cs).flatMap itemsAt).map fun i =>
        i.element origin (textBefore source i.site.start)
  | [], _, _, _ => rfl
  | c :: cs, before, after, h => by
    rw [textOf_tokensOfAll_cons] at h
    have hfirst : before ++ c.fullText ++ (textOf (Tree.tokensOfAll cs) ++ after) = source := by
      rw [← h, String.append_assoc, String.append_assoc, String.append_assoc]
    have hmore : before ++ c.fullText ++ textOf (Tree.tokensOfAll cs) ++ after = source := by
      rw [← h, String.append_assoc, String.append_assoc, String.append_assoc,
        String.append_assoc]
    rw [forestElements, sitesOfAll, List.flatMap_append, List.map_append,
      treeElements_eq origin hfirst, ← lineEnds_append, forestElements_eq origin hmore,
      String.length_append]

end

/-- The element says of an item what stands in the source: the text of the declaration and the line
on which it starts; the type of a field is the common one with the declarator's own dimensions. -/
structure Item.Describes (source file package : String) (i : Item) (e : Element) : Prop where
  kind : e.kind = i.kind
  name : e.name = some (nameOf i.named)
  signature : e.signature = some i.signature
  field : i.kind = .field → e.signature = some (FieldHeader.render
    { access := accessOf (modifierWordsOf i.site.construct)
      isStatic := (modifierWordsOf i.site.construct).contains "static"
      isFinal := (modifierWordsOf i.site.construct).contains "final"
      fieldType := tidySource (i.site.construct.child? isTypeKind) ++
        tidySource (i.named.child? (· == .dimensions))
      name := nameOf i.named })
  place : ∃ before text after, before ++ text ++ after = source ∧
    before.length = i.site.start ∧ e.source = some text ∧ text = i.site.construct.source ∧
    e.line = lineEnds before + 1
  file : e.file = file
  package : e.package = package

/-- What is said of an item is true of the declaration that stands at its site. -/
theorem Item.describes_element {source : String} {i : Item} (h : i.site.StandsIn source)
    (origin : Origin) :
    i.Describes source origin.file origin.package
      (i.element origin (textBefore source i.site.start)) := by
  obtain ⟨before, after, hsource, hlength⟩ := h
  have hbefore : textBefore source i.site.start = before := by
    rw [String.append_assoc] at hsource
    rw [← hlength, textBefore_eq hsource]
  rw [hbefore]
  refine ⟨rfl, rfl, rfl, fun hkind => ?_, ⟨before, _, after, hsource, hlength, rfl, rfl, rfl⟩,
    rfl, rfl⟩
  unfold Item.element Item.signature
  rw [hkind]
  rfl

/-! ## Compilation units -/

/-- The text of a tree that is read is the source up to the trivia at its end. -/
theorem fullText_of_parse? {source : String} {unit : Tree} (h : parse? source = some unit) :
    ∃ after, "" ++ unit.fullText ++ after = source := by
  obtain ⟨ts, cs, hts, rfl, -, htokens⟩ := parse?_eq_some h
  have htext := tokenize?_text hts
  refine ⟨leadText ts.tail, ?_⟩
  rw [String.empty_append, Tree.fullText, htokens, ← String.toList_inj, String.toList_append]
  exact htext

/-- The elements of a source text that can be read are those of its unit. -/
theorem elementsOf_eq {source : String} {unit : Tree} (h : parse? source = some unit)
    (file : String) : elementsOf source file = unitElements file unit := by
  unfold elementsOf
  rw [h]

/-- The elements of a source text are those of its items, in order. -/
theorem elementsOf_eq_map {source : String} {unit : Tree} (h : parse? source = some unit)
    (file : String) :
    elementsOf source file = (itemsOf unit).map fun i =>
      i.element ⟨file, packageOf unit⟩ (textBefore source i.site.start) := by
  obtain ⟨after, hsource⟩ := fullText_of_parse? h
  rw [elementsOf_eq h]
  exact treeElements_eq ⟨file, packageOf unit⟩ hsource

/-- The tree of a text with tokens is solid. -/
theorem solid_of_parse? {source : String} {unit : Tree} (h : parse? source = some unit) :
    unit.Solid ∨ unit.sites 0 = [⟨0, unit⟩] := by
  obtain ⟨ts, cs, -, rfl, hparts, -⟩ := parse?_eq_some h
  cases cs with
  | nil => exact .inr rfl
  | cons c cs => exact .inl (.node rfl (List.cons_ne_nil c cs) hparts)

/-- The sites of a text that is read are in their order. -/
theorem sites_ordered_of_parse? {source : String} {unit : Tree} (h : parse? source = some unit) :
    (unit.sites 0).Pairwise Site.Precedes := by
  rcases solid_of_parse? h with hsolid | hsites
  · exact hsolid.sites_ordered 0
  · rw [hsites]
    exact List.pairwise_singleton _ _

/-- Each of them is listed once. -/
theorem sites_nodup_of_parse? {source : String} {unit : Tree} (h : parse? source = some unit) :
    (unit.sites 0).Nodup := by
  rcases solid_of_parse? h with hsolid | hsites
  · obtain ⟨ts, cs, hts, -, -, htokens⟩ := parse?_eq_some h
    refine hsolid.sites_nodup (fun x hx => ?_) 0
    rw [htokens] at hx
    exact tokenize?_text_ne_nil hts x hx
  · rw [hsites]
    exact List.pairwise_singleton _ _

/-- Items of one declaration, or of one that precedes the other. -/
theorem itemsOf_ordered {source : String} {unit : Tree} (h : parse? source = some unit) :
    (itemsOf unit).Pairwise fun i j => i.site = j.site ∨ i.site.Precedes j.site := by
  refine List.pairwise_flatMap.2 ⟨fun s _ => ?_, ?_⟩
  · refine List.pairwise_of_forall_mem_list fun i hi j hj => .inl ?_
    rw [site_of_mem_itemsAt hi, site_of_mem_itemsAt hj]
  · refine (sites_ordered_of_parse? h).imp fun hprecedes i hi j hj => .inr ?_
    rw [site_of_mem_itemsAt hi, site_of_mem_itemsAt hj]
    exact hprecedes

/-- No fewer lines end before a later position. -/
theorem lineEnds_textBefore_le (source : String) {m n : Nat} (h : m ≤ n) :
    lineEnds (textBefore source m) ≤ lineEnds (textBefore source n) := by
  unfold lineEnds textBefore
  rw [String.toList_ofList, String.toList_ofList]
  exact (List.take_sublist_take_left h).count_le '\n'

/-- The elements of a text that is read are its items, one for each, in their order, and lines never
decrease. The items are those of all constructs in the text, at any depth, each listed once; of two
items the later one is of the same declaration, of one inside of the earlier one, or of one
behind it. -/
theorem elementsOf_items {source : String} {unit : Tree} (h : parse? source = some unit)
    (file : String) :
    List.Forall₂ (Item.Describes source file (packageOf unit)) (itemsOf unit)
        (elementsOf source file) ∧
      (elementsOf source file).Pairwise (fun e f => e.line ≤ f.line) ∧
      (itemsOf unit).Pairwise (fun i j => i.site = j.site ∨ i.site.Precedes j.site) ∧
      (unit.sites 0).Nodup ∧
      ∀ k cs, (∃ start, ⟨start, .node k cs⟩ ∈ unit.sites 0) ↔
        (Syntax.Tree.node k cs).Inside unit := by
  obtain ⟨after, hsource⟩ := fullText_of_parse? h
  rw [elementsOf_eq_map h]
  refine ⟨?_, ?_, itemsOf_ordered h, sites_nodup_of_parse? h,
    fun k cs => Tree.exists_mem_sites_iff⟩
  · rw [List.forall₂_map_right_iff, List.forall₂_same]
    intro i hi
    obtain ⟨s, hs, his⟩ := List.mem_flatMap.1 hi
    have hstands : i.site.StandsIn source := by
      rw [site_of_mem_itemsAt his]
      exact Tree.sites_stand hsource s hs
    exact Item.describes_element hstands ⟨file, packageOf unit⟩
  · rw [List.pairwise_map]
    refine (itemsOf_ordered h).imp fun {i j} hij => ?_
    have hstart : i.site.start ≤ j.site.start :=
      hij.elim (fun heq => Nat.le_of_eq (congrArg Site.start heq)) fun hprecedes => hprecedes.1
    have hle := lineEnds_textBefore_le source hstart
    dsimp only [Item.element]
    omega

/-- A text with declarations inside of bodies, several declarators and characters beyond ASCII. -/
def nestedText : String :=
  "class A \x7b\n  /* é */ int x, y[];\n  A() \x7b\x7d\n  void f() \x7b run(new Object() \x7b int z;\n" ++
    " void g() \x7b\x7d \x7d); \x7d\n\x7d\nenum E \x7b K \x7b void h() \x7b\x7d \x7d \x7d\n" ++
    "interface I \x7b int N = 1; \x7d"

/-- A text with types in types is one on which all of this can be seen: its elements with their
lines, their order and their sites. -/
theorem elementsOf_items_nestedText :
    (elementsOf nestedText "A.java").map Element.line = [1, 2, 2, 3, 4, 4, 5, 7, 8, 8] ∧
    ∃ unit, parse? nestedText = some unit ∧
      List.Forall₂ (Item.Describes nestedText "A.java" (packageOf unit)) (itemsOf unit)
          (elementsOf nestedText "A.java") ∧
        (elementsOf nestedText "A.java").Pairwise (fun e f => e.line ≤ f.line) ∧
        (itemsOf unit).Pairwise (fun i j => i.site = j.site ∨ i.site.Precedes j.site) ∧
        (unit.sites 0).Nodup ∧
        ∀ k cs, (∃ start, ⟨start, .node k cs⟩ ∈ unit.sites 0) ↔
        (Syntax.Tree.node k cs).Inside unit := by
  have hlines : (parse? nestedText).map (fun unit =>
      (unitElements "A.java" unit).map Element.line) = some [1, 2, 2, 3, 4, 4, 5, 7, 8, 8] := by
    decide +kernel
  obtain ⟨unit, hunit, hunitLines⟩ := Option.map_eq_some_iff.1 hlines
  refine ⟨?_, unit, hunit, elementsOf_items hunit "A.java"⟩
  rw [elementsOf_eq hunit]
  exact hunitLines

end StructureGrader
