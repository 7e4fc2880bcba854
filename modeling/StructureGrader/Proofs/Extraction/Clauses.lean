import StructureGrader.Proofs.Extraction.Declarations
import StructureGrader.Proofs.Extraction.TypePaths

/-!
# The types in the clauses of a declaration

A tree for a named type is read as a path (`Tree.path?`), which has the same text
(`Tree.source_of_path?`). The signature of a class or an interface lists what is read of each type
in its clauses, in their order (`elementsOf_clauses`).
-/

namespace StructureGrader

open Syntax Text

/-! ## The path of a type -/

/-- A type as a path: the three forms in which named types are read, with nothing but white space
between their tokens. A type with a comment or an annotation inside of the path is none. -/
def Syntax.Tree.path? : Tree → Option TypePath
  | .leaf .typeName t => (Identifier.of? t.text).map .name
  | .node .genericType [c, list] => do
    return .arguments (← c.path?) (← Gap.of? (leadText list.lead))
      (← ArgumentList.of? list.source)
  | .node .scopedType [c, .leaf .mark point, .leaf .typeName t] =>
    if point.text = "." then do
      return .member (← c.path?) (← Gap.of? (leadText point.lead)) (← Gap.of? (leadText t.lead))
        (← Identifier.of? t.text)
    else none
  | _ => none

/-- A part as a path; a comment is none. -/
def Syntax.Part.path? : Part → Option TypePath
  | .comment _ => none
  | .child t => t.path?

/-- The text of a construct is that of its first part and then those of the other tokens. -/
theorem Syntax.Tree.source_node_cons {k : Kind} {c : Tree} (h : c.source ≠ "") (cs : List Tree) :
    (Syntax.Tree.node k (c :: cs)).source = c.source ++ textOf (Tree.tokensOfAll cs) := by
  unfold Tree.source at h ⊢
  rw [Tree.tokens, Tree.tokensOfAll]
  cases htokens : c.tokens with
  | nil =>
    rw [htokens] at h
    exact absurd rfl h
  | cons x xs =>
    rw [List.cons_append]
    dsimp only
    rw [textOf_append, String.append_assoc]

/-- The text of a token by itself is what it is read from. -/
theorem Syntax.Tree.source_leaf (k : Kind) (t : Token) : (Syntax.Tree.leaf k t).source = t.text :=
  String.append_empty

/-- A token in full is what stands in front of it and then its text. -/
theorem Syntax.Tree.fullText_leaf (k : Kind) (t : Token) :
    (Syntax.Tree.leaf k t).fullText = leadText t.lead ++ t.text := by
  rw [Tree.fullText_eq, source_leaf]
  rfl

/-- What reads as a path of a type is written as that path. -/
theorem Syntax.Tree.source_of_path? {t : Tree} {p : TypePath} (h : t.path? = some p) :
    t.source = p.text := by
  fun_induction Tree.path? t generalizing p with
  | case1 t =>
    obtain ⟨n, hn, rfl⟩ := Option.map_eq_some_iff.1 h
    rw [source_leaf]
    exact (Identifier.text_of? hn).symm
  | case2 c list ih =>
    simp only [bind, pure, Option.bind_eq_some_iff, Option.some.injEq] at h
    obtain ⟨q, hq, gap, hgap, arguments, harguments, rfl⟩ := h
    have hc := ih hq
    rw [source_node_cons (by rw [hc]; exact q.text_ne_empty), hc, textOf_tokensOfAll_cons,
      Tree.fullText_eq, ← Gap.text_of? hgap, ← ArgumentList.text_of? harguments]
    exact congrArg (q.text ++ ·) String.append_empty
  | case3 c point t hpoint ih =>
    simp only [bind, pure, Option.bind_eq_some_iff, Option.some.injEq] at h
    obtain ⟨q, hq, before, hbefore, after, hafter, n, hn, rfl⟩ := h
    have hc := ih hq
    have hmore : textOf (Tree.tokensOfAll [.leaf .mark point, .leaf .typeName t]) =
        before.text ++ ("." ++ (after.text ++ n.text)) := by
      rw [textOf_tokensOfAll_cons, textOf_tokensOfAll_cons, fullText_leaf, fullText_leaf, hpoint,
        Tree.tokensOfAll, textOf_nil, String.append_empty, Gap.text_of? hbefore,
        Gap.text_of? hafter, Identifier.text_of? hn, String.append_assoc]
    rw [source_node_cons (by rw [hc]; exact q.text_ne_empty), hc, hmore]
    rfl
  | case4 | case5 => cases h

/-- A part of a clause that reads as a path of a type is written as that path. -/
theorem Syntax.Part.source_of_path? {part : Part} {p : TypePath} (h : part.path? = some p) :
    part.source = p.text := by
  cases part with
  | comment s => cases h
  | child t => exact Tree.source_of_path? h

/-! ## Clauses -/

/-- The types in the lists inside a clause. -/
def listedParts (clause : Tree) : List Part :=
  (clause.childrenOfKind .typeList).flatMap Tree.namedParts

/-- The types that a declaration extends, in the order of its text. -/
def extendedParts (declaration : Tree) : List Part :=
  declaration.children.flatMap fun c =>
    match c.kind with
    | .superclass => c.namedParts
    | .extendsInterfaces => listedParts c
    | _ => []

/-- The types that a declaration implements, in the order of its text. -/
def implementedParts (declaration : Tree) : List Part :=
  (declaration.childrenOfKind .superInterfaces).flatMap listedParts

/-- The names listed in a clause are those read off its parts in order. -/
theorem listedTypes_eq_map (clause : Tree) :
    listedTypes clause = (listedParts clause).map fun p => simpleTypeName p.source := by
  unfold listedTypes listedParts
  rw [List.map_flatMap]

/-- The names behind extends are those read off the parts of that clause. -/
theorem extendedTypes_eq_map (declaration : Tree) :
    extendedTypes declaration =
      (extendedParts declaration).map fun p => simpleTypeName p.source := by
  unfold extendedTypes extendedParts
  rw [List.map_flatMap]
  congr 1
  funext c
  cases c.kind with
  | superclass => rfl
  | extendsInterfaces => exact listedTypes_eq_map c
  | _ => rfl

/-- The names behind implements are those read off the parts of that clause. -/
theorem implementedTypes_eq_map (declaration : Tree) :
    implementedTypes declaration =
      (implementedParts declaration).map fun p => simpleTypeName p.source := by
  unfold implementedTypes implementedParts
  rw [List.map_flatMap]
  congr 1
  funext c
  exact listedTypes_eq_map c

/-- What a signature shows of a part that is written as this path: the name is the last identifier
exactly when no white space stands before the last one in front of the first type arguments, and
that one is spelled the same. -/
structure Syntax.Part.ShowsPath (part : Part) (p : TypePath) : Prop where
  text : part.source = p.text
  name : simpleTypeName part.source = p.nameRead
  isLast : simpleTypeName part.source = p.last.text ↔
    p.front.lastGap.text = "" ∧ p.front.last.text = p.last.text

/-- A part that reads as a path shows that path. -/
theorem Syntax.Part.showsPath {part : Part} {p : TypePath} (h : part.path? = some p) :
    part.ShowsPath p := by
  have htext := source_of_path? h
  refine ⟨htext, ?_, ?_⟩
  · rw [htext, p.simpleTypeName_text]
  · rw [htext, p.simpleTypeName_text, p.nameRead_eq_iff]

/-- Parts that read as paths show these paths, in order. -/
theorem forall₂_showsPath {parts : List Part} {paths : List TypePath}
    (h : parts.map Part.path? = paths.map some) : List.Forall₂ Part.ShowsPath parts paths := by
  rw [← List.forall₂_eq_eq_eq, List.forall₂_map_left_iff, List.forall₂_map_right_iff] at h
  exact h.imp fun part p => Part.showsPath

/-- The names read off parts that show paths are those of the paths. -/
theorem names_of_showsPath {parts : List Part} {paths : List TypePath}
    (h : List.Forall₂ Part.ShowsPath parts paths) :
    parts.map (fun part => simpleTypeName part.source) = paths.map TypePath.nameRead := by
  rw [← List.forall₂_eq_eq_eq, List.forall₂_map_left_iff, List.forall₂_map_right_iff]
  exact h.imp fun part p hshows => hshows.name

/-- The words of a header in front of its clauses. -/
def TypeHeader.words (h : TypeHeader) : List String :=
  [accessWord h.access,
    wordIf (!h.isInterface && h.isAbstract) "abstract",
    wordIf (!h.isInterface && h.isFinal) "final",
    if h.isInterface then "interface" else "class",
    h.name ++ (h.typeParameters.map fun ps => "<" ++ ", ".intercalate ps ++ ">").getD ""]

/-- The signature of a type is its words and then the lists of its supertypes. -/
theorem TypeHeader.render_eq_words (h : TypeHeader) :
    h.render = joinWords (h.words ++
      [listAfter "extends" h.extended, listAfter "implements" h.implemented]) := by
  unfold render words
  cases h.typeParameters <;> rfl

/-- The signature of an item that is a type lists the names read off its clauses behind its words.
-/
theorem Item.signature_of_type {i : Item} (hkind : i.kind = .type) :
    i.signature = joinWords
      ((typeHeader (i.site.construct.kind == .interfaceDeclaration) i.named).words ++
        [listAfter "extends" (extendedTypes i.named),
          listAfter "implements" (implementedTypes i.named)]) := by
  unfold signature
  rw [hkind]
  exact TypeHeader.render_eq_words _

/-- The signature of a class or an interface lists what is read of each type in its clauses, in the
order of the text and with a comma and a space between two. Of every type written as a path this is
the last identifier, unless white space stands before the one that is read or type arguments stand
before an identifier that is spelled otherwise. -/
theorem elementsOf_clauses {source : String} {unit : Tree} {i : Item}
    {extended implemented : List TypePath} (hunit : parse? source = some unit)
    (hi : i ∈ itemsOf unit) (hkind : i.kind = .type)
    (hextended : (extendedParts i.named).map Part.path? = extended.map some)
    (himplemented : (implementedParts i.named).map Part.path? = implemented.map some)
    (file : String) :
    (∃ e ∈ elementsOf source file, i.Describes source file (packageOf unit) e ∧
      e.signature = some (joinWords
        ((typeHeader (i.site.construct.kind == .interfaceDeclaration) i.named).words ++
          [listAfter "extends" (extended.map TypePath.nameRead),
            listAfter "implements" (implemented.map TypePath.nameRead)]))) ∧
      List.Forall₂ Part.ShowsPath (extendedParts i.named ++ implementedParts i.named)
        (extended ++ implemented) := by
  have hshown := forall₂_showsPath hextended
  have hshown' := forall₂_showsPath himplemented
  obtain ⟨after, hsource⟩ := fullText_of_parse? hunit
  have hstands : i.site.StandsIn source := by
    obtain ⟨s, hs, his⟩ := List.mem_flatMap.1 hi
    rw [site_of_mem_itemsAt his]
    exact Tree.sites_stand hsource s hs
  have hdescribes := Item.describes_element hstands ⟨file, packageOf unit⟩
  refine ⟨⟨_, ?_, hdescribes, ?_⟩, List.rel_append hshown hshown'⟩
  · rw [elementsOf_eq_map hunit]
    exact List.mem_map_of_mem hi
  · rw [hdescribes.signature, Item.signature_of_type hkind, extendedTypes_eq_map,
      implementedTypes_eq_map, names_of_showsPath hshown, names_of_showsPath hshown']

/-- A class with type arguments and white space at the ends of the paths in its clauses. -/
def clausesText : String :=
  "final class A<T> extends java.util.List <T> implements Map<A<T>, T>, p .I \x7b \x7d"

/-- A class that extends a type with arguments and a package, and implements two interfaces, is
listed with the names of these. -/
theorem elementsOf_clauses_clausesText :
    ∃ unit i extended implemented, parse? clausesText = some unit ∧ i ∈ itemsOf unit ∧
      i.kind = .type ∧ (extendedParts i.named).map Part.path? = extended.map some ∧
      (implementedParts i.named).map Part.path? = implemented.map some ∧
      extended.map TypePath.text = ["java.util.List <T>"] ∧
      implemented.map TypePath.text = ["Map<A<T>, T>", "p .I"] ∧
      (∃ e ∈ elementsOf clausesText "A.java",
        i.Describes clausesText "A.java" (packageOf unit) e ∧
          e.signature = some "final class A<T> extends List implements Map, I") ∧
      List.Forall₂ Part.ShowsPath (extendedParts i.named ++ implementedParts i.named)
        (extended ++ implemented) := by
  have hvalues : (parse? clausesText).map (fun unit => (itemsOf unit).map fun i =>
      let extended := (extendedParts i.named).filterMap Part.path?
      let implemented := (implementedParts i.named).filterMap Part.path?
      decide (i.kind = .type ∧ (extendedParts i.named).map Part.path? = extended.map some ∧
        (implementedParts i.named).map Part.path? = implemented.map some ∧
        extended.map TypePath.text = ["java.util.List <T>"] ∧
        implemented.map TypePath.text = ["Map<A<T>, T>", "p .I"] ∧
        joinWords ((typeHeader (i.site.construct.kind == .interfaceDeclaration) i.named).words ++
          [listAfter "extends" (extended.map TypePath.nameRead),
            listAfter "implements" (implemented.map TypePath.nameRead)]) =
          "final class A<T> extends List implements Map, I")) = some [true] := by
    decide +kernel
  obtain ⟨unit, hunit, hitems⟩ := Option.map_eq_some_iff.1 hvalues
  obtain ⟨i, hi, hvalue⟩ := List.map_eq_singleton_iff.1 hitems
  have hmem : i ∈ itemsOf unit := by
    rw [hi]
    exact List.mem_singleton_self i
  obtain ⟨hkind, hextended, himplemented, htexts, htexts', hsignature⟩ := of_decide_eq_true hvalue
  obtain ⟨helement, hshows⟩ :=
    elementsOf_clauses hunit hmem hkind hextended himplemented "A.java"
  rw [hsignature] at helement
  exact ⟨unit, i, _, _, hunit, hmem, hkind, hextended, himplemented, htexts, htexts', helement,
    hshows⟩

/-- Type arguments that are not at the end, and white space behind a point. -/
def misreadText : String :=
  "class A extends Outer<String>.Inner implements java. util. List \x7b \x7d"

/-- There the signature shows the part in front of the type arguments, and a second space. -/
theorem elementsOf_clauses_misreadText :
    ∃ unit i, parse? misreadText = some unit ∧ itemsOf unit = [i] ∧ i.kind = .type ∧
      (extendedParts i.named).map (fun part => part.path?.map fun p => p.last.text) =
        [some "Inner"] ∧
      (implementedParts i.named).map (fun part => part.path?.map fun p => p.last.text) =
        [some "List"] ∧
      (extendedParts i.named ++ implementedParts i.named).map
        (fun part => simpleTypeName part.source) = ["Outer", " List"] ∧
      (elementsOf misreadText "A.java").map Element.signature =
        [some "class A extends Outer implements  List"] := by
  have hvalues : (parse? misreadText).map (fun unit =>
      ((itemsOf unit).map fun i => decide (i.kind = .type ∧
        (extendedParts i.named).map (fun part => part.path?.map fun p => p.last.text) =
          [some "Inner"] ∧
        (implementedParts i.named).map (fun part => part.path?.map fun p => p.last.text) =
          [some "List"] ∧
        (extendedParts i.named ++ implementedParts i.named).map
          (fun part => simpleTypeName part.source) = ["Outer", " List"]),
        (unitElements "A.java" unit).map Element.signature)) =
      some ([true], [some "class A extends Outer implements  List"]) := by
    decide +kernel
  obtain ⟨unit, hunit, hvalue⟩ := Option.map_eq_some_iff.1 hvalues
  obtain ⟨hitems, hsignatures⟩ := Prod.mk.inj hvalue
  obtain ⟨i, hi, hpaths⟩ := List.map_eq_singleton_iff.1 hitems
  obtain ⟨hkind, hlast, hlast', hnames⟩ := of_decide_eq_true hpaths
  refine ⟨unit, i, hunit, hi, hkind, hlast, hlast', hnames, ?_⟩
  rw [elementsOf_eq hunit]
  exact hsignatures

end StructureGrader
