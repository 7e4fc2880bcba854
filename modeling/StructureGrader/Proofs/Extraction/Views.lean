import StructureGrader.Extraction
import StructureGrader.Proofs.Syntax.Reading
import Mathlib.Data.List.Forall2

/-!
# What a signature shows of a tree

Of most constructs a signature shows single tokens only. Of types and of dimensions it shows the
text, and of the constructs that list types the texts of the parts, comments included
(`isVerbatim`). Trees are kin (`Tree.Kin`) when they have the same shape and the same tokens up to
the trivia between them, and show the same text wherever a signature shows it; kin trees declare the
same (`Tree.Kin.declared_eq`), and so do all constructs in them (`map_key_treeElements`).
-/

namespace StructureGrader

open Syntax Text

/-! ## Lists in step -/

section Lists

variable {α β : Type} {R : α → α → Prop} {l l' : List α}

/-- Where related elements pass the same tests and have the same images, the images of those that
pass are the same. -/
theorem map_filter_congr {p q : α → Bool} {F G : α → β} (h : List.Forall₂ R l l')
    (hpq : ∀ a b, R a b → p a = q b) (hF : ∀ a b, R a b → p a = true → F a = G b) :
    (l.filter p).map F = (l'.filter q).map G := by
  induction h with
  | nil => rfl
  | @cons a b l l' hab _ ih =>
    rw [List.filter_cons, List.filter_cons, ← hpq a b hab]
    split_ifs with ha
    · rw [List.map_cons, List.map_cons, hF a b hab ha, ih]
    · exact ih

/-- So is the image of the first one that passes. -/
theorem map_find?_congr {p q : α → Bool} {F G : α → β} (h : List.Forall₂ R l l')
    (hpq : ∀ a b, R a b → p a = q b) (hF : ∀ a b, R a b → p a = true → F a = G b) :
    (l.find? p).map F = (l'.find? q).map G := by
  rw [← List.head?_filter, ← List.head?_filter, ← List.head?_map, ← List.head?_map,
    map_filter_congr h hpq hF]

/-- Two lists related member by member map to one list where related members do. -/
theorem map_congr_of_forall₂ {F G : α → β} (h : List.Forall₂ R l l')
    (hF : ∀ a b, R a b → F a = G b) : l.map F = l'.map G := by
  induction h with
  | nil => rfl
  | cons hab _ ih => rw [List.map_cons, List.map_cons, hF _ _ hab, ih]

/-- Two lists related member by member filter to one list where related members do. -/
theorem filterMap_congr_of_forall₂ {F G : α → Option β} (h : List.Forall₂ R l l')
    (hF : ∀ a b, R a b → F a = G b) : l.filterMap F = l'.filterMap G := by
  induction h with
  | nil => rfl
  | cons hab _ ih => rw [List.filterMap_cons, List.filterMap_cons, hF _ _ hab, ih]

end Lists

/-! ## Kin trees -/

/-- The constructs of which a signature shows the text, or the texts of the parts. -/
def isVerbatim : Kind → Bool
  | .dimensions | .superclass | .typeList | .spreadParameter => true
  | k => isTypeKind k

/-- What a signature can show of a part. -/
def partView (p : Part) : Option Kind × String :=
  (p.kind?, tidy p.source)

/-- The name in the text of a type, without scope and type arguments. -/
def lastName (tidied : String) : String :=
  let name := stripChars (tidied.toList.takeWhile (· != '<'))
  String.ofList (name.reverse.takeWhile (· != '.')).reverse

/-- The simple name of a type is the last name of its tidied source. -/
theorem simpleTypeName_eq (source : String) : simpleTypeName source = lastName (tidy source) :=
  rfl

/-- A signature shows the same of both constructs. -/
structure SameView (t t' : Tree) : Prop where
  source : tidy t.source = tidy t'.source
  parts : t.namedParts.map partView = t'.namedParts.map partView

end StructureGrader

namespace StructureGrader.Syntax

/-- The same shape and the same tokens, with other trivia between them, and the same text where a
signature shows it. -/
inductive Tree.Kin : Tree → Tree → Prop
  | leaf (k : Kind) {x x' : Token} (htext : x.text = x'.text) : Kin (.leaf k x) (.leaf k x')
  | node {k : Kind} {cs cs' : List Tree} (hkind : k.isOfToken = false)
      (hview : isVerbatim k = true → SameView (.node k cs) (.node k cs'))
      (hparts : List.Forall₂ Kin cs cs') : Kin (.node k cs) (.node k cs')

namespace Tree.Kin

open Text

variable {t t' : Tree}

/-- Trees of kin have one kind. -/
theorem kind_eq (h : t.Kin t') : t.kind = t'.kind := by
  cases h <;> rfl

/-- The children of trees of kin are kin, one by one. -/
theorem children (h : t.Kin t') : List.Forall₂ Kin t.children t'.children := by
  cases h with
  | leaf => exact .nil
  | node _ _ hparts => exact hparts

/-- The text of a single token. -/
theorem source_eq (h : t.Kin t') (hkind : t.kind.isOfToken = true) : t.source = t'.source := by
  cases h with
  | leaf k htext =>
    show _ ++ textOf [] = _ ++ textOf []
    rw [htext]
  | node hnode =>
    rw [show (Tree.node _ _).kind.isOfToken = false from hnode] at hkind
    cases hkind

/-- Trees of kin show the same text where their kind is one whose text is shown. -/
theorem sameView (h : t.Kin t') (hkind : isVerbatim t.kind = true) : SameView t t' := by
  cases h with
  | leaf k htext =>
    refine ⟨?_, rfl⟩
    show tidy (_ ++ textOf []) = tidy (_ ++ textOf [])
    rw [htext]
  | node _ hview => exact hview hkind

section Parts

variable {β : Type} {F G : Tree → β}

/-- The first children of one sort, in trees of kin, map to one value where such children do. -/
theorem map_child? (h : t.Kin t') {p : Kind → Bool}
    (hF : ∀ c c', Kin c c' → p c.kind = true → F c = G c') :
    (t.child? p).map F = (t'.child? p).map G :=
  map_find?_congr h.children (fun _ _ hc => congrArg p hc.kind_eq) hF

/-- The children of one kind, in trees of kin, map to one list where such children do. -/
theorem map_childrenOfKind (h : t.Kin t') {k : Kind}
    (hF : ∀ c c', Kin c c' → c.kind = k → F c = G c') :
    (t.childrenOfKind k).map F = (t'.childrenOfKind k).map G :=
  map_filter_congr h.children (fun _ _ hc => congrArg (· == k) hc.kind_eq)
    fun c c' hc hk => hF c c' hc (eq_of_beq hk)

/-- The children of trees of kin map to one list where kin children do. -/
theorem map_children (h : t.Kin t') (hF : ∀ c c', Kin c c' → F c = G c') :
    t.children.map F = t'.children.map G :=
  map_congr_of_forall₂ h.children hF

end Parts

/-! ## Parts of declarations -/

/-- Trees of kin have the same modifier words. -/
theorem modifierWordsOf_eq (h : t.Kin t') : modifierWordsOf t = modifierWordsOf t' := by
  have hform : ∀ d : Tree, modifierWordsOf d = ((d.child? (· == .modifiers)).map fun m =>
      (m.childrenOfKind .mark).map Tree.source).getD [] := by
    intro d
    unfold modifierWordsOf
    cases d.child? (· == .modifiers) <;> rfl
  have hwords : ∀ m m' : Tree, Kin m m' →
      (m.childrenOfKind .mark).map Tree.source = (m'.childrenOfKind .mark).map Tree.source :=
    fun m m' hm => hm.map_childrenOfKind fun c c' hc hk => hc.source_eq (by rw [hk]; rfl)
  rw [hform, hform, h.map_child? fun m m' hm _ => hwords m m' hm]

/-- Trees of kin have the same name. -/
theorem nameOf_eq (h : t.Kin t') : nameOf t = nameOf t' := by
  unfold nameOf
  rw [h.map_child? fun c c' hc hk => hc.source_eq (by rw [eq_of_beq hk]; rfl)]

/-- The tidied source of a child is the same in trees of kin where its sort is one whose text is shown.
-/
theorem tidySource_child? (h : t.Kin t') {p : Kind → Bool}
    (hp : ∀ k, p k = true → isVerbatim k = true) :
    tidySource (t.child? p) = tidySource (t'.child? p) := by
  unfold tidySource
  rw [h.map_child? fun c c' hc hk => (hc.sameView (hp _ hk)).source]

/-- Trees of kin give the same tidied type. -/
theorem typeText_eq (h : t.Kin t') :
    tidySource (t.child? isTypeKind) = tidySource (t'.child? isTypeKind) :=
  h.tidySource_child? fun k hk => by cases k <;> first | rfl | cases hk

/-- The type of a declarator, with the dimensions behind its name, is the same in trees of kin. -/
theorem typeOf_eq {d d' : Tree} (h : t.Kin t') (hd : d.Kin d') : typeOf t d = typeOf t' d' := by
  unfold typeOf
  rw [h.typeText_eq, hd.tidySource_child? fun k hk => by rw [eq_of_beq hk]; rfl]

/-! ## Headers -/

/-- Trees of kin list the same names of type parameters. -/
theorem typeParameterNames_eq (h : t.Kin t') : typeParameterNames t = typeParameterNames t' := by
  have hform : ∀ d : Tree, typeParameterNames d = ((d.childrenOfKind .typeParameter).map fun p =>
      (p.child? (· == .typeName)).map Tree.source).filterMap id := by
    intro d
    rw [List.filterMap_map]
    rfl
  rw [hform, hform, h.map_childrenOfKind fun p p' hp _ =>
    hp.map_child? fun c c' hc hk => hc.source_eq (by rw [eq_of_beq hk]; rfl)]

/-- The names of types that the parts show. -/
theorem names_eq_of_sameView (h : SameView t t') :
    t.namedParts.map (fun p => simpleTypeName p.source) =
      t'.namedParts.map fun p => simpleTypeName p.source := by
  have hform : ∀ d : Tree, d.namedParts.map (fun p => simpleTypeName p.source) =
      (d.namedParts.map partView).map fun v => lastName v.2 := by
    intro d
    rw [List.map_map]
    exact List.map_congr_left fun p _ => simpleTypeName_eq p.source
  rw [hform, hform, h.parts]

/-- The types listed in a clause are the same in trees of kin. -/
theorem listedTypes_eq (h : t.Kin t') : listedTypes t = listedTypes t' := by
  unfold listedTypes
  rw [List.flatMap_def, List.flatMap_def, h.map_childrenOfKind fun c c' hc hk =>
    names_eq_of_sameView (hc.sameView (by rw [hk]; rfl))]

/-- Trees of kin extend the same types. -/
theorem extendedTypes_eq (h : t.Kin t') : extendedTypes t = extendedTypes t' := by
  unfold extendedTypes
  rw [List.flatMap_def, List.flatMap_def]
  refine congrArg List.flatten (h.map_children fun c c' hc => ?_)
  rw [← hc.kind_eq]
  split
  · rename_i hk
    exact names_eq_of_sameView (hc.sameView (by rw [hk]; rfl))
  · exact hc.listedTypes_eq
  · rfl

/-- Trees of kin implement the same types. -/
theorem implementedTypes_eq (h : t.Kin t') : implementedTypes t = implementedTypes t' := by
  unfold implementedTypes
  rw [List.flatMap_def, List.flatMap_def,
    h.map_childrenOfKind fun c c' hc _ => hc.listedTypes_eq]

/-- The header of a type is the same for trees of kin. -/
theorem typeHeader_eq (h : t.Kin t') (isInterface : Bool) :
    typeHeader isInterface t = typeHeader isInterface t' := by
  unfold typeHeader
  rw [h.modifierWordsOf_eq, h.nameOf_eq, h.extendedTypes_eq, h.implementedTypes_eq,
    h.map_child? fun c c' hc _ => hc.typeParameterNames_eq]

/-- The header of a field is the same for trees of kin. -/
theorem fieldHeader_eq {d d' : Tree} (h : t.Kin t') (hd : d.Kin d') :
    fieldHeader t d = fieldHeader t' d' := by
  unfold fieldHeader
  rw [h.modifierWordsOf_eq, h.typeOf_eq hd, hd.nameOf_eq]

/-- A parameter that takes the rest of the arguments is the same for trees of kin. -/
theorem spreadParameter_eq (h : t.Kin t') (hkind : t.kind = .spreadParameter) :
    spreadParameter t = spreadParameter t' := by
  have hform : ∀ d : Tree, spreadParameter d =
      ((((d.namedParts.map partView).filter fun v => v.1 != some .variableDeclarator &&
        v.1 != some .modifiers).getLast?.map Prod.snd).getD "") ++ "... " ++
        ((d.child? (· == .variableDeclarator)).map nameOf).getD "" := by
    intro d
    unfold spreadParameter
    rw [List.filter_map, List.getLast?_map, Option.map_map]
    rfl
  rw [hform, hform, (h.sameView (by rw [hkind]; rfl)).parts,
    h.map_child? fun c c' hc _ => hc.nameOf_eq]

/-- Kin trees have kin first children of a kind, or none. -/
theorem child?_cases (h : t.Kin t') (p : Kind → Bool) :
    t.child? p = none ∧ t'.child? p = none ∨
      ∃ c c', t.child? p = some c ∧ t'.child? p = some c' ∧ Kin c c' := by
  unfold child?
  have hchildren := h.children
  revert hchildren
  generalize t.children = cs
  generalize t'.children = cs'
  intro hchildren
  induction hchildren with
  | nil => exact .inl ⟨rfl, rfl⟩
  | @cons c c' cs cs' hc _ ih =>
    rw [List.find?_cons, List.find?_cons, ← hc.kind_eq]
    cases p c.kind with
    | true => exact .inr ⟨c, c', rfl, rfl, hc⟩
    | false => exact ih

/-- Trees of kin list the same parameters. -/
theorem parametersOf_eq (h : t.Kin t') : parametersOf t = parametersOf t' := by
  unfold parametersOf
  rcases h.child?_cases (· == .formalParameters) with ⟨hnone, hnone'⟩ | ⟨ps, ps', hps, hps', hkin⟩
  · rw [hnone, hnone']
  · rw [hps, hps']
    refine filterMap_congr_of_forall₂ hkin.children fun p p' hp => ?_
    rw [← hp.kind_eq]
    split
    · rw [hp.typeOf_eq hp, hp.nameOf_eq]
    · rename_i hk
      rw [hp.spreadParameter_eq hk]
    · rfl

/-- The header of a method is the same for trees of kin. -/
theorem methodHeader_eq (h : t.Kin t') : methodHeader t = methodHeader t' := by
  unfold methodHeader
  rw [h.modifierWordsOf_eq, h.nameOf_eq, h.parametersOf_eq, h.typeText_eq]

/-- The header of a constructor is the same for trees of kin. -/
theorem constructorHeader_eq (h : t.Kin t') : constructorHeader t = constructorHeader t' := by
  unfold constructorHeader
  rw [h.modifierWordsOf_eq, h.nameOf_eq, h.parametersOf_eq]

/-! ## Elements -/

/-- Kin constructs declare the same. -/
theorem declared_eq (h : t.Kin t') : declared t = declared t' := by
  unfold declared
  rw [← h.kind_eq, h.nameOf_eq, h.typeHeader_eq, h.typeHeader_eq, h.methodHeader_eq,
    h.constructorHeader_eq, h.map_childrenOfKind fun d d' hd _ => ?_]
  rw [hd.nameOf_eq, h.fieldHeader_eq hd]

end Tree.Kin

end StructureGrader.Syntax

namespace StructureGrader

open Syntax

/-- The elements a tree declares hold the kinds, the names and the signatures of its headers. -/
theorem map_key_elementsDeclared (origin : Origin) (before : Nat) (t : Tree) :
    (elementsDeclared origin before t).map Element.key =
      (declared t).map fun d => (d.1, some d.2.1, some d.2.2) := by
  unfold elementsDeclared
  rw [List.map_map]
  rfl

mutual

/-- The elements of kin trees have the same kinds, names and signatures. -/
theorem map_key_treeElements {origin origin' : Origin} : ∀ {t t' : Tree} (before before' : Nat),
    t.Kin t' → (treeElements origin before t).map Element.key =
      (treeElements origin' before' t').map Element.key
  | .leaf k x, _, _, _, h => by
    cases h
    rfl
  | .node k cs, _, before, before', h => by
    have hdeclared := h.declared_eq
    cases h with
    | node hkind hview hparts =>
      rw [treeElements, treeElements, List.map_append, List.map_append, map_key_elementsDeclared,
        map_key_elementsDeclared, hdeclared, map_key_forestElements before before' hparts]

/-- The elements of forests of kin agree in kind, name and signature, wherever the forests stand. -/
theorem map_key_forestElements {origin origin' : Origin} : ∀ {cs cs' : List Tree}
    (before before' : Nat), List.Forall₂ Tree.Kin cs cs' →
    (forestElements origin before cs).map Element.key =
      (forestElements origin' before' cs').map Element.key
  | [], _, _, _, h => by
    cases h
    rfl
  | c :: cs, _, before, before', h => by
    cases h with
    | cons hc hparts =>
      rw [forestElements, forestElements, List.map_append, List.map_append,
        map_key_treeElements before before' hc, map_key_forestElements _ _ hparts]

end

/-- Texts that are read as compilation units with kin parts have elements with the same kinds, names
and signatures. -/
theorem map_key_elementsOf {source source' : String} {cs cs' : List Tree}
    (hunit : parse? source = some (.node .program cs))
    (hunit' : parse? source' = some (.node .program cs')) (h : List.Forall₂ Tree.Kin cs' cs)
    (file : String) :
    (elementsOf source' file).map Element.key = (elementsOf source file).map Element.key := by
  have hkin : (Syntax.Tree.node .program cs').Kin (.node .program cs) :=
    .node rfl (fun hview => by cases hview) h
  unfold elementsOf
  rw [hunit, hunit']
  exact map_key_treeElements 0 0 hkin

end StructureGrader
