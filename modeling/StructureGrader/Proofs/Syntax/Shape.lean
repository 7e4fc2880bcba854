import StructureGrader.Proofs.Syntax.Reading

/-!
# What the grammar does not see

Rules look at nothing of a token but its class, its text and whether it touches the token before. So
reading commutes with every change to tokens that keeps these (`KeepsWords`, `Rule.run_mapTokens`),
and token lists that such a change makes equal are read as trees that it makes equal
(`parse?_of_map_eq`).
-/

namespace StructureGrader.Syntax

open Syntax.Tree (tokensOfAll depthOfAll)

/-- The change keeps what a rule looks at. -/
structure KeepsWords (f : Token → Token) : Prop where
  tokenClass (t : Token) : (f t).tokenClass = t.tokenClass
  text (t : Token) : (f t).text = t.text
  isGlued (t : Token) : (f t).isGlued = t.isGlued

/-- A change that keeps what rules look at keeps whether a token has the shape asked for. -/
theorem KeepsWords.accepts {f : Token → Token} (hf : KeepsWords f) (shape : Shape) (t : Token) :
    shape.accepts (f t) = shape.accepts t := by
  cases shape <;>
  · unfold Shape.accepts
    dsimp only
    simp only [hf.tokenClass, hf.text, hf.isGlued]

/-! ## Trees with changed tokens -/

mutual

/-- The tree with every token changed. -/
def Tree.mapTokens (f : Token → Token) : Tree → Tree
  | .leaf k t => .leaf k (f t)
  | .node k cs => .node k (mapTokensOfAll f cs)

/-- The trees with every token changed. -/
def mapTokensOfAll (f : Token → Token) : List Tree → List Tree
  | [] => []
  | c :: cs => c.mapTokens f :: mapTokensOfAll f cs

end

variable {f : Token → Token}

/-- Changing the tokens of several trees changes those of each. -/
theorem mapTokensOfAll_eq_map (cs : List Tree) : mapTokensOfAll f cs = cs.map (Tree.mapTokens f) := by
  induction cs with
  | nil => rfl
  | cons c cs ih => rw [mapTokensOfAll, ih, List.map_cons]

/-- Changing the tokens of a node changes those of its parts. -/
theorem mapTokens_node (k : Kind) (cs : List Tree) :
    (Tree.node k cs).mapTokens f = .node k (cs.map (Tree.mapTokens f)) := by
  rw [Tree.mapTokens, mapTokensOfAll_eq_map]

/-- The kind of a tree stays when its tokens are changed. -/
theorem kind_mapTokens (t : Tree) : (t.mapTokens f).kind = t.kind := by
  cases t <;> rfl

/-- The children of a changed tree are the changed children. -/
theorem children_mapTokens (t : Tree) :
    (t.mapTokens f).children = t.children.map (Tree.mapTokens f) := by
  cases t with
  | leaf k t => rfl
  | node k cs => exact mapTokensOfAll_eq_map cs

mutual

/-- The tokens of a changed tree are the changed tokens. -/
theorem tokens_mapTokens : ∀ t : Tree, (t.mapTokens f).tokens = t.tokens.map f
  | .leaf _ _ => rfl
  | .node _ cs => tokensOfAll_mapTokens cs

/-- The tokens of several changed trees are the changed tokens. -/
theorem tokensOfAll_mapTokens : ∀ cs : List Tree,
    tokensOfAll (mapTokensOfAll f cs) = (tokensOfAll cs).map f
  | [] => rfl
  | c :: cs => by
    rw [mapTokensOfAll, tokensOfAll, tokensOfAll, List.map_append, tokens_mapTokens,
      tokensOfAll_mapTokens]

end

mutual

/-- The depth of a tree stays when its tokens are changed. -/
theorem depth_mapTokens : ∀ t : Tree, (t.mapTokens f).depth = t.depth
  | .leaf _ _ => rfl
  | .node _ cs => congrArg (· + 1) (depthOfAll_mapTokens cs)

/-- The depth of several trees stays when their tokens are changed. -/
theorem depthOfAll_mapTokens : ∀ cs : List Tree, depthOfAll (mapTokensOfAll f cs) = depthOfAll cs
  | [] => rfl
  | c :: cs => by
    rw [mapTokensOfAll, depthOfAll, depthOfAll, depth_mapTokens, depthOfAll_mapTokens]

end

/-- A tree with the kind of a single token has the text of that token. -/
theorem Tree.Solid.source_mapTokens (hf : KeepsWords f) {t : Tree} (h : t.Solid)
    (hkind : t.kind.isOfToken = true) : (t.mapTokens f).source = t.source := by
  cases h with
  | leaf k t =>
    show (f t).text ++ textOf [] = t.text ++ textOf []
    rw [hf.text]
  | node hnode =>
    rw [show (Tree.node _ _).kind.isOfToken = false from hnode] at hkind
    cases hkind

/-- The operator among parts stays the same. -/
theorem operatorOf_mapTokens (hf : KeepsWords f) {parts : List Tree}
    (h : ∀ t ∈ parts, t.Solid) :
    operatorOf (parts.map (Tree.mapTokens f)) = operatorOf parts := by
  unfold operatorOf
  have hkinds : (parts.map (Tree.mapTokens f)).filter (fun t => t.kind == .operator) =
      (parts.filter fun t => t.kind == .operator).map (Tree.mapTokens f) := by
    rw [List.filter_map]
    congr 2
    funext t
    exact congrArg (· == Kind.operator) (kind_mapTokens t)
  rw [hkinds, List.map_map]
  refine congrArg String.join (List.map_congr_left fun t ht => ?_)
  obtain ⟨hmem, hkind⟩ := List.mem_filter.1 ht
  have htoken : t.kind.isOfToken = true := by
    rw [eq_of_beq hkind]
    rfl
  exact (h t hmem).source_mapTokens hf htoken

section Attach

variable {kind : Kind} {power : Nat} {right : List Tree}

mutual

/-- Operators are attached in the same place. -/
theorem Tree.Solid.mapTokens_attach (hf : KeepsWords f) : ∀ {t : Tree}, t.Solid →
    (t.attach kind power right).mapTokens f =
      (t.mapTokens f).attach kind power (right.map (Tree.mapTokens f))
  | .leaf k t, _ => by
    rw [Tree.attach, mapTokens_node]
    rfl
  | .node k cs, .node _ _ parts => by
    rw [mapTokens_node, Tree.attach, Tree.attach, operatorOf_mapTokens hf parts]
    split_ifs
    · rw [mapTokens_node, mapTokens_attachToLast hf parts]
    · rw [mapTokens_node, List.map_cons, mapTokens_node]

/-- Attaching to the last tree goes along with a change of the tokens. -/
theorem mapTokens_attachToLast (hf : KeepsWords f) : ∀ {cs : List Tree}, (∀ c ∈ cs, c.Solid) →
    (attachToLast kind power right cs).map (Tree.mapTokens f) =
      attachToLast kind power (right.map (Tree.mapTokens f)) (cs.map (Tree.mapTokens f))
  | [], _ => rfl
  | [c], parts => by
    rw [attachToLast, List.map_singleton, List.map_singleton, attachToLast,
      (parts c List.mem_cons_self).mapTokens_attach hf]
  | c :: d :: cs, parts => by
    have hmore := mapTokens_attachToLast hf fun e he => parts e (List.mem_cons_of_mem c he)
    rw [attachToLast, List.map_cons, hmore]
    rfl

end

end Attach

/-! ## Readers -/

/-- The cursor with every token changed, of the trees built and of those not yet read. -/
def Cursor.mapTokens (f : Token → Token) (c : Cursor) : Cursor :=
  ⟨c.built.map (Tree.mapTokens f), c.rest.map f⟩

/-- The reader does the same with changed tokens. -/
def Reader.Maps (f : Token → Token) (r : Reader) : Prop :=
  ∀ ⦃c : Cursor⦄, c.Solid → r (c.mapTokens f) = (r c).map (Cursor.mapTokens f)

/-- A reader that goes along with a change of the tokens does so any number of times. -/
theorem Reader.Maps.many {r : Reader} (hreads : r.Reads) (h : r.Maps f) (clock : List Token)
    {c : Cursor} (hs : c.Solid) :
    Reader.many r (clock.map f) (c.mapTokens f) = (Reader.many r clock c).mapTokens f := by
  induction clock generalizing c with
  | nil => rfl
  | cons t clock ih =>
    rw [List.map_cons, Reader.many, Reader.many, h hs]
    cases hc : r c with
    | none => rfl
    | some d => exact ih (hreads hs hc).solid

/-- A reader on the last tree goes along with a change of the tokens where its reader and the merge do.
-/
theorem Reader.Maps.onLast {r : Reader} (h : r.Maps f) (hreads : r.Reads)
    {merge : Tree → List Tree → Tree}
    (hmerge : ∀ ⦃last right⦄, last.Solid → (∀ t ∈ right, t.Solid) →
      (merge last right).mapTokens f = merge (last.mapTokens f) (right.map (Tree.mapTokens f))) :
    (r.onLast merge).Maps f := by
  rintro ⟨_ | ⟨last, more⟩, rest⟩ hs
  · rfl
  · have hread : r ⟨[], rest.map f⟩ = _ := h (Cursor.solid_start rest)
    show r.onLast merge ⟨last.mapTokens f :: more.map _, rest.map f⟩ = _
    rw [Reader.onLast_cons, Reader.onLast_cons, hread]
    cases hd : r ⟨[], rest⟩ with
    | none => rfl
    | some d =>
      have hlast : last.Solid := hs last List.mem_cons_self
      dsimp only [Option.map_some, Cursor.mapTokens]
      rw [List.map_cons, hmerge hlast (hreads.solid_start hd), List.map_reverse]

namespace Rule

variable {P : Type} {taking : P → Bool} {env : P → Reader}

/-- A node goes along with a change of the tokens where its rule does. -/
theorem maps_node {rule : Rule P} (h : (rule.run env).Maps f) (kind : Kind) :
    ((node kind rule).run env).Maps f := by
  intro c hs
  have hrun : rule.run env ⟨[], (c.mapTokens f).rest⟩ = _ := h (Cursor.solid_start c.rest)
  rw [run_node, run_node, hrun]
  cases rule.run env ⟨[], c.rest⟩ with
  | none => rfl
  | some d =>
    dsimp only [Option.map_some, Cursor.mapTokens]
    rw [List.map_cons, mapTokens_node, List.map_reverse]

/-- The reader of a sound rule does the same with changed tokens. -/
theorem run_mapTokens (hf : KeepsWords f)
    (hreads : ∀ p, taking p = true → (env p).Reads ∧ (env p).Takes)
    (hmaps : ∀ p, taking p = true → (env p).Maps f) (rule : Rule P)
    (hsound : rule.isSound taking = true) : (rule.run env).Maps f := by
  induction rule with
  | empty => exact fun c _ => rfl
  | token shape kind =>
    rintro ⟨built, _ | ⟨t, ts⟩⟩ hs
    · rfl
    · show (token shape kind).run env ⟨built.map _, f t :: ts.map f⟩ = _
      rw [run_token_cons, run_token_cons, hf.accepts]
      split_ifs <;> rfl
  | seq first second ihfirst ihsecond =>
    rw [isSound, Bool.and_eq_true] at hsound
    intro c hs
    rw [run_seq, run_seq, ihfirst hsound.1 hs]
    cases hd : first.run env c with
    | none => rfl
    | some d =>
      -- The second rule starts from solid trees, since the first built them.
      have hsd : d.Solid := ((reads_run hreads first hsound.1).1 hs hd).solid
      exact ihsecond hsound.2 hsd
  | alt first second ihfirst ihsecond =>
    rw [isSound, Bool.and_eq_true] at hsound
    intro c hs
    rw [run_alt, run_alt, ihfirst hsound.1 hs, ihsecond hsound.2 hs]
    cases first.run env c <;> rfl
  | many rule ih =>
    intro c hs
    exact congrArg some (Reader.Maps.many (reads_run hreads rule hsound).1 (ih hsound) c.rest hs)
  | ref phrase => exact hmaps phrase hsound
  | node kind rule ih =>
    rw [isSound, Bool.and_eq_true] at hsound
    exact maps_node (ih hsound.2) kind
  | extend kind rule ih =>
    rw [isSound, Bool.and_eq_true] at hsound
    rw [run_extend]
    refine (ih hsound.2).onLast (reads_run hreads rule hsound.2).1 fun last right _ _ => ?_
    rw [mapTokens_node, List.map_cons]
  | operate kind rule ih =>
    rw [isSound, Bool.and_eq_true] at hsound
    rw [run_operate]
    refine (ih hsound.2).onLast (reads_run hreads rule hsound.2).1 fun last right hlast hright => ?_
    rw [hlast.mapTokens_attach hf, operatorOf_mapTokens hf hright]
  | lastIs kinds =>
    rintro ⟨_ | ⟨last, more⟩, rest⟩ hs
    · rfl
    · show (lastIs kinds : Rule P).run env ⟨last.mapTokens f :: more.map _, rest.map f⟩ = _
      rw [run_lastIs_cons, run_lastIs_cons, kind_mapTokens]
      split_ifs <;> rfl

end Rule

/-! ## Source texts -/

/-- The readers of all phrases but the outermost do the same with changed tokens. -/
theorem reader_maps (hf : KeepsWords f) (limit : Nat) {p : Phrase} (h : p.isTaking = true) :
    (grammar.reader limit p).Maps f := by
  induction limit generalizing p with
  | zero => exact fun _ _ => rfl
  | succ limit ih =>
    exact Rule.run_mapTokens hf (fun _ => reader_reads limit) (fun _ => ih) (grammar p)
      (grammar_isSound h).2

/-- A program is read the same from changed tokens. -/
theorem reader_program_maps (hf : KeepsWords f) (limit : Nat) (ts : List Token) :
    grammar.reader limit .program ⟨[], ts.map f⟩ =
      (grammar.reader limit .program ⟨[], ts⟩).map (Cursor.mapTokens f) := by
  cases limit with
  | zero => rfl
  | succ limit =>
    let items : Rule Phrase := .many (.alt (.ref .statement) (.ref .methodDeclaration))
    have hitems : items.isSound Phrase.isTaking = true := rfl
    have hmaps : (items.run (grammar.reader limit)).Maps f :=
      Rule.run_mapTokens hf (fun _ => reader_reads limit) (fun _ => reader_maps hf limit) items
        hitems
    exact Rule.maps_node hmaps .program (Cursor.solid_start ts)

/-- A text is read when another one is, whose tokens a change makes equal; the change makes the
trees equal, too. -/
theorem parse?_of_map_eq (hf : KeepsWords f) {source source' : String} {unit : Tree} {ts ts' : Tokens}
    (h : parse? source = some unit) (hts : tokenize? source = some ts)
    (hts' : tokenize? source' = some ts') (hmap : ts'.tokens.map f = ts.tokens.map f) :
    ∃ unit', parse? source' = some unit' ∧ unit'.mapTokens f = unit.mapTokens f := by
  unfold parse? at h ⊢
  rw [hts] at h
  rw [hts']
  dsimp only at h ⊢
  split at h
  · rename_i tree hread
    split_ifs at h with hdepth
    obtain rfl := Option.some.inj h
    have hread' := reader_program_maps hf nestingLimit ts'.tokens
    rw [hmap, reader_program_maps hf, hread] at hread'
    obtain ⟨⟨built, rest⟩, hd, heq⟩ := Option.map_eq_some_iff.1 hread'.symm
    obtain ⟨hbuilt, hrest⟩ := Cursor.mk.inj heq
    obtain rfl : rest = [] := List.map_eq_nil_iff.1 hrest
    obtain ⟨tree', rfl, htree⟩ := List.map_eq_singleton_iff.1 hbuilt
    rw [hd]
    dsimp only
    have hdepth' : tree'.depth ≤ depthLimit := by
      rw [← depth_mapTokens (f := f), htree, depth_mapTokens]
      exact hdepth
    rw [if_pos hdepth']
    exact ⟨tree', rfl, htree⟩
  · cases h

end StructureGrader.Syntax
