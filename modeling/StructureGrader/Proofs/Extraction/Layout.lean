import StructureGrader.Proofs.Extraction.Views
import StructureGrader.Proofs.Syntax.Layout
import StructureGrader.Proofs.Text.Runs

/-!
# Layout does not matter

Re-indenting a text without comments changes no kind, name or signature (`elementsOf_reindented`).
Where white space stands between two tokens of a tree, a signature shows one space whatever is there
(`tidy_source_plain`), so trees with white space between the same tokens are kin (`kin_of_plain`).
-/

namespace StructureGrader

open Syntax Text
open Syntax.Tree (tokensOfAll)

/-! ## White space before tokens -/

/-- What separates tokens is blank. -/
theorem isBlank_of_isSpace {c : Char} (h : isSpace c = true) : isBlank c = true := by
  have hspaces : ∀ c ∈ spaces, isBlank c = true := by decide
  exact hspaces c (mem_spaces h)

/-- A text of tokens is what stands in front of the first, that token and then the text of the others.
-/
theorem toList_textOf_cons (t : Token) (ts : List Token) :
    (textOf (t :: ts)).toList = leadChars t.lead ++ (t.text.toList ++ (textOf ts).toList) := by
  have h := charsOf_cons t ts []
  unfold charsOf at h
  rwa [leadChars_nil, List.append_nil, List.append_nil] at h

/-- One space for the white space before each token does not show. -/
theorem collapseFrom_plain {ts : List Token} (h : ∀ t ∈ ts, IsPlain t.lead) (inRun : Bool) :
    collapseFrom inRun (textOf (ts.map Token.plain)).toList =
      collapseFrom inRun (textOf ts).toList := by
  induction ts generalizing inRun with
  | nil => rfl
  | cons t ts ih =>
    have hmore := collapseFrom_append_congr (ih fun u hu => h u (List.mem_cons_of_mem t hu))
      t.text.toList
    have hlead := h t List.mem_cons_self
    rw [List.map_cons, toList_textOf_cons, toList_textOf_cons]
    obtain ⟨lead, tokenClass, text⟩ := t
    dsimp only [Token.plain] at hlead hmore ⊢
    cases hlead with
    | nil => exact hmore inRun
    | @blank w hne hspace =>
      have hblank : ∀ c ∈ w, isBlank c = true := fun c hc => isBlank_of_isSpace (hspace c hc)
      have hone : leadChars [.blank " "] = [' '] := by
        rw [leadChars_cons, Trivia.text]
        rfl
      show collapseFrom inRun (leadChars [.blank " "] ++ _) = _
      rw [hone, leadChars_cons, Trivia.text, String.toList_ofList, leadChars_nil, List.append_nil,
        collapseFrom_blanks hne hblank, ← hmore]
      exact collapseFrom_blanks (List.cons_ne_nil ' ' []) (by decide) _ inRun

/-! ## Trees with white space between their tokens -/

/-- A solid tree with white space or nothing between any two of its tokens. -/
structure Syntax.Tree.IsPlain (t : Tree) : Prop where
  solid : t.Solid
  leads : ∀ x ∈ t.tokens.tail, Syntax.IsPlain x.lead

/-- What is behind the first item of a stretch is behind the first item of every list with that
stretch in it. -/
theorem mem_tail_append {α : Type} {x : α} {m : List α} (h : x ∈ m.tail) (l r : List α) :
    x ∈ (l ++ (m ++ r)).tail := by
  cases l with
  | nil =>
    cases m with
    | nil => cases h
    | cons a m => exact List.mem_append_left r h
  | cons a l => exact List.mem_append_right l (List.mem_append_left r (List.mem_of_mem_tail h))

/-- What stands between the tokens of a part stands between tokens of the whole. -/
theorem mem_tail_of_part {c : Tree} {cs : List Tree} (hc : c ∈ cs) {x : Token}
    (hx : x ∈ c.tokens.tail) : x ∈ (tokensOfAll cs).tail := by
  obtain ⟨before, after, rfl⟩ := List.append_of_mem hc
  rw [tokensOfAll_append, tokensOfAll]
  exact mem_tail_append hx _ _

/-- A part of a tree without comments has none. -/
theorem Syntax.Tree.IsPlain.part {k : Kind} {cs : List Tree} (h : (Tree.node k cs).IsPlain)
    {c : Tree} (hc : c ∈ cs) : c.IsPlain where
  solid := h.solid.part hc
  leads x hx := h.leads x (mem_tail_of_part hc hx)

/-- The text of the tree shows the same with one space between tokens where there is any white
space. -/
theorem tidy_source_plain {t : Tree} (h : t.IsPlain) :
    tidy (t.mapTokens Token.plain).source = tidy t.source := by
  have hleads := h.leads
  unfold Tree.source
  rw [tokens_mapTokens]
  cases htokens : t.tokens with
  | nil => rfl
  | cons first rest =>
    rw [htokens, List.tail_cons] at hleads
    rw [List.map_cons]
    dsimp only
    unfold tidy collapseChars
    rw [String.toList_append, String.toList_append,
      collapseFrom_append_congr (collapseFrom_plain hleads)]
    rfl

/-- Where no comments stand between the parts of a tree, its parts are its children. -/
theorem partsAfter_eq {cs : List Tree} (h : ∀ c ∈ cs, c.lead.filterMap Trivia.comment? = []) :
    partsAfter cs = cs.map Part.child := by
  induction cs with
  | nil => rfl
  | cons c cs ih =>
    rw [partsAfter, h c List.mem_cons_self, ih fun d hd => h d (List.mem_cons_of_mem c hd)]
    rfl

/-- In front of a token of a plain tree stands no comment. -/
theorem Syntax.IsPlain.comments {lead : List Trivia} (h : Syntax.IsPlain lead) :
    lead.filterMap Trivia.comment? = [] := by
  cases h <;> rfl

/-- No comments stand between the parts: the first token of a later part is not the first one of the
tree, because the first part has a token. -/
theorem parts_eq_of_isPlain {t : Tree} (h : t.IsPlain) : t.parts = t.children.map Part.child := by
  cases t with
  | leaf k x => rfl
  | node k cs =>
    cases cs with
    | nil => rfl
    | cons c cs =>
      refine congrArg (Part.child c :: ·) (partsAfter_eq fun d hd => ?_)
      obtain ⟨x, xs, hx⟩ :=
        List.exists_cons_of_ne_nil (h.part (List.mem_cons_of_mem c hd)).solid.tokens_ne_nil
      obtain ⟨y, ys, hy⟩ :=
        List.exists_cons_of_ne_nil (h.part List.mem_cons_self).solid.tokens_ne_nil
      have hmem : x ∈ (Syntax.Tree.node k (c :: cs)).tokens.tail := by
        rw [Tree.tokens, tokensOfAll, hy]
        refine List.mem_append_right ys ?_
        rw [tokensOfAll_eq_flatMap]
        exact List.mem_flatMap.2 ⟨d, hd, by rw [hx]; exact List.mem_cons_self⟩
      have hlead : d.lead = x.lead := by
        unfold Tree.lead
        rw [hx]
        rfl
      rw [hlead]
      exact (h.leads x hmem).comments

/-- What a signature can show of the parts is the same with one space between tokens. -/
theorem map_partView_plain {t : Tree} (h : t.IsPlain) :
    t.namedParts.map partView =
      ((t.mapTokens Token.plain).children.filter fun c => c.kind != .mark).map fun c =>
        (some c.kind, tidy c.source) := by
  have hkind : (fun c : Tree => c.kind != .mark) ∘ Tree.mapTokens Token.plain =
      fun c => c.kind != .mark :=
    funext fun c => congrArg (· != Kind.mark) (kind_mapTokens c)
  unfold Tree.namedParts
  rw [parts_eq_of_isPlain h, children_mapTokens, List.filter_map, List.filter_map, List.map_map,
    List.map_map, hkind]
  refine List.map_congr_left fun c hc => ?_
  have hmem : c ∈ t.children := (List.mem_filter.1 hc).1
  have hplain : c.IsPlain := by
    cases t with
    | leaf k x => exact absurd hmem List.not_mem_nil
    | node k cs => exact h.part hmem
  dsimp only [Function.comp_apply]
  rw [kind_mapTokens, tidy_source_plain hplain]
  rfl

/-! ## Kin trees -/

mutual

/-- Trees with the same tokens and white space between the same of them are kin. -/
theorem kin_of_plain : ∀ {t t' : Tree}, t.mapTokens Token.plain = t'.mapTokens Token.plain →
    t.IsPlain → t'.IsPlain → t.Kin t'
  | .leaf k x, .leaf k' x', h, _, _ => by
    obtain ⟨rfl, hx⟩ := Tree.leaf.inj h
    have htext : x.plain.text = x'.plain.text := congrArg Token.text hx
    exact .leaf k htext
  | .node k cs, .node k' cs', h, hplain, hplain' => by
    obtain ⟨rfl, hcs⟩ := Tree.node.inj h
    have hparts := forall₂_kin_of_plain hcs (fun c hc => hplain.part hc) fun c hc => hplain'.part hc
    refine .node hplain.solid.kind_node (fun _ => ⟨?_, ?_⟩) hparts
    · rw [← tidy_source_plain hplain, h, tidy_source_plain hplain']
    · rw [map_partView_plain hplain, h, map_partView_plain hplain']
  | .leaf _ _, .node _ _, h, _, _ => by cases h
  | .node _ _, .leaf _ _, h, _, _ => by cases h

/-- Trees of the same tokens without comments are kin one by one. -/
theorem forall₂_kin_of_plain : ∀ {cs cs' : List Tree},
    mapTokensOfAll Token.plain cs = mapTokensOfAll Token.plain cs' → (∀ c ∈ cs, c.IsPlain) →
    (∀ c ∈ cs', c.IsPlain) → List.Forall₂ Tree.Kin cs cs'
  | [], [], _, _, _ => .nil
  | c :: cs, c' :: cs', h, hplain, hplain' => by
    obtain ⟨hc, hcs⟩ := List.cons.inj h
    exact .cons (kin_of_plain hc (hplain c List.mem_cons_self) (hplain' c' List.mem_cons_self))
      (forall₂_kin_of_plain hcs (fun d hd => hplain d (List.mem_cons_of_mem c hd))
        fun d hd => hplain' d (List.mem_cons_of_mem c' hd))
  | [], _ :: _, h, _, _ => by cases h
  | _ :: _, [], h, _, _ => by cases h

end

/-! ## Compilation units -/

/-- The parts of a tree that is read have white space between their tokens where the text has. -/
theorem isPlain_of_parse? {source : String} {ts : Tokens} {cs : List Tree}
    (h : parse? source = some (.node .program cs)) (hts : tokenize? source = some ts)
    (hplain : ∀ t ∈ ts.tokens.tail, Syntax.IsPlain t.lead) : ∀ c ∈ cs, c.IsPlain := by
  obtain ⟨us, ds, hus, hds, hsolid, htokens⟩ := parse?_eq_some h
  obtain ⟨-, rfl⟩ := Tree.node.inj hds
  obtain rfl := Option.some.inj (hus.symm.trans hts)
  intro c hc
  refine ⟨hsolid c hc, fun x hx => hplain x ?_⟩
  rw [← htokens]
  exact mem_tail_of_part hc hx

/-- Re-indenting a text without comments changes no kind, name or signature, and the text is still
read. -/
theorem elementsOf_reindented {source source' : String} {unit : Tree} {ts : Tokens}
    (hunit : parse? source = some unit) (hts : tokenize? source = some ts) (hfree : ts.IsFree)
    (h : Reindented ts.tail ts.tokens source'.toList) (file : String) :
    (parse? source').isSome = true ∧
      (elementsOf source' file).map Element.key = (elementsOf source file).map Element.key := by
  obtain ⟨ts', hts', hmap, hplain, hplain'⟩ := tokenize?_reindented hts hfree h
  obtain ⟨unit', hunit', hshape⟩ := parse?_of_map_eq keepsWords_plain hunit hts hts' hmap
  obtain ⟨us, cs, -, rfl, -, -⟩ := parse?_eq_some hunit
  obtain ⟨us', cs', -, rfl, -, -⟩ := parse?_eq_some hunit'
  obtain ⟨-, hcs⟩ := Tree.node.inj hshape
  have hparts : List.Forall₂ Tree.Kin cs' cs := forall₂_kin_of_plain hcs
    (isPlain_of_parse? hunit' hts' hplain') (isPlain_of_parse? hunit hts hplain)
  exact ⟨Option.isSome_of_eq_some hunit', map_key_elementsOf hunit hunit' hparts file⟩

/-- A field with white space inside of its type and inside of a string. -/
def narrowText : String :=
  "class A\x7bList <B> s=\"a  b\";\x7d"

/-- The same with other white space, but not inside of the string. -/
def wideText : String :=
  "class\n\tA\x7bList\n  <B>\ts=\"a  b\";\x7d"

/-- The tokens of the field, and of the class around it. -/
def narrowTokens : Tokens :=
  ⟨[⟨[], .word, "class"⟩, ⟨[.blank " "], .word, "A"⟩, ⟨[], .symbol, "\x7b"⟩, ⟨[], .word, "List"⟩,
    ⟨[.blank " "], .symbol, "<"⟩, ⟨[], .word, "B"⟩, ⟨[], .symbol, ">"⟩, ⟨[.blank " "], .word, "s"⟩,
    ⟨[], .symbol, "="⟩, ⟨[], .text, "\"a  b\""⟩, ⟨[], .symbol, ";"⟩, ⟨[], .symbol, "\x7d"⟩], []⟩

/-- A text on narrow lines and one that is laid out widely have the same elements. -/
theorem elementsOf_reindented_wideText :
    (∃ unit, parse? narrowText = some unit) ∧ tokenize? narrowText = some narrowTokens ∧
      narrowTokens.IsFree ∧
      Reindented narrowTokens.tail narrowTokens.tokens wideText.toList ∧
      (parse? wideText).isSome = true ∧
      (elementsOf wideText "A.java").map Element.key =
        (elementsOf narrowText "A.java").map Element.key := by
  have hparse : (parse? narrowText).isSome = true := by decide +kernel
  obtain ⟨unit, hunit⟩ := Option.isSome_iff_exists.1 hparse
  have htokens : tokenize? narrowText = some narrowTokens := by decide +kernel
  have hfree : narrowTokens.IsFree := by
    refine ⟨?_, rfl⟩
    decide
  -- One space becomes another run in three places.
  have hwider : ∀ w ∈ [['\n', '\t'], ['\n', ' ', ' '], ['\t']],
      Respaced (leadChars [.blank " "]) w := by
    have hspace : leadChars [.blank " "] = [' '] ++ [] := by decide +kernel
    intro w hw
    have hrun : w ≠ [] ∧ ∀ c ∈ w, isLayout c = true := by
      revert w
      decide
    rw [hspace, ← List.append_nil w]
    exact .run (by decide) hrun.1 (by decide) hrun.2 .nil
  have hsame : Respaced (leadChars []) [] := .nil
  have hlayout : Reindented narrowTokens.tail narrowTokens.tokens wideText.toList := by
    have hwide : wideText.toList = (List.zipWith (fun t lead => lead ++ t.text.toList)
        narrowTokens.tokens [[], ['\n', '\t'], [], [], ['\n', ' ', ' '], [], [], ['\t'], [], [], [],
          []]).flatten ++ [] := by decide +kernel
    rw [hwide]
    refine Reindented.of_leads hsame ?_
    exact .cons hsame (.cons (hwider _ (by decide)) (.cons hsame (.cons hsame
      (.cons (hwider _ (by decide)) (.cons hsame (.cons hsame (.cons (hwider _ (by decide))
        (.cons hsame (.cons hsame (.cons hsame (.cons hsame .nil)))))))))))
  exact ⟨⟨unit, hunit⟩, htokens, hfree, hlayout,
    elementsOf_reindented hunit htokens hfree hlayout "A.java"⟩

end StructureGrader
