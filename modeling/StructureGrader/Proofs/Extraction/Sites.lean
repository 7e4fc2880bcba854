import StructureGrader.Extraction
import StructureGrader.Proofs.Syntax.Lexing
import StructureGrader.Proofs.Syntax.Reading

/-!
# Where constructs stand

The constructs of a tree in the order in which they start, those around before those inside, with
the number of characters in front of each (`Tree.sites`). In a text that starts with what is in
front of a tree and goes on with the tree's own text, each construct stands where its site says
(`Tree.sites_stand`), and for a solid tree a construct that is listed later starts at the same place
or later, and either lies inside of the earlier one or starts behind its end
(`Tree.Solid.sites_ordered`). So no construct is listed twice (`Tree.Solid.sites_nodup`), and all
constructs in the tree are listed (`Tree.exists_mem_sites_iff`).
-/

namespace StructureGrader.Syntax

open Syntax.Tree (tokensOfAll)

/-- A construct of a text, and how many characters of the text stand before it. -/
structure Site where
  start : Nat
  construct : Tree

namespace Site

/-- How many characters of the text end with the construct. -/
def stop (s : Site) : Nat :=
  s.start + s.construct.source.length

/-- The construct is part of the text at this place. -/
def StandsIn (source : String) (s : Site) : Prop :=
  ∃ before after, before ++ s.construct.source ++ after = source ∧ before.length = s.start

/-- The first site starts no later, and the second one is a smaller construct inside of it or stands
behind it. -/
def Precedes (a b : Site) : Prop :=
  a.start ≤ b.start ∧
    (b.stop ≤ a.stop ∧ b.construct.depth < a.construct.depth ∨ a.stop ≤ b.start)

end Site

mutual

/-- The constructs in a tree, in the order of their text, each before those inside of it; `before`
characters stand before the text of the tree. -/
def Tree.sites (before : Nat) : Tree → List Site
  | .leaf _ _ => []
  | .node k cs =>
    ⟨before + (leadText (Tree.node k cs).lead).length, .node k cs⟩ :: sitesOfAll before cs

/-- The constructs in a list of trees. -/
def sitesOfAll (before : Nat) : List Tree → List Site
  | [] => []
  | c :: cs => c.sites before ++ sitesOfAll (before + c.fullText.length) cs

end

/-- One tree is the other or inside of it. -/
inductive Tree.Inside (t : Tree) : Tree → Prop
  | refl : Inside t t
  | part {k : Kind} {c : Tree} {cs : List Tree} (hc : c ∈ cs) (h : Inside t c) :
      Inside t (.node k cs)

mutual

/-- Every construct inside a tree has a site there. -/
theorem Tree.exists_mem_sites {k : Kind} {ds : List Tree} : ∀ {t : Tree} (before : Nat),
    (Tree.node k ds).Inside t → ∃ start, ⟨start, .node k ds⟩ ∈ t.sites before
  | .leaf k' t, before, h => by cases h
  | .node k' cs, before, h => by
    rw [Tree.sites]
    cases h with
    | refl => exact ⟨_, List.mem_cons_self⟩
    | part hc h =>
      obtain ⟨start, hmem⟩ := exists_mem_sitesOfAll before ⟨_, hc, h⟩
      exact ⟨start, List.mem_cons_of_mem _ hmem⟩

/-- Every construct inside one of several trees has a site among theirs. -/
theorem exists_mem_sitesOfAll {k : Kind} {ds : List Tree} : ∀ {cs : List Tree} (before : Nat),
    (∃ c ∈ cs, (Tree.node k ds).Inside c) → ∃ start, ⟨start, .node k ds⟩ ∈ sitesOfAll before cs
  | [], _, ⟨c, hc, _⟩ => absurd hc List.not_mem_nil
  | d :: cs, before, ⟨c, hc, h⟩ => by
    rw [sitesOfAll]
    by_cases hd : (Tree.node k ds).Inside d
    · obtain ⟨start, hmem⟩ := Tree.exists_mem_sites before hd
      exact ⟨start, List.mem_append_left _ hmem⟩
    · have hne : c ≠ d := fun heq => hd (heq ▸ h)
      have hmore : c ∈ cs := (List.mem_cons.1 hc).resolve_left hne
      obtain ⟨start, hmem⟩ := exists_mem_sitesOfAll (before + d.fullText.length) ⟨c, hmore, h⟩
      exact ⟨start, List.mem_append_right _ hmem⟩

end

mutual

/-- What has a site in a tree is inside of it. -/
theorem Tree.inside_of_mem_sites : ∀ {t : Tree} {before : Nat} {s : Site}, s ∈ t.sites before →
    s.construct.Inside t
  | .leaf _ _, _, _, hs => absurd hs List.not_mem_nil
  | .node k cs, before, s, hs => by
    rw [Tree.sites] at hs
    rcases List.mem_cons.1 hs with rfl | hs
    · exact .refl
    · obtain ⟨c, hc, h⟩ := inside_of_mem_sitesOfAll hs
      exact .part hc h

/-- What has a site among those of several trees is inside one of them. -/
theorem inside_of_mem_sitesOfAll : ∀ {cs : List Tree} {before : Nat} {s : Site},
    s ∈ sitesOfAll before cs → ∃ c ∈ cs, s.construct.Inside c
  | [], _, _, hs => absurd hs List.not_mem_nil
  | c :: cs, before, s, hs => by
    rw [sitesOfAll] at hs
    rcases List.mem_append.1 hs with hs | hs
    · exact ⟨c, List.mem_cons_self, Tree.inside_of_mem_sites hs⟩
    · obtain ⟨d, hd, h⟩ := inside_of_mem_sitesOfAll hs
      exact ⟨d, List.mem_cons_of_mem c hd, h⟩

end

/-- The constructs in a tree are the ones that have a site. -/
theorem Tree.exists_mem_sites_iff {t : Tree} {before : Nat} {k : Kind} {ds : List Tree} :
    (∃ start, ⟨start, .node k ds⟩ ∈ t.sites before) ↔ (Tree.node k ds).Inside t :=
  ⟨fun ⟨_, hs⟩ => Tree.inside_of_mem_sites hs, Tree.exists_mem_sites before⟩

/-! ## The text around -/

/-- The text of several trees is that of the first and then that of the others. -/
theorem textOf_tokensOfAll_cons (c : Tree) (cs : List Tree) :
    textOf (tokensOfAll (c :: cs)) = c.fullText ++ textOf (tokensOfAll cs) := by
  rw [tokensOfAll, textOf_append, Tree.fullText]

/-- A tree in full is as long as what stands in front of it and its text together. -/
theorem fullText_length (t : Tree) :
    t.fullText.length = (leadText t.lead).length + t.source.length := by
  rw [t.fullText_eq, String.length_append]

mutual

/-- Where the text of a tree is a part of a text, so are the constructs in the tree. -/
theorem Tree.sites_stand {source : String} : ∀ {t : Tree} {before after : String},
    before ++ t.fullText ++ after = source → ∀ s ∈ t.sites before.length, s.StandsIn source
  | .leaf _ _, _, _, _, s, hs => absurd hs List.not_mem_nil
  | .node k cs, before, after, h, s, hs => by
    rw [Tree.sites] at hs
    rcases List.mem_cons.1 hs with rfl | hs
    · refine ⟨before ++ leadText (Tree.node k cs).lead, after, ?_, String.length_append ..⟩
      rw [Tree.fullText_eq, ← String.append_assoc] at h
      exact h
    · exact sitesOfAll_stand h s hs

/-- Every site of trees that make up a source stands in that source. -/
theorem sitesOfAll_stand {source : String} : ∀ {cs : List Tree} {before after : String},
    before ++ textOf (tokensOfAll cs) ++ after = source →
    ∀ s ∈ sitesOfAll before.length cs, s.StandsIn source
  | [], _, _, _, s, hs => absurd hs List.not_mem_nil
  | c :: cs, before, after, h, s, hs => by
    rw [textOf_tokensOfAll_cons] at h
    rw [sitesOfAll, ← String.length_append] at hs
    rcases List.mem_append.1 hs with hs | hs
    · have hfirst : before ++ c.fullText ++ (textOf (tokensOfAll cs) ++ after) = source := by
        rw [← h, String.append_assoc, String.append_assoc, String.append_assoc]
      exact Tree.sites_stand hfirst s hs
    · have hmore : before ++ c.fullText ++ textOf (tokensOfAll cs) ++ after = source := by
        rw [← h, String.append_assoc, String.append_assoc, String.append_assoc,
          String.append_assoc]
      exact sitesOfAll_stand hmore s hs

end

/-! ## The order of sites -/

/-- A site does not stop before it starts. -/
theorem Site.start_le_stop (s : Site) : s.start ≤ s.stop :=
  Nat.le_add_right _ _

/-- A site that starts behind what stands in front of a tree stops where the tree in full does. -/
theorem Site.stop_eq (before : Nat) (t : Tree) :
    Site.stop ⟨before + (leadText t.lead).length, t⟩ = before + t.fullText.length := by
  rw [stop, fullText_length, Nat.add_assoc]

/-- The trivia before a construct is that before its first part. -/
theorem lead_node_cons {k : Kind} {c : Tree} {cs : List Tree} (h : c.Solid) :
    (Tree.node k (c :: cs)).lead = c.lead := by
  obtain ⟨t, ts, hts⟩ := List.exists_cons_of_ne_nil h.tokens_ne_nil
  unfold Tree.lead
  rw [Tree.tokens, tokensOfAll, hts]
  rfl

mutual

/-- The constructs in a tree lie inside of its text, behind the trivia in front of it. -/
theorem Tree.Solid.sites_within : ∀ {t : Tree} (before : Nat), t.Solid → ∀ s ∈ t.sites before,
    before + (leadText t.lead).length ≤ s.start ∧ s.stop ≤ before + t.fullText.length
  | .leaf _ _, _, _, s, hs => absurd hs List.not_mem_nil
  | .node k cs, before, .node hkind hne hparts, s, hs => by
    rw [Tree.sites] at hs
    rcases List.mem_cons.1 hs with rfl | hs
    · exact ⟨Nat.le_refl _, Nat.le_of_eq (Site.stop_eq ..)⟩
    · exact sitesOfAll_within k before hparts s hs

/-- The sites in the children of a construct lie between its start and its end. -/
theorem sitesOfAll_within (k : Kind) : ∀ {cs : List Tree} (before : Nat), (∀ c ∈ cs, c.Solid) →
    ∀ s ∈ sitesOfAll before cs,
      before + (leadText (Tree.node k cs).lead).length ≤ s.start ∧
        s.stop ≤ before + (Tree.node k cs).fullText.length
  | [], _, _, s, hs => absurd hs List.not_mem_nil
  | c :: cs, before, hparts, s, hs => by
    have hc : c.Solid := hparts c List.mem_cons_self
    have hlength : (Tree.node k (c :: cs)).fullText.length =
        c.fullText.length + (Tree.node k cs).fullText.length := by
      rw [Tree.fullText, Tree.tokens, textOf_tokensOfAll_cons, String.length_append]
      rfl
    have hclength := fullText_length c
    rw [lead_node_cons hc, hlength]
    rw [sitesOfAll] at hs
    rcases List.mem_append.1 hs with hs | hs
    · obtain ⟨hstart, hstop⟩ := hc.sites_within before s hs
      omega
    · have hmore : ∀ d ∈ cs, d.Solid := fun d hd => hparts d (List.mem_cons_of_mem c hd)
      obtain ⟨hstart, hstop⟩ := sitesOfAll_within k (before + c.fullText.length) hmore s hs
      omega

end

/-- No child is deeper than the deepest of them. -/
theorem depth_le_of_mem {c : Tree} : ∀ {cs : List Tree}, c ∈ cs → c.depth ≤ Tree.depthOfAll cs
  | [], h => absurd h List.not_mem_nil
  | d :: cs, h => by
    rw [Tree.depthOfAll]
    rcases List.mem_cons.1 h with rfl | h
    · exact Nat.le_max_left _ _
    · exact Nat.le_trans (depth_le_of_mem h) (Nat.le_max_right _ _)

/-- What is inside a tree is no deeper than that tree. -/
theorem Tree.Inside.depth_le {t u : Tree} (h : t.Inside u) : t.depth ≤ u.depth := by
  induction h with
  | refl => exact Nat.le_refl _
  | @part k c cs hc h ih =>
    have hle := depth_le_of_mem hc
    rw [Tree.depth]
    omega

mutual

/-- Each construct in a tree starts no later than those listed after it, and these lie inside of it
or behind it. -/
theorem Tree.Solid.sites_ordered : ∀ {t : Tree} (before : Nat), t.Solid →
    (t.sites before).Pairwise Site.Precedes
  | .leaf _ _, _, _ => .nil
  | .node k cs, before, .node hkind hne hparts => by
    rw [Tree.sites]
    refine .cons (fun s hs => ?_) (sitesOfAll_ordered before hparts)
    obtain ⟨hstart, hstop⟩ := sitesOfAll_within k before hparts s hs
    refine ⟨hstart, .inl ⟨?_, ?_⟩⟩
    · rw [Site.stop_eq]
      exact hstop
    · obtain ⟨c, hc, hinside⟩ := inside_of_mem_sitesOfAll hs
      have hdepth := hinside.depth_le
      have hle := depth_le_of_mem hc
      rw [Tree.depth]
      omega

/-- The sites of trees in a row are in order. -/
theorem sitesOfAll_ordered : ∀ {cs : List Tree} (before : Nat), (∀ c ∈ cs, c.Solid) →
    (sitesOfAll before cs).Pairwise Site.Precedes
  | [], _, _ => .nil
  | c :: cs, before, hparts => by
    have hc : c.Solid := hparts c List.mem_cons_self
    have hmore : ∀ d ∈ cs, d.Solid := fun d hd => hparts d (List.mem_cons_of_mem c hd)
    rw [sitesOfAll]
    refine List.pairwise_append.2 ⟨hc.sites_ordered before, sitesOfAll_ordered _ hmore, ?_⟩
    -- The text of `c` ends where that of the next part starts.
    intro a ha b hb
    obtain ⟨-, hstop⟩ := hc.sites_within before a ha
    obtain ⟨hstart, -⟩ :=
      sitesOfAll_within .program (before + c.fullText.length) hmore b hb
    have hle := a.start_le_stop
    exact ⟨by omega, .inr (by omega)⟩

end

/-- A token of what is inside a tree is a token of the tree. -/
theorem Tree.Inside.mem_tokens {t u : Tree} (h : t.Inside u) {x : Token} (hx : x ∈ t.tokens) :
    x ∈ u.tokens := by
  induction h with
  | refl => exact hx
  | part hc h ih =>
    rw [Tree.tokens, tokensOfAll_eq_flatMap]
    exact List.mem_flatMap.2 ⟨_, hc, ih⟩

/-- What is inside a well-formed tree is well formed. -/
theorem Tree.Solid.of_inside {t u : Tree} (h : t.Inside u) (hu : u.Solid) : t.Solid := by
  induction h with
  | refl => exact hu
  | part hc h ih =>
    cases hu with
    | node hkind hne hparts => exact ih (hparts _ hc)

/-- A solid tree of tokens with text has a text of its own. -/
theorem Tree.Solid.source_length_pos {t : Tree} (h : t.Solid)
    (htext : ∀ x ∈ t.tokens, x.text.toList ≠ []) : 0 < t.source.length := by
  obtain ⟨x, xs, hxs⟩ := List.exists_cons_of_ne_nil h.tokens_ne_nil
  have hx : x.text.toList ≠ [] := htext x (by rw [hxs]; exact List.mem_cons_self)
  have hpos : 0 < x.text.toList.length := List.length_pos_iff.2 hx
  unfold Tree.source
  rw [hxs]
  dsimp only
  rw [String.length_append, ← String.length_toList]
  omega

/-- No construct is listed twice. -/
theorem Tree.Solid.sites_nodup {t : Tree} (h : t.Solid)
    (htext : ∀ x ∈ t.tokens, x.text.toList ≠ []) (before : Nat) : (t.sites before).Nodup := by
  refine (List.Pairwise.and_mem.1 (h.sites_ordered before)).imp ?_
  rintro a b ⟨ha, -, -, hab⟩ rfl
  have hinside := Tree.inside_of_mem_sites ha
  have hpos : 0 < a.construct.source.length :=
    (h.of_inside hinside).source_length_pos fun x hx => htext x (hinside.mem_tokens hx)
  unfold Site.stop at hab
  omega

end StructureGrader.Syntax
