import StructureGrader.Syntax.Grammar
import Mathlib.Tactic.SplitIfs

/-!
# What readers build

Reading a rule moves tokens from the unread ones into trees and neither drops nor reorders any:
the tokens of the trees built, followed by the unread ones, stay the same list
(`Rule.reads_run`). That needs a rule to build no construct without parts, for an operator is
attached to the last part of a construct (`Tree.attach`); so the trees built are solid
(`Tree.Solid`): every construct has parts, and the kinds of single tokens are never those of
constructs. Whether a rule builds solid trees can be read off the rule (`Rule.isSound`), given which
phrases take up at least one token, and every rule of the grammar but the outermost passes that
test (`grammar_isSound`). There is a lemma for each form of rule, such as `Rule.reads_node`; the two
forms that replace the tree built last share one reader (`Reader.onLast`).

For a source text that is read, the tokens of its syntax tree are then the tokens of the text
(`parse?_eq_some`).
-/

namespace StructureGrader.Syntax

open Syntax.Tree (tokensOfAll)

/-! ## Solid trees -/

/-- The kinds that only single tokens have. -/
def Kind.isOfToken : Kind → Bool
  | .mark | .operator | .identifier | .typeName => true
  | _ => false

/-- Every construct in the tree has parts and a kind of its own. -/
inductive Tree.Solid : Tree → Prop
  | leaf (k : Kind) (t : Token) : Solid (.leaf k t)
  | node {k : Kind} {cs : List Tree} (kind : k.isOfToken = false) (ne : cs ≠ [])
      (parts : ∀ c ∈ cs, c.Solid) : Solid (.node k cs)

/-- A solid inner node is of no kind that a token has. -/
theorem Tree.Solid.kind_node {k : Kind} {cs : List Tree} (h : (Tree.node k cs).Solid) :
    k.isOfToken = false := by
  cases h with
  | node kind _ _ => exact kind

/-- The parts of a solid tree are solid. -/
theorem Tree.Solid.part {k : Kind} {cs : List Tree} (h : (Tree.node k cs).Solid) {c : Tree}
    (hc : c ∈ cs) : c.Solid := by
  cases h with
  | node _ _ parts => exact parts c hc

/-- The tokens of several trees are those of each, in order. -/
theorem tokensOfAll_eq_flatMap (cs : List Tree) : tokensOfAll cs = cs.flatMap Tree.tokens := by
  induction cs with
  | nil => rfl
  | cons c cs ih => rw [tokensOfAll, ih, List.flatMap_cons]

/-- The tokens of two lists of trees are those of the first and then those of the second. -/
theorem tokensOfAll_append (cs ds : List Tree) :
    tokensOfAll (cs ++ ds) = tokensOfAll cs ++ tokensOfAll ds := by
  rw [tokensOfAll_eq_flatMap, List.flatMap_append, ← tokensOfAll_eq_flatMap,
    ← tokensOfAll_eq_flatMap]

/-- The tokens of a single tree are its own. -/
theorem tokensOfAll_singleton (t : Tree) : tokensOfAll [t] = t.tokens :=
  List.append_nil _

/-- A solid tree holds a token. -/
theorem Tree.Solid.tokens_ne_nil {t : Tree} (h : t.Solid) : t.tokens ≠ [] := by
  induction h with
  | leaf k t => exact List.cons_ne_nil _ _
  | @node k cs kind ne parts ih =>
    obtain ⟨c, cs, rfl⟩ := List.exists_cons_of_ne_nil ne
    rw [Tree.tokens, tokensOfAll]
    exact List.append_ne_nil_of_left_ne_nil (ih c List.mem_cons_self) _

/-! ## Attaching operators -/

section Attach

variable {kind : Kind} {power : Nat} {right : List Tree}

mutual

/-- What is attached to a solid tree stands behind its tokens. -/
theorem Tree.Solid.tokens_attach : ∀ {t : Tree}, t.Solid →
    (t.attach kind power right).tokens = t.tokens ++ tokensOfAll right
  | .leaf k t, _ => rfl
  | .node k cs, .node _ ne parts => by
    rw [Tree.attach]
    split_ifs
    · exact tokens_attachToLast ne parts
    · rfl

/-- Attaching to the last tree adds the tokens that are attached. -/
theorem tokens_attachToLast : ∀ {cs : List Tree}, cs ≠ [] → (∀ c ∈ cs, c.Solid) →
    tokensOfAll (attachToLast kind power right cs) = tokensOfAll cs ++ tokensOfAll right
  | [], ne, _ => absurd rfl ne
  | [c], _, parts => by
    rw [attachToLast, tokensOfAll_singleton, tokensOfAll_singleton]
    exact (parts c List.mem_cons_self).tokens_attach
  | c :: d :: cs, _, parts => by
    have hmore : ∀ e ∈ d :: cs, e.Solid := fun e he => parts e (List.mem_cons_of_mem c he)
    have hlast := tokens_attachToLast (List.cons_ne_nil d cs) hmore
    calc tokensOfAll (attachToLast kind power right (c :: d :: cs))
        = c.tokens ++ tokensOfAll (attachToLast kind power right (d :: cs)) := rfl
      _ = c.tokens ++ (tokensOfAll (d :: cs) ++ tokensOfAll right) := by rw [hlast]
      _ = tokensOfAll (c :: d :: cs) ++ tokensOfAll right := (List.append_assoc ..).symm

end

mutual

/-- What is attached to a solid tree leaves it solid. -/
theorem Tree.Solid.attach (hkind : kind.isOfToken = false) (hright : ∀ c ∈ right, c.Solid) :
    ∀ {t : Tree}, t.Solid → (t.attach kind power right).Solid
  | .leaf k t, _ => by
    refine .node hkind (List.cons_ne_nil _ _) fun c hc => ?_
    rcases List.mem_cons.1 hc with rfl | hc
    · exact .leaf k t
    · exact hright c hc
  | .node k cs, .node knode ne parts => by
    rw [Tree.attach]
    split_ifs
    · obtain ⟨hne, hparts⟩ := solid_attachToLast hkind hright ne parts
      exact .node knode hne hparts
    · refine .node hkind (List.cons_ne_nil _ _) fun c hc => ?_
      rcases List.mem_cons.1 hc with rfl | hc
      · exact .node knode ne parts
      · exact hright c hc

/-- Attaching solid trees to the last of solid trees leaves solid trees. -/
theorem solid_attachToLast (hkind : kind.isOfToken = false) (hright : ∀ c ∈ right, c.Solid) :
    ∀ {cs : List Tree}, cs ≠ [] → (∀ c ∈ cs, c.Solid) →
      attachToLast kind power right cs ≠ [] ∧
        ∀ c ∈ attachToLast kind power right cs, c.Solid
  | [], ne, _ => absurd rfl ne
  | [c], _, parts => by
    rw [attachToLast]
    refine ⟨List.cons_ne_nil _ _, fun e he => ?_⟩
    rw [List.mem_singleton.1 he]
    exact (parts c List.mem_cons_self).attach hkind hright
  | c :: d :: cs, _, parts => by
    have hmore := solid_attachToLast hkind hright (List.cons_ne_nil d cs) fun e he =>
      parts e (List.mem_cons_of_mem c he)
    rw [attachToLast]
    refine ⟨List.cons_ne_nil _ _, fun e he => ?_⟩
    rcases List.mem_cons.1 he with rfl | he
    · exact parts e List.mem_cons_self
    · exact hmore.2 e he

end

end Attach

/-! ## Sound rules -/

namespace Rule

variable {P : Type} (taking : P → Bool)

/-- Whether a rule takes up at least one token wherever it fits, when the phrases that are `taking`
do. -/
def takes : Rule P → Bool
  | .empty | .many _ | .lastIs _ => false
  | .token _ _ => true
  | .seq first second => first.takes || second.takes
  | .alt first second => first.takes && second.takes
  | .ref phrase => taking phrase
  | .node _ rule | .extend _ rule | .operate _ rule => rule.takes

/-- Whether a rule refers to `taking` phrases only and builds solid trees. -/
def isSound : Rule P → Bool
  | .empty | .token _ _ | .lastIs _ => true
  | .seq first second | .alt first second => first.isSound && second.isSound
  | .many rule => rule.isSound
  | .ref phrase => taking phrase
  | .node kind rule => !kind.isOfToken && rule.takes taking && rule.isSound
  | .extend kind rule | .operate kind rule => !kind.isOfToken && rule.isSound

end Rule

/-! ## Readers -/

namespace Cursor

/-- The tokens of the trees built so far, and those not yet read. -/
def tokens (c : Cursor) : List Token :=
  tokensOfAll c.built.reverse ++ c.rest

/-- All trees built so far are solid. -/
def Solid (c : Cursor) : Prop :=
  ∀ t ∈ c.built, t.Solid

/-- A cursor with nothing built yet is solid. -/
theorem solid_start (rest : List Token) : (⟨[], rest⟩ : Cursor).Solid :=
  fun _ h => absurd h List.not_mem_nil

/-- A cursor stays solid with a solid tree built. -/
theorem Solid.tree {built : List Tree} {rest : List Token} {t : Tree}
    (h : (⟨built, rest⟩ : Cursor).Solid) (ht : t.Solid) (rest' : List Token) :
    (⟨t :: built, rest'⟩ : Cursor).Solid := by
  intro u hu
  rcases List.mem_cons.1 hu with rfl | hu
  · exact ht
  · exact h u hu

/-- The tokens of a cursor are those of the trees built so far and then those to come. -/
theorem tokens_cons (t : Tree) (built : List Tree) (rest : List Token) :
    (⟨t :: built, rest⟩ : Cursor).tokens = tokensOfAll built.reverse ++ (t.tokens ++ rest) := by
  rw [tokens, List.reverse_cons, tokensOfAll_append, tokensOfAll_singleton, List.append_assoc]

end Cursor

/-! ## Running a rule -/

/-- The reader that merges the tree built last with the trees that `r` builds from nothing. -/
def Reader.onLast (merge : Tree → List Tree → Tree) (r : Reader) : Reader := fun c =>
  match c.built with
  | last :: more =>
    (r ⟨[], c.rest⟩).map fun d => ⟨merge last d.built.reverse :: more, d.rest⟩
  | [] => none

/-- A reader on the last tree reads from an empty cursor and merges what it built. -/
theorem Reader.onLast_cons (merge : Tree → List Tree → Tree) (r : Reader) (last : Tree)
    (more : List Tree) (rest : List Token) :
    r.onLast merge ⟨last :: more, rest⟩ =
      (r ⟨[], rest⟩).map fun d => ⟨merge last d.built.reverse :: more, d.rest⟩ :=
  rfl

namespace Rule

variable {P : Type} (env : P → Reader)

/-- A token is read where it has the shape asked for. -/
theorem run_token_cons (shape : Shape) (kind : Kind) (built : List Tree) (t : Token)
    (ts : List Token) :
    (token shape kind : Rule P).run env ⟨built, t :: ts⟩ =
      if shape.accepts t then some ⟨.leaf kind t :: built, ts⟩ else none :=
  rfl

/-- A sequence reads the first rule and then the second. -/
theorem run_seq (first second : Rule P) (c : Cursor) :
    (first.seq second).run env c = (first.run env c).bind (second.run env) := by
  rw [run]
  dsimp only
  cases first.run env c <;> rfl

/-- A choice reads the first rule, or the second where the first fails. -/
theorem run_alt (first second : Rule P) (c : Cursor) :
    (first.alt second).run env c = (first.run env c).or (second.run env c) := by
  rw [run]
  dsimp only
  cases first.run env c <;> rfl

/-- A node is built of what its rule reads from there. -/
theorem run_node (kind : Kind) (rule : Rule P) (c : Cursor) :
    (node kind rule).run env c = (rule.run env ⟨[], c.rest⟩).map fun d =>
      ⟨.node kind d.built.reverse :: c.built, d.rest⟩ := by
  rw [run]
  dsimp only
  cases rule.run env ⟨[], c.rest⟩ <;> rfl

/-- An extension puts the last tree and what its rule reads into one node. -/
theorem run_extend (kind : Kind) (rule : Rule P) :
    (extend kind rule).run env =
      (rule.run env).onLast fun last right => .node kind (last :: right) := by
  funext ⟨built, rest⟩
  cases built with
  | nil => rfl
  | cons last more =>
    rw [run, Reader.onLast]
    dsimp only
    cases rule.run env ⟨[], rest⟩ <;> rfl

/-- An operation attaches what its rule reads to the last tree by its binding power. -/
theorem run_operate (kind : Kind) (rule : Rule P) :
    (operate kind rule).run env = (rule.run env).onLast fun last right =>
      last.attach kind (bindingPower (operatorOf right)) right := by
  funext ⟨built, rest⟩
  cases built with
  | nil => rfl
  | cons last more =>
    rw [run, Reader.onLast]
    dsimp only
    cases rule.run env ⟨[], rest⟩ <;> rfl

/-- A test of the last tree passes where its kind is among those asked for. -/
theorem run_lastIs_cons (kinds : List Kind) (last : Tree) (more : List Tree) (rest : List Token) :
    (lastIs kinds : Rule P).run env ⟨last :: more, rest⟩ =
      if kinds.contains last.kind then some ⟨last :: more, rest⟩ else none :=
  rfl

end Rule

/-! ## Sound readers -/

/-- From one cursor to a later one: tokens are kept, and trees that are built are solid. -/
structure Cursor.Continues (c d : Cursor) : Prop where
  solid : d.Solid
  tokens : d.tokens = c.tokens
  length : d.rest.length ≤ c.rest.length

/-- A cursor later than a later one is later. -/
theorem Cursor.Continues.trans {c d e : Cursor} (h : c.Continues d) (h' : d.Continues e) :
    c.Continues e :=
  ⟨h'.solid, h'.tokens.trans h.tokens, Nat.le_trans h'.length h.length⟩

/-- A tree may be taken for what was built last when it holds the same tokens and those that were
read. -/
theorem Cursor.continues_cons {last t : Tree} {more : List Tree} {rest : List Token} {d : Cursor}
    (hs : (⟨last :: more, rest⟩ : Cursor).Solid) (ht : t.Solid)
    (htokens : t.tokens ++ d.rest = last.tokens ++ rest) (hlength : d.rest.length ≤ rest.length) :
    (⟨last :: more, rest⟩ : Cursor).Continues ⟨t :: more, d.rest⟩ where
  solid := by
    have hmore : (⟨more, rest⟩ : Cursor).Solid := fun u hu => hs u (List.mem_cons_of_mem last hu)
    exact hmore.tree ht _
  tokens := by rw [Cursor.tokens_cons, Cursor.tokens_cons, htokens]
  length := hlength

namespace Reader

/-- The reader keeps all tokens and builds solid trees. -/
def Reads (r : Reader) : Prop :=
  ∀ ⦃c d : Cursor⦄, c.Solid → r c = some d → c.Continues d

/-- The reader takes up a token wherever it fits. -/
def Takes (r : Reader) : Prop :=
  ∀ ⦃c d : Cursor⦄, c.Solid → r c = some d → d.rest.length < c.rest.length

/-- What is built from nothing holds the tokens that are taken up. -/
theorem Reads.tokens_start {r : Reader} {d : Cursor} {rest : List Token} (h : r.Reads)
    (hread : r ⟨[], rest⟩ = some d) : tokensOfAll d.built.reverse ++ d.rest = rest :=
  (h (Cursor.solid_start rest) hread).tokens

/-- What is built from nothing is solid, in its order too. -/
theorem Reads.solid_start {r : Reader} {d : Cursor} {rest : List Token} (h : r.Reads)
    (hread : r ⟨[], rest⟩ = some d) : ∀ t ∈ d.built.reverse, t.Solid :=
  fun t ht => (h (Cursor.solid_start rest) hread).solid t (List.mem_reverse.1 ht)

/-- Reading again and again continues, too. -/
theorem Reads.many {r : Reader} (h : r.Reads) (clock : List Token) {c : Cursor} (hs : c.Solid) :
    c.Continues (Reader.many r clock c) := by
  induction clock generalizing c with
  | nil => exact ⟨hs, rfl, Nat.le_refl _⟩
  | cons _ clock ih =>
    rw [Reader.many]
    cases hc : r c with
    | none => exact ⟨hs, rfl, Nat.le_refl _⟩
    | some d => exact (h hs hc).trans (ih (h hs hc).solid)

/-- A tree that holds the tokens of the last one and those taken up stands in the last one's place.
-/
theorem Reads.onLast {r : Reader} (h : r.Reads) {merge : Tree → List Tree → Tree}
    (hmerge : ∀ ⦃last right⦄, last.Solid → (∀ t ∈ right, t.Solid) →
      (merge last right).Solid ∧ (merge last right).tokens = last.tokens ++ tokensOfAll right) :
    (r.onLast merge).Reads := by
  rintro ⟨_ | ⟨last, more⟩, rest⟩ d hs hread
  · cases hread
  · rw [onLast_cons, Option.map_eq_some_iff] at hread
    obtain ⟨e, he, rfl⟩ := hread
    have hlast : last.Solid := hs last List.mem_cons_self
    obtain ⟨hsolid, htokens⟩ := hmerge hlast (h.solid_start he)
    refine Cursor.continues_cons hs hsolid ?_ (h (Cursor.solid_start rest) he).length
    rw [htokens, List.append_assoc, h.tokens_start he]

/-- A reader on the last tree takes up a token where its reader does. -/
theorem Takes.onLast {r : Reader} (h : r.Takes) (merge : Tree → List Tree → Tree) :
    (r.onLast merge).Takes := by
  rintro ⟨_ | ⟨last, more⟩, rest⟩ d _ hread
  · cases hread
  · rw [onLast_cons, Option.map_eq_some_iff] at hread
    obtain ⟨e, he, rfl⟩ := hread
    have hlt := h (Cursor.solid_start rest) he
    exact hlt

end Reader

namespace Rule

variable {P : Type} {taking : P → Bool} {env : P → Reader}

/-- The empty rule reads soundly. -/
theorem reads_empty : ((empty : Rule P).run env).Reads := by
  intro c d hs hrun
  obtain rfl := Option.some.inj hrun
  exact ⟨hs, rfl, Nat.le_refl _⟩

/-- The token that is read goes from the front of the unread ones to the trees built. -/
theorem run_token_eq_some {shape : Shape} {kind : Kind} {c d : Cursor}
    (h : (token shape kind : Rule P).run env c = some d) :
    ∃ built t ts, c = ⟨built, t :: ts⟩ ∧ d = ⟨.leaf kind t :: built, ts⟩ := by
  obtain ⟨built, _ | ⟨t, ts⟩⟩ := c
  · cases h
  · rw [run_token_cons] at h
    split_ifs at h
    exact ⟨built, t, ts, rfl, (Option.some.inj h).symm⟩

/-- A rule for a token reads soundly. -/
theorem reads_token (shape : Shape) (kind : Kind) :
    ((token shape kind : Rule P).run env).Reads := by
  intro c d hs hrun
  obtain ⟨built, t, ts, rfl, rfl⟩ := run_token_eq_some hrun
  exact ⟨hs.tree (.leaf kind t) ts, Cursor.tokens_cons .., Nat.le_succ _⟩

/-- A rule for a token takes one up. -/
theorem takes_token (shape : Shape) (kind : Kind) :
    ((token shape kind : Rule P).run env).Takes := by
  intro c d _ hrun
  obtain ⟨built, t, ts, rfl, rfl⟩ := run_token_eq_some hrun
  exact Nat.lt_succ_self _

/-- A test of the last tree reads soundly. -/
theorem reads_lastIs (kinds : List Kind) : ((lastIs kinds : Rule P).run env).Reads := by
  rintro ⟨_ | ⟨last, more⟩, rest⟩ d hs hrun
  · cases hrun
  · rw [run_lastIs_cons] at hrun
    split_ifs at hrun
    obtain rfl := Option.some.inj hrun
    exact ⟨hs, rfl, Nat.le_refl _⟩

section

variable {first second : Rule P}

/-- A sequence of rules that read soundly reads soundly. -/
theorem reads_seq (hfirst : (first.run env).Reads) (hsecond : (second.run env).Reads) :
    ((first.seq second).run env).Reads := by
  intro c d hs hrun
  rw [run_seq, Option.bind_eq_some_iff] at hrun
  obtain ⟨e, he, hd⟩ := hrun
  exact (hfirst hs he).trans (hsecond (hfirst hs he).solid hd)

/-- It is enough that one of the two takes up a token. -/
theorem takes_seq (hfirst : (first.run env).Reads) (hsecond : (second.run env).Reads)
    (h : (first.run env).Takes ∨ (second.run env).Takes) :
    ((first.seq second).run env).Takes := by
  intro c d hs hrun
  rw [run_seq, Option.bind_eq_some_iff] at hrun
  obtain ⟨e, he, hd⟩ := hrun
  have hce := hfirst hs he
  have hed := hsecond hce.solid hd
  rcases h with htakes | htakes
  · exact Nat.lt_of_le_of_lt hed.length (htakes hs he)
  · exact Nat.lt_of_lt_of_le (htakes hce.solid hd) hce.length

/-- What a choice reads is what one of its rules reads. -/
theorem run_alt_eq_some {c d : Cursor} (h : (first.alt second).run env c = some d) :
    first.run env c = some d ∨ second.run env c = some d := by
  rw [run_alt, Option.or_eq_some_iff] at h
  exact h.imp_right And.right

/-- A choice of rules that read soundly reads soundly. -/
theorem reads_alt (hfirst : (first.run env).Reads) (hsecond : (second.run env).Reads) :
    ((first.alt second).run env).Reads :=
  fun _ _ hs hrun => (run_alt_eq_some hrun).elim (hfirst hs) (hsecond hs)

/-- A choice of rules that take up a token takes one up. -/
theorem takes_alt (hfirst : (first.run env).Takes) (hsecond : (second.run env).Takes) :
    ((first.alt second).run env).Takes :=
  fun _ _ hs hrun => (run_alt_eq_some hrun).elim (hfirst hs) (hsecond hs)

end

section

variable {rule : Rule P} {kind : Kind}

/-- A rule that reads soundly does so any number of times. -/
theorem reads_many (h : (rule.run env).Reads) : ((many rule).run env).Reads := by
  intro c d hs hrun
  obtain rfl := Option.some.inj hrun
  exact h.many c.rest hs

/-- A node takes up a token where its rule does. -/
theorem takes_node (htakes : (rule.run env).Takes) : ((node kind rule).run env).Takes := by
  intro c d _ hrun
  rw [run_node, Option.map_eq_some_iff] at hrun
  obtain ⟨e, he, rfl⟩ := hrun
  have hlt := htakes (Cursor.solid_start c.rest) he
  exact hlt

/-- The construct has parts, for a token is taken up. -/
theorem reads_node (hkind : kind.isOfToken = false) (hreads : (rule.run env).Reads)
    (htakes : (rule.run env).Takes) : ((node kind rule).run env).Reads := by
  intro c d hs hrun
  rw [run_node, Option.map_eq_some_iff] at hrun
  obtain ⟨e, he, rfl⟩ := hrun
  have hlt := htakes (Cursor.solid_start c.rest) he
  have htokens := hreads.tokens_start he
  have hne : e.built.reverse ≠ [] := by
    intro hnil
    rw [hnil, Tree.tokensOfAll, List.nil_append] at htokens
    exact Nat.ne_of_lt hlt (congrArg List.length htokens)
  refine ⟨hs.tree (.node hkind hne (hreads.solid_start he)) _, ?_, Nat.le_of_lt hlt⟩
  rw [Cursor.tokens_cons, Tree.tokens, htokens, Cursor.tokens]

/-- An extension by a rule that reads soundly reads soundly. -/
theorem reads_extend (hkind : kind.isOfToken = false) (hreads : (rule.run env).Reads) :
    ((extend kind rule).run env).Reads := by
  rw [run_extend]
  refine hreads.onLast fun last right hlast hright => ?_
  have hparts : ∀ c ∈ last :: right, c.Solid := fun c hc =>
    (List.mem_cons.1 hc).elim (fun h => h ▸ hlast) (hright c)
  exact ⟨.node hkind (List.cons_ne_nil _ _) hparts, rfl⟩

/-- An operation by a rule that reads soundly reads soundly. -/
theorem reads_operate (hkind : kind.isOfToken = false) (hreads : (rule.run env).Reads) :
    ((operate kind rule).run env).Reads := by
  rw [run_operate]
  refine hreads.onLast fun last right hlast hright => ?_
  exact ⟨hlast.attach hkind hright, hlast.tokens_attach⟩

end

/-- The reader of a sound rule keeps all tokens and builds solid trees, and it takes up a token
where the rule says so. -/
theorem reads_run (henv : ∀ p, taking p = true → (env p).Reads ∧ (env p).Takes) (rule : Rule P)
    (hsound : rule.isSound taking = true) :
    (rule.run env).Reads ∧ (rule.takes taking = true → (rule.run env).Takes) := by
  induction rule with
  | empty => exact ⟨reads_empty, fun h => absurd h Bool.false_ne_true⟩
  | token shape kind => exact ⟨reads_token shape kind, fun _ => takes_token shape kind⟩
  | seq first second ihfirst ihsecond =>
    rw [isSound, Bool.and_eq_true] at hsound
    obtain ⟨hfirst, htakes⟩ := ihfirst hsound.1
    obtain ⟨hsecond, htakes'⟩ := ihsecond hsound.2
    refine ⟨reads_seq hfirst hsecond, fun h => takes_seq hfirst hsecond ?_⟩
    rw [takes, Bool.or_eq_true] at h
    exact h.imp htakes htakes'
  | alt first second ihfirst ihsecond =>
    rw [isSound, Bool.and_eq_true] at hsound
    obtain ⟨hfirst, htakes⟩ := ihfirst hsound.1
    obtain ⟨hsecond, htakes'⟩ := ihsecond hsound.2
    refine ⟨reads_alt hfirst hsecond, fun h => ?_⟩
    rw [takes, Bool.and_eq_true] at h
    exact takes_alt (htakes h.1) (htakes' h.2)
  | many rule ih => exact ⟨reads_many (ih hsound).1, fun h => absurd h Bool.false_ne_true⟩
  | ref phrase =>
    obtain ⟨hreads, htakes⟩ := henv phrase hsound
    exact ⟨hreads, fun _ => htakes⟩
  | node kind rule ih =>
    rw [isSound, Bool.and_eq_true, Bool.and_eq_true, Bool.not_eq_true'] at hsound
    obtain ⟨⟨hkind, htaking⟩, hrule⟩ := hsound
    obtain ⟨hreads, htakes⟩ := ih hrule
    exact ⟨reads_node hkind hreads (htakes htaking), fun _ => takes_node (htakes htaking)⟩
  | extend kind rule ih =>
    rw [isSound, Bool.and_eq_true, Bool.not_eq_true'] at hsound
    obtain ⟨hreads, htakes⟩ := ih hsound.2
    refine ⟨reads_extend hsound.1 hreads, fun h => ?_⟩
    rw [run_extend]
    exact (htakes h).onLast _
  | operate kind rule ih =>
    rw [isSound, Bool.and_eq_true, Bool.not_eq_true'] at hsound
    obtain ⟨hreads, htakes⟩ := ih hsound.2
    refine ⟨reads_operate hsound.1 hreads, fun h => ?_⟩
    rw [run_operate]
    exact (htakes h).onLast _
  | lastIs kinds => exact ⟨reads_lastIs kinds, fun h => absurd h Bool.false_ne_true⟩

end Rule

/-! ## The grammar -/

/-- The phrases that take up a token: all but a whole program, which may be empty. -/
def Phrase.isTaking (p : Phrase) : Bool :=
  p != .program

/-- The rule of every other phrase takes up a token and builds solid trees. -/
theorem grammar_isSound {p : Phrase} (h : p.isTaking = true) :
    (grammar p).takes Phrase.isTaking = true ∧ (grammar p).isSound Phrase.isTaking = true := by
  cases p with
  | program => exact absurd h Bool.false_ne_true
  | operand place lambda => cases lambda <;> exact ⟨rfl, rfl⟩
  | _ => exact ⟨rfl, rfl⟩

/-- So does its reader, however deep phrases may be nested. -/
theorem reader_reads (limit : Nat) {p : Phrase} (h : p.isTaking = true) :
    (grammar.reader limit p).Reads ∧ (grammar.reader limit p).Takes := by
  induction limit generalizing p with
  | zero => exact ⟨fun _ _ _ h => (by cases h), fun _ _ _ h => (by cases h)⟩
  | succ limit ih =>
    obtain ⟨htakes, hsound⟩ := grammar_isSound h
    obtain ⟨hreads, htakes'⟩ := Rule.reads_run (fun _ => ih) (grammar p) hsound
    exact ⟨hreads, htakes' htakes⟩

/-- What is read as a program is one tree of solid parts that holds all tokens read. -/
theorem reader_program {limit : Nat} {ts : List Token} {d : Cursor}
    (h : grammar.reader limit .program ⟨[], ts⟩ = some d) :
    ∃ cs, d.built = [.node .program cs] ∧ (∀ c ∈ cs, c.Solid) ∧ tokensOfAll cs ++ d.rest = ts := by
  cases limit with
  | zero => cases h
  | succ limit =>
    let item : Rule Phrase := .alt (.ref .statement) (.ref .methodDeclaration)
    have hitem : item.isSound Phrase.isTaking = true := rfl
    have hreads : (item.run (grammar.reader limit)).Reads :=
      (Rule.reads_run (fun _ => reader_reads limit) item hitem).1
    have hmany : (Rule.many item).run (grammar.reader limit) ⟨[], ts⟩ =
        some (Reader.many (item.run (grammar.reader limit)) ts ⟨[], ts⟩) := rfl
    have hcontinues := hreads.many ts (Cursor.solid_start ts)
    have hrun : (Rule.node .program (.many item)).run (grammar.reader limit) ⟨[], ts⟩ = some d := h
    rw [Rule.run_node, hmany, Option.map_some] at hrun
    obtain rfl := Option.some.inj hrun
    exact ⟨_, rfl, fun c hc => hcontinues.solid c (List.mem_reverse.1 hc), hcontinues.tokens⟩

/-- The syntax tree of a text that is read: one construct, with solid parts, that holds the tokens
of the text. -/
theorem parse?_eq_some {source : String} {unit : Tree} (h : parse? source = some unit) :
    ∃ ts cs, tokenize? source = some ts ∧ unit = .node .program cs ∧ (∀ c ∈ cs, c.Solid) ∧
      unit.tokens = ts.tokens := by
  unfold parse? at h
  cases hts : tokenize? source with
  | none => simp [hts] at h
  | some ts =>
    rw [hts] at h
    dsimp only at h
    split at h
    · rename_i tree hread
      split_ifs at h
      obtain ⟨cs, hbuilt, hsolid, htokens⟩ := reader_program hread
      obtain rfl := Option.some.inj h
      obtain rfl : tree = .node .program cs := List.singleton_inj.1 hbuilt
      exact ⟨ts, cs, rfl, rfl, hsolid, by rwa [List.append_nil] at htokens⟩
    · cases h

end StructureGrader.Syntax
