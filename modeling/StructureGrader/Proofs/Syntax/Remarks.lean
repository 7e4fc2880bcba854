import StructureGrader.Proofs.Syntax.Layout

/-!
# Remarks

A remark is a block comment with white space on both sides (`Remark`). It may take the place of any
run of white space, for the tokens around it cannot tell the two apart (`Remark.Entered.standsFor`).
So a text with a remark between two of its tokens is cut into the same tokens
(`tokenize?_remarked`).
-/

namespace StructureGrader.Syntax

/-- A block comment with white space before it and after it. -/
structure Remark where
  before : List Char
  /-- What stands between the marks of the comment. -/
  inner : List Char
  after : List Char
  before_ne : before ≠ []
  before_space : ∀ c ∈ before, isSpace c = true
  after_ne : after ≠ []
  after_space : ∀ c ∈ after, isSpace c = true
  closed : ¬ ['*', '/'] <:+: inner
  nul_free : nul ∉ inner

/-- Whether the trivia is a comment that goes on to the end of its line. -/
def Trivia.isLine : Trivia → Bool
  | .blank _ => false
  | .comment s => s.toList.take 2 == ['/', '/']

namespace Remark

/-- The remark as it stands between tokens. -/
def trivia (r : Remark) : List Trivia :=
  [.blank (String.ofList r.before),
    .comment (String.ofList ('/' :: '*' :: (r.inner ++ ['*', '/']))),
    .blank (String.ofList r.after)]

/-- The second trivia is the first one with the remark in the place of a run of white space; behind
a line comment it starts on a new line. -/
inductive Entered (r : Remark) : List Trivia → List Trivia → Prop
  | run {front back : List Trivia} {s : String} (hne : s.toList ≠ [])
      (hspace : ∀ c ∈ s.toList, isSpace c = true)
      (hline : ∀ x ∈ front.getLast?, x.isLine = true → r.before.head? = some '\n') :
      Entered r (front ++ .blank s :: back) (front ++ (r.trivia ++ back))

/-- The second tokens are the first ones with the remark before token number `n`. -/
inductive Before (r : Remark) : Nat → List Token → List Token → Prop
  | here {t : Token} {ts : List Token} {lead' : List Trivia} (h : r.Entered t.lead lead') :
      Before r 0 (t :: ts) ({ t with lead := lead' } :: ts)
  | later {n : Nat} {t : Token} {ts ts' : List Token} (h : Before r n ts ts') :
      Before r (n + 1) (t :: ts) (t :: ts')

end Remark

/-! ## A remark among trivia -/

/-- A comment ends at its end mark when there is none before. -/
theorem blockComment?_closed {inner : List Char} (h : ¬ ['*', '/'] <:+: inner) :
    blockComment? (inner ++ ['*', '/']) = some (inner ++ ['*', '/'], []) := by
  induction inner with
  | nil => rfl
  | cons c inner ih =>
    have hinner : ¬ ['*', '/'] <:+: inner := fun hmark => h (List.infix_cons hmark)
    have hne : ∀ rest, c :: (inner ++ ['*', '/']) ≠ '*' :: '/' :: rest := by
      intro rest heq
      obtain ⟨rfl, hmore⟩ := List.cons.inj heq
      cases inner with
      | nil => cases hmore
      | cons d inner =>
        obtain ⟨rfl, -⟩ := List.cons.inj hmore
        exact h ⟨[], inner, rfl⟩
    rw [List.cons_append, blockComment?_cons hne, ih hinner]
    rfl

/-- Trivia that are laid are not empty. -/
theorem Laid.text_ne_nil {next : List Char} {x : Trivia} {lead : List Trivia}
    (h : Laid next (x :: lead)) : x.text.toList ≠ [] := by
  cases h with
  | blank hne _ _ _ =>
    rw [Trivia.text, String.toList_ofList]
    exact hne
  | line _ _ _ | block _ _ =>
    rw [Trivia.text, String.toList_ofList]
    exact List.cons_ne_nil _ _

/-- A comment that starts with two slashes is a line comment. -/
theorem isLine_comment (body : List Char) :
    (Trivia.comment (String.ofList ('/' :: '/' :: body))).isLine = true := by
  unfold Trivia.isLine
  dsimp only
  rw [String.toList_ofList]
  rfl

/-- Trivia that are not empty start the text they stand in. -/
theorem head?_leadChars_cons {x : Trivia} (h : x.text.toList ≠ []) (lead : List Trivia)
    (next : List Char) : (leadChars (x :: lead) ++ next).head? = x.text.toList.head? := by
  rw [leadChars_cons, List.append_assoc, List.head?_append_of_ne_nil _ h]

namespace Remark

variable {r : Remark}

/-- A remark is its white space, its comment and its white space, before what stands behind it. -/
theorem trivia_append (r : Remark) (back : List Trivia) :
    r.trivia ++ back = .blank (String.ofList r.before) ::
      .comment (String.ofList ('/' :: '*' :: (r.inner ++ ['*', '/']))) ::
      .blank (String.ofList r.after) :: back :=
  rfl

/-- A remark starts with the white space before it. -/
theorem head?_trivia (r : Remark) (back : List Trivia) (next : List Char) :
    (leadChars (r.trivia ++ back) ++ next).head? = r.before.head? := by
  rw [trivia_append, leadChars_cons, Trivia.text, String.toList_ofList, List.append_assoc,
    List.head?_append_of_ne_nil _ r.before_ne]

/-- The remark may be laid wherever the white space is. -/
theorem laid {next next' : List Char} (hhead : next'.head? = next.head?) (hbare : Bare next')
    {s : String} {back : List Trivia} : ∀ {front : List Trivia},
    (∀ x ∈ front.getLast?, x.isLine = true → r.before.head? = some '\n') →
    Laid next (front ++ .blank s :: back) → Laid next' (front ++ (r.trivia ++ back))
  | [], _, h => by
    cases h with
    | blank _ _ hnext hback =>
      rw [List.nil_append, trivia_append]
      refine .blank r.before_ne r.before_space ?_ (.block (blockComment?_closed r.closed)
        (.blank r.after_ne r.after_space ?_ ((StandsFor.refl back).laid hhead hbare hback)))
      · intro c hc
        rw [leadChars_cons, Trivia.text, String.toList_ofList] at hc
        obtain rfl : '/' = c := Option.some.inj hc
        rfl
      · rw [head?_append_congr hhead]
        exact hnext
  | [x], hline, h => by
    rw [List.cons_append] at h ⊢
    cases h with
    | blank _ _ hnext hmore =>
      -- The run of white space is not cut in two.
      cases hmore with
      | @blank w _ hne hspace _ _ =>
        obtain ⟨c, w, rfl⟩ := List.exists_cons_of_ne_nil hne
        rw [List.nil_append, leadChars_cons, Trivia.text, String.toList_ofList] at hnext
        have hc := hnext c rfl
        rw [hspace c List.mem_cons_self] at hc
        cases hc
    | line hbody _ hmore =>
      refine .line hbody (fun c hc => ?_) (laid hhead hbare (fun x hx => by cases hx) hmore)
      rw [List.nil_append, head?_trivia, hline _ rfl (isLine_comment _)] at hc
      obtain rfl : '\n' = c := Option.some.inj hc
      rfl
    | block hbody hmore => exact .block hbody (laid hhead hbare (fun x hx => by cases hx) hmore)
  | x :: y :: front, hline, h => by
    have hsame : ∀ lead', Laid next (y :: lead') →
        (leadChars (y :: front ++ (r.trivia ++ back)) ++ next').head? =
          (leadChars (y :: front ++ .blank s :: back) ++ next).head? := by
      intro lead' hlaid
      rw [List.cons_append, List.cons_append, head?_leadChars_cons hlaid.text_ne_nil,
        head?_leadChars_cons hlaid.text_ne_nil]
    have hline' := hline
    rw [List.getLast?_cons_cons] at hline'
    rw [List.cons_append] at h ⊢
    cases h with
    | blank hne hspace hnext hmore =>
      refine .blank hne hspace ?_ (laid hhead hbare hline' hmore)
      rw [hsame _ hmore]
      exact hnext
    | line hbody hnext hmore =>
      refine .line hbody ?_ (laid hhead hbare hline' hmore)
      rw [hsame _ hmore]
      exact hnext
    | block hbody hmore => exact .block hbody (laid hhead hbare hline' hmore)

/-- Trivia with a remark entered stand for the trivia without it. -/
theorem Entered.standsFor {lead lead' : List Trivia} (h : r.Entered lead lead') :
    StandsFor lead' lead := by
  obtain @⟨front, back, s, hne, hspace, hline⟩ := h
  refine ⟨?_, fun hhead hbare hlaid => laid hhead hbare hline hlaid, fun {v v'} _ => ?_⟩
  · cases front <;> rfl
  · -- What stands before sees white space in both.
    have hblank : Breaks (leadChars (.blank s :: back) ++ v) := by
      intro c hc
      rw [leadChars_cons, Trivia.text, List.append_assoc, List.head?_append_of_ne_nil _ hne] at hc
      exact hspace c (List.mem_of_mem_head? hc)
    have hremark : Breaks (leadChars (r.trivia ++ back) ++ v') := by
      intro c hc
      rw [head?_trivia] at hc
      exact r.before_space c (List.mem_of_mem_head? hc)
    rw [leadChars_append front, leadChars_append front, List.append_assoc, List.append_assoc]
    refine opening_append_congr ?_ _
    rw [opening_of_breaks hblank, opening_of_breaks hremark]

/-! ## A remark before a token -/

namespace Before

variable {n : Nat} {ts ts' : List Token}

/-- Tokens with a remark before one of them stand for the tokens without it. -/
theorem standsFor (h : r.Before n ts ts') : List.Forall₂ Token.StandsFor ts' ts := by
  have hself : ∀ us : List Token, List.Forall₂ Token.StandsFor us us := fun us =>
    List.forall₂_same.2 fun t _ => ⟨rfl, rfl, .refl t.lead⟩
  induction h with
  | here h => exact .cons ⟨rfl, rfl, h.standsFor⟩ (hself _)
  | later _ ih => exact .cons ⟨rfl, rfl, .refl _⟩ ih

/-- Of a list in two parts, the remark is in the first or in the second. -/
theorem append {us us' : List Token} (hlength : ts'.length = ts.length)
    (h : r.Before n (ts ++ us) (ts' ++ us')) :
    n < ts.length ∧ r.Before n ts ts' ∧ us' = us ∨
      ts.length ≤ n ∧ ts' = ts ∧ r.Before (n - ts.length) us us' := by
  induction ts generalizing n ts' with
  | nil =>
    obtain rfl := List.length_eq_zero_iff.1 hlength
    exact .inr ⟨Nat.zero_le n, rfl, h⟩
  | cons t ts ih =>
    obtain ⟨t', ts', rfl⟩ := List.exists_cons_of_length_eq_add_one hlength
    rw [List.cons_append, List.cons_append] at h
    have hlength' : ts'.length = ts.length := Nat.succ_inj.1 hlength
    generalize hall : ts ++ us = all at h
    generalize hall' : ts' ++ us' = all' at h
    cases h with
    | here h =>
      obtain ⟨rfl, rfl⟩ := List.append_inj (hall'.trans hall.symm) hlength'
      exact .inl ⟨Nat.succ_pos _, .here h, rfl⟩
    | later h =>
      rw [← hall, ← hall'] at h
      rcases ih hlength' h with ⟨hlt, hfirst, hus⟩ | ⟨hle, rfl, hsecond⟩
      · exact .inl ⟨Nat.succ_lt_succ hlt, .later hfirst, hus⟩
      · refine .inr ⟨Nat.succ_le_succ hle, rfl, ?_⟩
        rw [List.length_cons, Nat.add_sub_add_right]
        exact hsecond

/-- Only the remark is added. -/
theorem mem {tail : List Trivia} (h : r.Before n ts ts') {c : Char} (hc : c ∈ charsOf ts' tail) :
    c ∈ charsOf ts tail ∨ c ∈ leadChars r.trivia := by
  induction h with
  | @here t ts lead' h =>
    obtain ⟨lead, tokenClass, text⟩ := t
    dsimp only at h
    cases h with
    | @run front back s _ _ _ =>
      rw [charsOf_cons] at hc ⊢
      dsimp only at hc ⊢
      rw [leadChars_append, leadChars_append] at hc
      rw [leadChars_append, leadChars_cons]
      simp only [List.mem_append] at hc ⊢
      tauto
  | later _ ih =>
    rw [charsOf_cons] at hc ⊢
    simp only [List.mem_append] at hc ⊢
    tauto

end Before

/-- A remark has no zero character in it. -/
theorem nul_notMem_trivia (r : Remark) : nul ∉ leadChars r.trivia := by
  have hspace : isSpace nul = false := rfl
  intro hmem
  unfold trivia at hmem
  simp only [leadChars_cons, leadChars_nil, Trivia.text, String.toList_ofList, List.mem_append,
    List.mem_cons, List.not_mem_nil, or_false] at hmem
  rcases hmem with hmem | (hmem | hmem | hmem | hmem | hmem) | hmem
  · rw [r.before_space _ hmem] at hspace
    cases hspace
  · cases hmem
  · cases hmem
  · exact r.nul_free hmem
  · cases hmem
  · cases hmem
  · rw [r.after_space _ hmem] at hspace
    cases hspace

end Remark

/-- A text with a remark between two tokens is cut into the same tokens. -/
theorem tokenize?_remarked {source source' : String} {ts : Tokens} {ts' : List Token} {r : Remark}
    {n : Nat} (hts : tokenize? source = some ts) (hn : 0 < n) (h : r.Before n ts.tokens ts')
    (hsource' : source'.toList = charsOf ts' ts.tail) :
    tokenize? source' = some ⟨ts', ts.tail⟩ := by
  obtain ⟨us, hchars, hnul, hlexes, rfl⟩ := tokenize?_eq_some_iff.1 hts
  obtain ⟨_ | ⟨t, us⟩, tail⟩ := us
  · cases h
  · -- The remark is not before the first token, so the byte order mark stays where it is.
    generalize hfront : (byteOrderMark source.toList).1 = front at h hsource'
    dsimp only [Tokens.behind] at h hsource' ⊢
    cases h with
    | here _ => cases hn
    | @later n _ _ us' h =>
      have hstands : (⟨t :: us', tail⟩ : Tokens).StandsFor ⟨t :: us, tail⟩ :=
        ⟨h.later.standsFor, .refl tail⟩
      have hnul' : nul ∉ charsOf (t :: us') tail := fun hmem =>
        h.later.mem hmem |>.elim hnul r.nul_notMem_trivia
      have hbehind : source'.toList = leadChars (byteOrderMark source.toList).1 ++
          charsOf (t :: us') tail := by
        rw [hsource', hfront]
        exact charsOf_behind front ⟨t :: us', tail⟩
      rw [tokenize?_relay hchars hlexes hstands hnul' hbehind, hfront]
      rfl

end StructureGrader.Syntax
