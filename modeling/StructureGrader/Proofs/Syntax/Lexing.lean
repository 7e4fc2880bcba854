import StructureGrader.Proofs.Syntax.Longest

/-!
# What the lexer reads

`Lexes` says without fuel what it is to cut a text into tokens: the trivia in front of each token is
all that stands there (`Laid`), and the token is the one that starts the rest. The lexer finds the
tokens of a text exactly when they are cut this way (`tokensFrom_lexes`, `Lexes.tokensFrom`), so that
their texts with their trivia are the text again (`tokenize?_text`).
-/

namespace StructureGrader.Syntax

/-! ## Texts of tokens -/

/-- No trivia have no text. -/
theorem leadText_nil : leadText [] = "" :=
  rfl

/-- The text of trivia is that of the first one and then that of the others. -/
theorem leadText_cons (x : Trivia) (lead : List Trivia) :
    leadText (x :: lead) = x.text ++ leadText lead := by
  unfold leadText
  rw [List.map_cons, String.join_cons]

/-- The text of two lists of trivia is the text of one behind the other. -/
theorem leadText_append (front lead : List Trivia) :
    leadText (front ++ lead) = leadText front ++ leadText lead := by
  induction front with
  | nil => rw [List.nil_append, leadText_nil, String.empty_append]
  | cons x front ih => rw [List.cons_append, leadText_cons, leadText_cons, ih, String.append_assoc]

/-- No tokens have no text. -/
theorem textOf_nil : textOf [] = "" :=
  rfl

/-- The text of tokens is that of the first one in full and then that of the others. -/
theorem textOf_cons (t : Token) (ts : List Token) : textOf (t :: ts) = t.fullText ++ textOf ts := by
  unfold textOf
  rw [List.map_cons, String.join_cons]

/-- The text of two lists of tokens is the text of one behind the other. -/
theorem textOf_append (ts us : List Token) : textOf (ts ++ us) = textOf ts ++ textOf us := by
  induction ts with
  | nil => rw [List.nil_append, textOf_nil, String.empty_append]
  | cons t ts ih => rw [List.cons_append, textOf_cons, textOf_cons, ih, String.append_assoc]

/-- The text of the trivia. -/
def leadChars (lead : List Trivia) : List Char :=
  (leadText lead).toList

/-- No trivia have no characters. -/
theorem leadChars_nil : leadChars [] = [] :=
  rfl

/-- The characters of trivia are those of the first one and then those of the others. -/
theorem leadChars_cons (x : Trivia) (lead : List Trivia) :
    leadChars (x :: lead) = x.text.toList ++ leadChars lead := by
  unfold leadChars
  rw [leadText_cons, String.toList_append]

/-- The characters of two lists of trivia are those of one behind the other. -/
theorem leadChars_append (front lead : List Trivia) :
    leadChars (front ++ lead) = leadChars front ++ leadChars lead := by
  unfold leadChars
  rw [leadText_append, String.toList_append]

/-- The text of tokens and of the trivia after them. -/
def charsOf (ts : List Token) (tail : List Trivia) : List Char :=
  (textOf ts).toList ++ leadChars tail

/-- Where there is no token, only the characters at the end are left. -/
theorem charsOf_nil (tail : List Trivia) : charsOf [] tail = leadChars tail :=
  rfl

/-- The characters of tokens are what stands before the first one, its text, and those of the
others. -/
theorem charsOf_cons (t : Token) (ts : List Token) (tail : List Trivia) :
    charsOf (t :: ts) tail = leadChars t.lead ++ (t.text.toList ++ charsOf ts tail) := by
  unfold charsOf leadChars
  rw [textOf_cons, Token.fullText, String.toList_append, String.toList_append, List.append_assoc,
    List.append_assoc]

/-! ## Trivia -/

/-- In a comment the next character is read unless it ends the comment. -/
theorem blockComment?_cons {c : Char} {cs : List Char} (h : ∀ rest, c :: cs ≠ '*' :: '/' :: rest) :
    blockComment? (c :: cs) = (blockComment? cs).map fun r => (c :: r.1, r.2) := by
  rw [blockComment?]
  rintro rest rfl rfl
  exact h rest rfl

/-- A comment ends where its first end mark stands, whatever follows. -/
theorem blockComment?_stable {cs : List Char} {s : Split} (h : blockComment? cs = some s) :
    s.Of cs ∧ 2 ≤ s.1.length ∧ ∀ rest, blockComment? (s.1 ++ rest) = some (s.1, rest) := by
  induction cs using blockComment?.induct generalizing s with
  | case1 cs =>
    obtain rfl := Option.some.inj h
    exact ⟨rfl, Nat.le_refl 2, fun _ => rfl⟩
  | case2 c cs hend ih =>
    have hne : ∀ rest, c :: cs ≠ '*' :: '/' :: rest := fun rest heq =>
      hend rest (List.cons.inj heq).1 (List.cons.inj heq).2
    rw [blockComment?_cons hne, Option.map_eq_some_iff] at h
    obtain ⟨⟨body, left⟩, hs, rfl⟩ := h
    obtain ⟨hof, hlength, hstable⟩ := ih hs
    refine ⟨congrArg (c :: ·) hof, Nat.le_succ_of_le hlength, fun rest => ?_⟩
    -- The body goes on behind `c`, so an end mark would stand there for `cs`, too.
    have hne' : ∀ more, c :: (body ++ rest) ≠ '*' :: '/' :: more := by
      intro more heq
      obtain ⟨hc, heq⟩ := List.cons.inj heq
      cases body with
      | nil => exact absurd hlength (Nat.not_succ_le_zero 1)
      | cons d body =>
        obtain ⟨rfl, -⟩ := List.cons.inj heq
        exact hend _ hc hof.symm
    dsimp only
    rw [List.cons_append, blockComment?_cons hne', hstable]
    rfl
  | case3 => cases h

/-- No trivia starts the text. -/
structure Bare (cs : List Char) : Prop where
  space : ∀ c ∈ cs.head?, isSpace c = false
  line : ∀ rest, cs ≠ '/' :: '/' :: rest
  block : ∀ rest, cs = '/' :: '*' :: rest → blockComment? rest = none

/-- The end of the text is bare. -/
theorem bare_nil : Bare [] :=
  ⟨fun _ h => (by cases h), fun _ h => (by cases h), fun _ h => (by cases h)⟩

/-- A line comment goes up to the end of its line. -/
theorem leadOf_line (fuel : Nat) (rest : List Char) :
    leadOf (fuel + 1) ('/' :: '/' :: rest) =
      let r := leadOf fuel (rest.dropWhile (· != '\n'))
      (.comment (String.ofList ('/' :: '/' :: rest.takeWhile (· != '\n'))) :: r.1, r.2) :=
  rfl

/-- A block comment goes up to its end. -/
theorem leadOf_block {rest body left : List Char} (h : blockComment? rest = some (body, left))
    (fuel : Nat) :
    leadOf (fuel + 1) ('/' :: '*' :: rest) =
      (.comment (String.ofList ('/' :: '*' :: body)) :: (leadOf fuel left).1,
        (leadOf fuel left).2) := by
  rw [leadOf, h]

/-- White space goes up to the next character that is none. -/
theorem leadOf_space {c : Char} (h : isSpace c = true) (fuel : Nat) (cs : List Char) :
    leadOf (fuel + 1) (c :: cs) =
      let r := leadOf fuel ((c :: cs).dropWhile isSpace)
      (.blank (String.ofList ((c :: cs).takeWhile isSpace)) :: r.1, r.2) := by
  have hslash : c ≠ '/' := fun heq => by rw [heq] at h; cases h
  rw [leadOf, if_pos h]
  · exact fun _ heq _ => hslash heq
  · exact fun _ heq _ => hslash heq

/-- At a bare text no trivia are read. -/
theorem Bare.leadOf {cs : List Char} (h : Bare cs) (fuel : Nat) :
    Syntax.leadOf fuel cs = ([], cs) := by
  cases fuel with
  | zero => rfl
  | succ fuel =>
    rw [Syntax.leadOf.eq_def]
    dsimp only
    split
    · exact absurd rfl (h.line _)
    · rw [h.block _ rfl]
    · rename_i c cs hline hblock
      rw [if_neg (by rw [h.space c rfl]; exact Bool.false_ne_true)]
    · rfl

/-- The trivia is all trivia that stands before a text: runs of white space are not cut, and a
comment goes on to its end. -/
inductive Laid (next : List Char) : List Trivia → Prop
  | nil (h : Bare next) : Laid next []
  | blank {w : List Char} {lead : List Trivia} (hne : w ≠ []) (hspace : ∀ c ∈ w, isSpace c = true)
      (hnext : ∀ c ∈ (leadChars lead ++ next).head?, isSpace c = false) (h : Laid next lead) :
      Laid next (.blank (String.ofList w) :: lead)
  | line {body : List Char} {lead : List Trivia} (hbody : ∀ c ∈ body, (c != '\n') = true)
      (hnext : ∀ c ∈ (leadChars lead ++ next).head?, (c != '\n') = false) (h : Laid next lead) :
      Laid next (.comment (String.ofList ('/' :: '/' :: body)) :: lead)
  | block {body : List Char} {lead : List Trivia} (hbody : blockComment? body = some (body, []))
      (h : Laid next lead) : Laid next (.comment (String.ofList ('/' :: '*' :: body)) :: lead)

/-- A run of a class that is not cut is taken whole. -/
theorem span_run {p : Char → Bool} {w cs : List Char} (hw : ∀ c ∈ w, p c = true)
    (hcs : ∀ c ∈ cs.head?, p c = false) :
    (w ++ cs).takeWhile p = w ∧ (w ++ cs).dropWhile p = cs := by
  have hstop : cs.takeWhile p = [] ∧ cs.dropWhile p = cs := by
    cases cs with
    | nil => exact ⟨rfl, rfl⟩
    | cons c cs =>
      rw [List.takeWhile_cons, List.dropWhile_cons, hcs c rfl]
      exact ⟨rfl, rfl⟩
  rw [List.takeWhile_append_of_pos hw, List.dropWhile_append_of_pos hw, hstop.1, hstop.2,
    List.append_nil]
  exact ⟨rfl, rfl⟩

/-- The run of a class at the front of a text is not cut. -/
theorem head?_dropWhile {p : Char → Bool} (cs : List Char) :
    ∀ c ∈ (cs.dropWhile p).head?, p c = false := by
  intro c hc
  have h := List.head?_dropWhile_not p cs
  rw [Option.mem_def.1 hc] at h
  simpa using h

/-- What may start a text: a line comment, a block comment that ends, white space, or no trivia. -/
theorem trivia_cases (cs : List Char) :
    (∃ rest, cs = '/' :: '/' :: rest) ∨
    (∃ body left, cs = '/' :: '*' :: (body ++ left) ∧
      ∀ rest, blockComment? (body ++ rest) = some (body, rest)) ∨
    (∃ c rest, cs = c :: rest ∧ isSpace c = true) ∨ Bare cs := by
  by_cases hline : ∃ rest, cs = '/' :: '/' :: rest
  · exact .inl hline
  by_cases hspace : ∃ c rest, cs = c :: rest ∧ isSpace c = true
  · exact .inr (.inr (.inl hspace))
  by_cases hblock : ∃ rest s, cs = '/' :: '*' :: rest ∧ blockComment? rest = some s
  · obtain ⟨rest, ⟨body, left⟩, rfl, hs⟩ := hblock
    obtain ⟨hof, -, hstable⟩ := blockComment?_stable hs
    exact .inr (.inl ⟨body, left, congrArg (fun t => '/' :: '*' :: t) hof.symm, hstable⟩)
  refine .inr (.inr (.inr ⟨fun c hc => ?_, fun rest h => hline ⟨rest, h⟩, fun rest h => ?_⟩))
  · obtain ⟨rest, rfl⟩ := List.head?_eq_some_iff.1 hc
    exact Bool.of_not_eq_true fun h => hspace ⟨c, rest, rfl, h⟩
  · exact Option.eq_none_iff_forall_ne_some.2 fun s hs => hblock ⟨rest, s, h, hs⟩

/-- The lexer takes all trivia that stands in front, when it has the fuel for it. -/
theorem leadOf_laid {fuel : Nat} {cs : List Char} (h : cs.length < fuel) :
    leadChars (leadOf fuel cs).1 ++ (leadOf fuel cs).2 = cs ∧
      Laid (leadOf fuel cs).2 (leadOf fuel cs).1 := by
  induction fuel generalizing cs with
  | zero => cases h
  | succ fuel ih =>
    rcases trivia_cases cs with ⟨rest, rfl⟩ | ⟨body, left, rfl, hbody⟩ | ⟨c, rest, rfl, hc⟩ | hbare
    · -- The marks of the remark are gone, so there is fuel for the rest; likewise below.
      have hle := (List.dropWhile_suffix (l := rest) (· != '\n')).length_le
      have hlt : (rest.dropWhile (· != '\n')).length < fuel := by
        rw [List.length_cons, List.length_cons] at h
        omega
      obtain ⟨htext, hlaid⟩ := ih hlt
      rw [leadOf_line]
      dsimp only
      refine ⟨?_, .line (fun c => List.mem_takeWhile_imp (p := fun c => c != '\n')) ?_ hlaid⟩
      · rw [leadChars_cons, List.append_assoc, htext, Trivia.text, String.toList_ofList]
        exact congrArg (fun t => '/' :: '/' :: t) List.takeWhile_append_dropWhile
      · rw [htext]
        exact head?_dropWhile rest
    · have hlt : left.length < fuel := by
        rw [List.length_cons, List.length_cons, List.length_append] at h
        omega
      obtain ⟨htext, hlaid⟩ := ih hlt
      rw [leadOf_block (hbody left)]
      dsimp only
      refine ⟨?_, .block ?_ hlaid⟩
      · rw [leadChars_cons, List.append_assoc, htext, Trivia.text, String.toList_ofList]
        rfl
      · have hself := hbody []
        rwa [List.append_nil] at hself
    · -- The white space is not empty, so less is left.
      have hdrop : (c :: rest).dropWhile isSpace = rest.dropWhile isSpace :=
        List.dropWhile_cons_of_pos hc
      have hle := (List.dropWhile_suffix (l := rest) isSpace).length_le
      have hlt : ((c :: rest).dropWhile isSpace).length < fuel := by
        rw [List.length_cons] at h
        rw [hdrop]
        omega
      obtain ⟨htext, hlaid⟩ := ih hlt
      rw [leadOf_space hc]
      dsimp only
      refine ⟨?_, .blank ?_ (fun d hd => List.mem_takeWhile_imp hd) ?_ hlaid⟩
      · rw [leadChars_cons, List.append_assoc, htext, Trivia.text, String.toList_ofList]
        exact List.takeWhile_append_dropWhile
      · rw [List.takeWhile_cons_of_pos hc]
        exact List.cons_ne_nil _ _
      · rw [htext]
        exact head?_dropWhile (c :: rest)
    · rw [hbare.leadOf]
      exact ⟨rfl, .nil hbare⟩

/-- Trivia that is all that stands before a text is taken. -/
theorem Laid.leadOf {next : List Char} {lead : List Trivia} (h : Laid next lead) {fuel : Nat}
    (hfuel : lead.length < fuel) :
    Syntax.leadOf fuel (leadChars lead ++ next) = (lead, next) := by
  induction h generalizing fuel with
  | nil h => exact h.leadOf fuel
  | @blank w lead hne hspace hnext h ih =>
    obtain ⟨fuel, rfl⟩ := Nat.exists_eq_add_one_of_ne_zero (Nat.ne_zero_of_lt hfuel)
    obtain ⟨htake, hdrop⟩ := span_run hspace hnext
    obtain ⟨c, w, rfl⟩ := List.exists_cons_of_ne_nil hne
    rw [leadChars_cons, Trivia.text, String.toList_ofList, List.append_assoc, List.cons_append,
      leadOf_space (hspace c List.mem_cons_self), ← List.cons_append, htake, hdrop,
      ih (Nat.lt_of_succ_lt_succ hfuel)]
  | @line body lead hbody hnext h ih =>
    obtain ⟨fuel, rfl⟩ := Nat.exists_eq_add_one_of_ne_zero (Nat.ne_zero_of_lt hfuel)
    obtain ⟨htake, hdrop⟩ := span_run hbody hnext
    rw [leadChars_cons, Trivia.text, String.toList_ofList, List.append_assoc, List.cons_append,
      List.cons_append, leadOf_line, htake, hdrop, ih (Nat.lt_of_succ_lt_succ hfuel)]
  | @block body lead hbody h ih =>
    obtain ⟨fuel, rfl⟩ := Nat.exists_eq_add_one_of_ne_zero (Nat.ne_zero_of_lt hfuel)
    rw [leadChars_cons, Trivia.text, String.toList_ofList, List.append_assoc, List.cons_append,
      List.cons_append, leadOf_block ((blockComment?_stable hbody).2.2 _),
      ih (Nat.lt_of_succ_lt_succ hfuel)]

/-! ## Tokens -/

/-- The tokens of a text, with the embedding before the first of them: in front of each stands all
its trivia, and the token is the one that starts the rest. -/
inductive Lexes (tail : List Trivia) : Embedding → List Token → Prop
  | done {emb : Embedding} (htail : Laid [] tail) : Lexes tail emb []
  | token {emb : Embedding} {t : Token} {ts : List Token} {emb' : Embedding}
      (hlead : Laid (t.text.toList ++ charsOf ts tail) t.lead)
      (hstep : step? emb (t.text.toList ++ charsOf ts tail) =
        some ⟨t.tokenClass, t.text.toList, emb', charsOf ts tail⟩)
      (hmore : Lexes tail emb' ts) : Lexes tail emb (t :: ts)

/-- At the end of the text all tokens are read. -/
theorem tokensFrom_of_nil {fuel : Nat} {cs : List Char} {lead : List Trivia}
    (h : leadOf (fuel + 1) cs = (lead, [])) (emb : Embedding) (done : List Token) :
    tokensFrom (fuel + 1) emb done cs = some ⟨done.reverse, lead⟩ := by
  rw [tokensFrom, h]

/-- Before the end of the text a token is read, and the others behind it. -/
theorem tokensFrom_of_ne_nil {fuel : Nat} {cs rest : List Char} {lead : List Trivia}
    (h : leadOf (fuel + 1) cs = (lead, rest)) (hrest : rest ≠ []) (emb : Embedding)
    (done : List Token) :
    tokensFrom (fuel + 1) emb done cs = (step? emb rest).bind fun s =>
      tokensFrom fuel s.embedding (⟨lead, s.tokenClass, String.ofList s.text⟩ :: done) s.rest := by
  rw [tokensFrom, h]
  dsimp only
  split
  · exact absurd rfl hrest
  · cases step? emb rest <;> rfl

/-- The tokens that are read are those of the text. -/
theorem tokensFrom_lexes {fuel : Nat} {emb : Embedding} {done : List Token} {cs : List Char}
    {out : Tokens} (hfuel : cs.length < fuel) (h : tokensFrom fuel emb done cs = some out) :
    ∃ ts, out.tokens = done.reverse ++ ts ∧ charsOf ts out.tail = cs ∧ Lexes out.tail emb ts := by
  induction fuel generalizing emb done cs with
  | zero => cases h
  | succ fuel ih =>
    obtain ⟨lead, rest, hlead⟩ : ∃ lead rest, leadOf (fuel + 1) cs = (lead, rest) := ⟨_, _, rfl⟩
    obtain ⟨htext, hlaid⟩ := leadOf_laid hfuel
    rw [hlead] at htext hlaid
    dsimp only at htext hlaid
    by_cases hrest : rest = []
    · subst hrest
      rw [tokensFrom_of_nil hlead] at h
      obtain rfl := Option.some.inj h
      rw [List.append_nil] at htext
      exact ⟨[], (List.append_nil _).symm, htext, .done hlaid⟩
    · rw [tokensFrom_of_ne_nil hlead hrest, Option.bind_eq_some_iff] at h
      obtain ⟨s, hs, hout⟩ := h
      have hstands := step?_stands hs
      have hsplits := hstands.splits
      -- A token has a character, so there is fuel for what is behind it.
      have hpos : 0 < s.text.length := List.length_pos_iff.2 hstands.ne_nil
      have hlt : s.rest.length < fuel := by
        rw [← htext, ← hsplits, List.length_append, List.length_append] at hfuel
        omega
      obtain ⟨ts, htokens, hchars, hlexes⟩ := ih hlt hout
      refine ⟨⟨lead, s.tokenClass, String.ofList s.text⟩ :: ts, ?_, ?_, ?_⟩
      · -- The tokens that are done are kept last first.
        rw [htokens, List.reverse_cons, List.append_assoc]
        rfl
      · rw [charsOf_cons, String.toList_ofList, hchars, hsplits, htext]
      · refine .token ?_ ?_ hlexes
        · rw [String.toList_ofList, hchars, hsplits]
          exact hlaid
        · rw [String.toList_ofList, hchars, hsplits]
          exact hs

/-- There are at most as many trivia as they have characters. -/
theorem Laid.length_le {next : List Char} {lead : List Trivia} (h : Laid next lead) :
    lead.length ≤ (leadChars lead).length := by
  induction h with
  | nil h => exact Nat.le_refl 0
  | @blank w lead hne hspace hnext h ih =>
    have hpos : 0 < w.length := List.length_pos_iff.2 hne
    rw [leadChars_cons, Trivia.text, String.toList_ofList, List.length_append, List.length_cons]
    omega
  | line hbody hnext h ih | block hbody h ih =>
    rw [leadChars_cons, Trivia.text, String.toList_ofList, List.length_append, List.length_cons,
      List.length_cons]
    omega

/-- The tokens of a text are read. -/
theorem Lexes.tokensFrom {tail : List Trivia} {emb : Embedding} {ts : List Token}
    (h : Lexes tail emb ts) {fuel : Nat} (hfuel : (charsOf ts tail).length < fuel)
    (done : List Token) :
    Syntax.tokensFrom fuel emb done (charsOf ts tail) = some ⟨done.reverse ++ ts, tail⟩ := by
  induction h generalizing fuel done with
  | @done emb htail =>
    obtain ⟨fuel, rfl⟩ := Nat.exists_eq_add_one_of_ne_zero (Nat.ne_zero_of_lt hfuel)
    have hlead := htail.leadOf (Nat.lt_of_le_of_lt htail.length_le hfuel)
    rw [List.append_nil] at hlead
    rw [charsOf_nil, tokensFrom_of_nil hlead, List.append_nil]
  | @token emb t ts emb' hlead hstep hmore ih =>
    obtain ⟨fuel, rfl⟩ := Nat.exists_eq_add_one_of_ne_zero (Nat.ne_zero_of_lt hfuel)
    have hne : t.text.toList ≠ [] := (step?_stands hstep).ne_nil
    have hpos : 0 < t.text.toList.length := List.length_pos_iff.2 hne
    rw [charsOf_cons, List.length_append, List.length_append] at hfuel
    have hle := hlead.length_le
    have hread := hlead.leadOf (show t.lead.length < fuel + 1 by omega)
    rw [charsOf_cons, tokensFrom_of_ne_nil hread (List.append_ne_nil_of_left_ne_nil hne _), hstep,
      Option.bind_some, ih (by omega), List.reverse_cons, List.append_assoc, String.ofList_toList]
    rfl

/-! ## Source texts -/

/-- The mark in front of a source is a part of its text. -/
theorem byteOrderMark_text (cs : List Char) :
    leadChars (byteOrderMark cs).1 ++ (byteOrderMark cs).2 = cs := by
  unfold byteOrderMark
  split
  · split_ifs
    · rw [leadChars_cons, Trivia.text, String.toList_singleton]
      rfl
    · rfl
  · rfl

/-- The characters of tokens with something put in front are that and then theirs. -/
theorem charsOf_behind (front : List Trivia) (ts : Tokens) :
    charsOf (ts.behind front).tokens (ts.behind front).tail =
      leadChars front ++ charsOf ts.tokens ts.tail := by
  unfold Tokens.behind
  split
  · rename_i t more hts
    rw [hts, charsOf_cons, charsOf_cons, leadChars_append, List.append_assoc]
  · rename_i hts
    rw [hts, charsOf_nil, charsOf_nil, leadChars_append]

/-- The tokens of a source text are those of what follows its byte order mark, which goes to the
trivia of the first of them. -/
theorem tokenize?_eq_some_iff {source : String} {ts : Tokens} :
    tokenize? source = some ts ↔ ∃ us : Tokens,
      charsOf us.tokens us.tail = (byteOrderMark source.toList).2 ∧
      nul ∉ charsOf us.tokens us.tail ∧ Lexes us.tail [] us.tokens ∧
      us.behind (byteOrderMark source.toList).1 = ts := by
  unfold tokenize?
  generalize byteOrderMark source.toList = split
  obtain ⟨mark, cs⟩ := split
  dsimp only
  constructor
  · intro h
    split_ifs at h with hnul
    obtain ⟨us, hus, rfl⟩ := Option.map_eq_some_iff.1 h
    obtain ⟨vs, htokens, hchars, hlexes⟩ := tokensFrom_lexes (Nat.lt_succ_self _) hus
    obtain rfl : us.tokens = vs := htokens
    refine ⟨us, hchars, ?_, hlexes, rfl⟩
    rw [hchars]
    exact fun hmem => hnul (List.contains_iff_mem.2 hmem)
  · rintro ⟨us, rfl, hnul, hlexes, rfl⟩
    rw [if_neg fun h => hnul (List.contains_iff_mem.1 h),
      hlexes.tokensFrom (Nat.lt_succ_self _)]
    rfl

/-- The tokens of a text, with the trivia after them, are the text. -/
theorem tokenize?_text {source : String} {ts : Tokens} (h : tokenize? source = some ts) :
    charsOf ts.tokens ts.tail = source.toList := by
  obtain ⟨us, hchars, -, -, rfl⟩ := tokenize?_eq_some_iff.1 h
  rw [charsOf_behind, hchars, byteOrderMark_text]

/-- No token is empty. -/
theorem Lexes.text_ne_nil {tail : List Trivia} {emb : Embedding} {ts : List Token}
    (h : Lexes tail emb ts) : ∀ t ∈ ts, t.text.toList ≠ [] := by
  induction h with
  | done htail => exact fun t ht => absurd ht List.not_mem_nil
  | @token emb t ts emb' hlead hstep hmore ih =>
    intro u hu
    rcases List.mem_cons.1 hu with rfl | hu
    · exact (step?_stands hstep).ne_nil
    · exact ih u hu

/-- No token is empty. -/
theorem tokenize?_text_ne_nil {source : String} {ts : Tokens} (h : tokenize? source = some ts) :
    ∀ t ∈ ts.tokens, t.text.toList ≠ [] := by
  obtain ⟨us, -, -, hlexes, rfl⟩ := tokenize?_eq_some_iff.1 h
  have hus := hlexes.text_ne_nil
  unfold Tokens.behind
  split
  · rename_i t more htokens
    rw [htokens] at hus
    intro u hu
    rcases List.mem_cons.1 hu with rfl | hu
    · exact hus t List.mem_cons_self
    · exact hus u (List.mem_cons_of_mem t hu)
  · exact fun t ht => absurd ht List.not_mem_nil

end StructureGrader.Syntax
