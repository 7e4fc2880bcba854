import StructureGrader.Proofs.Syntax.Scanning

/-!
# The longest token at the front of a text

What the lexer takes from the front of a text and what it leaves are the text again, and a token has
at least one character. How far a token goes is decided by the characters up to the next white space
(`opening`): where two texts agree on these behind a token of the one, the other starts with the
same token (`step?_stands`). For words, numbers and symbols that holds because no function of the
lexer looks past white space; a literal between quotes may hold white space, but it ends at its own
closing quotes, whatever follows.
-/

namespace StructureGrader.Syntax

/-! ## Literals in quotes -/

/-- In a character literal the next character is read unless it ends the literal or starts an
escape. -/
theorem characterTail?_cons {c : Char} (hslash : c ≠ '\\') (hquote : c ≠ '\'') (cs : List Char) :
    characterTail? (c :: cs) =
      if c == '\n' then none else (characterTail? cs).map fun r => (c :: r.1, r.2) := by
  have hc : (c == '\\') = false := beq_false_of_ne hslash
  rw [characterTail?.eq_def]
  split
  · rename_i heq
    exact absurd (List.cons.inj heq).1 hslash
  · rename_i heq
    exact absurd (List.cons.inj heq).1 hquote
  · rename_i heq
    obtain ⟨rfl, rfl⟩ := List.cons.inj heq
    rw [hc, Bool.or_false]
  · rename_i heq
    cases heq

/-- A character literal ends at its closing quote. -/
theorem characterTail?_stable {cs : List Char} {s : Split} (h : characterTail? cs = some s) :
    s.Of cs ∧ s.1 ≠ [] ∧ ∀ rest, characterTail? (s.1 ++ rest) = some (s.1, rest) := by
  induction cs using characterTail?.induct generalizing s with
  | case1 c cs ih =>
    rw [characterTail?, Option.map_eq_some_iff] at h
    obtain ⟨s', hs', rfl⟩ := h
    obtain ⟨hof, hne, hstable⟩ := ih hs'
    refine ⟨congrArg (fun t => '\\' :: c :: t) hof, List.cons_ne_nil _ _, fun rest => ?_⟩
    rw [List.cons_append, List.cons_append, characterTail?, hstable]
    rfl
  | case2 cs =>
    obtain rfl := Option.some.inj h
    exact ⟨rfl, List.cons_ne_nil _ _, fun rest => rfl⟩
  | case3 c cs hslash hquote hbad =>
    rw [characterTail?, if_pos hbad] at h
    · cases h
    · exact hslash
    · exact hquote
  | case4 c cs _ hquote hgood ih =>
    have hslash : c ≠ '\\' := fun heq => hgood (by rw [heq]; rfl)
    have hend : ¬ (c == '\n') = true := fun heq => hgood (by rw [heq]; rfl)
    rw [characterTail?_cons hslash hquote, if_neg hend, Option.map_eq_some_iff] at h
    obtain ⟨s', hs', rfl⟩ := h
    obtain ⟨hof, hne, hstable⟩ := ih hs'
    refine ⟨congrArg (c :: ·) hof, List.cons_ne_nil _ _, fun rest => ?_⟩
    rw [List.cons_append, characterTail?_cons hslash hquote, if_neg hend, hstable]
    rfl
  | case5 => cases h

/-- Whatever follows a character literal, it is read up to its closing quote. -/
theorem character?_stable {cs : List Char} {s : Split} (h : character? cs = some s) :
    s.Of cs ∧ (∃ t, s.1 = '\'' :: t) ∧ ∀ rest, character? (s.1 ++ rest) = some (s.1, rest) := by
  unfold character? at h
  split at h
  · rename_i c cs
    split_ifs at h with hc
    obtain ⟨⟨t, left⟩, hs', rfl⟩ := Option.map_eq_some_iff.1 h
    obtain ⟨hof, hne, hstable⟩ := characterTail?_stable hs'
    refine ⟨congrArg ('\'' :: ·) hof, ⟨t, rfl⟩, fun rest => ?_⟩
    obtain ⟨d, t, rfl⟩ := List.exists_cons_of_ne_nil hne
    obtain ⟨rfl, -⟩ := List.cons.inj hof
    have htail : characterTail? (d :: (t ++ rest)) = some (d :: t, rest) := hstable rest
    show (if d == '\'' then none
      else (characterTail? (d :: (t ++ rest))).map fun r => ('\'' :: r.1, r.2)) = _
    rw [if_neg hc, htail]
    rfl
  · cases h

/-- The digits in front, and what character ends them, stand before another character that is no
digit. -/
theorem digits_append {p : Char → Bool} {q : Char} (hq : p q = false) (u rest rest' : List Char) :
    (u ++ q :: rest).takeWhile p = (u ++ q :: rest').takeWhile p ∧
      ((u ++ q :: rest).dropWhile p).head? = ((u ++ q :: rest').dropWhile p).head? := by
  induction u with
  | nil =>
    dsimp only [List.nil_append]
    rw [List.takeWhile_cons, List.takeWhile_cons, List.dropWhile_cons, List.dropWhile_cons, hq]
    exact ⟨rfl, rfl⟩
  | cons c u ih =>
    rw [List.cons_append, List.cons_append, List.takeWhile_cons, List.takeWhile_cons,
      List.dropWhile_cons, List.dropWhile_cons, ih.1]
    split
    · exact ⟨rfl, ih.2⟩
    · exact ⟨rfl, rfl⟩

/-- Behind `u` an escape needs four hexadecimal digits, where no brace stands there. -/
theorem escapeFits_unicode {cs : List Char} (h : cs.head? ≠ some '\x7b') :
    escapeFits ('u' :: cs) = decide (4 ≤ (cs.takeWhile isHexDigit).length) := by
  unfold escapeFits
  split <;> simp_all

/-- Behind any other letter an escape needs nothing. -/
theorem escapeFits_of_ne {c : Char} (hx : c ≠ 'x') (hu : c ≠ 'u') (cs : List Char) :
    escapeFits (c :: cs) = true := by
  unfold escapeFits
  split <;> simp_all

/-- What is behind the first quote or backslash has no say in an escape. -/
theorem escapeFits_append {q : Char} (hq : q = '"' ∨ q = '\\') (u rest rest' : List Char) :
    escapeFits (u ++ q :: rest) = escapeFits (u ++ q :: rest') := by
  have hdigit : isHexDigit q = false := by
    rcases hq with rfl | rfl <;> rfl
  have hbrace : q ≠ '\x7b' := by
    rcases hq with rfl | rfl <;> decide
  rcases u with _ | ⟨c, u⟩
  · rcases hq with rfl | rfl <;> rfl
  rw [List.cons_append, List.cons_append]
  by_cases hx : c = 'x'
  · subst hx
    rw [escapeFits, escapeFits, (digits_append hdigit u rest rest').1]
  by_cases hu : c = 'u'
  · subst hu
    rcases u with _ | ⟨d, u⟩
    · have hhead : ∀ y : List Char, (q :: y).head? ≠ some '\x7b' := fun y h =>
        hbrace (Option.some.inj h)
      rw [List.nil_append, List.nil_append, escapeFits_unicode (hhead _),
        escapeFits_unicode (hhead _), List.takeWhile_cons, List.takeWhile_cons, hdigit]
      rfl
    by_cases hd : d = '\x7b'
    · subst hd
      obtain ⟨htake, hdrop⟩ := digits_append hdigit u rest rest'
      rw [List.cons_append, List.cons_append, escapeFits, escapeFits, htake, hdrop]
    · have hhead : ∀ y : List Char, (d :: u ++ y).head? ≠ some '\x7b' := fun y h =>
        hd (Option.some.inj h)
      rw [escapeFits_unicode (hhead _), escapeFits_unicode (hhead _),
        (digits_append hdigit (d :: u) rest rest').1]
  · rw [escapeFits_of_ne hx hu, escapeFits_of_ne hx hu]

/-- In a text literal the next character is read unless it may end the literal or start an escape.
-/
theorem textTail?_cons {block : Bool} {c : Char} (hslash : c ≠ '\\') (hquote : c ≠ '"')
    (cs : List Char) :
    textTail? block (c :: cs) = (textTail? block cs).map fun r => (c :: r.1, r.2) := by
  have hc : ¬ (c == '\\') = true := fun h => hslash (eq_of_beq h)
  rw [textTail?, if_neg hc]
  · exact fun _ h _ => hslash h
  · exact fun _ _ h _ => hslash h
  · exact hquote

/-- One or two quotes do not close a text block. -/
theorem textTail?_quote {cs : List Char} (h : ∀ rest, cs ≠ '"' :: '"' :: rest) :
    textTail? true ('"' :: cs) = (textTail? true cs).map fun r => ('"' :: r.1, r.2) := by
  rw [textTail?, if_pos rfl]
  exact h

/-- Outside of a text block one quote closes. -/
theorem textTail?_close (cs : List Char) :
    textTail? false ('"' :: cs) = some (['"'], .closed, cs) :=
  rfl

/-- A text literal or a piece of a template that is read: it ends with its closing quotes or with
the start of an expression, whatever follows. -/
structure Closes (block : Bool) (cs : List Char) (r : List Char × TextEnd × List Char) : Prop where
  splits : r.1 ++ r.2.2 = cs
  mark : ∃ u q v, r.1 = u ++ q :: v ∧ (q = '"' ∨ q = '\\')
  length : block = true → 2 ≤ r.1.length
  stable (rest : List Char) : textTail? block (r.1 ++ rest) = some (r.1, r.2.1, rest)

/-- One more character in front. -/
theorem Closes.cons {block : Bool} {c : Char} {cs : List Char} {r : List Char × TextEnd × List Char}
    (h : Closes block cs r)
    (hc : ∀ rest, textTail? block (c :: (r.1 ++ rest)) =
      (textTail? block (r.1 ++ rest)).map fun r => (c :: r.1, r.2)) :
    Closes block (c :: cs) (c :: r.1, r.2) where
  splits := congrArg (c :: ·) h.splits
  mark := by
    obtain ⟨u, q, v, hr, hq⟩ := h.mark
    exact ⟨c :: u, q, v, congrArg (c :: ·) hr, hq⟩
  length hblock := Nat.le_succ_of_le (h.length hblock)
  stable rest := by
    dsimp only
    rw [List.cons_append, hc, h.stable]
    rfl

/-- A text literal closes where one is read. -/
theorem textTail?_closes {block : Bool} {cs : List Char} {r : List Char × TextEnd × List Char}
    (h : textTail? block cs = some r) : Closes block cs r := by
  induction cs using textTail?.induct block generalizing r with
  | case1 cs =>
    obtain rfl := Option.some.inj h
    exact ⟨rfl, ⟨[], _, _, rfl, .inr rfl⟩, fun _ => Nat.le_refl _, fun _ => rfl⟩
  | case2 c cs hbrace hfits ih =>
    rw [textTail?, if_pos hfits, Option.map_eq_some_iff] at h
    · obtain ⟨r', hr', rfl⟩ := h
      have hcloses := ih hr'
      obtain ⟨u, q, v, htext, hq⟩ := hcloses.mark
      have hfits' : ∀ rest, escapeFits (c :: (r'.1 ++ rest)) = true := by
        intro rest
        rw [← hfits, ← hcloses.splits, htext, List.append_assoc, List.append_assoc]
        exact escapeFits_append hq (c :: u) _ _
      refine ⟨congrArg (fun t => '\\' :: c :: t) hcloses.splits, ⟨[], _, _, rfl, .inr rfl⟩,
        fun _ => Nat.le_add_left 2 _, fun rest => ?_⟩
      dsimp only [List.cons_append]
      rw [textTail?, if_pos (hfits' rest), hcloses.stable]
      · rfl
      · exact hbrace
    · exact hbrace
  | case3 c cs hbrace hfits =>
    rw [textTail?, if_neg hfits] at h
    · cases h
    · exact hbrace
  | case4 hblock rest =>
    subst hblock
    obtain rfl := Option.some.inj h
    exact ⟨rfl, ⟨[], _, _, rfl, .inl rfl⟩, fun _ => Nat.le_succ 2, fun _ => rfl⟩
  | case5 cs hblock hquotes ih =>
    subst hblock
    rw [textTail?_quote hquotes, Option.map_eq_some_iff] at h
    obtain ⟨r', hr', rfl⟩ := h
    have hcloses := ih hr'
    refine hcloses.cons fun rest => textTail?_quote fun rest' hrest => ?_
    -- What follows the quote is read with at least two characters, and these are not both quotes.
    obtain ⟨t, left⟩ := r'
    obtain ⟨c, d, t, rfl⟩ : ∃ c d u, t = c :: d :: u := by
      have hlength := hcloses.length rfl
      rcases t with _ | ⟨c, _ | ⟨d, t⟩⟩
      · cases hlength
      · exact absurd hlength (Nat.not_succ_le_self 1)
      · exact ⟨c, d, t, rfl⟩
    obtain ⟨rfl, hmore⟩ := List.cons.inj hrest
    obtain ⟨rfl, -⟩ := List.cons.inj hmore
    exact hquotes _ hcloses.splits.symm
  | case6 cs hblock =>
    obtain rfl := Bool.of_not_eq_true hblock
    rw [textTail?_close] at h
    obtain rfl := Option.some.inj h
    exact ⟨rfl, ⟨[], _, _, rfl, .inl rfl⟩, fun h => absurd h hblock, fun _ => rfl⟩
  | case7 c cs hembedded hescape hquote hslash =>
    rw [textTail?, if_pos hslash] at h
    · cases h
    · exact hembedded
    · exact hescape
    · exact hquote
  | case8 c cs _ _ hquote hslash ih =>
    have hc : c ≠ '\\' := fun heq => hslash (beq_iff_eq.2 heq)
    rw [textTail?_cons hc hquote, Option.map_eq_some_iff] at h
    obtain ⟨r', hr', rfl⟩ := h
    exact (ih hr').cons fun rest => textTail?_cons hc hquote _
  | case9 => cases h

/-! ## Tokens -/

/-- Whether a token is a literal in quotes, or a part of one. -/
def TokenClass.isLiteral : TokenClass → Bool
  | .word | .number | .symbol => false
  | _ => true

/-- The token of a step stands at the front of a text, and it stands there still when what follows
changes behind the next white space. -/
structure Step.Stands (emb : Embedding) (cs : List Char) (s : Step) : Prop where
  splits : s.text ++ s.rest = cs
  ne_nil : s.text ≠ []
  stable (rest : List Char) (h : opening rest = opening s.rest) :
    step? emb (s.text ++ rest) = some { s with rest := rest }

/-- No literal and no open comment starts the text. -/
structure StartsCode (emb : Embedding) (cs : List Char) : Prop where
  brace : ∀ block outer, emb = (block, 0) :: outer → cs.head? ≠ some '\x7d'
  quotes : cs.head? ≠ some '"'
  quote : cs.head? ≠ some '\''
  comment : ['/', '*'].isPrefixOf cs = false

section Steps

variable {emb : Embedding} {cs : List Char} {s : Step}

/-- A piece of text stands whatever follows, where it is taken for one. -/
theorem textStep?_stands {block : Bool} {front : List Char} {role : TextEnd → Role}
    (h : textStep? block front role cs = some s) (hfront : front ≠ [])
    (hstep : ∀ body rest, body ≠ [] → body ++ s.rest = cs → opening rest = opening s.rest →
      step? emb (front ++ (body ++ rest)) = textStep? block front role (body ++ rest)) :
    s.Stands emb (front ++ cs) := by
  obtain ⟨⟨body, ending, left⟩, hr, rfl⟩ := Option.map_eq_some_iff.1 h
  have hcloses := textTail?_closes hr
  have hbody : body ≠ [] := by
    obtain ⟨u, q, v, rfl, -⟩ := hcloses.mark
    exact List.append_ne_nil_of_right_ne_nil u (List.cons_ne_nil _ _)
  refine ⟨?_, List.append_ne_nil_of_left_ne_nil hfront _, fun rest hrest => ?_⟩
  · rw [List.append_assoc]
    exact congrArg (front ++ ·) hcloses.splits
  · rw [List.append_assoc, hstep body rest hbody hcloses.splits hrest]
    unfold textStep?
    rw [hcloses.stable]
    rfl

/-- A quote that does not start a text block starts a string. -/
theorem step?_quote (h : ∀ rest, cs ≠ '"' :: '"' :: rest) :
    step? emb ('"' :: cs) = textStep? false ['"'] (roleOfLiteral false emb) cs := by
  rw [step?]
  exact h

/-- A string that starts a text starts it also when what follows starts the same way. -/
theorem stringStep?_stands (hquotes : ∀ rest, cs ≠ '"' :: '"' :: rest)
    (h : textStep? false ['"'] (roleOfLiteral false emb) cs = some s) :
    s.Stands emb ('"' :: cs) := by
  refine textStep?_stands h (List.cons_ne_nil _ _) fun body rest hbody hsplits hrest => ?_
  refine step?_quote fun more hmore => ?_
  -- Two quotes do not become three: what follows does not start with a third one.
  rcases body with _ | ⟨c, _ | ⟨d, t⟩⟩
  · exact hbody rfl
  · obtain ⟨rfl, hhead⟩ := List.cons.inj hmore
    have hhead' : rest.head? = some '"' := congrArg List.head? hhead
    have hleft := head?_of_opening hrest rfl hhead'
    obtain ⟨left, hleft⟩ := List.head?_eq_some_iff.1 hleft
    rw [hleft] at hsplits
    exact hquotes left hsplits.symm
  · obtain ⟨rfl, hmore'⟩ := List.cons.inj hmore
    obtain ⟨rfl, -⟩ := List.cons.inj hmore'
    exact hquotes _ hsplits.symm

/-- A character literal is read the same whatever stands behind it. -/
theorem characterStep?_stands {t : Split} (h : character? cs = some t) :
    Step.Stands emb cs ⟨.character, t.1, emb, t.2⟩ := by
  obtain ⟨hof, ⟨u, hu⟩, hstable⟩ := character?_stable h
  have hne : t.1 ≠ [] := by
    rw [hu]
    exact List.cons_ne_nil _ _
  refine ⟨hof, hne, fun rest _ => ?_⟩
  have hread := hstable rest
  dsimp only
  rw [hu, List.cons_append] at hread ⊢
  show (character? ('\'' :: (u ++ rest))).map _ = _
  rw [hread]
  rfl

/-- Code is read from the text up to the next white space. -/
theorem codeStep?_opening (h : codeStep? emb cs = some s) :
    ∃ left r, Breaks r ∧ cs = opening cs ++ r ∧ s.rest = left ++ r ∧ s.text ++ left = opening cs ∧
      codeStep? emb (opening cs) = some { s with rest := left } := by
  obtain ⟨r, hr, hcs⟩ := exists_opening_append cs
  rw [hcs, codeStep?_append hr, Option.map_eq_some_iff] at h
  obtain ⟨s', hs', rfl⟩ := h
  exact ⟨s'.rest, r, hr, hcs, rfl, (codeStep?_splits hs').1, hs'⟩

namespace StartsCode

/-- Where neither a literal nor an open comment starts, the next step is one of code. -/
theorem step?_eq (h : StartsCode emb cs) : step? emb cs = codeStep? emb cs := by
  unfold step?
  split
  · exact absurd rfl (h.brace _ _ rfl)
  · exact absurd rfl h.quotes
  · exact absurd rfl h.quotes
  · exact absurd rfl h.quote
  · exact Bool.noConfusion h.comment
  · rfl

/-- Code starts before the first white space. -/
theorem append {w r r' : List Char} (hr : Breaks r) (hr' : Breaks r') (hw : w ≠ [])
    (h : StartsCode emb (w ++ r)) : StartsCode emb (w ++ r') := by
  obtain ⟨c, w, rfl⟩ := List.exists_cons_of_ne_nil hw
  have hslash : ∀ c ∈ ['/', '*'], isSpace c = false := by decide
  have hcomment := h.comment
  rw [hr.isPrefixOf_append hslash] at hcomment
  exact ⟨h.brace, h.quotes, h.quote, by rw [hr'.isPrefixOf_append hslash, hcomment]⟩

/-- Code stands as long as the text goes on the same up to the next white space. -/
theorem stands (hcode : StartsCode emb cs) (h : codeStep? emb cs = some s) : s.Stands emb cs := by
  obtain ⟨hsplits, hne⟩ := codeStep?_splits h
  refine ⟨hsplits, hne, fun rest hrest => ?_⟩
  obtain ⟨left, r, hr, hcs, hleft, htext, hread⟩ := codeStep?_opening h
  obtain ⟨r', hr', hrest'⟩ := exists_opening_append rest
  -- What `rest` has to repeat is what is left of the text before its first white space.
  have hopening : opening rest = left := by
    have hnospace : ∀ c ∈ left, isSpace c = false := by
      intro c hc
      have hmem : c ∈ opening cs := by
        rw [← htext]
        exact List.mem_append_right _ hc
      exact not_isSpace_of_mem_opening hmem
    calc opening rest = opening (left ++ r) := by rw [hrest, hleft]
      _ = left ++ opening r := opening_append hnospace r
      _ = left := by rw [opening_of_breaks hr, List.append_nil]
  have hfull : s.text ++ rest = opening cs ++ r' := by
    rw [hrest', hopening, ← List.append_assoc, htext]
  have hcode' : StartsCode emb (opening cs ++ r') := by
    rw [hcs] at hcode
    refine hcode.append hr hr' ?_
    rw [← htext]
    exact List.append_ne_nil_of_left_ne_nil hne _
  rw [hfull, hcode'.step?_eq, codeStep?_append hr', hread, hrest', hopening]
  rfl

end StartsCode

/-- The token that starts a text starts every text that goes on the same up to the next white space.
-/
theorem step?_stands (h : step? emb cs = some s) : s.Stands emb cs := by
  unfold step? at h
  split at h
  · exact textStep?_stands h (List.cons_ne_nil _ _) fun _ _ _ _ _ => rfl
  · exact textStep?_stands h (List.cons_ne_nil _ _) fun _ _ _ _ _ => rfl
  · rename_i rest hquotes
    exact stringStep?_stands hquotes h
  · obtain ⟨t, ht, rfl⟩ := Option.map_eq_some_iff.1 h
    exact characterStep?_stands ht
  · cases h
  · rename_i hquotes hquote hcomment hbrace
    refine StartsCode.stands ⟨fun block outer hemb hhead => ?_, fun hhead => ?_, fun hhead => ?_, ?_⟩ h
    · obtain ⟨rest, rfl⟩ := List.head?_eq_some_iff.1 hhead
      exact hbrace rest block outer rfl hemb
    · obtain ⟨rest, rfl⟩ := List.head?_eq_some_iff.1 hhead
      exact hquotes rest rfl
    · obtain ⟨rest, rfl⟩ := List.head?_eq_some_iff.1 hhead
      exact hquote rest rfl
    · rw [Bool.eq_false_iff]
      intro hprefix
      obtain ⟨rest, rfl⟩ := List.isPrefixOf_iff_prefix.1 hprefix
      exact hcomment rest rfl

/-- A token that is no literal holds no white space. -/
theorem step?_not_isSpace (h : step? emb cs = some s) (hclass : s.tokenClass.isLiteral = false) :
    ∀ c ∈ s.text, isSpace c = false := by
  unfold step? at h
  split at h
  case h_1 | h_2 | h_3 =>
    obtain ⟨⟨body, ending, left⟩, -, rfl⟩ := Option.map_eq_some_iff.1 h
    cases ending <;> cases hclass
  case h_4 =>
    obtain ⟨t, -, rfl⟩ := Option.map_eq_some_iff.1 h
    cases hclass
  case h_5 => cases h
  case h_6 =>
    intro c hc
    obtain ⟨left, r, -, -, -, htext, -⟩ := codeStep?_opening h
    have hmem : c ∈ opening cs := by
      rw [← htext]
      exact List.mem_append_left _ hc
    exact not_isSpace_of_mem_opening hmem

end Steps

end StructureGrader.Syntax
