import StructureGrader.Syntax.Lexer
import Mathlib.Data.List.Find
import Mathlib.Data.List.TakeWhile
import Mathlib.Tactic.SplitIfs

/-!
# Words, numbers and symbols at the front of a text

Each function of the lexer splits a text into what it takes and what it leaves. Two things hold of
all of them: the two parts are the text again, and what stands behind the next white space has no
say in what is taken (`Scans`, and `Finds` for those that may take nothing). Functions that are put
together from such functions are of the same sort (`Scans.andThen`, `Finds.or`), so that no number,
word or symbol goes past white space (`codeStep?_append`).
-/

namespace StructureGrader.Syntax

open StructureGrader.Text (isIdentifierStart isIdentifierPart)

/-- What is said of the characters of a list is decided along the list: characters are finitely
many, too, but far too many to try. -/
instance decidableForallMemChar {p : Char → Prop} [DecidablePred p] (cs : List Char) :
    Decidable (∀ c ∈ cs, p c) :=
  List.decidableBAll p cs

/-! ## Up to white space -/

/-- The characters of a text up to the first white space. -/
def opening (cs : List Char) : List Char :=
  cs.takeWhile fun c => !isSpace c

/-- The text starts with white space or is at its end. -/
def Breaks (cs : List Char) : Prop :=
  ∀ c ∈ cs.head?, isSpace c = true

/-- A text that breaks off starts with white space. -/
theorem Breaks.head {c : Char} {cs : List Char} (h : Breaks (c :: cs)) : isSpace c = true :=
  h c rfl

/-- A text is its opening, and then white space or nothing. -/
theorem exists_opening_append (cs : List Char) : ∃ r, Breaks r ∧ cs = opening cs ++ r := by
  refine ⟨cs.dropWhile fun c => !isSpace c, fun c hc => ?_, List.takeWhile_append_dropWhile.symm⟩
  have h := List.head?_dropWhile_not (fun c => !isSpace c) cs
  rw [Option.mem_def.1 hc] at h
  simpa using h

/-- What is no white space stands before the break. -/
theorem Breaks.exists_of_append_eq_cons {r w cs : List Char} {c : Char} (hr : Breaks r)
    (h : w ++ r = c :: cs) (hc : isSpace c = false) : ∃ w', w = c :: w' ∧ cs = w' ++ r := by
  cases w with
  | nil =>
    obtain rfl : r = c :: cs := h
    rw [hr.head] at hc
    cases hc
  | cons d w =>
    obtain ⟨rfl, rfl⟩ := List.cons.inj h
    exact ⟨w, rfl, rfl⟩

/-- Up to the first white space there is none. -/
theorem not_isSpace_of_mem_opening {c : Char} {cs : List Char} (h : c ∈ opening cs) :
    isSpace c = false := by
  simpa using List.mem_takeWhile_imp h

/-- Characters without white space are at the front of the opening. -/
theorem opening_append {w : List Char} (h : ∀ c ∈ w, isSpace c = false) (cs : List Char) :
    opening (w ++ cs) = w ++ opening cs :=
  List.takeWhile_append_of_pos fun c hc => by rw [h c hc]; rfl

/-- White space ends the opening. -/
theorem opening_of_breaks {cs : List Char} (h : Breaks cs) : opening cs = [] := by
  cases cs with
  | nil => rfl
  | cons c cs => rw [opening, List.takeWhile_cons, h.head]; rfl

/-- A character that is no white space belongs to the opening. -/
theorem opening_cons {c : Char} (hc : isSpace c = false) (cs : List Char) :
    opening (c :: cs) = c :: opening cs :=
  opening_append (List.forall_mem_singleton.2 hc) cs

/-- The first character of the opening is the first of the text. -/
theorem head?_of_opening {cs ds : List Char} (h : opening cs = opening ds) {c : Char}
    (hc : isSpace c = false) (hcs : cs.head? = some c) : ds.head? = some c := by
  obtain ⟨cs, rfl⟩ := List.head?_eq_some_iff.1 hcs
  obtain ⟨r, -, hds⟩ := exists_opening_append ds
  rw [hds, ← h, opening_cons hc]
  rfl

/-- All characters that are white space. -/
def spaces : List Char :=
  [' ', '\t', '\n', '\x0b', '\x0c', '\r']

/-- White space is among the characters listed for it. -/
theorem mem_spaces {c : Char} (h : isSpace c = true) : c ∈ spaces := by
  have hnum : ∀ n, 9 ≤ n → n ≤ 13 → Char.ofNat n ∈ spaces := by decide
  rw [isSpace, Bool.or_eq_true, beq_iff_eq, Bool.and_eq_true, decide_eq_true_eq,
    decide_eq_true_eq] at h
  rcases h with rfl | ⟨hlow, hhigh⟩
  · exact List.mem_cons_self
  · rw [← Char.ofNat_toNat c]
    exact hnum _ hlow hhigh

/-- The class holds no white space. -/
def NoSpace (p : Char → Bool) : Prop :=
  ∀ c, isSpace c = true → p c = false

/-- A class holds no white space where it holds none of the characters listed for it. -/
theorem noSpace_of_spaces {p : Char → Bool} (h : ∀ c ∈ spaces, p c = false) : NoSpace p :=
  fun c hc => h c (mem_spaces hc)

/-- Decimal digits are no white space. -/
theorem noSpace_isDigit : NoSpace Char.isDigit :=
  noSpace_of_spaces (by decide)

/-- Hexadecimal digits are no white space. -/
theorem noSpace_isHexDigit : NoSpace isHexDigit :=
  noSpace_of_spaces (by decide)

/-- Marks for long numbers are no white space. -/
theorem noSpace_isLongMark : NoSpace isLongMark :=
  noSpace_of_spaces (by decide)

/-- Marks for floating numbers are no white space. -/
theorem noSpace_isFloatMark : NoSpace isFloatMark :=
  noSpace_of_spaces (by decide)

/-! ## What is taken and what is left -/

/-- What is taken from the front of a text, and what is left of it. -/
abbrev Split := List Char × List Char

namespace Split

/-- The two parts are the text. -/
def Of (s : Split) (cs : List Char) : Prop :=
  s.1 ++ s.2 = cs

/-- More text behind what is left. -/
def append (r : List Char) (s : Split) : Split :=
  (s.1, s.2 ++ r)

/-- One more piece, taken from what is left; what it may be depends on what was taken before. -/
def andThen (s : Split) (g : List Char → List Char → Split) : Split :=
  (s.1 ++ (g s.1 s.2).1, (g s.1 s.2).2)

end Split

/-- A function that takes a piece from the front of a text, which may be empty: nothing is lost, and
what stands behind the next white space has no say in it. -/
structure Scans (f : List Char → Split) : Prop where
  splits (cs : List Char) : (f cs).Of cs
  append {r : List Char} (hr : Breaks r) (w : List Char) : f (w ++ r) = (f w).append r

/-- A function that may take a piece from the front of a text, and then takes at least one
character: nothing is lost, and what stands behind the next white space has no say in it. -/
structure Finds (f : List Char → Option Split) : Prop where
  splits {cs : List Char} {s : Split} (h : f cs = some s) : s.Of cs ∧ s.1 ≠ []
  append {r : List Char} (hr : Breaks r) (w : List Char) : f (w ++ r) = (f w).map (Split.append r)

/-- Nothing is taken. -/
theorem scans_nothing : Scans fun cs => ([], cs) :=
  ⟨fun _ => rfl, fun _ _ => rfl⟩

/-- Two scans, one behind the other, are a scan. -/
theorem Scans.andThen {f : List Char → Split} {g : List Char → List Char → Split} (hf : Scans f)
    (hg : ∀ t, Scans (g t)) : Scans fun cs => (f cs).andThen g where
  splits cs := by
    have hfirst : (f cs).1 ++ (f cs).2 = cs := hf.splits cs
    have hsecond : (g (f cs).1 (f cs).2).1 ++ (g (f cs).1 (f cs).2).2 = (f cs).2 :=
      (hg _).splits _
    unfold Split.Of Split.andThen
    rw [List.append_assoc, hsecond, hfirst]
  append hr w := by
    unfold Split.andThen
    rw [hf.append hr w]
    dsimp only [Split.append]
    rw [(hg _).append hr]
    rfl

/-- A piece, or nothing where there is none. -/
theorem Finds.getD {f : List Char → Option Split} (hf : Finds f) :
    Scans fun cs => (f cs).getD ([], cs) where
  splits cs := by
    cases h : f cs with
    | none => rfl
    | some s => exact (hf.splits h).1
  append hr w := by
    rw [hf.append hr w]
    cases f w <;> rfl

/-- A piece that must be there, then one that may be empty. -/
theorem Finds.andThen {f : List Char → Option Split} {g : List Char → Split} (hf : Finds f)
    (hg : Scans g) : Finds fun cs => (f cs).map fun s => s.andThen fun _ => g where
  splits {cs s} h := by
    obtain ⟨s', hs', rfl⟩ := Option.map_eq_some_iff.1 h
    obtain ⟨hof, hne⟩ := hf.splits hs'
    have hfirst : s'.1 ++ s'.2 = cs := hof
    have hsecond : (g s'.2).1 ++ (g s'.2).2 = s'.2 := hg.splits s'.2
    refine ⟨?_, List.append_ne_nil_of_left_ne_nil hne _⟩
    unfold Split.Of Split.andThen
    rw [List.append_assoc, hsecond, hfirst]
  append hr w := by
    rw [hf.append hr w]
    cases f w with
    | none => rfl
    | some s =>
      dsimp only [Option.map_some, Split.andThen, Split.append]
      rw [hg.append hr]
      rfl

/-- The one, or else the other. -/
theorem Finds.or {f g : List Char → Option Split} (hf : Finds f) (hg : Finds g) :
    Finds fun cs => (f cs).or (g cs) where
  splits h := (Option.or_eq_some_iff.1 h).elim hf.splits fun h => hg.splits h.2
  append hr w := by
    rw [hf.append hr w, hg.append hr w]
    cases f w <;> rfl

/-! ## Digits and marks -/

section Pieces

variable {p : Char → Bool}

/-- Digits are scanned. -/
theorem scans_digitsOf (hp : NoSpace p) : Scans (digitsOf p) where
  splits cs := by
    unfold Split.Of
    induction cs with
    | nil => rfl
    | cons c cs ih =>
      rw [digitsOf]
      split_ifs
      · exact congrArg (c :: ·) ih
      · split
        · rfl
        · exact congrArg (c :: ·) (by simp_all)
      · rfl
  append {r} hr w := by
    induction w with
    | nil =>
      cases r with
      | nil => rfl
      | cons c r =>
        have hspace : isSpace c = true := hr.head
        have hc : (c == '_') = false := beq_false_of_ne fun h => by rw [h] at hspace; cases hspace
        show digitsOf p (c :: r) = ([], c :: r)
        rw [digitsOf, hp c hspace, hc]
        rfl
    | cons c w ih =>
      rw [List.cons_append, digitsOf, digitsOf, ih]
      split_ifs
      · rfl
      · rcases digitsOf p w with ⟨_ | ⟨d, ds⟩, rest⟩ <;> rfl
      · rfl

/-- Digits are found where at least one is there. -/
theorem finds_digits? (hp : NoSpace p) : Finds (digits? p) where
  splits {cs s} h := by
    cases cs with
    | nil => cases h
    | cons c cs =>
      rw [digits?] at h
      split_ifs at h with hc
      obtain rfl := Option.some.inj h
      refine ⟨(scans_digitsOf hp).splits _, ?_⟩
      rw [digitsOf, if_pos hc]
      exact List.cons_ne_nil _ _
  append {r} hr w := by
    cases w with
    | nil =>
      cases r with
      | nil => rfl
      | cons c r =>
        show digits? p (c :: r) = none
        rw [digits?, hp c hr.head]
        rfl
    | cons c w =>
      have hdigits := (scans_digitsOf hp).append hr (c :: w)
      rw [List.cons_append] at hdigits ⊢
      rw [digits?, digits?, hdigits]
      split_ifs <;> rfl

/-- A character of a class that may be missing is scanned. -/
theorem scans_optionalOf (hp : NoSpace p) : Scans (optionalOf p) where
  splits cs := by
    unfold Split.Of optionalOf
    split
    · split_ifs <;> rfl
    · rfl
  append {r} hr w := by
    cases w with
    | nil =>
      cases r with
      | nil => rfl
      | cons c r =>
        show optionalOf p (c :: r) = ([], c :: r)
        rw [optionalOf, hp c hr.head]
        rfl
    | cons c w =>
      rw [List.cons_append, optionalOf, optionalOf]
      split_ifs <;> rfl

/-- An exponent that may be missing is scanned. -/
theorem scans_exponentOf (hp : NoSpace p) : Scans (exponentOf p) where
  splits cs := by
    cases cs with
    | nil => rfl
    | cons e rest =>
      have hsigned := scans_optionalOf (p := fun c => c == '+' || c == '-')
        (noSpace_of_spaces (by decide))
      have hsign := hsigned.splits rest
      rw [exponentOf]
      split_ifs
      · generalize optionalOf (fun c => c == '+' || c == '-') rest = sign at hsign
        obtain ⟨sign, rest'⟩ := sign
        dsimp only
        split
        · rename_i ds rest'' hdigits
          have hds := ((finds_digits? noSpace_isDigit).splits hdigits).1
          show e :: (sign ++ ds) ++ rest'' = e :: rest
          rw [List.cons_append, List.append_assoc, show ds ++ rest'' = rest' from hds,
            show sign ++ rest' = rest from hsign]
        · rfl
      · rfl
  append {r} hr w := by
    cases w with
    | nil =>
      cases r with
      | nil => rfl
      | cons c r =>
        show exponentOf p (c :: r) = ([], c :: r)
        rw [exponentOf, hp c hr.head]
        rfl
    | cons e w =>
      have hsign := scans_optionalOf (p := fun c => c == '+' || c == '-')
        (noSpace_of_spaces (by decide))
      rw [List.cons_append, exponentOf, exponentOf, hsign.append hr]
      split_ifs
      · rcases optionalOf (fun c => c == '+' || c == '-') w with ⟨sign, rest⟩
        have hdigits := (finds_digits? noSpace_isDigit).append hr rest
        dsimp only [Split.append]
        rw [hdigits]
        rcases digits? Char.isDigit rest with _ | ⟨ds, rest'⟩ <;> rfl
      · rfl

end Pieces

/-! ## Numbers -/

/-- Digits, or nothing. -/
def fractionOf (p : Char → Bool) (cs : List Char) : Split :=
  (digits? p cs).getD ([], cs)

/-- A fraction that may be missing is scanned. -/
theorem scans_fractionOf {p : Char → Bool} (hp : NoSpace p) : Scans (fractionOf p) :=
  (finds_digits? hp).getD

def isDecimalMark (c : Char) : Bool := c == 'e' || c == 'E'

def isBinaryMark (c : Char) : Bool := c == 'p' || c == 'P'

/-- A decimal exponent is scanned. -/
theorem scans_decimalExponent : Scans (exponentOf isDecimalMark) :=
  scans_exponentOf (noSpace_of_spaces (by decide))

/-- A binary exponent is scanned. -/
theorem scans_binaryExponent : Scans (exponentOf isBinaryMark) :=
  scans_exponentOf (noSpace_of_spaces (by decide))

/-- A tail of a number is of one form after a point and of another form without. -/
theorem Scans.ofPoint {f g h : List Char → Split} (hg : Scans g) (hh : Scans h)
    (hpoint : ∀ rest, f ('.' :: rest) = ('.' :: (g rest).1, (g rest).2))
    (hother : ∀ cs, cs.head? ≠ some '.' → f cs = h cs) : Scans f where
  splits cs := by
    by_cases hcs : cs.head? = some '.'
    · obtain ⟨rest, rfl⟩ := List.head?_eq_some_iff.1 hcs
      rw [hpoint]
      exact congrArg ('.' :: ·) (hg.splits rest)
    · rw [hother cs hcs]
      exact hh.splits cs
  append {r} hr w := by
    cases w with
    | nil =>
      have hhead : ([] ++ r).head? ≠ some '.' := fun h => by
        have hdot : isSpace '.' = true := hr '.' h
        cases hdot
      rw [hother _ hhead, hother [] (by decide), hh.append hr]
    | cons c w =>
      by_cases hc : c = '.'
      · subst hc
        rw [List.cons_append, hpoint, hpoint, hg.append hr]
        rfl
      · have hhead : ∀ cs, (c :: cs).head? ≠ some '.' := fun cs h => hc (Option.some.inj h)
        rw [List.cons_append, hother _ (hhead _), hother _ (hhead _), ← List.cons_append,
          hh.append hr]

/-- What stands behind the digits of a decimal number is scanned. -/
theorem scans_decimalTail : Scans decimalTail := by
  have hpoint : Scans fun cs =>
      ((fractionOf Char.isDigit cs).andThen fun _ => exponentOf isDecimalMark).andThen
        fun _ => optionalOf isFloatMark :=
    ((scans_fractionOf noSpace_isDigit).andThen fun _ => scans_decimalExponent).andThen
      fun _ => scans_optionalOf noSpace_isFloatMark
  have hmark : ∀ long : Bool, NoSpace fun c => isFloatMark c || (long && isLongMark c) :=
    fun long c hc => by
      dsimp only
      rw [noSpace_isFloatMark c hc, noSpace_isLongMark c hc, Bool.and_false, Bool.or_false]
  have hother : Scans fun cs => Split.andThen (exponentOf isDecimalMark cs) fun exponent =>
      optionalOf fun c => isFloatMark c || (exponent.isEmpty && isLongMark c) :=
    scans_decimalExponent.andThen fun _ => scans_optionalOf (hmark _)
  refine Scans.ofPoint hpoint hother (fun rest => rfl) fun cs hcs => ?_
  unfold decimalTail
  split
  · exact absurd rfl hcs
  · rfl

/-- After a point a type mark needs an exponent before it. -/
theorem hexTail_point (rest : List Char) :
    hexTail ('.' :: rest) =
      let s := (fractionOf isHexDigit rest).andThen fun _ cs =>
        Split.andThen (exponentOf isBinaryMark cs) fun exponent cs =>
          if exponent.isEmpty then ([], cs) else optionalOf isFloatMark cs
      ('.' :: s.1, s.2) :=
  Prod.ext (congrArg ('.' :: ·) (List.append_assoc ..)) rfl

/-- Without a point the exponent says which type marks may follow. -/
theorem hexTail_of_head {cs : List Char} (h : cs.head? ≠ some '.') :
    hexTail cs = Split.andThen (exponentOf isBinaryMark cs) fun exponent =>
      optionalOf (if exponent.isEmpty then isLongMark else isFloatMark) := by
  unfold hexTail
  split
  · exact absurd rfl h
  · unfold isBinaryMark
    dsimp only
    generalize exponentOf _ cs = s
    obtain ⟨_ | ⟨e, exponent⟩, rest⟩ := s <;> rfl

/-- What stands behind the digits of a hexadecimal number is scanned. -/
theorem scans_hexTail : Scans hexTail := by
  refine Scans.ofPoint ?_ ?_ hexTail_point fun cs => hexTail_of_head
  · refine (scans_fractionOf noSpace_isHexDigit).andThen fun _ => scans_binaryExponent.andThen ?_
    intro exponent
    by_cases h : exponent.isEmpty = true
    · simp only [if_pos h]
      exact scans_nothing
    · simp only [if_neg h]
      exact scans_optionalOf noSpace_isFloatMark
  · refine scans_binaryExponent.andThen fun exponent => ?_
    split_ifs
    · exact scans_optionalOf noSpace_isLongMark
    · exact scans_optionalOf noSpace_isFloatMark

section RealNumbers

variable {p : Char → Bool} {tail : List Char → Split}

/-- A number that starts with a digit is found. -/
theorem finds_wholeNumber? (hp : NoSpace p) (htail : Scans tail) : Finds (wholeNumber? p tail) :=
  (finds_digits? hp).andThen htail

/-- A number that starts with a point is a point, a digit and the rest. -/
theorem pointNumber?_eq_some_iff {cs : List Char} {s : Split} :
    pointNumber? p tail cs = some s ↔
      ∃ d rest, cs = '.' :: d :: rest ∧ p d = true ∧ tail cs = s := by
  unfold pointNumber?
  constructor
  · intro h
    split at h
    · split_ifs at h with hd
      exact ⟨_, _, rfl, hd, Option.some.inj h⟩
    · cases h
  · rintro ⟨d, rest, rfl, hd, rfl⟩
    exact if_pos hd

/-- A number that starts with a point is found. -/
theorem finds_pointNumber? (hp : NoSpace p) (htail : Scans tail)
    (hpoint : ∀ rest, (tail ('.' :: rest)).1 ≠ []) : Finds (pointNumber? p tail) where
  splits h := by
    obtain ⟨d, rest, rfl, -, rfl⟩ := pointNumber?_eq_some_iff.1 h
    exact ⟨htail.splits _, hpoint _⟩
  append {r} hr w := by
    ext s
    rw [Option.map_eq_some_iff, pointNumber?_eq_some_iff]
    constructor
    · -- The digit behind the point is no white space, so both stand before it.
      rintro ⟨d, rest, heq, hd, rfl⟩
      have hspace : isSpace d = false := by
        by_contra h
        rw [hp d (Bool.of_not_eq_false h)] at hd
        cases hd
      obtain ⟨w', rfl, hw'⟩ := hr.exists_of_append_eq_cons heq (by decide)
      obtain ⟨w'', rfl, -⟩ := hr.exists_of_append_eq_cons hw'.symm hspace
      exact ⟨_, pointNumber?_eq_some_iff.2 ⟨d, w'', rfl, hd, rfl⟩, (htail.append hr _).symm⟩
    · rintro ⟨s', hs', rfl⟩
      obtain ⟨d, rest, rfl, hd, rfl⟩ := pointNumber?_eq_some_iff.1 hs'
      exact ⟨d, rest ++ r, rfl, hd, htail.append hr _⟩

/-- A number with or without digits before its point is found. -/
theorem finds_realNumber? (hp : NoSpace p) (htail : Scans tail)
    (hpoint : ∀ rest, (tail ('.' :: rest)).1 ≠ []) : Finds (realNumber? p tail) :=
  (finds_wholeNumber? hp htail).or (finds_pointNumber? hp htail hpoint)

end RealNumbers

/-- What stands behind the mark of a base is found. -/
theorem finds_afterBaseMark? (mark : Char) : Finds (afterBaseMark? mark) := by
  have hlong : Scans (optionalOf isLongMark) := scans_optionalOf noSpace_isLongMark
  unfold afterBaseMark?
  split_ifs
  · exact finds_realNumber? noSpace_isHexDigit scans_hexTail fun _ => List.cons_ne_nil _ _
  · exact finds_wholeNumber? (noSpace_of_spaces (by decide)) hlong
  · exact finds_wholeNumber? (noSpace_of_spaces (by decide)) hlong
  · exact ⟨fun h => (by cases h), fun _ _ => rfl⟩

/-- White space is no base mark. -/
theorem afterBaseMark?_of_isSpace {mark : Char} (h : isSpace mark = true) (cs : List Char) :
    afterBaseMark? mark cs = none := by
  have hmark : ∀ m ∈ spaces, (m == 'x' || m == 'X') = false ∧ (m == 'b' || m == 'B') = false ∧
      (m == 'o' || m == 'O') = false := by decide
  obtain ⟨hx, hb, ho⟩ := hmark mark (mem_spaces h)
  rw [afterBaseMark?, hx, hb, ho]
  rfl

/-- A number in another base is a zero, the mark of the base and the rest. -/
theorem basedNumber?_eq_some_iff {cs : List Char} {s : Split} :
    basedNumber? cs = some s ↔
      ∃ mark rest s', cs = '0' :: mark :: rest ∧ afterBaseMark? mark rest = some s' ∧
        s = ('0' :: mark :: s'.1, s'.2) := by
  unfold basedNumber?
  constructor
  · intro h
    split at h
    · obtain ⟨s', hs', rfl⟩ := Option.map_eq_some_iff.1 h
      exact ⟨_, _, s', rfl, hs', rfl⟩
    · cases h
  · rintro ⟨mark, rest, s', rfl, hs', rfl⟩
    exact Option.map_eq_some_iff.2 ⟨s', hs', rfl⟩

/-- A number in another base is found. -/
theorem finds_basedNumber? : Finds basedNumber? where
  splits h := by
    obtain ⟨mark, rest, s', rfl, hs', rfl⟩ := basedNumber?_eq_some_iff.1 h
    have hsplits := ((finds_afterBaseMark? mark).splits hs').1
    exact ⟨congrArg (fun t => '0' :: mark :: t) hsplits, List.cons_ne_nil _ _⟩
  append {r} hr w := by
    ext s
    rw [Option.map_eq_some_iff, basedNumber?_eq_some_iff]
    constructor
    · rintro ⟨mark, rest, s', heq, hs', rfl⟩
      have hspace : isSpace mark = false := by
        by_contra h
        rw [afterBaseMark?_of_isSpace (Bool.of_not_eq_false h)] at hs'
        cases hs'
      obtain ⟨w', rfl, hw'⟩ := hr.exists_of_append_eq_cons heq (by decide)
      obtain ⟨w'', rfl, rfl⟩ := hr.exists_of_append_eq_cons hw'.symm hspace
      rw [(finds_afterBaseMark? mark).append hr, Option.map_eq_some_iff] at hs'
      obtain ⟨t, ht, rfl⟩ := hs'
      exact ⟨_, basedNumber?_eq_some_iff.2 ⟨mark, w'', t, rfl, ht, rfl⟩, rfl⟩
    · rintro ⟨s', hs', rfl⟩
      obtain ⟨mark, rest, t, rfl, ht, rfl⟩ := basedNumber?_eq_some_iff.1 hs'
      refine ⟨mark, rest ++ r, Split.append r t, rfl, ?_, rfl⟩
      rw [(finds_afterBaseMark? mark).append hr, ht]
      rfl

/-- A number is found. -/
theorem finds_number? : Finds number? :=
  finds_basedNumber?.or
    (finds_realNumber? noSpace_isDigit scans_decimalTail fun _ => List.cons_ne_nil _ _)

/-! ## Symbols and words -/

/-- Whether a text without white space stands in front does not depend on what is behind the next
white space. -/
theorem Breaks.isPrefixOf_append {r : List Char} (hr : Breaks r) {t : List Char}
    (ht : ∀ c ∈ t, isSpace c = false) (w : List Char) : t.isPrefixOf (w ++ r) = t.isPrefixOf w := by
  induction t generalizing w with
  | nil => rfl
  | cons c t ih =>
    have htail : ∀ d ∈ t, isSpace d = false := fun d hd => ht d (List.mem_cons_of_mem c hd)
    cases w with
    | nil =>
      cases r with
      | nil => rfl
      | cons d r =>
        have hne : (c == d) = false := beq_false_of_ne fun h => by
          have hspace := hr.head
          rw [← h, ht c List.mem_cons_self] at hspace
          cases hspace
        show (c == d && t.isPrefixOf r) = false
        rw [hne, Bool.false_and]
    | cons d w =>
      show (c == d && t.isPrefixOf (w ++ r)) = (c == d && t.isPrefixOf w)
      rw [ih htail]

/-- No long symbol is empty. -/
theorem longSymbols_ne_nil : ∀ s ∈ longSymbols, s.toList ≠ [] := by
  decide

/-- No long symbol has white space in it. -/
theorem not_isSpace_of_mem_longSymbols : ∀ s ∈ longSymbols, ∀ c ∈ s.toList, isSpace c = false := by
  decide

/-- The longer symbol at the front of a text. -/
def longSymbol? (cs : List Char) : Option String :=
  longSymbols.find? fun s => s.toList.isPrefixOf cs

/-- Behind a text that breaks off nothing has a say in which long symbol is read. -/
theorem longSymbol?_append {r : List Char} (hr : Breaks r) (w : List Char) :
    longSymbol? (w ++ r) = longSymbol? w := by
  unfold longSymbol?
  apply List.find?_congr
  intro s hs
  exact hr.isPrefixOf_append (not_isSpace_of_mem_longSymbols s hs) w

/-- A long symbol that is read stands in front of the text. -/
theorem longSymbol?_starts {cs : List Char} {s : String} (h : longSymbol? cs = some s) :
    s.toList <+: cs := by
  simpa using List.find?_some h

/-- A symbol is the longest of the long ones, or a single character. -/
theorem symbol?_eq (cs : List Char) :
    symbol? cs = match longSymbol? cs with
      | some s => some (s.toList, cs.drop s.length)
      | none => (cs.head?.filter shortSymbols.contains).map fun c => ([c], cs.tail) := by
  unfold symbol? longSymbol?
  cases longSymbols.find? fun s => s.toList.isPrefixOf cs with
  | some s => rfl
  | none =>
    cases cs with
    | nil => rfl
    | cons c cs =>
      show (if _ then _ else _) = _
      by_cases hc : shortSymbols.contains c = true
      · rw [if_pos hc, List.head?_cons, Option.filter_some, if_pos hc]
        rfl
      · rw [if_neg hc, List.head?_cons, Option.filter_some, if_neg hc]
        rfl

/-- A symbol is found. -/
theorem finds_symbol? : Finds symbol? where
  splits {cs s} h := by
    unfold symbol? at h
    split at h
    · rename_i t hfind
      have ht : t ∈ longSymbols := List.mem_of_find?_eq_some hfind
      obtain rfl := Option.some.inj h
      refine ⟨?_, longSymbols_ne_nil t ht⟩
      rw [← String.length_toList]
      exact List.prefix_iff_eq_append.1 (longSymbol?_starts hfind)
    · split at h
      · split_ifs at h
        obtain rfl := Option.some.inj h
        exact ⟨rfl, List.cons_ne_nil _ _⟩
      · cases h
  append {r} hr w := by
    rw [symbol?_eq, symbol?_eq, longSymbol?_append hr]
    cases hlong : longSymbol? w with
    | some s =>
      have hle : s.length ≤ w.length := by
        rw [← String.length_toList]
        exact (longSymbol?_starts hlong).length_le
      dsimp only [Option.map_some, Split.append]
      rw [List.drop_append_of_le_length hle]
    | none =>
      cases w with
      | nil =>
        have hshort : NoSpace shortSymbols.contains := noSpace_of_spaces (by decide)
        cases r with
        | nil => rfl
        | cons c r =>
          show Option.map _ (Option.filter _ (some c)) = none
          rw [Option.filter_some, hshort c hr.head]
          rfl
      | cons c w =>
        dsimp only [List.cons_append, List.head?_cons, List.tail_cons]
        rw [Option.map_map]
        rfl

/-- As long as the characters are of a class. -/
theorem scans_takeWhile {p : Char → Bool} (hp : NoSpace p) :
    Scans fun cs => (cs.takeWhile p, cs.dropWhile p) where
  splits cs := List.takeWhile_append_dropWhile
  append {r} hr w := by
    have hnil : r.takeWhile p = [] ∧ r.dropWhile p = r := by
      cases r with
      | nil => exact ⟨rfl, rfl⟩
      | cons c r =>
        rw [List.takeWhile_cons, List.dropWhile_cons, hp c hr.head]
        exact ⟨rfl, rfl⟩
    induction w with
    | nil =>
      dsimp only [List.nil_append]
      rw [hnil.1, hnil.2]
      rfl
    | cons c w ih =>
      obtain ⟨htake, hdrop⟩ := Prod.mk.inj ih
      rw [List.cons_append, List.takeWhile_cons, List.dropWhile_cons, List.takeWhile_cons,
        List.dropWhile_cons, htake, hdrop]
      split <;> rfl

/-- The first characters of identifiers are no white space. -/
theorem noSpace_isIdentifierStart : NoSpace isIdentifierStart :=
  noSpace_of_spaces (by decide)

/-- The characters of identifiers are no white space. -/
theorem noSpace_isIdentifierPart : NoSpace isIdentifierPart :=
  noSpace_of_spaces (by decide)

/-! ## Words, numbers and symbols -/

/-- A step with more text behind what follows. -/
def Step.append (r : List Char) (s : Step) : Step :=
  { s with rest := s.rest ++ r }

/-- A step of code loses nothing and takes at least one character. -/
theorem codeStep?_splits {emb : Embedding} {cs : List Char} {s : Step}
    (h : codeStep? emb cs = some s) : s.text ++ s.rest = cs ∧ s.text ≠ [] := by
  cases cs with
  | nil => cases h
  | cons c cs =>
    rw [codeStep?] at h
    split_ifs at h
    · obtain rfl := Option.some.inj h
      refine ⟨?_, List.cons_ne_nil _ _⟩
      exact congrArg (c :: ·) ((scans_takeWhile noSpace_isIdentifierPart).splits cs)
    · split at h
      · rename_i hnumber
        obtain rfl := Option.some.inj h
        exact finds_number?.splits hnumber
      · obtain ⟨t, hsymbol, rfl⟩ := Option.map_eq_some_iff.1 h
        exact finds_symbol?.splits hsymbol

/-- No word, number or symbol goes past white space. -/
theorem codeStep?_append {r : List Char} (hr : Breaks r) (emb : Embedding) (w : List Char) :
    codeStep? emb (w ++ r) = (codeStep? emb w).map (Step.append r) := by
  cases w with
  | nil =>
    cases r with
    | nil => rfl
    | cons c r =>
      have hnumber : number? (c :: r) = none := finds_number?.append hr []
      have hsymbol : symbol? (c :: r) = none := finds_symbol?.append hr []
      show codeStep? emb (c :: r) = none
      rw [codeStep?, noSpace_isIdentifierStart c hr.head, hnumber, hsymbol]
      rfl
  | cons c w =>
    have hnumber := finds_number?.append hr (c :: w)
    have hsymbol := finds_symbol?.append hr (c :: w)
    obtain ⟨htake, hdrop⟩ :=
      Prod.mk.inj ((scans_takeWhile noSpace_isIdentifierPart).append hr w)
    rw [List.cons_append] at hnumber hsymbol ⊢
    rw [codeStep?, codeStep?, htake, hdrop, hnumber, hsymbol]
    split_ifs
    · rfl
    · cases number? (c :: w) with
      | some s => rfl
      | none =>
        dsimp only [Option.map_none]
        rw [Option.map_map, Option.map_map]
        rfl

end StructureGrader.Syntax
