import StructureGrader.Difference
import StructureGrader.Signature
import StructureGrader.Proofs.Text.Occurrence
import StructureGrader.Proofs.Text.Words

/-!
# Reading a line back

All signatures are lines of one form: modifiers, some of them left out, and then other parts
(`line`). Only the text of the line is left when two signatures are compared, and what is looked for
in it could be found at the wrong place: a modifier inside a name, or a parenthesis inside a type.
Where no other part looks like a modifier (`Unmarked`) and none but the last has a parenthesis, what
is read off the line is what was put into it: its access (`SignatureText.access_line`), the other
modifiers (`SignatureText.contains_flag`), the return type (`SignatureText.returnType_line`), the
parameters (`SignatureText.parameters_line`) and the field type (`SignatureText.fieldType_line`).
-/

namespace StructureGrader

open Text

/-! ## Parts put together -/

section JoinWords

variable {s last : String} {parts : List String}

/-- A part that is empty leaves no trace. -/
theorem joinWords_omit (front back : List String) :
    joinWords (front ++ "" :: back) = joinWords (front ++ back) := by
  simp [joinWords]

/-- A part with nothing in it does not show among words put in a line. -/
theorem joinWords_empty_cons (parts : List String) : joinWords ("" :: parts) = joinWords parts :=
  joinWords_omit [] parts

/-- A part stands in front of the others with a space in between. -/
theorem joinWords_cons (hs : s ≠ "") (hlast : last ≠ "") (hmem : last ∈ parts) :
    joinWords (s :: parts) = s ++ " " ++ joinWords parts := by
  have hrest : parts.filter (· != "") ≠ [] :=
    List.ne_nil_of_mem (List.mem_filter.2 ⟨hmem, by simpa using hlast⟩)
  rw [joinWords, List.filter_cons_of_pos (by simpa using hs),
    String.intercalate_cons_of_ne_nil hrest, joinWords]

/-- One word put in a line is that word. -/
theorem joinWords_singleton (hs : s ≠ "") : joinWords [s] = s := by
  simp [joinWords, hs]

/-- Parts that are words are the first words of the whole. -/
theorem words_joinWords (hparts : ∀ s ∈ parts, s ≠ "" → IsWord s) (hlast : last ≠ "") :
    words (joinWords (parts ++ [last])) = parts.filter (· != "") ++ words last := by
  induction parts with
  | nil => rw [List.nil_append, joinWords_singleton hlast]; rfl
  | cons s parts ih =>
    have hih := ih fun t ht => hparts t (List.mem_cons_of_mem s ht)
    by_cases hs : s = ""
    · rw [hs, List.cons_append, joinWords_empty_cons, hih]
      rfl
    · rw [List.cons_append, joinWords_cons hs hlast (List.mem_append_right _ List.mem_cons_self),
        (hparts s List.mem_cons_self hs).words_append, hih,
        List.filter_cons_of_pos (by simpa using hs)]
      rfl

/-- What stands before the last part is made of the other parts and of spaces. -/
theorem joinWords_append (parts : List String) (hlast : last ≠ "") :
    ∃ front : List Char, (joinWords (parts ++ [last])).toList = front ++ last.toList ∧
      ∀ c ∈ front, c = ' ' ∨ ∃ s ∈ parts, c ∈ s.toList := by
  -- By induction on the parts: one that is left out changes nothing, another one comes in front
  -- with a space behind it, since there is always the last part to follow.
  induction parts with
  | nil => exact ⟨[], by rw [List.nil_append, joinWords_singleton hlast]; rfl, by simp⟩
  | cons s parts ih =>
    obtain ⟨front, hfront, hchars⟩ := ih
    by_cases hs : s = ""
    · refine ⟨front, by rw [hs, List.cons_append, joinWords_empty_cons, hfront], fun c hc => ?_⟩
      exact (hchars c hc).imp_right fun ⟨t, ht, hct⟩ => ⟨t, List.mem_cons_of_mem s ht, hct⟩
    · refine ⟨s.toList ++ ' ' :: front, ?_, fun c hc => ?_⟩
      · rw [List.cons_append,
          joinWords_cons hs hlast (List.mem_append_right _ List.mem_cons_self),
          String.toList_append, String.toList_append, hfront]
        simp
      · rw [List.mem_append, List.mem_cons] at hc
        rcases hc with hcs | rfl | hcf
        · exact Or.inr ⟨s, List.mem_cons_self, hcs⟩
        · exact Or.inl rfl
        · exact (hchars c hcf).imp_right fun ⟨t, ht, hct⟩ => ⟨t, List.mem_cons_of_mem s ht, hct⟩

/-- A pattern without a space occurs in the whole where it occurs in a part. -/
theorem contains_joinWords {w : String} (h : Apart " " w) (parts : List String) :
    contains (joinWords parts) w = parts.any (contains · w) := by
  rw [joinWords, contains_intercalate h]
  -- Nothing occurs in the parts that are left out.
  induction parts with
  | nil => rfl
  | cons s parts ih =>
    by_cases hs : s = ""
    · rw [List.filter_cons_of_neg (by simp [hs]), ih, List.any_cons, hs,
        contains_empty h.pattern_ne, Bool.false_or]
    · rw [List.filter_cons_of_pos (by simpa using hs), List.any_cons, ih, List.any_cons]

end JoinWords

/-! ## Words that say something -/

/-- The words other than access words that are looked for anywhere in a signature. -/
def flagWords : List String :=
  ["static", "final", "abstract", "interface"]

/-- All words that are looked for anywhere in a signature. -/
def modifierWords : List String :=
  Access.all.map Access.word ++ flagWords

/-- The word of an access modifier is one of the modifier words. -/
theorem word_mem (a : Access) : a.word ∈ modifierWords :=
  List.mem_append_left _ (List.mem_map_of_mem (by cases a <;> decide))

/-- The word of a flag is one of the modifier words. -/
theorem mem_of_mem_flagWords {w : String} (hw : w ∈ flagWords) : w ∈ modifierWords :=
  List.mem_append_right _ hw

/-- None of these words occurs in the text. -/
def Unmarked (s : String) : Prop :=
  ∀ w ∈ modifierWords, contains s w = false

instance (s : String) : Decidable (Unmarked s) :=
  inferInstanceAs (Decidable (∀ w ∈ modifierWords, contains s w = false))

/-- The separators in a signature have no letters. -/
theorem apart_separator {sep w : String} (hsep : sep ∈ [" ", ", ", "(", ")", "<", ">"])
    (hw : w ∈ modifierWords) : Apart sep w := by
  have h : ∀ sep ∈ [" ", ", ", "(", ")", "<", ">"], ∀ w ∈ modifierWords, Apart sep w := by
    decide +kernel
  exact h sep hsep w hw

namespace Unmarked

variable {s t : String}

/-- A text with nothing in it holds no modifier word. -/
theorem empty : Unmarked "" := by
  decide +kernel

/-- Two texts without modifier words hold none when they are put side by side with a separator
between them. -/
theorem append {sep : String} (hsep : sep ∈ [" ", ", ", "(", ")", "<", ">"]) (hs : Unmarked s)
    (ht : Unmarked t) : Unmarked (s ++ (sep ++ t)) := by
  intro w hw
  rw [contains_append (apart_separator hsep hw), hs w hw, ht w hw, Bool.or_false]

/-- Texts without modifier words hold none as a list with commas. -/
theorem intercalate {items : List String} (h : ∀ s ∈ items, Unmarked s) :
    Unmarked (", ".intercalate items) := by
  intro w hw
  rw [contains_intercalate (apart_separator (by decide) hw), List.any_eq_false]
  intro s hs
  rw [h s hs w hw]
  exact Bool.false_ne_true

/-- A list behind a word holds no modifier word if neither the word nor an item does. -/
theorem listAfter {word : String} {items : List String} (hword : Unmarked word)
    (h : ∀ s ∈ items, Unmarked s) : Unmarked (listAfter word items) := by
  rw [StructureGrader.listAfter]
  split_ifs
  · exact empty
  · rw [String.append_assoc]
    exact hword.append (by decide) (intercalate h)

/-- A name with a text in brackets. -/
theorem enclose {opening closing text : String}
    (hopening : opening ∈ [" ", ", ", "(", ")", "<", ">"])
    (hclosing : closing ∈ [" ", ", ", "(", ")", "<", ">"]) (hs : Unmarked s)
    (htext : Unmarked text) : Unmarked (s ++ (opening ++ text ++ closing)) := by
  rw [String.append_assoc, ← String.append_empty (s := closing)]
  exact hs.append hopening (htext.append hclosing empty)

/-- A name with parameters. -/
theorem call {parameters : List String} (hs : Unmarked s)
    (htext : Unmarked (", ".intercalate parameters)) :
    Unmarked (s ++ parameterList parameters) :=
  hs.enclose (by decide) (by decide) htext

end Unmarked

/-- A text without a parenthesis. -/
def NoParenthesis (s : String) : Prop :=
  ∀ c ∈ s.toList, c ≠ '(' ∧ c ≠ ')'

instance (s : String) : Decidable (NoParenthesis s) :=
  List.decidableBAll (fun c => c ≠ '(' ∧ c ≠ ')') s.toList

/-- A part of a line that is a modifier or is left out. -/
def IsModifier (s : String) : Prop :=
  s = "" ∨ s ∈ modifierWords

/-- The word for an access modifier is a modifier or nothing. -/
theorem isModifier_accessWord (access : Option Access) : IsModifier (accessWord access) := by
  cases access with
  | none => exact Or.inl rfl
  | some a => exact Or.inr (word_mem a)

/-- The word for a flag is a modifier or nothing. -/
theorem isModifier_wordIf (wanted : Bool) {w : String} (hw : w ∈ modifierWords) :
    IsModifier (wordIf wanted w) := by
  cases wanted
  · exact Or.inl rfl
  · exact Or.inr hw

namespace IsModifier

variable {s w : String}

/-- No modifier occurs in another one, and all of them are words without parentheses. -/
theorem of_modifierWords :
    (∀ s ∈ "" :: modifierWords, (∀ w ∈ modifierWords, contains s w = true ↔ w = s) ∧
      NoParenthesis s) ∧ ∀ s ∈ modifierWords, IsWord s := by
  decide +kernel

/-- Of the modifiers none but itself occurs in a modifier. -/
theorem contains_iff (hs : IsModifier s) (hw : w ∈ modifierWords) :
    contains s w = true ↔ w = s :=
  (of_modifierWords.1 s (List.mem_cons.2 hs)).1 w hw

/-- A modifier that is not missing is a word of its own. -/
theorem isWord (hs : IsModifier s) (hne : s ≠ "") : IsWord s :=
  of_modifierWords.2 s (hs.resolve_left hne)

/-- No modifier holds a parenthesis. -/
theorem noParenthesis (hs : IsModifier s) : NoParenthesis s :=
  (of_modifierWords.1 s (List.mem_cons.2 hs)).2

end IsModifier

/-! ## Lines -/

/-- The modifiers of a line: the access word, and each flag that is wanted. -/
def modifiers (access : Option Access) (flags : List (Bool × String)) : List String :=
  accessWord access :: flags.map fun f => wordIf f.1 f.2

/-- The line for a declaration: its modifiers, then all other parts. -/
def line (access : Option Access) (flags : List (Bool × String)) (body : List String) : String :=
  joinWords (modifiers access flags ++ body)

/-- What is shown of an access; there is a name for none, too. -/
def shownAccess (access : Option Access) : String :=
  (access.map Access.word).getD "package-private"

/-- The words that are shown for two access modifiers differ where the modifiers do. -/
theorem shownAccess_bne (a b : Option Access) : (shownAccess a != shownAccess b) = (a != b) := by
  rcases a with _ | _ | _ | _ <;> rcases b with _ | _ | _ | _ <;> decide

section Modifiers

variable {access : Option Access} {flags : List (Bool × String)} {body : List String} {w : String}

/-- A flag is one of the modifiers where it is wanted. -/
theorem flag_mem_modifiers (hw : w ∈ flagWords) :
    w ∈ modifiers access flags ↔ (true, w) ∈ flags := by
  have haccess : ∀ w ∈ flagWords, w ≠ accessWord access := by
    rcases access with _ | _ | _ | _ <;> decide
  have hne : w ≠ "" := by
    rintro rfl
    exact absurd hw (by decide)
  rw [modifiers, List.mem_cons, or_iff_right (haccess w hw), List.mem_map]
  constructor
  · rintro ⟨⟨wanted, w'⟩, hf, heq⟩
    cases wanted with
    | false => exact absurd heq.symm hne
    | true =>
      obtain rfl : w' = w := heq
      exact hf
  · intro hf
    exact ⟨(true, w), hf, rfl⟩

variable (hflags : ∀ f ∈ flags, f.2 ∈ flagWords)
include hflags

/-- What stands in front of a declaration as a modifier is one. -/
theorem isModifier_of_mem {s : String} (hs : s ∈ modifiers access flags) : IsModifier s := by
  rcases List.mem_cons.1 hs with rfl | hs
  · exact isModifier_accessWord access
  · obtain ⟨f, hf, rfl⟩ := List.mem_map.1 hs
    exact isModifier_wordIf f.1 (mem_of_mem_flagWords (hflags f hf))

/-- A modifier that occurs in a line is one of its modifiers. -/
theorem contains_line (hbody : ∀ s ∈ body, Unmarked s) (hw : w ∈ modifierWords) :
    contains (line access flags body) w = true ↔ w ∈ modifiers access flags := by
  rw [line, contains_joinWords (apart_separator (by decide) hw), List.any_append, Bool.or_eq_true,
    List.any_eq_true, List.any_eq_true]
  constructor
  -- It occurs in one of the parts, which is no other one, since those do not look like modifiers.
  · rintro (⟨s, hs, hcontains⟩ | ⟨s, hs, hcontains⟩)
    · rwa [((isModifier_of_mem hflags hs).contains_iff hw).1 hcontains]
    · rw [hbody s hs w hw] at hcontains
      exact absurd hcontains Bool.false_ne_true
  · intro hmem
    exact Or.inl ⟨w, hmem, contains_self w⟩

/-- The access word of a line is found where it is one of the modifiers. -/
theorem word_mem_modifiers (a : Access) : a.word ∈ modifiers access flags ↔ access = some a := by
  have haccess : ∀ access : Option Access, a.word = accessWord access ↔ access = some a := by
    intro access
    rcases access with _ | _ | _ | _ <;> cases a <;> decide
  have hflag : ∀ f ∈ flags, a.word ≠ wordIf f.1 f.2 := by
    intro f hf
    have h : ∀ w ∈ flagWords, ∀ wanted, a.word ≠ wordIf wanted w := by
      cases a <;> decide
    exact h f.2 (hflags f hf) f.1
  rw [modifiers, List.mem_cons, haccess, or_iff_left_iff_imp]
  intro hmem
  obtain ⟨f, hf, heq⟩ := List.mem_map.1 hmem
  exact absurd heq.symm (hflag f hf)

end Modifiers

namespace SignatureText

/-- The access that a line shows is the one in front of it. -/
theorem access_line {access : Option Access} {flags : List (Bool × String)} {body : List String}
    (hflags : ∀ f ∈ flags, f.2 ∈ flagWords) (hbody : ∀ s ∈ body, Unmarked s) :
    SignatureText.access (line access flags body) = shownAccess access := by
  have hshown : ∀ a : Access,
      contains (line access flags body) a.word = decide (access = some a) := by
    intro a
    rw [Bool.eq_iff_iff, contains_line hflags hbody (word_mem a), word_mem_modifiers hflags,
      decide_eq_true_iff]
  -- The words are tried in the order of `Access.all`, and none but the one of the line is found.
  show ((Access.all.map Access.word).find? _).getD _ = _
  rw [List.find?_map]
  simp only [Function.comp_def, hshown]
  rcases access with _ | _ | _ | _ <;> rfl

/-- A flag is shown by a line where it is wanted. -/
theorem contains_flag {access : Option Access} {flags : List (Bool × String)} {body : List String}
    (hflags : ∀ f ∈ flags, f.2 ∈ flagWords) (hbody : ∀ s ∈ body, Unmarked s) {w : String}
    (hw : w ∈ flagWords) : contains (line access flags body) w = decide ((true, w) ∈ flags) := by
  rw [Bool.eq_iff_iff, contains_line hflags hbody (mem_of_mem_flagWords hw),
    flag_mem_modifiers hw, decide_eq_true_iff]

/-! ## The return type -/

/-- Words without a parenthesis are passed over, up to the last one before a parenthesis. -/
theorem wordBeforeParenthesis_append {front more : List String} {word next : String}
    (hfront : ∀ s ∈ front, NoParenthesis s) (hword : NoParenthesis word)
    (hnext : '(' ∈ next.toList) :
    wordBeforeParenthesis (front ++ word :: next :: more) = word := by
  have hskip : ∀ {s : String}, NoParenthesis s → s.toList.contains '(' = false := fun hs =>
    Bool.eq_false_iff.2 fun hmem => (hs '(' (by simpa using hmem)).1 rfl
  -- What stands next decides whether a word is passed over, so the front is taken two words deep.
  induction front with
  | nil => rw [List.nil_append, wordBeforeParenthesis, if_pos (by simpa using hnext)]
  | cons s front ih =>
    have hih := ih fun t ht => hfront t (List.mem_cons_of_mem s ht)
    rcases front with _ | ⟨t, front⟩
    · rw [List.cons_append, List.nil_append, wordBeforeParenthesis, hskip hword,
        if_neg Bool.false_ne_true]
      exact hih
    · have ht : NoParenthesis t := hfront t (List.mem_cons_of_mem s List.mem_cons_self)
      rw [List.cons_append, List.cons_append, wordBeforeParenthesis, hskip ht,
        if_neg Bool.false_ne_true]
      exact hih

/-- A name with parameters begins with a word that has the parenthesis. -/
theorem words_call {name : String} (hname : IsWord name) (parameters : List String) :
    ∃ first more, words (name ++ parameterList parameters) = first :: more ∧
      '(' ∈ first.toList := by
  have hlist : (name ++ parameterList parameters).toList =
      (name.toList ++ ['(']) ++ ((", ".intercalate parameters).toList ++ [')']) := by
    simp [parameterList, String.toList_append]
  have hblank : ∀ c ∈ name.toList ++ ['('], isBlank c = false := by
    intro c hc
    rw [List.mem_append, List.mem_singleton] at hc
    rcases hc with hc | rfl
    · exact hname.chars c hc
    · decide
  obtain ⟨tail, more, hwords⟩ := wordsOf_append (by simp) hblank
    ((", ".intercalate parameters).toList ++ [')'])
  refine ⟨String.ofList (name.toList ++ ['('] ++ tail), more.map String.ofList, ?_, by simp⟩
  rw [words, hlist, hwords, List.map_cons]

/-- The modifiers of a line and a type behind them are words. -/
theorem words_of_line {access : Option Access} {flags : List (Bool × String)}
    (hflags : ∀ f ∈ flags, f.2 ∈ flagWords) {type : String} (htype : IsWord type) :
    ∀ s ∈ modifiers access flags ++ [type], s ≠ "" → IsWord s := by
  intro s hs hne
  rw [List.mem_append, List.mem_singleton] at hs
  rcases hs with hs | rfl
  · exact (isModifier_of_mem hflags hs).isWord hne
  · exact htype

/-- The return type that a line shows is the part before the name. -/
theorem returnType_line {access : Option Access} {flags : List (Bool × String)}
    (hflags : ∀ f ∈ flags, f.2 ∈ flagWords) {type name : String} (htype : IsWord type)
    (htype' : NoParenthesis type) (hname : IsWord name) (parameters : List String) :
    SignatureText.returnType (line access flags [type, name ++ parameterList parameters]) =
      type := by
  have hline : modifiers access flags ++ [type, name ++ parameterList parameters] =
      modifiers access flags ++ [type] ++ [name ++ parameterList parameters] := by simp
  have hlast : name ++ parameterList parameters ≠ "" := by
    simp [parameterList]
  -- The parameters may have spaces, but the first of their words begins with the name.
  obtain ⟨first, more, hfirst, hparen⟩ := words_call hname parameters
  have hkept : [type].filter (· != "") = [type] := by simpa using htype.ne
  rw [SignatureText.returnType, line, hline, words_joinWords (words_of_line hflags htype) hlast,
    hfirst, List.filter_append, hkept, List.append_assoc]
  exact wordBeforeParenthesis_append
    (fun s hs => (isModifier_of_mem hflags (List.mem_filter.1 hs).1).noParenthesis) htype' hparen

/-! ## The parameters -/

/-- The parameters are what stands in the only parentheses, at the end of the text. -/
theorem parameters_eq {s text : String} (front : List Char)
    (hs : s.toList = front ++ '(' :: (text.toList ++ [')']))
    (hfront : ∀ c ∈ front, c ≠ '(' ∧ c ≠ ')') (htext : NoParenthesis text) :
    SignatureText.parameters s = text := by
  have hdrop : (s.toList.dropWhile fun c => c != '(' && c != ')') =
      '(' :: (text.toList ++ [')']) := by
    rw [hs, List.dropWhile_append_of_pos fun c hc => by simpa using hfront c hc]
    rfl
  have htake : (text.toList ++ [')']).takeWhile (· != ')') = text.toList := by
    rw [List.takeWhile_append_of_pos fun c hc => by simpa using (htext c hc).2]
    simp
  rw [SignatureText.parameters, hdrop]
  simp [htake]

/-- The parameters that a line shows are those behind the name. -/
theorem parameters_line {access : Option Access} {flags : List (Bool × String)}
    (hflags : ∀ f ∈ flags, f.2 ∈ flagWords) (front : List String)
    (hfront : ∀ s ∈ front, NoParenthesis s) {name : String} {parameters : List String}
    (hname : NoParenthesis name) (htext : NoParenthesis (", ".intercalate parameters)) :
    SignatureText.parameters (line access flags (front ++ [name ++ parameterList parameters])) =
      ", ".intercalate parameters := by
  have hlast : name ++ parameterList parameters ≠ "" := by
    simp [parameterList]
  obtain ⟨before, hline, hbefore⟩ := joinWords_append (modifiers access flags ++ front) hlast
  refine parameters_eq (before ++ name.toList) ?_ ?_ htext
  · rw [line, ← List.append_assoc, hline]
    simp [parameterList, String.toList_append]
  · intro c hc
    rw [List.mem_append] at hc
    rcases hc with hc | hc
    · rcases hbefore c hc with rfl | ⟨s, hs, hcs⟩
      · decide
      · rcases List.mem_append.1 hs with hs | hs
        · exact (isModifier_of_mem hflags hs).noParenthesis c hcs
        · exact hfront s hs c hcs
    · exact hname c hc

/-! ## The field type -/

/-- The field type that a line shows is the part before the name. -/
theorem fieldType_line {access : Option Access} {flags : List (Bool × String)}
    (hflags : ∀ f ∈ flags, f.2 ∈ flagWords) {type name : String} (htype : IsWord type)
    (hname : IsWord name) : SignatureText.fieldType (line access flags [type, name]) = type := by
  have hline : modifiers access flags ++ [type, name] =
      modifiers access flags ++ [type] ++ [name] := by simp
  have hkept : [type].filter (· != "") = [type] := by simpa using htype.ne
  rw [SignatureText.fieldType, line, hline, words_joinWords (words_of_line hflags htype) hname.ne,
    hname.words, List.filter_append, hkept]
  simp

end SignatureText

end StructureGrader
