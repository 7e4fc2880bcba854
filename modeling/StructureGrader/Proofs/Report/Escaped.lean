import StructureGrader.Report.Page
import Mathlib.Data.List.Basic

/-!
# Escaped values

A value is written character by character, and the five special characters are written as entities
(`escapeChar_cases`). So a written value holds an ampersand only where an entity begins
(`entity_of_ampersand`), and reading it from left to right, with each entity read as the character
that it stands for, gives the value back (`unescape_escape`).
-/

namespace StructureGrader.Page

/-- The five entities, each with the character that it stands for. -/
def entities : List (Char × List Char) :=
  [('&', "&amp;".toList), ('<', "&lt;".toList), ('>', "&gt;".toList), ('\'', "&#39;".toList),
    ('"', "&#34;".toList)]

/-- A text read from left to right with its entities read as characters, after the first few
characters are dropped. -/
def unescapeFrom : Nat → List Char → List Char
  | _, [] => []
  | n + 1, _ :: cs => unescapeFrom n cs
  | 0, c :: cs =>
    match entities.find? fun e => e.2.isPrefixOf (c :: cs) with
    | some (d, w) => d :: unescapeFrom (w.length - 1) cs
    | none => c :: unescapeFrom 0 cs

/-- The text that a written value stands for. -/
def unescape (s : String) : String :=
  String.ofList (unescapeFrom 0 s.toList)

/-- A character is written as its entity, or as it is where it has none. -/
theorem escapeChar_cases (c : Char) :
    (c, escapeChar c) ∈ entities ∨ c ≠ '&' ∧ escapeChar c = [c] := by
  unfold escapeChar
  split
  iterate 5
    exact Or.inl (by simp [entities])
  next h _ _ _ _ => exact Or.inr ⟨h, rfl⟩

/-- An entity begins with an ampersand and holds no other. -/
theorem entity_eq {c : Char} {w : List Char} (h : (c, w) ∈ entities) :
    ∃ tail, w = '&' :: tail ∧ '&' ∉ tail := by
  have hall : ∀ e ∈ entities, e.2.head? = some '&' ∧ '&' ∉ e.2.tail := by decide
  obtain ⟨hhead, htail⟩ := hall _ h
  obtain ⟨tail, rfl⟩ := List.head?_eq_some_iff.1 hhead
  exact ⟨tail, rfl, htail⟩

/-- A text in front is dropped when as many characters are. -/
theorem unescapeFrom_length (w cs : List Char) :
    unescapeFrom w.length (w ++ cs) = unescapeFrom 0 cs := by
  induction w with
  | nil => rfl
  | cons _ w ih => exact ih

/-- At the front of a text an entity is read back as its character. -/
theorem unescapeFrom_entity {c : Char} {w : List Char} (h : (c, w) ∈ entities) (cs : List Char) :
    unescapeFrom 0 (w ++ cs) = c :: unescapeFrom 0 cs := by
  have hfind : (entities.find? fun e => e.2.isPrefixOf (w ++ cs)) = some (c, w) := by
    simp only [entities, List.mem_cons, Prod.mk.injEq, List.not_mem_nil, or_false] at h
    rcases h with ⟨rfl, rfl⟩ | ⟨rfl, rfl⟩ | ⟨rfl, rfl⟩ | ⟨rfl, rfl⟩ | ⟨rfl, rfl⟩ <;> rfl
  obtain ⟨tail, rfl, -⟩ := entity_eq h
  rw [List.cons_append] at hfind ⊢
  rw [unescapeFrom, hfind]
  exact congrArg (c :: ·) (unescapeFrom_length tail cs)

/-- Only an ampersand can begin an entity. -/
theorem unescapeFrom_plain {c : Char} (hc : c ≠ '&') (cs : List Char) :
    unescapeFrom 0 (c :: cs) = c :: unescapeFrom 0 cs := by
  have hfind : (entities.find? fun e => e.2.isPrefixOf (c :: cs)) = none := by
    rw [List.find?_eq_none]
    rintro ⟨d, w⟩ he
    obtain ⟨tail, rfl, -⟩ := entity_eq he
    simp [hc.symm]
  rw [unescapeFrom, hfind]

/-- Escaped characters are read back. -/
theorem unescapeFrom_escapeChars (cs : List Char) : unescapeFrom 0 (escapeChars cs) = cs := by
  induction cs with
  | nil => rfl
  | cons c cs ih =>
    have hcons : escapeChars (c :: cs) = escapeChar c ++ escapeChars cs := List.flatMap_cons
    rw [hcons]
    rcases escapeChar_cases c with hentity | ⟨hc, hplain⟩
    · rw [unescapeFrom_entity hentity, ih]
    · rw [hplain, List.singleton_append, unescapeFrom_plain hc, ih]

/-- What is written stands for the value. -/
theorem unescape_escape (s : String) : unescape (escape s) = s := by
  rw [unescape, escape, String.toList_ofList, unescapeFrom_escapeChars, String.ofList_toList]

/-- Wherever an ampersand stands in a written value, an entity begins. -/
theorem entity_of_ampersand {cs back : List Char} (front : List Char)
    (h : escapeChars cs = front ++ '&' :: back) : ∃ e ∈ entities, e.2 <+: '&' :: back := by
  induction cs generalizing front with
  | nil => simp [escapeChars] at h
  | cons c cs ih =>
    have hcons : escapeChar c ++ escapeChars cs = front ++ '&' :: back := by
      rw [← h]
      exact List.flatMap_cons.symm
    rcases List.append_eq_append_iff.1 hcons with ⟨left, -, hleft⟩ | ⟨left, hchar, hleft⟩
    · exact ih left hleft
    -- The ampersand stands in the first character as it is written, or begins what follows it.
    · rcases left with _ | ⟨d, left⟩
      · exact ih [] hleft.symm
      · obtain ⟨rfl, rfl⟩ := List.cons.inj hleft
        rcases escapeChar_cases c with hentity | ⟨hc, hplain⟩
        · refine ⟨_, hentity, ?_⟩
          obtain ⟨tail, htail, hnot⟩ := entity_eq hentity
          rcases front with _ | ⟨x, front⟩
          · rw [hchar]
            exact List.prefix_append _ _
          · rw [htail] at hchar
            obtain ⟨-, rfl⟩ := List.cons.inj hchar
            exact absurd (by simp) hnot
        · rw [hplain] at hchar
          have hmem : '&' ∈ [c] := hchar ▸ by simp
          exact absurd (List.mem_singleton.1 hmem).symm hc

end StructureGrader.Page
