import StructureGrader.Proofs.Files.Places
import StructureGrader.Proofs.Text.SmallLetters
import StructureGrader.Service.Grading

/-!
# Endings of file names

The ending of a file name is asked for in two ways: the whole text may end in a dot and some letters,
or the suffix of its last component may be a dot and these letters, in small letters either way. A text
that ends so is written out with the ending in some spelling (`endsIn_iff`), which has no dot of its own
and no slash. So its last component ends so too (`Path.toList_name_ofText`), and that is where the two
part: a component with something in front of the ending has it as its suffix, and one that is nothing but
the ending has no suffix at all (`Path.suffix_of_endsIn`).
-/

namespace StructureGrader

namespace Path

/-! ## The last component of a path -/

/-- The last piece of a text ends in every end of the text that has no slash. -/
theorem piecesFrom_append {tail : List Char} (h : '/' ∉ tail) (part front : List Char) :
    ∃ pieces rest, piecesFrom part (front ++ tail) = pieces ++ [rest ++ tail] := by
  induction front generalizing part with
  | nil => exact ⟨[], part.reverse, by rw [List.nil_append, piecesFrom_of_notMem h, List.nil_append]⟩
  | cons c front ih =>
    rw [List.cons_append, piecesFrom]
    split
    · obtain ⟨pieces, rest, heq⟩ := ih []
      exact ⟨part.reverse :: pieces, rest, by rw [heq, List.cons_append]⟩
    · exact ih (c :: part)

/-- The last component of a path ends in every end of its text that has no slash, unless that is too
short to be a component. -/
theorem toList_name_ofText {s : String} {front tail : List Char} (hs : s.toList = front ++ tail)
    (hslash : '/' ∉ tail) (hlong : 2 ≤ tail.length) :
    ∃ rest, (ofText s).name.toList = rest ++ tail := by
  obtain ⟨pieces, rest, hpieces⟩ := piecesFrom_append hslash [] front
  have hkept : (String.ofList (rest ++ tail) != "" && String.ofList (rest ++ tail) != ".") = true := by
    have hne : ∀ short : String, short.toList.length < 2 → String.ofList (rest ++ tail) ≠ short := by
      rintro short hshort rfl
      rw [String.toList_ofList, List.length_append] at hshort
      omega
    rw [Bool.and_eq_true, bne_iff_ne, bne_iff_ne]
    exact ⟨hne "" (by decide), hne "." (by decide)⟩
  refine ⟨rest, ?_⟩
  unfold name ofText Path.pieces
  dsimp only
  rw [hs, hpieces, List.map_append, List.filter_append, List.map_singleton, List.filter_cons, hkept,
    if_pos rfl, List.filter_nil, List.getLastD_concat, String.toList_ofList]

/-- The suffix of a name from its last dot on. -/
theorem suffixOf_eq {name : String} {front rest : List Char} (hname : name.toList = front ++ '.' :: rest)
    (hdot : '.' ∉ rest) (hrest : rest ≠ []) :
    suffixOf name = if front = [] then "" else String.ofList ('.' :: rest) := by
  have hending : name.toList.reverse.takeWhile (· != '.') = rest.reverse := by
    have hfree : ∀ c ∈ rest.reverse, (c != '.') = true := by
      intro c hc
      rw [bne_iff_ne]
      rintro rfl
      exact hdot (List.mem_reverse.1 hc)
    rw [hname, List.reverse_append, List.reverse_cons, List.append_assoc,
      List.takeWhile_append_of_pos hfree, List.singleton_append, List.takeWhile_cons]
    simp
  have hlength : name.toList.length = front.length + rest.length + 1 := by
    rw [hname, List.length_append, List.length_cons]
    omega
  unfold suffixOf
  dsimp only
  rw [hending, hlength, List.length_reverse, List.reverse_reverse]
  have htest : (rest.length == front.length + rest.length + 1 || rest.reverse.isEmpty ||
      front.length + rest.length + 1 - rest.length - 1 == 0) = true ↔ front = [] := by
    have hshort : (rest.length == front.length + rest.length + 1) = false := beq_false_of_ne (by omega)
    have hfront : front.length + rest.length + 1 - rest.length - 1 = front.length := by omega
    rw [hshort, hfront]
    simp [hrest]
  exact if_congr htest rfl rfl

end Path

/-! ## Endings -/

/-- An ending that file names are told by: a dot and some ASCII letters. -/
structure IsEnding (ending : String) (letters : List Char) : Prop where
  toList_eq : ending.toList = '.' :: letters
  ne_nil : letters ≠ []
  ascii : ∀ d ∈ letters, d.toNat < 128
  dot : '.' ∉ letters
  slash : '/' ∉ letters

/-- The ending of archives is a dot and its letters. -/
theorem isEnding_zip : IsEnding ".zip" ['z', 'i', 'p'] :=
  ⟨rfl, by decide, by decide, by decide, by decide⟩

/-- The ending of sources is a dot and its letters. -/
theorem isEnding_source : IsEnding sourceSuffix ['j', 'a', 'v', 'a'] :=
  ⟨rfl, by decide, by decide, by decide, by decide⟩

/-- An ending is in ASCII. -/
theorem IsEnding.ascii_toList {ending : String} {letters : List Char} (h : IsEnding ending letters) :
    ∀ d ∈ ending.toList, d.toNat < 128 := by
  rw [h.toList_eq, List.forall_mem_cons]
  exact ⟨by decide, h.ascii⟩

section Ending

variable {ending fileName : String} {letters : List Char}

/-- A text ends so when a dot and a spelling of the letters stand at its end. -/
theorem endsIn_iff (h : IsEnding ending letters) : Service.endsIn fileName ending = true ↔
    ∃ front tail, fileName.toList = front ++ '.' :: tail ∧ Text.Spells tail letters := by
  unfold Service.endsIn
  rw [List.isSuffixOf_iff_suffix, Text.suffix_lower_iff h.ascii_toList, h.toList_eq]
  refine exists_congr fun front => ?_
  constructor
  · rintro ⟨tail, hname, hspells⟩
    cases hspells with
    | cons hdot hletters =>
      obtain rfl := Text.eq_of_smallLetters_dot hdot
      exact ⟨_, hname, hletters⟩
  · rintro ⟨tail, hname, hspells⟩
    exact ⟨'.' :: tail, hname, .cons rfl hspells⟩

/-- A path whose text ends so has a last component that does. Either that is its suffix, or there is
nothing in front of the ending and no suffix. -/
theorem Path.suffix_of_endsIn (h : IsEnding ending letters)
    (hends : Service.endsIn fileName ending = true) :
    Service.endsIn (Path.ofText fileName).name ending = true ∧
      (Text.lower (Path.suffixOf (Path.ofText fileName).name) = ending ∨
        Path.suffixOf (Path.ofText fileName).name = "" ∧
          Text.lower (Path.ofText fileName).name = ending ∧
          isHiddenName (Path.ofText fileName).name = true) := by
  obtain ⟨front, tail, hchars, hspells⟩ := (endsIn_iff h).1 hends
  have hdot : '.' ∉ tail := hspells.notMem rfl h.dot
  have hslash : '/' ∉ '.' :: tail := by
    rw [List.mem_cons, not_or]
    exact ⟨by decide, hspells.notMem rfl h.slash⟩
  have hlength := List.Forall₂.length_eq hspells
  have hne := List.length_pos_iff.2 h.ne_nil
  have hsome : tail ≠ [] := List.length_pos_iff.1 (by omega)
  obtain ⟨rest, hname⟩ := Path.toList_name_ofText hchars hslash (by rw [List.length_cons]; omega)
  have hlower : Text.lower (String.ofList ('.' :: tail)) = ending := by
    have hword : Text.Spells ('.' :: tail) ending.toList := by
      rw [h.toList_eq]
      exact .cons rfl hspells
    unfold Text.lower Text.lowerChars
    rw [String.toList_ofList, hword.lowerFrom_eq h.ascii_toList, String.ofList_toList]
  refine ⟨(endsIn_iff h).2 ⟨rest, tail, hname, hspells⟩, ?_⟩
  rw [Path.suffixOf_eq hname hdot hsome]
  by_cases hrest : rest = []
  · subst hrest
    have hall : (Path.ofText fileName).name = String.ofList ('.' :: tail) := by
      rw [← String.toList_inj, hname, String.toList_ofList]
      rfl
    refine Or.inr ⟨if_pos rfl, by rw [hall, hlower], ?_⟩
    unfold isHiddenName
    rw [hname]
    rfl
  · rw [if_neg hrest]
    exact Or.inl hlower

end Ending

end StructureGrader
