import StructureGrader.Similarity.EditDistance
import Mathlib.Data.List.InsertIdx
import Mathlib.Order.Bounds.Basic
import Mathlib.Order.MinMax

/-!
# Edit scripts

An edit inserts, deletes or substitutes one character at a place of a text, and a script is a list
of edits that are carried out one after the other. `leastMoves` is the distance as a plain
recursion: it compares the first characters and takes the least of all three moves, also where the
two are equal.

The recursion finds the shortest script (`leastMoves_isLeast`). It can be followed by a script of its
length (`edits_leastMoves`). No script is shorter, for one edit of the text saves one move at most
(`Edited.leastMoves_le`). What is known of scripts is then known of the recursion: a script can be
carried out backwards (`leastMoves_comm`), behind another script (`leastMoves_triangle`), and on the
reversed texts (`leastMoves_reverse`). Equal first characters cost nothing (`leastMoves_cons_self`),
and so does all that both texts begin or end with (`leastMoves_append_left`,
`leastMoves_append_right`).
-/

namespace StructureGrader

/-- A change of one character at a place of a text. -/
inductive Edit
  /-- The character stands at the place afterwards. -/
  | insert (place : Nat) (c : Char)
  | delete (place : Nat)
  | substitute (place : Nat) (c : Char)
deriving DecidableEq, Repr

/-- What an edit makes of a text that has the place. -/
def Edit.result? : Edit → List Char → Option (List Char)
  | insert place c, text => if place ≤ text.length then some (text.insertIdx place c) else none
  | delete place, text => if place < text.length then some (text.eraseIdx place) else none
  | substitute place c, text => if place < text.length then some (text.set place c) else none

/-- What the edits of a script make of a text, one after the other. -/
def runScript : List Edit → List Char → Option (List Char)
  | [], text => some text
  | e :: script, text => (e.result? text).bind (runScript script)

/-- A script of `n` edits turns the first text into the second. -/
def Edits (n : Nat) (a b : List Char) : Prop :=
  ∃ script : List Edit, script.length = n ∧ runScript script a = some b

/-- The least number of moves that turn one text into another: a move deletes the first character,
inserts the first character of the other text, or puts the one in the place of the other, which is
free where they are equal. -/
def leastMoves : List Char → List Char → Nat
  | [], ys => ys.length
  | xs, [] => xs.length
  | x :: xs, y :: ys =>
    min (min (leastMoves xs (y :: ys) + 1) (leastMoves (x :: xs) ys + 1))
      (leastMoves xs ys + if x = y then 0 else 1)
termination_by xs ys => xs.length + ys.length

variable {a b xs ys zs : List Char} {m n : Nat} {c x y : Char}

/-! ## One edit -/

/-- One edit turns the first text into the second, at the first character or behind it. -/
inductive Edited : List Char → List Char → Prop
  | insert (c : Char) (cs : List Char) : Edited cs (c :: cs)
  | delete (c : Char) (cs : List Char) : Edited (c :: cs) cs
  | substitute (c d : Char) (cs : List Char) : Edited (c :: cs) (d :: cs)
  | behind {xs ys : List Char} (c : Char) (h : Edited xs ys) : Edited (c :: xs) (c :: ys)

namespace Edited

/-- An edit can be undone by an edit. -/
theorem symm (h : Edited a b) : Edited b a := by
  induction h with
  | insert c cs => exact delete c cs
  | delete c cs => exact insert c cs
  | substitute c d cs => exact substitute d c cs
  | behind c _ ih => exact ih.behind c

/-- An edit stays one with a text in front. -/
theorem append_left (front : List Char) (h : Edited a b) : Edited (front ++ a) (front ++ b) := by
  induction front with
  | nil => exact h
  | cons c front ih => exact ih.behind c

/-- An edit stays one with a text behind. -/
theorem append_right (h : Edited a b) (back : List Char) : Edited (a ++ back) (b ++ back) := by
  induction h with
  | insert c cs => exact insert c (cs ++ back)
  | delete c cs => exact delete c (cs ++ back)
  | substitute c d cs => exact substitute c d (cs ++ back)
  | behind c _ ih => exact ih.behind c

/-- An edit of a text is one of the text read backwards. -/
theorem reverse (h : Edited a b) : Edited a.reverse b.reverse := by
  induction h with
  | insert c cs => simpa using (insert c []).append_left cs.reverse
  | delete c cs => simpa using (delete c []).append_left cs.reverse
  | substitute c d cs => simpa using (substitute c d []).append_left cs.reverse
  | behind c _ ih => simpa using ih.append_right [c]

/-- An edit makes a text longer or shorter by one character at most. -/
theorem length_le (h : Edited a b) : b.length ≤ a.length + 1 := by
  induction h <;> simp only [List.length_cons] at * <;> omega

end Edited

/-- Putting a character in is an edit. -/
theorem edited_insertIdx {place : Nat} (h : place ≤ a.length) :
    Edited a (a.insertIdx place x) := by
  induction a generalizing place with
  | nil =>
    obtain rfl : place = 0 := Nat.le_zero.1 h
    exact .insert x []
  | cons c cs ih =>
    cases place with
    | zero => exact .insert x (c :: cs)
    | succ place => exact (ih (Nat.le_of_succ_le_succ h)).behind c

/-- Taking a character out is an edit. -/
theorem edited_eraseIdx {place : Nat} (h : place < a.length) : Edited a (a.eraseIdx place) := by
  induction a generalizing place with
  | nil => exact absurd h (Nat.not_lt_zero _)
  | cons c cs ih =>
    cases place with
    | zero => exact .delete c cs
    | succ place => exact (ih (Nat.lt_of_succ_lt_succ h)).behind c

/-- Replacing a character is an edit. -/
theorem edited_set {place : Nat} (h : place < a.length) : Edited a (a.set place x) := by
  induction a generalizing place with
  | nil => exact absurd h (Nat.not_lt_zero _)
  | cons c cs ih =>
    cases place with
    | zero => exact .substitute c x cs
    | succ place => exact (ih (Nat.lt_of_succ_lt_succ h)).behind c

/-- The edit at the place behind one more character. -/
def Edit.behind : Edit → Edit
  | insert place c => insert (place + 1) c
  | delete place => delete (place + 1)
  | substitute place c => substitute (place + 1) c

/-- An edit of a text is one of the text with a character in front, one place on. -/
theorem Edit.result?_behind (e : Edit) (h : e.result? a = some b) :
    e.behind.result? (x :: a) = some (x :: b) := by
  cases e <;> simp_all [behind, result?]

/-- A text comes from another by one edit where some edit has it as its result. -/
theorem edited_iff : Edited a b ↔ ∃ e : Edit, e.result? a = some b := by
  constructor
  · intro h
    induction h with
    | insert c cs => exact ⟨.insert 0 c, by simp [Edit.result?]⟩
    | delete c cs => exact ⟨.delete 0, by simp [Edit.result?]⟩
    | substitute c d cs => exact ⟨.substitute 0 d, by simp [Edit.result?]⟩
    | behind c _ ih =>
      obtain ⟨e, he⟩ := ih
      exact ⟨e.behind, e.result?_behind he⟩
  · rintro ⟨e, he⟩
    cases e with
    | insert place c =>
      obtain ⟨h, ⟨⟩⟩ := Option.ite_none_right_eq_some.1 he
      exact edited_insertIdx h
    | delete place =>
      obtain ⟨h, ⟨⟩⟩ := Option.ite_none_right_eq_some.1 he
      exact edited_eraseIdx h
    | substitute place c =>
      obtain ⟨h, ⟨⟩⟩ := Option.ite_none_right_eq_some.1 he
      exact edited_set h

/-! ## Scripts -/

/-- Without an edit a text stays as it is. -/
@[simp] theorem edits_zero : Edits 0 a b ↔ a = b := by
  simp [Edits, runScript]

/-- One edit more is an edit and then the others. -/
theorem edits_succ : Edits (n + 1) a b ↔ ∃ c, Edited a c ∧ Edits n c b := by
  constructor
  · rintro ⟨script, hlength, hrun⟩
    obtain ⟨e, script, rfl⟩ := List.exists_cons_of_length_eq_add_one hlength
    obtain ⟨c, hedit, hrest⟩ := Option.bind_eq_some_iff.1 hrun
    exact ⟨c, edited_iff.2 ⟨e, hedit⟩, script, Nat.succ.inj hlength, hrest⟩
  · rintro ⟨c, hedited, script, rfl, hrest⟩
    obtain ⟨e, hedit⟩ := edited_iff.1 hedited
    exact ⟨e :: script, rfl, by rw [runScript, hedit, Option.bind_some, hrest]⟩

namespace Edits

/-- One edit counts as one. -/
theorem of_edited (h : Edited a b) : Edits 1 a b :=
  edits_succ.2 ⟨b, h, edits_zero.2 rfl⟩

/-- What one edit keeps is kept by as many edits. -/
theorem map {f : List Char → List Char} (hf : ∀ {a b}, Edited a b → Edited (f a) (f b))
    (h : Edits n a b) : Edits n (f a) (f b) := by
  induction n generalizing a with
  | zero => rw [edits_zero] at *; rw [h]
  | succ n ih =>
    obtain ⟨c, hedited, hrest⟩ := edits_succ.1 h
    exact edits_succ.2 ⟨f c, hf hedited, ih hrest⟩

/-- Edits from a text to a second and on to a third add up. -/
theorem trans {d : List Char} (hab : Edits m a b) (hbd : Edits n b d) : Edits (m + n) a d := by
  induction m generalizing a with
  | zero =>
    obtain rfl := edits_zero.1 hab
    rwa [Nat.zero_add]
  | succ m ih =>
    obtain ⟨c, hedited, hrest⟩ := edits_succ.1 hab
    rw [Nat.succ_add]
    exact edits_succ.2 ⟨c, hedited, ih hrest⟩

/-- The smaller of two numbers of edits is one that suffices. -/
theorem of_min (hm : Edits m a b) (hn : Edits n a b) : Edits (min m n) a b := by
  rcases min_choice m n with h | h <;> rwa [h]

/-- Edits can be undone by as many. -/
theorem symm (h : Edits n a b) : Edits n b a := by
  induction n generalizing a with
  | zero => exact edits_zero.2 (edits_zero.1 h).symm
  | succ n ih =>
    obtain ⟨c, hedited, hrest⟩ := edits_succ.1 h
    exact (ih hrest).trans (of_edited hedited.symm)

/-- A text grows by at most one character an edit. -/
theorem length_le (h : Edits n a b) : b.length ≤ a.length + n := by
  induction n generalizing a with
  | zero => rw [edits_zero.1 h, Nat.add_zero]
  | succ n ih =>
    obtain ⟨c, hedited, hrest⟩ := edits_succ.1 h
    have hfirst : c.length ≤ a.length + 1 := hedited.length_le
    have hothers : b.length ≤ c.length + n := ih hrest
    omega

end Edits

/-! ## The recursion -/

/-- From the empty text every character has to be put in. -/
@[simp] theorem leastMoves_nil_left : leastMoves [] ys = ys.length := by
  rw [leastMoves]

/-- To the empty text every character has to be taken out. -/
@[simp] theorem leastMoves_nil_right : leastMoves xs [] = xs.length := by
  cases xs <;> simp [leastMoves]

/-- The least number of moves between two texts is the least over the three moves at their fronts.
-/
theorem leastMoves_cons_cons : leastMoves (x :: xs) (y :: ys) =
    min (min (leastMoves xs (y :: ys) + 1) (leastMoves (x :: xs) ys + 1))
      (leastMoves xs ys + if x = y then 0 else 1) := by
  rw [leastMoves]

/-- Nothing has to be done to turn a text into itself. -/
theorem leastMoves_self : leastMoves xs xs = 0 := by
  induction xs with
  | nil => exact leastMoves_nil_left
  | cons x xs ih => simp [leastMoves_cons_cons, ih]

/-- Every text is written with one insertion for each of its characters. -/
theorem edits_nil_left : Edits ys.length [] ys := by
  induction ys with
  | nil => exact edits_zero.2 rfl
  | cons y ys ih =>
    have hrest : Edits ys.length [y] (y :: ys) := ih.map (f := (y :: ·)) (Edited.behind y)
    exact edits_succ.2 ⟨[y], .insert y [], hrest⟩

/-- A script follows the moves. -/
theorem edits_leastMoves (xs ys : List Char) : Edits (leastMoves xs ys) xs ys := by
  fun_induction leastMoves xs ys with
  | case1 ys => exact edits_nil_left
  | case2 xs _ => exact edits_nil_left.symm
  | case3 x xs y ys hdelete hinsert hboth =>
    -- Each move comes with a script of its own, and the recursion takes the shortest of the three.
    have hfirst : Edits (leastMoves xs (y :: ys) + 1) (x :: xs) (y :: ys) :=
      edits_succ.2 ⟨xs, .delete x xs, hdelete⟩
    have hlast : Edits (leastMoves (x :: xs) ys + 1) (x :: xs) (y :: ys) :=
      hinsert.trans (.of_edited (.insert y ys))
    have hbehind : Edits (leastMoves xs ys) (y :: xs) (y :: ys) :=
      hboth.map (f := (y :: ·)) (Edited.behind y)
    have hplace : Edits (leastMoves xs ys + if x = y then 0 else 1) (x :: xs) (y :: ys) := by
      by_cases hxy : x = y
      · rwa [if_pos hxy, Nat.add_zero, hxy]
      · rw [if_neg hxy]
        exact edits_succ.2 ⟨y :: xs, .substitute x y xs, hbehind⟩
    exact (hfirst.of_min hlast).of_min hplace

/-! ### No script is shorter -/

/-- A character in front of the first text costs at most one move more. -/
theorem leastMoves_cons_left_le : leastMoves (x :: xs) ys ≤ leastMoves xs ys + 1 := by
  cases ys with
  | nil => simp
  | cons y ys =>
    rw [leastMoves_cons_cons]
    exact (min_le_left _ _).trans (min_le_left _ _)

/-- A character in front of the second text costs at most one move more. -/
theorem leastMoves_cons_right_le : leastMoves xs (y :: ys) ≤ leastMoves xs ys + 1 := by
  cases xs with
  | nil => simp
  | cons x xs =>
    rw [leastMoves_cons_cons]
    exact (min_le_left _ _).trans (min_le_right _ _)

/-- Leaving a character in front out costs at most one move more. -/
theorem leastMoves_le_cons_left : leastMoves xs zs ≤ leastMoves (x :: xs) zs + 1 := by
  -- By induction on the other text: where its first character is inserted, the rest of it is left.
  induction zs with
  | nil => simp only [leastMoves_nil_right, List.length_cons]; omega
  | cons z zs ih =>
    have hright : leastMoves xs (z :: zs) ≤ leastMoves xs zs + 1 := leastMoves_cons_right_le
    rw [leastMoves_cons_cons]
    omega

/-- Another character in front costs at most one move more. -/
theorem leastMoves_substitute_le : leastMoves (x :: xs) zs ≤ leastMoves (y :: xs) zs + 1 := by
  induction zs with
  | nil => simp only [leastMoves_nil_right, List.length_cons]; omega
  | cons z zs ih =>
    rw [leastMoves_cons_cons, leastMoves_cons_cons]
    split <;> split <;> omega

/-- One edit of the first text saves one move at most. -/
theorem Edited.leastMoves_le (h : Edited a b) : leastMoves a zs ≤ leastMoves b zs + 1 := by
  induction h generalizing zs with
  | insert c cs => exact leastMoves_le_cons_left
  | delete c cs => exact leastMoves_cons_left_le
  | substitute c d cs => exact leastMoves_substitute_le
  | @behind xs ys c _ ih =>
    -- By a second induction on the other text: its first character may be inserted first.
    induction zs with
    | nil =>
      have hlength : leastMoves xs [] ≤ leastMoves ys [] + 1 := ih
      simp only [leastMoves_nil_right, List.length_cons] at hlength ⊢
      omega
    | cons z zs ihz =>
      have hdelete : leastMoves xs (z :: zs) ≤ leastMoves ys (z :: zs) + 1 := ih
      have hboth : leastMoves xs zs ≤ leastMoves ys zs + 1 := ih
      rw [leastMoves_cons_cons, leastMoves_cons_cons]
      omega

/-- No script is shorter than the least number of moves. -/
theorem Edits.leastMoves_le (h : Edits n a b) : leastMoves a b ≤ n := by
  induction n generalizing a with
  | zero => rw [edits_zero.1 h, leastMoves_self]
  | succ n ih =>
    obtain ⟨c, hedited, hrest⟩ := edits_succ.1 h
    have hfirst : leastMoves a b ≤ leastMoves c b + 1 := hedited.leastMoves_le
    have hothers : leastMoves c b ≤ n := ih hrest
    omega

/-- The recursion gives the length of the shortest script. -/
theorem leastMoves_isLeast (a b : List Char) : IsLeast {n | Edits n a b} (leastMoves a b) :=
  ⟨edits_leastMoves a b, fun _ h => h.leastMoves_le⟩

/-! ## What scripts tell about the recursion -/

/-- No move is needed where the texts are equal. -/
theorem leastMoves_eq_zero : leastMoves a b = 0 ↔ a = b := by
  constructor
  · intro h
    have hscript : Edits (leastMoves a b) a b := edits_leastMoves a b
    rwa [h, edits_zero] at hscript
  · rintro rfl
    exact leastMoves_self

/-- The least number of moves is symmetric. -/
theorem leastMoves_comm (a b : List Char) : leastMoves a b = leastMoves b a :=
  le_antisymm (edits_leastMoves b a).symm.leastMoves_le (edits_leastMoves a b).symm.leastMoves_le

/-- The least number of moves obeys the triangle inequality. -/
theorem leastMoves_triangle (a b c : List Char) :
    leastMoves a c ≤ leastMoves a b + leastMoves b c :=
  ((edits_leastMoves a b).trans (edits_leastMoves b c)).leastMoves_le

/-- Reading both texts backwards costs no more moves. -/
theorem leastMoves_reverse_le (a b : List Char) :
    leastMoves a.reverse b.reverse ≤ leastMoves a b :=
  ((edits_leastMoves a b).map (f := List.reverse) Edited.reverse).leastMoves_le

/-- Reading both texts backwards costs as many moves. -/
theorem leastMoves_reverse (a b : List Char) : leastMoves a.reverse b.reverse = leastMoves a b := by
  have hback := leastMoves_reverse_le a.reverse b.reverse
  rw [List.reverse_reverse, List.reverse_reverse] at hback
  exact le_antisymm (leastMoves_reverse_le a b) hback

/-- A text is longer than another by at most the least number of moves. -/
theorem length_le_add_leastMoves (a b : List Char) : b.length ≤ a.length + leastMoves a b :=
  (edits_leastMoves a b).length_le

/-- The length of the longer text bounds the least number of moves. -/
theorem leastMoves_le_max (a b : List Char) : leastMoves a b ≤ max a.length b.length := by
  fun_induction leastMoves a b with
  | case1 ys => exact le_max_right _ _
  | case2 xs _ => exact le_max_left _ _
  | case3 x xs y ys hdelete hinsert hboth =>
    simp only [List.length_cons] at *
    split <;> omega

/-! ### Equal characters on both sides -/

/-- Equal first characters cost nothing: whoever moves past one of them alone has to move past the
other one, too. -/
theorem leastMoves_cons_self : leastMoves (c :: xs) (c :: ys) = leastMoves xs ys := by
  have hdelete : leastMoves xs ys ≤ leastMoves xs (c :: ys) + 1 := by
    rw [leastMoves_comm xs ys, leastMoves_comm xs (c :: ys)]
    exact leastMoves_le_cons_left
  have hinsert : leastMoves xs ys ≤ leastMoves (c :: xs) ys + 1 := leastMoves_le_cons_left
  rw [leastMoves_cons_cons, if_pos rfl]
  omega

/-- A common front costs no move. -/
theorem leastMoves_append_left (p a b : List Char) :
    leastMoves (p ++ a) (p ++ b) = leastMoves a b := by
  induction p with
  | nil => rfl
  | cons c p ih => rw [List.cons_append, List.cons_append, leastMoves_cons_self, ih]

/-- A common back costs no move. -/
theorem leastMoves_append_right (a b s : List Char) :
    leastMoves (a ++ s) (b ++ s) = leastMoves a b := by
  calc leastMoves (a ++ s) (b ++ s)
      = leastMoves (s.reverse ++ a.reverse) (s.reverse ++ b.reverse) := by
        rw [← leastMoves_reverse, List.reverse_append, List.reverse_append]
    _ = leastMoves a.reverse b.reverse := leastMoves_append_left _ _ _
    _ = leastMoves a b := leastMoves_reverse a b

end StructureGrader
