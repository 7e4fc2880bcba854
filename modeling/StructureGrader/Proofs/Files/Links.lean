import StructureGrader.Files.Links
import StructureGrader.Proofs.Files.Places
import Mathlib.Data.List.Perm.Subperm

/-!
# Where paths lead to

A path is followed in steps (`Links.Step`): each takes the piece in front, and where a link stands,
the pieces of what it holds take the place of that. A path leads to a place when no piece is left
there (`Links.LeadsTo`). Nothing in this counts the links that are being followed; it may go on
forever.

`Links.resolve` does count them, and comes to the same place wherever a path leads to one
(`resolve_settled_iff`). A link that is followed within itself would have to take fewer steps than
it takes, so none of those under way is met again, and there are no more of them than there are
links.

On a path without links double dots may be taken back by the text alone (`Spares.leadsTo`).
-/

namespace StructureGrader

namespace Links

variable {links : Links}

/-! ## Steps -/

/-- A path is followed by one more of its pieces, from a place with pieces that are left to others.
-/
inductive Step (links : Links) : Place × List String → Place × List String → Prop
  | skip {here : Place} {piece : String} {pieces : List String} (empty : Path.counts piece = false) :
      Step links (here, piece :: pieces) (here, pieces)
  | up {here : Place} {pieces : List String} :
      Step links (here, ".." :: pieces) (here.dropLast, pieces)
  | down {here : Place} {piece : String} {pieces : List String} (counts : Path.counts piece = true)
      (ne_up : piece ≠ "..") (free : links.at? (here ++ [piece]) = none) :
      Step links (here, piece :: pieces) (here ++ [piece], pieces)
  | follow {here : Place} {piece text : String} {pieces : List String}
      (counts : Path.counts piece = true) (ne_up : piece ≠ "..")
      (link : links.at? (here ++ [piece]) = some (.ok text)) :
      Step links (here, piece :: pieces)
        (startOf (here ++ [piece]) text, Path.pieces text ++ pieces)

/-- A path is followed by so many steps. -/
inductive Steps (links : Links) : Nat → Place × List String → Place × List String → Prop
  | refl (s : Place × List String) : Steps links 0 s s
  | head {n : Nat} {s t u : Place × List String} (first : links.Step s t) (rest : Steps links n t u) :
      Steps links (n + 1) s u

/-- The path from the root that a text writes leads to a place. -/
def LeadsTo (links : Links) (text : String) (there : Place) : Prop :=
  ∃ n, links.Steps n ([], Path.pieces text) (there, [])

section Steps

variable {n k : Nat} {s t u : Place × List String} {here there there' : Place}
  {xs ys : List String}

/-- There is at most one next step. -/
theorem Step.unique (h : links.Step s t) (h' : links.Step s u) : t = u := by
  cases h with
  | skip empty =>
    cases h' with
    | skip => rfl
    | up => exact absurd empty (by decide)
    | down counts | follow counts => exact absurd counts (ne_true_of_eq_false empty)
  | up =>
    cases h' with
    | skip empty => exact absurd empty (by decide)
    | up => rfl
    | down _ ne_up | follow _ ne_up => exact absurd rfl ne_up
  | down counts ne_up free =>
    cases h' with
    | skip empty => exact absurd counts (ne_true_of_eq_false empty)
    | up => exact absurd rfl ne_up
    | down => rfl
    | follow _ _ link =>
      rw [free] at link
      cases link
  | follow counts ne_up link =>
    cases h' with
    | skip empty => exact absurd counts (ne_true_of_eq_false empty)
    | up => exact absurd rfl ne_up
    | down _ _ free =>
      rw [free] at link
      cases link
    | follow _ _ link' =>
      rw [link, Option.some.injEq, Except.ok.injEq] at link'
      rw [link']

/-- A path leads to at most one place, by as many steps. -/
theorem Steps.unique (h : links.Steps n s (there, [])) (h' : links.Steps k s (there', [])) :
    n = k ∧ there = there' := by
  induction n generalizing s k with
  | zero =>
    cases h
    cases h' with
    | refl => exact ⟨rfl, rfl⟩
    | head first => cases first
  | succ n ih =>
    cases h with
    | head first rest =>
      cases h' with
      | refl => cases first
      | head first' rest' =>
        obtain rfl := first.unique first'
        obtain ⟨rfl, hthere⟩ := ih rest rest'
        exact ⟨rfl, hthere⟩

/-- Steps from a state and steps on from where they end are steps of their total number. -/
theorem Steps.trans (h : links.Steps n s t) (h' : links.Steps k t u) : links.Steps (k + n) s u := by
  induction h with
  | refl => exact h'
  | head first _ ih => exact .head first (ih h')

/-- A step does not look at more than the piece in front. -/
theorem Step.append (h : links.Step (here, xs) (there, ys)) (zs : List String) :
    links.Step (here, xs ++ zs) (there, ys ++ zs) := by
  cases h with
  | skip empty => exact .skip empty
  | up => exact .up
  | down counts ne_up free => exact .down counts ne_up free
  | follow counts ne_up link =>
    rw [List.append_assoc]
    exact .follow counts ne_up link

/-- What is left of a path stays behind what is followed. -/
theorem Steps.append (h : links.Steps n (here, xs) (there, ys)) (zs : List String) :
    links.Steps n (here, xs ++ zs) (there, ys ++ zs) := by
  induction n generalizing here xs with
  | zero =>
    cases h
    exact .refl _
  | succ n ih =>
    cases h with
    | @head _ _ t _ first rest => exact .head (first.append zs) (ih rest)

/-- A step with something behind it is one without. -/
theorem Step.of_append {x : String} {zs : List String}
    (h : links.Step (here, x :: (xs ++ zs)) t) :
    ∃ ys, t.2 = ys ++ zs ∧ links.Step (here, x :: xs) (t.1, ys) := by
  cases h with
  | skip empty => exact ⟨xs, rfl, .skip empty⟩
  | up => exact ⟨xs, rfl, .up⟩
  | down counts ne_up free => exact ⟨xs, rfl, .down counts ne_up free⟩
  | follow counts ne_up link =>
    exact ⟨_, (List.append_assoc _ _ _).symm, .follow counts ne_up link⟩

/-- A path is followed by its first pieces and then by the others. -/
theorem Steps.of_append {zs : List String} (h : links.Steps n (here, xs ++ zs) (there, [])) :
    ∃ k l middle, n = l + k ∧ links.Steps k (here, xs) (middle, []) ∧
      links.Steps l (middle, zs) (there, []) := by
  induction n generalizing here xs with
  | zero =>
    cases xs with
    | nil => exact ⟨0, 0, here, rfl, .refl _, h⟩
    | cons x xs => cases h
  | succ n ih =>
    cases xs with
    | nil => exact ⟨0, n + 1, here, rfl, .refl _, h⟩
    | cons x xs =>
      cases h with
      | @head _ _ t _ first rest =>
        obtain ⟨middle, pieces⟩ := t
        obtain ⟨ys, rfl, hstep⟩ := first.of_append
        obtain ⟨k, l, end', rfl, hfront, hback⟩ := ih rest
        exact ⟨k + 1, l, end', rfl, .head hstep hfront, hback⟩

end Steps

/-! ## Following links -/

section Walk

variable {follow : Place → Option (Except Fault Arrival)} {here there : Place} {piece : String}
  {pieces : List String} {a : Arrival}

/-- A piece that stands for nothing is passed over. -/
theorem walk_of_not_counts (h : Path.counts piece = false) :
    walk follow here (piece :: pieces) = walk follow here pieces := by
  have hcond : (piece == "" || piece == ".") = true := by
    rw [Path.not_counts_iff] at h
    simpa using h
  rw [walk, if_pos hcond]

/-- At `..` the walk goes on from the place one level up. -/
theorem walk_up : walk follow here (".." :: pieces) = walk follow here.dropLast pieces := by
  rfl

/-- At a name the walk goes on behind it, unless a link stands there. -/
theorem walk_of_counts (h : Path.counts piece = true) (hup : piece ≠ "..") :
    walk follow here (piece :: pieces) =
      match follow (here ++ [piece]) with
      | none => walk follow (here ++ [piece]) pieces
      | some (.error e) => .error e
      | some (.ok a) =>
        if a.isSettled then walk follow a.place pieces else .ok (a.behind pieces) := by
  have hcond : ¬ (piece == "" || piece == ".") = true := by
    rw [Path.counts_iff] at h
    simpa using h
  rw [walk, if_neg hcond]
  exact if_neg (by simpa using hup)

/-- How the first piece of a path is taken when the path can be followed. -/
inductive FirstTaken (follow : Place → Option (Except Fault Arrival)) (here : Place) (piece : String)
    (pieces : List String) (a : Arrival) : Prop
  | skipped (empty : Path.counts piece = false) (rest : walk follow here pieces = .ok a)
  | up (is_up : piece = "..") (rest : walk follow here.dropLast pieces = .ok a)
  | down (counts : Path.counts piece = true) (ne_up : piece ≠ "..")
      (free : follow (here ++ [piece]) = none)
      (rest : walk follow (here ++ [piece]) pieces = .ok a)
  /-- A link stands there and is followed to its end. -/
  | followed {b : Arrival} (counts : Path.counts piece = true) (ne_up : piece ≠ "..")
      (link : follow (here ++ [piece]) = some (.ok b)) (settled : b.isSettled = true)
      (rest : walk follow b.place pieces = .ok a)
  /-- A link stands there and is not followed to its end. -/
  | stopped {b : Arrival} (counts : Path.counts piece = true) (ne_up : piece ≠ "..")
      (link : follow (here ++ [piece]) = some (.ok b)) (unsettled : b.isSettled = false)
      (behind : a = b.behind pieces)

/-- The first piece of a path that can be followed is taken in one of these ways. -/
theorem firstTaken_of_walk (h : walk follow here (piece :: pieces) = .ok a) :
    FirstTaken follow here piece pieces a := by
  cases hcounts : Path.counts piece with
  | false =>
    rw [walk_of_not_counts hcounts] at h
    exact .skipped hcounts h
  | true =>
    by_cases hup : piece = ".."
    · rw [hup, walk_up] at h
      exact .up hup h
    · rw [walk_of_counts hcounts hup] at h
      -- A name below `here`: what is followed there decides.
      cases hlink : follow (here ++ [piece]) with
      | none =>
        rw [hlink] at h
        exact .down hcounts hup hlink h
      | some result =>
        rw [hlink] at h
        cases result with
        | error e => cases h
        | ok b =>
          dsimp only at h
          cases hb : b.isSettled with
          | true =>
            rw [hb, if_pos rfl] at h
            exact .followed hcounts hup hlink hb h
          | false =>
            rw [hb, if_neg Bool.false_ne_true, Except.ok.injEq] at h
            exact .stopped hcounts hup hlink hb h.symm

/-- What is put behind a link that is not followed is not followed either. -/
theorem isSettled_behind (a : Arrival) (rest : List String) :
    (a.behind rest).isSettled = a.isSettled := by
  unfold Arrival.behind
  dsimp only
  split <;> rfl

/-- Where all links on the way are followed to their ends, each by its steps, the path is as well.
-/
theorem steps_of_walk
    (hfollow : ∀ place b, follow place = some (.ok b) → b.isSettled = true →
      ∃ text n, links.at? place = some (.ok text) ∧ b.front = "" ∧
        links.Steps n (startOf place text, Path.pieces text) (b.place, []))
    (hnone : ∀ place, follow place = none → links.at? place = none)
    (h : walk follow here pieces = .ok a) (hsettled : a.isSettled = true) :
    a.front = "" ∧ ∃ n, links.Steps n (here, pieces) (a.place, []) := by
  induction pieces generalizing here with
  | nil =>
    cases h
    exact ⟨rfl, 0, .refl _⟩
  | cons piece pieces ih =>
    cases firstTaken_of_walk h with
    | skipped empty rest =>
      obtain ⟨hfront, n, hsteps⟩ := ih rest
      exact ⟨hfront, n + 1, .head (.skip empty) hsteps⟩
    | up is_up rest =>
      obtain ⟨hfront, n, hsteps⟩ := ih rest
      rw [is_up]
      exact ⟨hfront, n + 1, .head .up hsteps⟩
    | down counts ne_up free rest =>
      obtain ⟨hfront, n, hsteps⟩ := ih rest
      exact ⟨hfront, n + 1, .head (.down counts ne_up (hnone _ free)) hsteps⟩
    | @followed b counts ne_up link settled rest =>
      -- The steps of the link come first, with the pieces that are left behind its own.
      obtain ⟨text, k, htext, -, hinner⟩ := hfollow _ b link settled
      obtain ⟨hfront, n, hsteps⟩ := ih rest
      have hlinked := (hinner.append pieces).trans hsteps
      exact ⟨hfront, _, .head (.follow counts ne_up htext) hlinked⟩
    | stopped counts ne_up link unsettled behind =>
      rw [behind, isSettled_behind, unsettled] at hsettled
      cases hsettled

/-- A link is there or it is not followed at all. -/
theorem enter_eq_none_iff {depth : Nat} {busy : List Place} {place : Place} :
    enter links depth busy place = none ↔ links.at? place = none := by
  cases depth <;> exact Option.map_eq_none_iff

/-- A link leads to its own place, where it is not followed, or else to where the path that it holds
leads. -/
theorem enter_eq_ok {depth : Nat} {busy : List Place} {place : Place} {b : Arrival}
    (h : enter links depth busy place = some (.ok b)) :
    b = { place, isSettled := false } ∨
      ∃ less text, depth = less + 1 ∧ links.at? place = some (.ok text) ∧
        walk (enter links less (place :: busy)) (startOf place text) (Path.pieces text) = .ok b := by
  cases depth with
  | zero =>
    rw [enter, Option.map_eq_some_iff] at h
    obtain ⟨target, -, heq⟩ := h
    exact .inl (Except.ok.inj heq).symm
  | succ less =>
    rw [enter, Option.map_eq_some_iff] at h
    obtain ⟨target, htarget, heq⟩ := h
    split at heq
    · exact .inl (Except.ok.inj heq).symm
    · cases target with
      | error e => cases heq
      | ok text => exact .inr ⟨less, text, rfl, htarget, heq⟩

/-- A link that is followed to its end leads where its steps do. -/
theorem steps_of_enter {depth : Nat} {busy : List Place} {place : Place} {b : Arrival}
    (h : enter links depth busy place = some (.ok b)) (hsettled : b.isSettled = true) :
    ∃ text n, links.at? place = some (.ok text) ∧ b.front = "" ∧
      links.Steps n (startOf place text, Path.pieces text) (b.place, []) := by
  induction depth using Nat.strong_induction_on generalizing busy place b with
  | _ depth ih =>
    obtain rfl | ⟨less, text, rfl, htext, hwalk⟩ := enter_eq_ok h
    · cases hsettled
    · obtain ⟨hfront, n, hsteps⟩ := steps_of_walk (fun _ _ => ih less (Nat.lt_succ_self less))
        (fun _ => enter_eq_none_iff.1) hwalk hsettled
      exact ⟨text, n, htext, hfront, hsteps⟩

end Walk

/-! ## Links within each other -/

/-- What is known of the links that are being followed when `n` more steps are to be taken: they are
different ones, there is room for all others, and to follow one of them takes at least as many
steps. -/
structure Under (links : Links) (n depth : Nat) (busy : List Place) : Prop where
  nodup : busy.Nodup
  known : ∀ place ∈ busy, links.at? place ≠ none
  room : links.length ≤ depth + busy.length
  longer : ∀ place ∈ busy, ∀ text k there, links.at? place = some (.ok text) →
    links.Steps k (startOf place text, Path.pieces text) (there, []) → n ≤ k

section Under

variable {n k depth : Nat} {busy : List Place} {place here there : Place} {text : String}

/-- What holds of the links met within a number of steps holds of those met within fewer. -/
theorem Under.mono (h : links.Under n depth busy) (hle : k ≤ n) : links.Under k depth busy :=
  ⟨h.nodup, h.known, h.room, fun place hplace text l there hlink hsteps =>
    hle.trans (h.longer place hplace text l there hlink hsteps)⟩

/-- Different places with links are no more than there are links. -/
theorem length_le_of_known (hnodup : busy.Nodup) (hknown : ∀ place ∈ busy, links.at? place ≠ none) :
    busy.length ≤ links.length := by
  have hsubset : busy ⊆ links.map Prod.fst := by
    intro place hplace
    cases hlink : links.find? fun x => x.1 == place with
    | none =>
      have hnone : links.at? place = none := by rw [at?, hlink, Option.map_none]
      exact absurd hnone (hknown place hplace)
    | some item =>
      have hitem := List.find?_some hlink
      rw [beq_iff_eq] at hitem
      exact hitem ▸ List.mem_map_of_mem (List.mem_of_find?_eq_some hlink)
  calc busy.length ≤ (links.map Prod.fst).length := (List.subperm_of_subset hnodup hsubset).length_le
    _ = links.length := List.length_map _

/-- A link that takes fewer steps than are left is none of those that are being followed, and there
is room for it. -/
theorem Under.push (h : links.Under n depth busy) (hlink : links.at? place = some (.ok text))
    (hsteps : links.Steps k (startOf place text, Path.pieces text) (there, [])) (hlt : k < n) :
    place ∉ busy ∧ ∃ less, depth = less + 1 ∧ links.Under k less (place :: busy) := by
  -- A link under way takes at least `n` steps, this one takes `k`.
  have hfresh : place ∉ busy := fun hplace => by
    have := h.longer place hplace text k there hlink hsteps
    omega
  have hnodup : (place :: busy).Nodup := List.nodup_cons.2 ⟨hfresh, h.nodup⟩
  have hknown : ∀ p ∈ place :: busy, links.at? p ≠ none := by
    refine List.forall_mem_cons.2 ⟨?_, h.known⟩
    rw [hlink]
    exact Option.some_ne_none _
  have hlength := length_le_of_known hnodup hknown
  have hroom := h.room
  rw [List.length_cons] at hlength
  refine ⟨hfresh, depth - 1, by omega, hnodup, hknown, ?_, ?_⟩
  · rw [List.length_cons]
    omega
  · refine List.forall_mem_cons.2 ⟨?_, fun p hp text' l there' hlink' hsteps' => ?_⟩
    · intro text' l there' hlink' hsteps'
      rw [hlink, Option.some.injEq, Except.ok.injEq] at hlink'
      obtain rfl := hlink'
      exact (hsteps.unique hsteps').1.le
    · have := h.longer p hp text' l there' hlink' hsteps'
      omega

/-- Where a path leads to a place by its steps, it is followed to that place. -/
theorem walk_of_steps {pieces : List String} (h : links.Steps n (here, pieces) (there, []))
    (hunder : links.Under n depth busy) :
    walk (enter links depth busy) here pieces = .ok { place := there } := by
  -- The induction is on the steps and not on the pieces: a link puts more pieces in front.
  induction n using Nat.strong_induction_on generalizing here there pieces depth busy with
  | _ n ih =>
    cases h with
    | refl => rfl
    | @head n _ t _ first rest =>
      have hlater : links.Under n depth busy := hunder.mono (Nat.le_succ n)
      cases first with
      | skip empty =>
        rw [walk_of_not_counts empty]
        exact ih n (Nat.lt_succ_self n) rest hlater
      | up =>
        rw [walk_up]
        exact ih n (Nat.lt_succ_self n) rest hlater
      | down counts ne_up free =>
        rw [walk_of_counts counts ne_up, enter_eq_none_iff.2 free]
        exact ih n (Nat.lt_succ_self n) rest hlater
      | @follow _ piece text pieces counts ne_up link =>
        -- The steps that are left are those of what the link holds and then those of the other pieces.
        obtain ⟨k, l, middle, rfl, hinner, houter⟩ := rest.of_append
        have hlt : k < l + k + 1 := by omega
        obtain ⟨hfresh, less, rfl, hless⟩ := hunder.push link hinner hlt
        have hentered : enter links (less + 1) busy (here ++ [piece]) =
            some (.ok { place := middle }) := by
          have hbusy : ¬ busy.contains (here ++ [piece]) = true := by
            rwa [List.contains_iff_mem]
          rw [enter, link, Option.map_some, if_neg hbusy]
          exact congrArg some (ih k hlt hinner hless)
        rw [walk_of_counts counts ne_up, hentered]
        exact ih l (by omega) houter (hunder.mono (by omega))

/-- A path is followed to its end exactly where it leads to a place by its steps, and it is followed
to that place. -/
theorem resolve_settled_iff {a : Arrival} :
    links.resolve text = .ok a ∧ a.isSettled = true ↔
      a = { place := a.place } ∧ links.LeadsTo text a.place := by
  constructor
  · rintro ⟨h, hsettled⟩
    obtain ⟨hfront, hsteps⟩ := steps_of_walk (fun _ _ => steps_of_enter)
      (fun _ => enter_eq_none_iff.1) h hsettled
    obtain ⟨place, isSettled, front⟩ := a
    obtain rfl : isSettled = true := hsettled
    obtain rfl : front = "" := hfront
    exact ⟨rfl, hsteps⟩
  · rintro ⟨heq, n, hsteps⟩
    have hunder : links.Under n links.length [] :=
      ⟨.nil, List.forall_mem_nil _, Nat.le_add_right _ _, List.forall_mem_nil _⟩
    rw [heq]
    exact ⟨walk_of_steps hsteps hunder, rfl⟩

end Under

/-! ## Paths without links -/

/-- The places that a path comes by on its way down when it meets no link. -/
def visited : Place → List String → List Place
  | _, [] => []
  | here, piece :: pieces =>
    if piece = "" ∨ piece = "." then visited here pieces
    else if piece = ".." then visited here.dropLast pieces
    else (here ++ [piece]) :: visited (here ++ [piece]) pieces

/-- No link stands on the path from the root that a text writes. -/
def Spares (links : Links) (text : String) : Prop :=
  ∀ place ∈ visited [] (Path.pieces text), links.at? place = none

section Spares

variable {here place : Place} {pieces : List String} {text : String}

/-- On a path without links double dots can be taken back by the text alone. -/
theorem steps_of_visited (h : ∀ place ∈ visited here pieces, links.at? place = none) :
    ∃ n, links.Steps n (here, pieces)
      (Path.normalFrom here.reverse (pieces.filter Path.counts), []) := by
  induction pieces generalizing here with
  | nil =>
    have hnormal : Path.normalFrom here.reverse [] = here := List.reverse_reverse here
    rw [List.filter_nil, hnormal]
    exact ⟨0, .refl _⟩
  | cons piece pieces ih =>
    cases hcounts : Path.counts piece with
    | false =>
      rw [visited, if_pos (Path.not_counts_iff.1 hcounts)] at h
      obtain ⟨n, hsteps⟩ := ih h
      rw [List.filter_cons_of_neg (Bool.eq_false_iff.1 hcounts)]
      exact ⟨n + 1, .head (.skip hcounts) hsteps⟩
    | true =>
      have hne : ¬ (piece = "" ∨ piece = ".") := by
        rw [← Path.not_counts_iff, hcounts]
        exact Bool.noConfusion
      rw [visited, if_neg hne] at h
      rw [List.filter_cons_of_pos hcounts]
      by_cases hup : piece = ".."
      · rw [if_pos hup] at h
        obtain ⟨n, hsteps⟩ := ih h
        rw [← List.tail_reverse] at hsteps
        rw [hup, Path.normalFrom_up]
        exact ⟨n + 1, .head .up hsteps⟩
      · rw [if_neg hup] at h
        -- Only here is a place met, and it is no link.
        obtain ⟨hfree, hrest⟩ := List.forall_mem_cons.1 h
        obtain ⟨n, hsteps⟩ := ih hrest
        rw [List.reverse_append, List.reverse_singleton, List.singleton_append] at hsteps
        rw [Path.normalFrom_cons hup]
        exact ⟨n + 1, .head (.down hcounts hup hfree) hsteps⟩

/-- A path without links leads to the place that its text comes to. -/
theorem Spares.leadsTo (h : links.Spares text) : links.LeadsTo text (Path.ofText text).normal :=
  steps_of_visited h

end Spares

/-! ## What is known of every arrival -/

/-- Where a path leads to can be written down: each component names an entry, and the text of the
place has one more slash in front or nothing. -/
structure Plain (a : Arrival) : Prop where
  canonical : a.place.Canonical
  front : a.front = "" ∨ a.front = "/"

section Plain

variable {here place : Place} {pieces : List String} {a : Arrival} {text : String}

/-- A path put behind as a text comes to a place that can be written down. -/
theorem Plain.behind (h : Plain a) (rest : List String) : Plain (a.behind rest) := by
  have hpieces : ∀ p ∈ Path.pieces ("/".intercalate rest), '/' ∉ p.toList :=
    fun p hp => Path.slash_notMem_of_mem_pieces hp
  unfold Arrival.behind
  dsimp only
  split
  · have habove : ∀ part ∈ a.place.reverse, Path.IsComponent part :=
      fun part hpart => h.canonical part (List.mem_reverse.1 hpart)
    exact ⟨(Path.shortens_normalFrom habove hpieces).2, h.front⟩
  · refine ⟨(Path.shortens_normalFrom (List.forall_mem_nil _) hpieces).2, ?_⟩
    dsimp only
    split
    · exact .inr rfl
    · exact .inl rfl

/-- A path leads to a place that can be written down, if the links on it do. -/
theorem plain_of_walk {follow : Place → Option (Except Fault Arrival)}
    (hfollow : ∀ place b, place.Canonical → follow place = some (.ok b) → Plain b)
    (hhere : here.Canonical) (hpieces : ∀ p ∈ pieces, '/' ∉ p.toList)
    (h : walk follow here pieces = .ok a) : Plain a := by
  induction pieces generalizing here with
  | nil =>
    cases h
    exact ⟨hhere, .inl rfl⟩
  | cons piece pieces ih =>
    obtain ⟨hpiece, hrest⟩ := List.forall_mem_cons.1 hpieces
    have hdown (hcounts : Path.counts piece = true) (hup : piece ≠ "..") :
        Place.Canonical (here ++ [piece]) := by
      obtain ⟨hempty, hdot⟩ := Path.counts_iff.1 hcounts
      have hcomponent : Path.IsComponent piece := ⟨hempty, hdot, hup, hpiece⟩
      exact List.forall_mem_append.2 ⟨hhere, List.forall_mem_singleton.2 hcomponent⟩
    cases firstTaken_of_walk h with
    | skipped empty rest => exact ih hhere hrest rest
    | up is_up rest =>
      exact ih (fun part hpart => hhere part (List.mem_of_mem_dropLast hpart)) hrest rest
    | down counts ne_up free rest => exact ih (hdown counts ne_up) hrest rest
    | followed counts ne_up link settled rest =>
      exact ih (hfollow _ _ (hdown counts ne_up) link).canonical hrest rest
    | stopped counts ne_up link unsettled behind =>
      rw [behind]
      exact (hfollow _ _ (hdown counts ne_up) link).behind pieces

/-- A link leads to a place that can be written down. -/
theorem plain_of_enter {depth : Nat} {busy : List Place} (hplace : place.Canonical)
    (h : enter links depth busy place = some (.ok a)) : Plain a := by
  induction depth using Nat.strong_induction_on generalizing busy place a with
  | _ depth ih =>
    obtain rfl | ⟨less, text, rfl, -, hwalk⟩ := enter_eq_ok h
    · exact ⟨hplace, .inl rfl⟩
    · have hstart : (startOf place text).Canonical := by
        unfold startOf
        split
        · exact List.forall_mem_nil _
        · exact fun part hpart => hplace part (List.mem_of_mem_dropLast hpart)
      exact plain_of_walk (fun _ _ => ih less (Nat.lt_succ_self less)) hstart
        (fun p hp => Path.slash_notMem_of_mem_pieces hp) hwalk

/-- A path leads to a place that can be written down. -/
theorem plain_of_resolve (h : links.resolve text = .ok a) : Plain a :=
  plain_of_walk (fun _ _ => plain_of_enter) (List.forall_mem_nil _)
    (fun _ hp => Path.slash_notMem_of_mem_pieces hp) h

end Plain

end Links

end StructureGrader
