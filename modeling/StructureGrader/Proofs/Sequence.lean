/-!
# Computations of several steps

A computation of two steps comes to a value when both of them do (`bind_eq_ok_iff`). The same is true
where steps also change a state, which the second step finds as the first one leaves it
(`run_bind_eq_ok_iff`). `Keeps` says what is true of the state while they go well, and what is true of it
and of the failure when one of them does not: it is shown of each step and holds of all of them in a row
(`Keeps.bind`).
-/

namespace StructureGrader

/-- Two calculations in a row succeed where the first does and the second does with its value. -/
theorem bind_eq_ok_iff {ε α β : Type} {x : Except ε α} {f : α → Except ε β} {value : β} :
    (x >>= f) = .ok value ↔ ∃ a, x = .ok a ∧ f a = .ok value := by
  cases x with
  | error e => simp [bind, Except.bind]
  | ok a => simp [bind, Except.bind]

section Run

variable {ε σ α β : Type}

/-- The second step starts where the first one leaves the state, unless that fails. -/
theorem run_bind (x : ExceptT ε (StateM σ) α) (f : α → ExceptT ε (StateM σ) β) (s : σ) :
    (x >>= f).run s = match x.run s with
      | (.ok a, after) => (f a).run after
      | (.error e, after) => (.error e, after) := by
  unfold ExceptT.run
  simp only [Bind.bind, ExceptT.bind, ExceptT.mk, StateT.bind, ExceptT.bindCont]
  cases x s with
  | mk result after => cases result <;> rfl

/-- Two steps in a row succeed where the first does and the second does from the state it leaves. -/
theorem run_bind_eq_ok_iff {x : ExceptT ε (StateM σ) α} {f : α → ExceptT ε (StateM σ) β} {s last : σ}
    {value : β} : (x >>= f).run s = (.ok value, last) ↔
      ∃ a after, x.run s = (.ok a, after) ∧ (f a).run after = (.ok value, last) := by
  rw [run_bind]
  obtain ⟨_ | a, after⟩ := x.run s
  · refine ⟨fun h => ?_, ?_⟩
    · cases h
    · rintro ⟨a, after, h, -⟩
      cases h
  · refine ⟨fun h => ⟨a, after, rfl, h⟩, ?_⟩
    rintro ⟨a, after, h, hrest⟩
    cases h
    exact hrest

/-- What reads the state goes on with it as it is. -/
theorem run_get_bind (f : σ → ExceptT ε (StateM σ) β) (s : σ) :
    (MonadState.get >>= f).run s = (f s).run s :=
  rfl

end Run

section Keeps

variable {ε σ α β : Type} {good : σ → Prop} {bad : ε → σ → Prop}

/-- From a good state a computation comes to a value and a good state, or to a failure and a state
that goes with it. -/
structure Keeps (good : σ → Prop) (bad : ε → σ → Prop) (x : ExceptT ε (StateM σ) α) : Prop where
  run : ∀ s, good s →
    match x.run s with
    | (.ok _, after) => good after
    | (.error e, after) => bad e after

/-- A step that does nothing keeps what holds. -/
theorem Keeps.pure (a : α) : Keeps good bad (Pure.pure a : ExceptT ε (StateM σ) α) :=
  ⟨fun _ h => h⟩

/-- To read the state changes nothing. -/
theorem Keeps.get : Keeps good bad (MonadState.get : ExceptT ε (StateM σ) σ) :=
  ⟨fun _ h => h⟩

/-- Two steps in a row keep what each of them keeps. -/
theorem Keeps.bind {x : ExceptT ε (StateM σ) α} {f : α → ExceptT ε (StateM σ) β}
    (hx : Keeps good bad x) (hf : ∀ a, Keeps good bad (f a)) : Keeps good bad (x >>= f) := by
  refine ⟨fun s hs => ?_⟩
  have hfirst := hx.run s hs
  rw [run_bind]
  generalize x.run s = first at hfirst ⊢
  obtain ⟨_ | a, after⟩ := first
  · exact hfirst
  · exact (hf a).run after hfirst

/-- What is kept is true when a computation has come to a value. -/
theorem Keeps.of_run_eq_ok {x : ExceptT ε (StateM σ) α} {s after : σ} {value : α}
    (hx : Keeps good bad x) (hs : good s) (h : x.run s = (.ok value, after)) : good after := by
  have hrun := hx.run s hs
  rw [h] at hrun
  exact hrun

end Keeps

end StructureGrader
