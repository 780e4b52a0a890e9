/-!
# Calls that change a state

A call may fail, and what it did before it failed stays done.

* `outcome` is how a call ends, with the state it leaves.
* `bind_eq_ok`: when a chain of calls succeeds, each call of the chain has.
* `bind_eq_error`: when it fails, one call has, and those before it have succeeded.
* `Within`: how the state that a call leaves is related to the one it found, failed or not.
-/

namespace Workflow.Calls

variable {σ ε α β : Type} {s s' : σ}

/-- How a call ends, and the state it leaves. -/
def outcome (x : ExceptT ε (StateM σ) α) (s : σ) : Except ε α × σ := x.run.run s

@[simp] theorem outcome_pure (a : α) :
    outcome (pure a : ExceptT ε (StateM σ) α) s = (.ok a, s) := rfl

@[simp] theorem outcome_throw (e : ε) :
    outcome (throw e : ExceptT ε (StateM σ) α) s = (.error e, s) := rfl

@[simp] theorem outcome_modify (f : σ → σ) :
    outcome (modify f : ExceptT ε (StateM σ) PUnit) s = (.ok ⟨⟩, f s) := rfl

/-- A call with a result has succeeded. -/
theorem exists_eq_ok {r : Except ε α × σ} (h : r.1.toOption.isSome = true) :
    ∃ a, r = (.ok a, r.2) := by
  rcases r with ⟨e | a, s⟩
  · cases h
  · exact ⟨a, rfl⟩

theorem outcome_bind (x : ExceptT ε (StateM σ) α) (f : α → ExceptT ε (StateM σ) β) :
    outcome (x >>= f) s =
      match outcome x s with
      | (.ok a, t) => outcome (f a) t
      | (.error e, t) => (.error e, t) := by
  show (ExceptT.bindCont f ((x.run.run s).1)).run (x.run.run s).2 = _
  unfold outcome
  rcases x.run.run s with ⟨e | a, t⟩
  · rfl
  · rfl

/-- The state before a call that reads it is the one the rest sees. -/
@[simp] theorem outcome_get_bind (f : σ → ExceptT ε (StateM σ) β) :
    outcome (get >>= f) s = outcome (f s) s := rfl

@[simp] theorem outcome_pure_bind (a : α) (f : α → ExceptT ε (StateM σ) β) :
    outcome (pure a >>= f) s = outcome (f a) s := rfl

@[simp] theorem outcome_modify_bind (g : σ → σ) (f : PUnit → ExceptT ε (StateM σ) β) :
    outcome (modify g >>= f) s = outcome (f ⟨⟩) (g s) := rfl

/-- **A chain succeeds** when its first call does and the rest does from there. -/
theorem bind_eq_ok {x : ExceptT ε (StateM σ) α} {f : α → ExceptT ε (StateM σ) β} {b : β} :
    outcome (x >>= f) s = (.ok b, s') ↔
      ∃ a t, outcome x s = (.ok a, t) ∧ outcome (f a) t = (.ok b, s') := by
  rw [outcome_bind]
  rcases outcome x s with ⟨e | a, t⟩
  · simp
  · simp only [Prod.mk.injEq, Except.ok.injEq]
    constructor
    · intro h
      exact ⟨a, t, ⟨rfl, rfl⟩, h⟩
    · rintro ⟨_, _, ⟨rfl, rfl⟩, h⟩
      exact h

/-- A chain fails with its first call, or with the rest from there. -/
theorem bind_eq_error {x : ExceptT ε (StateM σ) α} {f : α → ExceptT ε (StateM σ) β} {e : ε} :
    outcome (x >>= f) s = (.error e, s') ↔ outcome x s = (.error e, s') ∨
      ∃ a t, outcome x s = (.ok a, t) ∧ outcome (f a) t = (.error e, s') := by
  rw [outcome_bind]
  rcases outcome x s with ⟨e' | a, t⟩
  · simp
  · simp only [Prod.mk.injEq, reduceCtorEq, false_and, Except.ok.injEq, false_or]
    constructor
    · intro h
      exact ⟨a, t, ⟨rfl, rfl⟩, h⟩
    · rintro ⟨_, _, ⟨rfl, rfl⟩, h⟩
      exact h

/-! ## States before and after -/

/-- Wherever a call starts, and however it ends, the state it leaves is related to the one it
found. -/
def Within (R : σ → σ → Prop) (x : ExceptT ε (StateM σ) α) : Prop := ∀ s, R s (outcome x s).2

section

variable {R : σ → σ → Prop} {x : ExceptT ε (StateM σ) α} {f : α → ExceptT ε (StateM σ) β}

theorem Within.pure (hrefl : ∀ s, R s s) (a : α) :
    Within R (pure a : ExceptT ε (StateM σ) α) := hrefl

theorem Within.throw (hrefl : ∀ s, R s s) (e : ε) :
    Within R (throw e : ExceptT ε (StateM σ) α) := hrefl

theorem Within.throw_bind (hrefl : ∀ s, R s s) (e : ε) :
    Within R ((MonadExcept.throw e : ExceptT ε (StateM σ) α) >>= f) := hrefl

theorem Within.modify {g : σ → σ} (h : ∀ s, R s (g s)) :
    Within R (modify g : ExceptT ε (StateM σ) PUnit) := h

theorem Within.get_bind {f : σ → ExceptT ε (StateM σ) β} (h : ∀ s, R s (outcome (f s) s).2) :
    Within R (get >>= f) := h

theorem Within.mono {R' : σ → σ → Prop} (hR : ∀ {s t}, R s t → R' s t) (hx : Within R x) :
    Within R' x := fun s => hR (hx s)

/-- **A chain of calls** is related as its calls are. -/
theorem Within.bind (htrans : ∀ {s t u}, R s t → R t u → R s u) (hx : Within R x)
    (hf : ∀ a, Within R (f a)) : Within R (x >>= f) := by
  intro s
  have hs := hx s
  rw [outcome_bind]
  rcases hend : outcome x s with ⟨e | a, t⟩
  · rw [hend] at hs
    exact hs
  · rw [hend] at hs
    exact htrans hs (hf a t)

end

end Workflow.Calls
