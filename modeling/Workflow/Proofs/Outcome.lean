import Mathlib.Data.List.Forall2

/-!
# Calls that may fail

When a chain of calls succeeds, each call of the chain has.

* `bind_eq_ok`, `map_eq_ok`: one call after another, and a function of a result.
* `mapError_eq_ok`: a function of the error.
* `mapM_eq_ok`: a call for each member of a list.
* `mapM_map`: results that are changed afterwards, each by its member.
-/

namespace Workflow.Outcome

variable {ε α β : Type}

theorem bind_eq_ok {x : Except ε α} {f : α → Except ε β} {b : β} :
    (x >>= f) = .ok b ↔ ∃ a, x = .ok a ∧ f a = .ok b := by
  cases x with
  | error e => simp [bind, Except.bind]
  | ok a => simp [bind, Except.bind]

theorem map_eq_ok {x : Except ε α} {f : α → β} {b : β} :
    x.map f = .ok b ↔ ∃ a, x = .ok a ∧ f a = b := by
  cases x with
  | error e => simp [Except.map]
  | ok a => simp [Except.map]

theorem mapError_eq_ok {δ : Type} {x : Except ε α} {f : ε → δ} {a : α} :
    x.mapError f = .ok a ↔ x = .ok a := by
  cases x with
  | error e => simp [Except.mapError]
  | ok b => simp [Except.mapError]

theorem pure_eq_ok {a b : α} : (pure a : Except ε α) = .ok b ↔ a = b := by
  simp [pure, Except.pure]

@[simp] theorem throw_eq_ok {e : ε} {a : α} : (throw e : Except ε α) = .ok a ↔ False := by
  simp [throw, throwThe, MonadExceptOf.throw]

/-- **A call for each member** succeeds if every one of them does, and the results stand in the
same order. -/
theorem mapM_eq_ok {f : α → Except ε β} {xs : List α} {ys : List β} :
    xs.mapM f = .ok ys ↔ List.Forall₂ (fun x y => f x = .ok y) xs ys := by
  induction xs generalizing ys with
  | nil => rw [List.mapM_nil, pure_eq_ok, List.forall₂_nil_left_iff, eq_comm]
  | cons x xs ih =>
    rw [List.mapM_cons, bind_eq_ok, List.forall₂_cons_left_iff]
    constructor
    · rintro ⟨y, hy, h⟩
      obtain ⟨rest, hrest, h⟩ := bind_eq_ok.1 h
      exact ⟨y, rest, hy, ih.1 hrest, (pure_eq_ok.1 h).symm⟩
    · rintro ⟨y, rest, hy, hrest, rfl⟩
      exact ⟨y, hy, bind_eq_ok.2 ⟨rest, ih.2 hrest, rfl⟩⟩

/-- Calls that succeed under a condition, all with the result of one function. -/
theorem mapM_eq_ok_iff {f : α → Except ε β} {p : α → Prop} {g : α → β}
    (hf : ∀ x y, f x = .ok y ↔ p x ∧ g x = y) {xs : List α} {ys : List β} :
    xs.mapM f = .ok ys ↔ (∀ x ∈ xs, p x) ∧ xs.map g = ys := by
  have hrel : (fun x y => f x = .ok y) = fun x y => p x ∧ g x = y :=
    funext fun x => funext fun y => propext (hf x y)
  rw [mapM_eq_ok, hrel, List.forall₂_and_left, ← List.forall₂_map_left_iff (R := Eq) (f := g),
    List.forall₂_eq_eq_eq]

/-- Results changed by a function of their members can as well be changed after all the calls. -/
theorem mapM_map {f f' : α → Except ε β} {change : α → β → β}
    (h : ∀ x, f' x = (f x).map (change x)) (xs : List α) :
    xs.mapM f' = (xs.mapM f).map (List.zipWith change xs) := by
  induction xs with
  | nil => rfl
  | cons x xs ih =>
    rw [List.mapM_cons, List.mapM_cons, h x, ih]
    cases f x with
    | error e => rfl
    | ok y => cases xs.mapM f <;> rfl

end Workflow.Outcome
