import Mathlib.Logic.Relation
import Mathlib.Tactic.ByContra
import Mathlib.Tactic.Set
import Workflow.Graph.Order

/-!
# Paths along edges

* `hasPath_iff`: the search for a path answers whether the edges lead from one vertex to another.
* `acyclic_append`: an edge whose target does not lead back to its source closes no circle.
* `acyclic_append_fresh`: neither do edges to a vertex that no edge touches yet.
-/

namespace Workflow.Order

open Relation

variable {edges : List Edge}

/-- One vertex comes right before another. -/
def Leads (edges : List Edge) (a b : Nat) : Prop := (a, b) ∈ edges

/-- No path along the edges returns to where it started. -/
def Acyclic (edges : List Edge) : Prop := ∀ v, ¬ TransGen (Leads edges) v v

theorem mem_frontier {seen : List Nat} {v : Nat} :
    v ∈ frontier edges seen ↔ (∃ u ∈ seen, Leads edges u v) ∧ v ∉ seen := by
  simp only [frontier, List.mem_map, List.mem_filter, Bool.and_eq_true, List.contains_iff_mem,
    Bool.not_eq_true', Leads]
  constructor
  · rintro ⟨⟨u, w⟩, ⟨he, hu, hw⟩, rfl⟩
    exact ⟨⟨u, hu, he⟩, by simpa using hw⟩
  · rintro ⟨⟨u, hu, he⟩, hv⟩
    exact ⟨(u, v), ⟨he, hu, by simpa using hv⟩, rfl⟩

/-- Everything listed can be reached from where the search started. -/
theorem reachable_sound {seen : List Nat} {v : Nat} (hv : v ∈ reachable edges seen) :
    ∃ u ∈ seen, ReflTransGen (Leads edges) u v := by
  induction seen using reachable.induct edges with
  | case1 seen hstop =>
    rw [reachable, dif_pos hstop] at hv
    exact ⟨v, hv, .refl⟩
  | case2 seen hgo ih =>
    rw [reachable, dif_neg hgo] at hv
    obtain ⟨u, hu, huv⟩ := ih hv
    rcases List.mem_append.1 hu with hu | hu
    · -- `u` is one edge away from a vertex seen before
      obtain ⟨⟨w, hw, hwu⟩, -⟩ := mem_frontier.1 hu
      exact ⟨w, hw, .head hwu huv⟩
    · exact ⟨u, hu, huv⟩

theorem subset_reachable (seen : List Nat) : seen ⊆ reachable edges seen := by
  induction seen using reachable.induct edges with
  | case1 seen hstop => rw [reachable, dif_pos hstop]; exact List.Subset.refl _
  | case2 seen hgo ih =>
    rw [reachable, dif_neg hgo]
    exact List.Subset.trans (List.subset_append_right _ _) ih

/-- What is listed is closed under edges. -/
theorem reachable_closed (seen : List Nat) {u v : Nat} (hu : u ∈ reachable edges seen)
    (huv : Leads edges u v) : v ∈ reachable edges seen := by
  induction seen using reachable.induct edges with
  | case1 seen hstop =>
    rw [reachable, dif_pos hstop] at hu ⊢
    by_contra hv
    -- the search stopped with nothing left to add
    have : v ∈ frontier edges seen := mem_frontier.2 ⟨⟨u, hu, huv⟩, hv⟩
    rw [hstop] at this
    exact absurd this (by simp)
  | case2 seen hgo ih =>
    rw [reachable, dif_neg hgo] at hu ⊢
    exact ih hu

/-- **The search for a path is exact.** -/
theorem hasPath_iff {a b : Nat} : hasPath edges a b = true ↔ ReflTransGen (Leads edges) a b := by
  rw [hasPath, List.contains_iff_mem]
  constructor
  · intro h
    obtain ⟨u, hu, hub⟩ := reachable_sound h
    rw [List.mem_singleton.1 hu] at hub
    exact hub
  · intro h
    induction h with
    | refl => exact subset_reachable [a] (by simp)
    | tail _ hbc ih => exact reachable_closed [a] ih hbc

/-! ## Growing without circles -/

theorem acyclic_nil : Acyclic [] := by
  intro v hv
  obtain ⟨u, -, hu⟩ := TransGen.tail'_iff.1 hv
  exact absurd hu (by simp [Leads])

/-- A path along one more edge either does without it, or goes to its source and on from its
target. -/
theorem transGen_append {a b s t : Nat} (h : TransGen (Leads (edges ++ [(s, t)])) a b) :
    TransGen (Leads edges) a b ∨
      ReflTransGen (Leads edges) a s ∧ ReflTransGen (Leads edges) t b := by
  have hstep : ∀ {u v : Nat}, Leads (edges ++ [(s, t)]) u v →
      Leads edges u v ∨ u = s ∧ v = t := by
    intro u v huv
    simpa [Leads] using huv
  -- a path may use the new edge many times; only its last use counts
  induction h with
  | single hab =>
    rcases hstep hab with hab | ⟨rfl, rfl⟩
    · exact .inl (.single hab)
    · exact .inr ⟨.refl, .refl⟩
  | tail _ hbc ih =>
    rcases hstep hbc with hbc | ⟨rfl, rfl⟩
    · rcases ih with ih | ⟨has, htb⟩
      · exact .inl (ih.tail hbc)
      · exact .inr ⟨has, htb.tail hbc⟩
    · rcases ih with ih | ⟨has, -⟩
      · exact .inr ⟨ih.to_reflTransGen, .refl⟩
      · exact .inr ⟨has, .refl⟩

/-- **One more edge closes no circle** unless its target leads back to its source. -/
theorem acyclic_append {s t : Nat} (hac : Acyclic edges)
    (hst : ¬ ReflTransGen (Leads edges) t s) : Acyclic (edges ++ [(s, t)]) := by
  intro v hv
  rcases transGen_append hv with h | ⟨hvs, htv⟩
  · exact hac v h
  · exact hst (htv.trans hvs)

/-- The same the other way round: an edge whose target leads back to its source closes a circle. -/
theorem acyclic_append_iff {s t : Nat} : Acyclic (edges ++ [(s, t)]) ↔
    Acyclic edges ∧ ¬ ReflTransGen (Leads edges) t s := by
  have hmono : ∀ u v, Leads edges u v → Leads (edges ++ [(s, t)]) u v :=
    fun _ _ huv => List.mem_append_left _ huv
  constructor
  · intro hac
    refine ⟨fun v hv => hac v (TransGen.mono hmono v v hv), fun hback => hac s ?_⟩
    exact .head' (List.mem_append_right _ (List.mem_singleton.2 rfl))
      (ReflTransGen.mono hmono t s hback)
  · rintro ⟨hac, hst⟩
    exact acyclic_append hac hst

/-- **Edges to a new vertex close no circle.** No edge touches `n` yet. -/
theorem acyclic_append_fresh {n : Nat} {sources : List Nat} (hac : Acyclic edges)
    (hedges : ∀ e ∈ edges, e.1 < n ∧ e.2 < n) (hsources : ∀ s ∈ sources, s < n) :
    Acyclic (edges ++ sources.map (·, n)) := by
  have hstep : ∀ {u v : Nat}, Leads (edges ++ sources.map (·, n)) u v →
      Leads edges u v ∨ u < n ∧ v = n := by
    intro u v huv
    simp only [Leads, List.mem_append, List.mem_map, Prod.mk.injEq] at huv
    rcases huv with huv | ⟨s, hs, rfl, rfl⟩
    · exact .inl huv
    · exact .inr ⟨hsources s hs, rfl⟩
  -- a path that enters `n` ends there
  have hpath : ∀ {u v : Nat}, TransGen (Leads (edges ++ sources.map (·, n))) u v →
      TransGen (Leads edges) u v ∨ u < n ∧ v = n := by
    intro u v huv
    induction huv with
    | single huv =>
      rcases hstep huv with huv | huv
      · exact .inl (.single huv)
      · exact .inr huv
    | @tail v w _ hvw ih =>
      rcases hstep hvw with hold | ⟨hvn, rfl⟩
      · rcases ih with ih | ⟨-, rfl⟩
        · exact .inl (ih.tail hold)
        · exact absurd (hedges (v, w) hold).1 (Nat.lt_irrefl v)
      · rcases ih with ih | ⟨-, hvn'⟩
        · obtain ⟨x, hux, -⟩ := TransGen.head'_iff.1 ih
          exact .inr ⟨(hedges _ hux).1, rfl⟩
        · exact absurd hvn' (Nat.ne_of_lt hvn)
  intro v hv
  rcases hpath hv with h | ⟨hlt, heq⟩
  · exact hac v h
  · exact absurd heq (Nat.ne_of_lt hlt)

end Workflow.Order
