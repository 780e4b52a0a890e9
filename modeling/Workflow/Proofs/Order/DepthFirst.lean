import Workflow.Proofs.Order.Reachability

/-!
# The finishing order of a depth-first search

A vertex is *open* while it is met and not done. `Tidy` says what the done vertices look like at any
moment, `Search` what the stack looks like besides: open vertices are on it, and what stands above
an open vertex is reached from it.

* `search_tidy`: the search ends with all it met done, if no path is a circle.
* `finishOrder_perm`, `isOrder_finishOrder`: every vertex is listed once, and every edge leads
  forward in the list.
-/

namespace Workflow.Order

open Relation

variable {edges : List Edge} {n : Nat} {p : Progress}

/-- The part of a stack above the first place of a vertex. -/
def above (stack : List Nat) (v : Nat) : List Nat := stack.takeWhile (· != v)

theorem above_cons_self (v : Nat) (stack : List Nat) : above (v :: stack) v = [] := by
  simp [above]

theorem above_cons_ne {u v : Nat} (h : u ≠ v) (stack : List Nat) :
    above (u :: stack) v = u :: above stack v := by
  simp [above, h]

theorem mem_above_cons {u v w : Nat} {stack : List Nat} (h : u ≠ v) :
    w ∈ above (u :: stack) v ↔ w = u ∨ w ∈ above stack v := by
  rw [above_cons_ne h, List.mem_cons]

theorem above_append {front : List Nat} {v : Nat} (h : v ∉ front) (stack : List Nat) :
    above (front ++ stack) v = front ++ above stack v := by
  refine List.takeWhile_append_of_pos fun x hx => ?_
  rw [bne_iff_ne]
  rintro rfl
  exact h hx

/-- A vertex that is met and not done. -/
def Progress.Open (p : Progress) (v : Nat) : Prop := v ∈ p.discovered ∧ v ∉ p.finished

/-- The done vertices of a search: closed under edges, and each before what it leads to. -/
structure Tidy (edges : List Edge) (n : Nat) (p : Progress) : Prop where
  below : ∀ v ∈ p.discovered, v < n
  met : ∀ v ∈ p.finished, v ∈ p.discovered
  nodup : p.finished.Nodup
  closed : ∀ v ∈ p.finished, ∀ w, Leads edges v w → w ∈ p.finished
  sorted : p.finished.Pairwise fun a b => ¬ Leads edges b a

/-- A search in progress. -/
structure Search (edges : List Edge) (n : Nat) (stack : List Nat) (p : Progress) : Prop
    extends Tidy edges n p where
  stack_lt : ∀ v ∈ stack, v < n
  on_stack : ∀ v, p.Open v → v ∈ stack
  /-- What an open vertex leads to is done or will be before it is. -/
  next : ∀ v, p.Open v → ∀ w, Leads edges v w → w ∈ p.finished ∨ w ∈ above stack v
  /-- What stands above an open vertex is reached from it. -/
  reached : ∀ v, p.Open v → ∀ w ∈ above stack v, TransGen (Leads edges) v w

theorem mem_successors {v w : Nat} : w ∈ successors edges v ↔ Leads edges v w := by
  simp only [successors, List.mem_map, List.mem_filter, beq_iff_eq, Leads]
  constructor
  · rintro ⟨⟨a, b⟩, ⟨he, rfl⟩, rfl⟩
    exact he
  · intro he
    exact ⟨(v, w), ⟨he, rfl⟩, rfl⟩

/-! ## The steps of a search -/

/-- **A vertex is met.** Its successors are pushed above it. -/
theorem Search.meet (hac : Acyclic edges) (hedges : ∀ e ∈ edges, e.2 < n) {v : Nat}
    {rest : List Nat} (hs : Search edges n (v :: rest) p) (hv : v ∉ p.discovered) :
    Search edges n
      ((successors edges v).filter (fun w => !(v :: p.discovered).contains w) ++ v :: rest)
      { p with discovered := v :: p.discovered } := by
  set unmet := (successors edges v).filter fun w => !(v :: p.discovered).contains w with hunmet
  have hvn : v < n := hs.stack_lt v (by simp)
  have hmem : ∀ w, w ∈ unmet ↔ Leads edges v w ∧ w ≠ v ∧ w ∉ p.discovered := by
    intro w
    rw [hunmet, List.mem_filter, mem_successors]
    simp
  -- a vertex that was open before lies below `v` on the stack
  have hold : ∀ g, p.Open g → g ≠ v ∧ g ∉ unmet := by
    intro g hg
    refine ⟨?_, fun hgu => ((hmem g).1 hgu).2.2 hg.1⟩
    rintro rfl
    exact hv hg.1
  have hcases : ∀ g, Progress.Open { p with discovered := v :: p.discovered } g →
      g = v ∨ p.Open g := by
    intro g hg
    rcases List.mem_cons.1 hg.1 with h | h
    · exact .inl h
    · exact .inr ⟨h, hg.2⟩
  have hvu : v ∉ unmet := fun h => ((hmem v).1 h).2.1 rfl
  refine ⟨⟨?_, ?_, hs.nodup, hs.closed, hs.sorted⟩, ?_, ?_, ?_, ?_⟩
  · intro w hw
    rcases List.mem_cons.1 hw with rfl | hw
    · exact hvn
    · exact hs.below w hw
  · intro w hw
    exact List.mem_cons_of_mem _ (hs.met w hw)
  · intro w hw
    rcases List.mem_append.1 hw with hw | hw
    · exact hedges (v, w) ((hmem w).1 hw).1
    · exact hs.stack_lt w hw
  · intro g hg
    rcases hcases g hg with rfl | hg
    · simp
    · exact List.mem_append_right _ (hs.on_stack g hg)
  · intro g hg w hgw
    rcases hcases g hg with rfl | hg
    · rw [above_append hvu, above_cons_self, List.append_nil, hmem]
      by_cases hw : w ∈ p.discovered
      · by_cases hwf : w ∈ p.finished
        · exact .inl hwf
        · -- `w` is open, so it leads to `g`, which leads back to it
          have hwo : p.Open w := ⟨hw, hwf⟩
          have hab : g ∈ above (g :: rest) w :=
            (mem_above_cons (hold w hwo).1.symm).2 (.inl rfl)
          exact absurd ((hs.reached w hwo g hab).tail hgw) (hac w)
      · refine .inr ⟨hgw, ?_, hw⟩
        rintro rfl
        exact hac w (.single hgw)
    · rw [above_append (hold g hg).2]
      rcases hs.next g hg w hgw with h | h
      · exact .inl h
      · exact .inr (List.mem_append_right _ h)
  · intro g hg w hw
    rcases hcases g hg with rfl | hg
    · rw [above_append hvu, above_cons_self, List.append_nil] at hw
      exact .single ((hmem w).1 hw).1
    · rw [above_append (hold g hg).2] at hw
      rcases List.mem_append.1 hw with hw | hw
      · have hab : v ∈ above (v :: rest) g := (mem_above_cons (hold g hg).1.symm).2 (.inl rfl)
        exact (hs.reached g hg v hab).tail ((hmem w).1 hw).1
      · exact hs.reached g hg w hw

/-- A vertex done already is taken off, and nothing else changes. -/
theorem Search.drop {v : Nat} {rest : List Nat} (hs : Search edges n (v :: rest) p)
    (hdone : v ∈ p.finished) : Search edges n rest p := by
  have hne : ∀ g, p.Open g → v ≠ g := by
    rintro g hg rfl
    exact hg.2 hdone
  refine ⟨hs.toTidy, fun w hw => hs.stack_lt w (List.mem_cons_of_mem _ hw), ?_, ?_, ?_⟩
  · intro g hg
    exact List.mem_of_ne_of_mem (hne g hg).symm (hs.on_stack g hg)
  · intro g hg w hgw
    rcases hs.next g hg w hgw with h | h
    · exact .inl h
    · rcases (mem_above_cons (hne g hg)).1 h with rfl | h
      · exact .inl hdone
      · exact .inr h
  · intro g hg w hw
    exact hs.reached g hg w ((mem_above_cons (hne g hg)).2 (.inr hw))

/-- An open vertex on top of the stack is done: nothing stands above it, so all it leads to is. -/
theorem Search.close {v : Nat} {rest : List Nat} (hs : Search edges n (v :: rest) p)
    (hv : p.Open v) : Search edges n rest { p with finished := v :: p.finished } := by
  have hsucc : ∀ w, Leads edges v w → w ∈ p.finished := by
    intro w hvw
    rcases hs.next v hv w hvw with h | h
    · exact h
    · rw [above_cons_self] at h
      exact absurd h (by simp)
  have hopen : ∀ g, Progress.Open { p with finished := v :: p.finished } g →
      p.Open g ∧ v ≠ g := by
    intro g hg
    have hgv : g ≠ v ∧ g ∉ p.finished := by simpa using hg.2
    exact ⟨⟨hg.1, hgv.2⟩, hgv.1.symm⟩
  have htidy : Tidy edges n { p with finished := v :: p.finished } := by
    refine ⟨hs.below, ?_, List.nodup_cons.2 ⟨hv.2, hs.nodup⟩, ?_, ?_⟩
    · intro w hw
      rcases List.mem_cons.1 hw with rfl | hw
      · exact hv.1
      · exact hs.met w hw
    · intro w hw x hwx
      rcases List.mem_cons.1 hw with rfl | hw
      · exact List.mem_cons_of_mem _ (hsucc x hwx)
      · exact List.mem_cons_of_mem _ (hs.closed w hw x hwx)
    · exact List.pairwise_cons.2 ⟨fun w hw hwv => hv.2 (hs.closed w hw v hwv), hs.sorted⟩
  refine ⟨htidy, fun w hw => hs.stack_lt w (List.mem_cons_of_mem _ hw), ?_, ?_, ?_⟩
  · intro g hg
    obtain ⟨hgo, hne⟩ := hopen g hg
    exact List.mem_of_ne_of_mem hne.symm (hs.on_stack g hgo)
  · intro g hg w hgw
    obtain ⟨hgo, hne⟩ := hopen g hg
    rcases hs.next g hgo w hgw with h | h
    · exact .inl (List.mem_cons_of_mem _ h)
    · rcases (mem_above_cons hne).1 h with rfl | h
      · exact .inl List.mem_cons_self
      · exact .inr h
  · intro g hg w hw
    obtain ⟨hgo, hne⟩ := hopen g hg
    exact hs.reached g hgo w ((mem_above_cons hne).2 (.inr hw))

/-- **A vertex met before is taken off**, and is done. -/
theorem Search.leave {v : Nat} {rest : List Nat} (hs : Search edges n (v :: rest) p)
    (hv : v ∈ p.discovered) : Search edges n rest (p.finish v) := by
  unfold Progress.finish
  split
  · rename_i hdone
    exact hs.drop (List.contains_iff_mem.1 hdone)
  · rename_i hdone
    rw [List.contains_iff_mem] at hdone
    exact hs.close ⟨hv, hdone⟩

/-! ## Whole searches -/

theorem finish_discovered (p : Progress) (v : Nat) : (p.finish v).discovered = p.discovered := by
  unfold Progress.finish
  split <;> rfl

/-- **A search ends with all it met done.** It forgets nothing it met before. -/
theorem search_tidy (hac : Acyclic edges) (hedges : ∀ e ∈ edges, e.2 < n) {stack : List Nat}
    (hs : Search edges n stack p) :
    Tidy edges n (search edges (List.range n) stack p) ∧
      (∀ v, ¬ (search edges (List.range n) stack p).Open v) ∧
      ∀ v, v ∈ p.discovered ∨ v ∈ stack → v ∈ (search edges (List.range n) stack p).discovered := by
  -- `Search` is what every step keeps; on an empty stack nothing is open
  induction stack, p using search.induct edges (List.range n) with
  | case1 p =>
    rw [search]
    refine ⟨hs.toTidy, fun v hv => absurd (hs.on_stack v hv) (by simp), ?_⟩
    intro v hv
    simpa using hv
  | case2 p v rest hnew discovered unmet ih =>
    rw [search, dif_pos hnew]
    have hv : v ∉ p.discovered := by simpa using (Bool.and_eq_true_iff.1 hnew).2
    obtain ⟨h1, h2, h3⟩ := ih (hs.meet hac hedges hv)
    refine ⟨h1, h2, fun w hw => h3 w ?_⟩
    rcases hw with hw | hw
    · exact .inl (List.mem_cons_of_mem _ hw)
    · exact .inr (List.mem_append_right _ hw)
  | case3 p v rest hold ih =>
    rw [search, dif_neg hold]
    have hv : v ∈ p.discovered := by
      have hvn : v < n := hs.stack_lt v (by simp)
      simpa [hvn] using hold
    obtain ⟨h1, h2, h3⟩ := ih (hs.leave hv)
    refine ⟨h1, h2, fun w hw => h3 w ?_⟩
    rw [finish_discovered]
    rcases hw with hw | hw
    · exact .inl hw
    · rcases List.mem_cons.1 hw with rfl | hw
      · exact .inl hv
      · exact .inr hw

/-- One search from a vertex, unless it was met before. -/
def visit (edges : List Edge) (n : Nat) (p : Progress) (v : Nat) : Progress :=
  if p.discovered.contains v then p else search edges (List.range n) [v] p

theorem visit_tidy (hac : Acyclic edges) (hedges : ∀ e ∈ edges, e.2 < n) {v : Nat} (hv : v < n)
    (ht : Tidy edges n p) (ho : ∀ u, ¬ p.Open u) :
    Tidy edges n (visit edges n p v) ∧ (∀ u, ¬ (visit edges n p v).Open u) ∧
      ∀ u, u ∈ p.discovered ∨ u = v → u ∈ (visit edges n p v).discovered := by
  unfold visit
  split
  · rename_i hmet
    rw [List.contains_iff_mem] at hmet
    refine ⟨ht, ho, ?_⟩
    rintro u (hu | rfl)
    · exact hu
    · exact hmet
  · have hs : Search edges n [v] p :=
      ⟨ht, by simpa using hv, fun u hu => absurd hu (ho u), fun u hu => absurd hu (ho u),
        fun u hu => absurd hu (ho u)⟩
    obtain ⟨h1, h2, h3⟩ := search_tidy hac hedges hs
    exact ⟨h1, h2, fun u hu => h3 u (by simpa using hu)⟩

theorem foldl_visit_tidy (hac : Acyclic edges) (hedges : ∀ e ∈ edges, e.2 < n) :
    ∀ (vs : List Nat), (∀ v ∈ vs, v < n) → ∀ p, Tidy edges n p → (∀ u, ¬ p.Open u) →
      Tidy edges n (vs.foldl (visit edges n) p) ∧
        (∀ u, ¬ (vs.foldl (visit edges n) p).Open u) ∧
        ∀ u, u ∈ p.discovered ∨ u ∈ vs → u ∈ (vs.foldl (visit edges n) p).discovered := by
  intro vs
  induction vs with
  | nil => exact fun _ p ht ho => ⟨ht, ho, fun u hu => by simpa using hu⟩
  | cons v vs ih =>
    intro hvs p ht ho
    obtain ⟨h1, h2, h3⟩ := visit_tidy hac hedges (hvs v (by simp)) ht ho
    obtain ⟨h4, h5, h6⟩ := ih (fun u hu => hvs u (List.mem_cons_of_mem _ hu)) _ h1 h2
    refine ⟨h4, h5, fun u hu => h6 u ?_⟩
    rcases hu with hu | hu
    · exact .inl (h3 u (.inl hu))
    · rcases List.mem_cons.1 hu with rfl | hu
      · exact .inl (h3 u (.inr rfl))
      · exact .inr hu

/-- **All vertices are done in the end**, each before what it leads to. -/
theorem finishOrder_tidy (hac : Acyclic edges) (hedges : ∀ e ∈ edges, e.2 < n) :
    (finishOrder edges n).Nodup ∧ (∀ v, v ∈ finishOrder edges n ↔ v < n) ∧
      (finishOrder edges n).Pairwise fun a b => ¬ Leads edges b a := by
  have hstart : Tidy edges n ⟨[], []⟩ := ⟨by simp, by simp, by simp, by simp, by simp⟩
  obtain ⟨ht, ho, hmet⟩ := foldl_visit_tidy hac hedges (List.range n) (by simp) ⟨[], []⟩ hstart
    (fun u hu => by simpa using hu.1)
  change Tidy edges n _ at ht
  refine ⟨ht.nodup, fun v => ⟨fun hv => ht.below v (ht.met v hv), fun hv => ?_⟩, ht.sorted⟩
  by_contra hnot
  -- each root was met, so it would be open
  exact ho v ⟨hmet v (.inr (by simpa using hv)), hnot⟩

/-- **Every vertex is listed once.** -/
theorem finishOrder_perm (hac : Acyclic edges) (hedges : ∀ e ∈ edges, e.2 < n) :
    (finishOrder edges n).Perm (List.range n) := by
  obtain ⟨hnodup, hmem, -⟩ := finishOrder_tidy hac hedges
  refine (List.perm_ext_iff_of_nodup hnodup List.nodup_range).2 fun v => ?_
  rw [hmem, List.mem_range]

/-- In a list where no edge leads backward, an edge leads forward. -/
theorem idxOf_lt_idxOf {l : List Nat} {a b : Nat} (hac : Acyclic edges)
    (hsorted : l.Pairwise fun a b => ¬ Leads edges b a) (ha : a ∈ l) (hb : b ∈ l)
    (hab : Leads edges a b) : l.idxOf a < l.idxOf b := by
  have hia := List.idxOf_lt_length_of_mem ha
  have hib := List.idxOf_lt_length_of_mem hb
  rcases Nat.lt_trichotomy (l.idxOf a) (l.idxOf b) with h | h | h
  · exact h
  · have heq : a = b := by
      rw [← List.getElem_idxOf hia, ← List.getElem_idxOf hib]
      exact getElem_congr_idx h
    subst heq
    exact absurd (.single hab) (hac a)
  · have := List.pairwise_iff_getElem.1 hsorted _ _ hib hia h
    rw [List.getElem_idxOf, List.getElem_idxOf] at this
    exact absurd hab this

/-- **Every edge leads forward.** -/
theorem isOrder_finishOrder (hac : Acyclic edges) (hedges : ∀ e ∈ edges, e.1 < n ∧ e.2 < n) :
    isOrder edges (finishOrder edges n) = true := by
  obtain ⟨-, hmem, hsorted⟩ := finishOrder_tidy hac fun e he => (hedges e he).2
  rw [isOrder, List.all_eq_true]
  rintro ⟨a, b⟩ hab
  obtain ⟨ha, hb⟩ := hedges (a, b) hab
  exact decide_eq_true (idxOf_lt_idxOf hac hsorted ((hmem a).2 ha) ((hmem b).2 hb) hab)

/-- Two vertices that share a descendant, declared after it. -/
example : finishOrder [(1, 0), (2, 0), (2, 1)] 3 = [2, 1, 0] := by cbv

end Workflow.Order
