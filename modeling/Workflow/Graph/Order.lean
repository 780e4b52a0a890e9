/-!
# Orders of a graph

A graph here is a list of edges between numbers, oldest edge first.

* `reachable` lists what can be reached from some vertices.
* `finishOrder` searches depth first and lists the vertices so that each stands before all that it
  has an edge to, unless the graph has a cycle.
* `isOrder` checks a list of vertices against the edges.
-/

namespace Workflow.Order

/-- An edge from a vertex that comes first to one that comes after it. -/
abbrev Edge := Nat × Nat

/-- Fewer members satisfy the stronger of two conditions, if one member tells them apart. -/
theorem countP_lt_countP {α : Type} {p q : α → Bool} {l : List α}
    (sub : ∀ x, q x = true → p x = true) {a : α} (ha : a ∈ l) (hp : p a = true)
    (hq : q a = false) : l.countP q < l.countP p := by
  induction l with
  | nil => simp at ha
  | cons b rest ih =>
    have mono : rest.countP q ≤ rest.countP p := List.countP_mono_left fun x _ => sub x
    simp only [List.countP_cons]
    rcases List.mem_cons.1 ha with rfl | ha
    · simp only [hp, hq, if_true]
      simp only [Bool.false_eq_true, if_false]
      omega
    · have := ih ha
      by_cases hb : q b = true
      · simp only [hb, sub b hb, if_true]
        omega
      · have hb : q b = false := by simpa using hb
        simp only [hb, Bool.false_eq_true, if_false]
        omega

/-! ## Reachability -/

/-- The targets outside `seen` of edges that leave it. -/
def frontier (edges : List Edge) (seen : List Nat) : List Nat :=
  (edges.filter fun e => seen.contains e.1 && !seen.contains e.2).map (·.2)

/-- How many edges lead to vertices outside `seen`. -/
def unseenTargets (edges : List Edge) (seen : List Nat) : Nat :=
  edges.countP fun e => !seen.contains e.2

theorem unseenTargets_lt (edges : List Edge) (seen : List Nat) (h : frontier edges seen ≠ []) :
    unseenTargets edges (frontier edges seen ++ seen) < unseenTargets edges seen := by
  obtain ⟨v, hv⟩ := List.exists_mem_of_ne_nil _ h
  have hv' := hv
  simp only [frontier, List.mem_map, List.mem_filter, Bool.and_eq_true, Bool.not_eq_true'] at hv'
  obtain ⟨e, ⟨he, -, hout⟩, rfl⟩ := hv'
  refine countP_lt_countP (fun e => ?_) he (by simp only [hout, Bool.not_false]) ?_
  · simp only [List.contains_append, Bool.not_or, Bool.and_eq_true]
    exact And.right
  · simp only [List.contains_append, Bool.not_or, Bool.and_eq_false_iff]
    exact Or.inl (by simpa using hv)

/-- All vertices that can be reached from `seen`, those of `seen` included. -/
def reachable (edges : List Edge) (seen : List Nat) : List Nat :=
  if _h : frontier edges seen = [] then seen
  else reachable edges (frontier edges seen ++ seen)
termination_by unseenTargets edges seen
decreasing_by exact unseenTargets_lt edges seen _h

/-- Whether a path of any length leads from one vertex to another. -/
def hasPath (edges : List Edge) (source target : Nat) : Bool :=
  (reachable edges [source]).contains target

/-! ## Depth-first search -/

/-- The targets of the edges of a vertex, oldest edge first. -/
def successors (edges : List Edge) (v : Nat) : List Nat :=
  (edges.filter fun e => e.1 == v).map (·.2)

/-- Where a search stands: the vertices met, and those done, the last one first. -/
structure Progress where
  discovered : List Nat
  finished : List Nat
deriving Inhabited

/-- Marks a vertex as done, unless it is. -/
def Progress.finish (p : Progress) (v : Nat) : Progress :=
  if p.finished.contains v then p else { p with finished := v :: p.finished }

/-- Works off a stack of vertices. A vertex met for the first time stays, below its unmet
successors; one met before is taken off and is done. -/
def search (edges : List Edge) (vertices : List Nat) (stack : List Nat) (p : Progress) : Progress :=
  match stack with
  | [] => p
  | v :: rest =>
    if _h : vertices.contains v && !p.discovered.contains v then
      let discovered := v :: p.discovered
      let unmet := (successors edges v).filter fun w => !discovered.contains w
      search edges vertices (unmet ++ v :: rest) { p with discovered }
    else search edges vertices rest (p.finish v)
termination_by (vertices.countP fun v => !p.discovered.contains v, stack.length)
decreasing_by
  · simp only [Bool.and_eq_true, List.contains_iff_mem] at _h
    refine Prod.Lex.left _ _ (countP_lt_countP (fun x => ?_) _h.1 _h.2 (by simp))
    simp only [List.contains_cons, Bool.not_or, Bool.and_eq_true]
    exact And.right
  · have same : (p.finish v).discovered = p.discovered := by
      unfold Progress.finish
      split <;> rfl
    rw [same]
    exact Prod.Lex.right _ (by simp)

/-- The vertices below `n`, by a search from each of them in turn, the last one done first. -/
def finishOrder (edges : List Edge) (n : Nat) : List Nat :=
  let vertices := List.range n
  let visit (p : Progress) (v : Nat) : Progress :=
    if p.discovered.contains v then p else search edges vertices [v] p
  (vertices.foldl visit ⟨[], []⟩).finished

/-- Whether every edge leads forward in a list of vertices. -/
def isOrder (edges : List Edge) (vertices : List Nat) : Bool :=
  edges.all fun e => vertices.idxOf e.1 < vertices.idxOf e.2

/-- Whether some vertices below `n` run in a circle. -/
def isCyclic (edges : List Edge) (n : Nat) : Bool := !isOrder edges (finishOrder edges n)

end Workflow.Order
