import Mathlib.Order.Bounds.Basic
import Workflow.Proofs.Graph.Handles

/-!
# Generated ids

The search for a generated id has no bound: it goes from number to number until an id is free. Any
names may have been chosen or given by overrides before, so any numbers may be taken.

* `Graph.Finds`: the search, with the number it ends at and how many numbers it tried.
* `Finds.isLeast`, `isLeast_of_freshNumber?`: where it ends is the least free number, and so is
  `freshNumber?`.
* `finds_of_freshNumber?`: it ends, after one number more than there are nodes at the latest.
* `addNode_numbered`: a new node gets the id of that number, and only a missing producer stops it.
-/

namespace Workflow

variable {g : Graph} {k l n : Nat}

namespace Graph

/-! ## The search -/

/-- The search from the number `k` on. It ends at a number whose id is free and goes on from one whose
id is taken; it ends at `l`, which is the `n`-th number it tries. -/
inductive Finds (g : Graph) : Nat → Nat → Nat → Prop where
  | free {k : Nat} (h : g.hasId (generatedId k) = false) : g.Finds k k 1
  | taken {k l n : Nat} (h : g.hasId (generatedId k) = true) (rest : g.Finds (k + 1) l n) :
      g.Finds k l (n + 1)

/-- No node has the id of the number. -/
def IsFree (g : Graph) (k : Nat) : Prop := ∀ node ∈ g.nodes, node.id ≠ generatedId k

theorem isFree_iff : g.IsFree k ↔ g.hasId (generatedId k) = false := by
  simp [IsFree, hasId]

/-- The numbers tried are those from the first to the last. -/
theorem Finds.tried (h : g.Finds k l n) : l + 1 = k + n := by
  induction h with
  | free => rfl
  | taken _ _ ih => omega

/-- **The search ends at the least free number** from where it starts. -/
theorem Finds.isLeast (h : g.Finds k l n) : IsLeast {m | k ≤ m ∧ g.IsFree m} l := by
  induction h with
  | free hfree => exact ⟨⟨Nat.le_refl _, isFree_iff.2 hfree⟩, fun m hm => hm.1⟩
  | taken htaken _ ih =>
    refine ⟨⟨Nat.le_of_succ_le ih.1.1, ih.1.2⟩, fun m hm => ih.2 ⟨?_, hm.2⟩⟩
    -- a free number is not the one that was tried first
    refine Nat.lt_of_le_of_ne hm.1 ?_
    rintro rfl
    rw [isFree_iff.1 hm.2] at htaken
    cases htaken

/-- A search that meets a free number ends. -/
theorem exists_finds_of_isFree {d : Nat} :
    ∀ {k : Nat}, g.IsFree (k + d) → ∃ l n, g.Finds k l n := by
  -- each number tried brings the search nearer to the free one, unless it is free itself
  induction d with
  | zero => exact fun hfree => ⟨_, _, .free (isFree_iff.1 hfree)⟩
  | succ d ih =>
    intro k hfree
    cases htaken : g.hasId (generatedId k) with
    | false => exact ⟨k, 1, .free htaken⟩
    | true =>
      obtain ⟨l, n, hrest⟩ := ih (k := k + 1) (by rwa [Nat.add_right_comm])
      exact ⟨l, n + 1, .taken htaken hrest⟩

theorem isLeast_of_freshNumber? (h : g.freshNumber? = some k) :
    IsLeast {m | g.size ≤ m ∧ g.IsFree m} k := by
  obtain ⟨-, hmem, hbelow⟩ := List.find?_range'_eq_some.1 h
  refine ⟨⟨(List.mem_range'_1.1 hmem).1, isFree_iff.2 (hasId_of_freshNumber? h)⟩, fun m hm => ?_⟩
  by_contra hlt
  have htaken := hbelow m hm.1 (Nat.lt_of_not_le hlt)
  rw [isFree_iff.1 hm.2] at htaken
  cases htaken

/-- **The search ends where `freshNumber?` says**, after one number more than there are nodes at the
latest. -/
theorem finds_of_freshNumber? (h : g.freshNumber? = some k) :
    ∃ n, g.Finds g.size k n ∧ n ≤ g.size + 1 := by
  have hleast := isLeast_of_freshNumber? h
  have hfree : g.IsFree (g.size + (k - g.size)) := by
    rw [Nat.add_sub_cancel' hleast.1.1]
    exact hleast.1.2
  obtain ⟨l, n, hfinds⟩ := exists_finds_of_isFree hfree
  obtain rfl := hfinds.isLeast.unique hleast
  have htried := hfinds.tried
  have hle := freshNumber?_le h
  exact ⟨n, hfinds, by omega⟩

/-! ## New nodes -/

/-- **A node under any id** is added when its producers exist, and refused for the first one that does
not. -/
theorem insert_cases (g : Graph) (id : String) (entity : Nat) (metadata : NodeMetadata)
    (bindings : List (Binding Promise)) :
    (∃ h, (∃ b ∈ bindings, ∃ p ∈ b.data.references, p.node = h) ∧ g.node? h = none ∧
      g.insert id entity metadata bindings = .error (.nodeNotFound h)) ∨
    ∃ edges, g.insert id entity metadata bindings =
      .ok (⟨g.nodes ++ [.ofBindings g.size id entity metadata bindings], edges⟩, g.size) := by
  cases hunknown : g.firstUnknown? (bindings.flatMap fun b => b.data.references.map (·.node)) with
  | some h =>
    refine .inl ⟨h, ?_, ?_, insert_of_unknown hunknown⟩
    · simpa using List.mem_of_find?_eq_some hunknown
    · exact List.getElem?_eq_none (le_of_firstUnknown? hunknown)
  | none =>
    refine .inr ⟨_, insert_eq_ok.2 ⟨fun d hd => ?_, rfl, rfl⟩⟩
    rw [← firstUnknown?_producers] at hunknown
    simpa using List.find?_eq_none.1 hunknown d hd

end Graph

namespace Workspace

/-- **A new node always gets a generated id.** Whatever ids the nodes of a graph were given, the
search from their number on ends after one number more than there are nodes at the latest, at the
least number whose id no node has. A node whose producers exist is added with that id, after all
others. Whatever its producers, it is not refused for a value, so the search is never given up. -/
theorem addNode_numbered (w : Workspace) (i : Nat) :
    let g := w.graph i
    ∃ k n, g.Finds g.size k n ∧ n ≤ g.size + 1 ∧
      IsLeast {m | g.size ≤ m ∧ ∀ node ∈ g.nodes, node.id ≠ Graph.generatedId m} k ∧
      (Graph.generatedId k).toList = 'n' :: Nat.toDigits 10 k ∧
      ∀ (entity : Nat) (bindings : List (Binding Promise)),
        ((∀ b ∈ bindings, ∀ p ∈ b.data.references, (g.node? p.node).isSome) →
          ∃ g' node, w.addNode i none entity bindings = .ok (w.setGraph i g', g.size) ∧
            g'.nodes = g.nodes ++ [node] ∧ node.handle = g.size ∧
            node.id = Graph.generatedId k) ∧
        ∀ text, w.addNode i none entity bindings ≠ .error (.invalidValue text) := by
  intro g
  obtain ⟨k, hk⟩ := g.freshNumber?_eq_some
  obtain ⟨n, hfinds, hn⟩ := Graph.finds_of_freshNumber? hk
  refine ⟨k, n, hfinds, hn, hfinds.isLeast, Graph.toList_generatedId k, fun entity bindings => ?_⟩
  rw [addNode_of_freshNumber? hk]
  -- with an id at hand, a node is refused for its producers alone
  obtain ⟨h, ⟨b, hb, p, hp, rfl⟩, hnone, herror⟩ | ⟨edges, hok⟩ :=
    g.insert_cases (Graph.generatedId k) entity (w.entity entity).metadata bindings
  · rw [herror]
    refine ⟨fun hexist => ?_, fun text htext => ?_⟩
    · have hsome := hexist b hb p hp
      rw [hnone] at hsome
      cases hsome
    · cases htext
  · rw [hok]
    exact ⟨fun _ => ⟨_, _, rfl, rfl, rfl, rfl⟩, fun text htext => nomatch htext⟩

/-- Two ids that stand in the way of the third node: one was chosen, the other given. -/
def crowdedEdits : List Edit :=
  [.add 0 none 0 [], .add 0 (some "N2") 0 [],
    .override 0 0 { nodeName := some (.value "n3") }]

/-- In a graph of two nodes both ids in front of the search are taken, and the third number it tries
is free. -/
theorem addNode_numbered_crowded :
    let w := (ofEntities [default]).run crowdedEdits
    let bindings := [Binding.mk "x" (.collection [.reference ⟨0, "o"⟩, .reference ⟨1, "o"⟩])]
    (w.graph 0).nodes.map (·.id) = ["n3", "n2"] ∧
      (∀ b ∈ bindings, ∀ p ∈ b.data.references, ((w.graph 0).node? p.node).isSome) ∧
      (w.graph 0).Finds 2 4 3 ∧
      ∃ g' node, w.addNode 0 none 0 bindings = .ok (w.setGraph 0 g', 2) ∧
        g'.nodes = (w.graph 0).nodes ++ [node] ∧ node.handle = 2 ∧ node.id = "n4" := by
  intro w bindings
  have hids : (w.graph 0).nodes.map (·.id) = ["n3", "n2"] := by decide +kernel
  have hsize : (w.graph 0).size = 2 := by decide +kernel
  have hexist : ∀ b ∈ bindings, ∀ p ∈ b.data.references, ((w.graph 0).node? p.node).isSome := by
    decide +kernel
  obtain ⟨k, n, hfinds, -, hleast, -, hadds⟩ := addNode_numbered w 0
  rw [hsize] at hfinds
  have hthird : (w.graph 0).Finds 2 4 3 := by
    refine .taken ?_ (.taken ?_ (.free ?_)) <;> decide +kernel
  obtain rfl : k = 4 := hfinds.isLeast.unique hthird.isLeast
  obtain ⟨g', node, hok, hnodes, hhandle, hid⟩ := (hadds 0 bindings).1 hexist
  rw [hsize] at hok hhandle
  exact ⟨hids, hexist, hthird, g', node, hok, hnodes, hhandle, hid⟩

end Workspace

end Workflow
