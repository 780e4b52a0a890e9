import Workflow.Proofs.Graph.Admission
import Workflow.Proofs.Graph.Ids
import Workflow.Proofs.Graph.Ordering

/-!
# Which handles are refused

Every call on a graph looks its handles up by position first. A position has 32 bits, so a handle
beyond them is looked up in the place of a smaller one, and `Knows` and `Refuses` go by positions. Up
to 2^32 handles are positions.

* `Graph.firstUnknown?`: the handle that a lookup error names.
* `Workspace.Knows`, `Workspace.Refuses`: what the calls on a graph make of a handle.
* `handles_decided`: each handle is known or refused, by its position.
* `not_refuses_wrapped`: a handle beyond 32 bits may be known, and lead to another node.
-/

namespace Workflow

variable {g : Graph} {h : Handle}

namespace Graph

/-- The first of some handles that is of no node. -/
def firstUnknown? (g : Graph) (handles : List Handle) : Option Handle :=
  handles.find? fun h => decide (g.size ≤ position h)

/-! ## Lookups -/

theorem check_of_lt (hlt : position h < g.size) : g.check h = .ok (position h) := if_pos hlt

theorem check_of_le (hle : g.size ≤ position h) : g.check h = .error (.nodeNotFound h) :=
  if_neg (Nat.not_lt.2 hle)

theorem firstUnknown?_cons (h : Handle) (handles : List Handle) :
    g.firstUnknown? (h :: handles) =
      if g.size ≤ position h then some h else g.firstUnknown? handles := by
  by_cases hle : g.size ≤ position h <;> simp [firstUnknown?, hle]

/-- **Lookups of several handles** stop at the first that is unknown. -/
theorem mapM_check (handles : List Handle) : handles.mapM g.check =
    match g.firstUnknown? handles with
    | some k => .error (.nodeNotFound k)
    | none => .ok (handles.map position) := by
  induction handles with
  | nil => rfl
  | cons h handles ih =>
    rw [List.mapM_cons, ih, firstUnknown?_cons]
    by_cases hle : g.size ≤ position h
    · rw [check_of_le hle, if_pos hle]
      rfl
    · rw [check_of_lt (Nat.lt_of_not_le hle), if_neg hle]
      cases g.firstUnknown? handles <;> rfl

theorem find?_addOnce (p : Handle → Bool) (handles uses : List Handle) (h : Handle) :
    (Node.addOnce handles h ++ uses).find? p = (handles ++ h :: uses).find? p := by
  unfold Node.addOnce
  split
  · rename_i hmem
    rw [List.contains_iff_mem] at hmem
    rw [List.find?_append, List.find?_append]
    cases hfound : handles.find? p with
    | some k => rfl
    | none =>
      -- a handle listed before is not the first to be found
      have hnot : p h = false := by simpa using List.find?_eq_none.1 hfound h hmem
      rw [Option.none_or, Option.none_or, List.find?_cons_of_neg (by simp [hnot])]
  · rw [List.append_assoc, List.singleton_append]

theorem find?_foldl_addOnce (p : Handle → Bool) (uses : List Handle) : ∀ handles : List Handle,
    (uses.foldl Node.addOnce handles).find? p = (handles ++ uses).find? p := by
  induction uses with
  | nil => simp
  | cons h uses ih =>
    intro handles
    rw [List.foldl_cons, ih, find?_addOnce]

/-- That each producer is listed once does not change which is the first unknown. -/
theorem firstUnknown?_producers (bindings : List (Binding Promise)) :
    g.firstUnknown? (Node.producers bindings) =
      g.firstUnknown? (bindings.flatMap fun b => b.data.references.map (·.node)) :=
  find?_foldl_addOnce _ _ []

theorem firstUnknown?_of_mem {handles : List Handle} (hh : h ∈ handles)
    (hle : g.size ≤ position h) : ∃ k, g.firstUnknown? handles = some k := by
  refine Option.isSome_iff_exists.1 (List.find?_isSome.2 ⟨h, hh, ?_⟩)
  exact decide_eq_true hle

theorem le_of_firstUnknown? {handles : List Handle} {k : Handle}
    (hk : g.firstUnknown? handles = some k) : g.size ≤ position k := by
  simpa using List.find?_some hk

/-! ## Calls -/

/-- **A new node** whose promises name an unknown handle is refused for the first of them. -/
theorem insert_of_unknown {id : String} {entity : Nat} {metadata : NodeMetadata}
    {bindings : List (Binding Promise)} {k : Handle}
    (hk : g.firstUnknown? (bindings.flatMap fun b => b.data.references.map (·.node)) = some k) :
    g.insert id entity metadata bindings = .error (.nodeNotFound k) := by
  have hchecks := g.mapM_check (Node.producers bindings)
  rw [firstUnknown?_producers, hk] at hchecks
  unfold insert
  simp only [Node.ofBindings, hchecks]
  rfl

/-- A lookup error of a new node names a handle that is unknown. -/
theorem insert_ne_of_known {id : String} {entity : Nat} {metadata : NodeMetadata}
    {bindings : List (Binding Promise)} (hlt : position h < g.size) :
    g.insert id entity metadata bindings ≠ .error (.nodeNotFound h) := by
  intro herror
  have hchecks := g.mapM_check (Node.producers bindings)
  unfold insert at herror
  simp only [Node.ofBindings, hchecks] at herror
  cases hk : g.firstUnknown? (Node.producers bindings) with
  | none =>
    rw [hk] at herror
    cases herror
  | some k =>
    rw [hk] at herror
    cases herror
    exact absurd (le_of_firstUnknown? hk) (Nat.not_le_of_lt hlt)

/-- **An ordering** with an unknown handle is refused for the first one. -/
theorem runsBefore_of_unknown {a b k : Handle} (hk : g.firstUnknown? [a, b] = some k) :
    g.runsBefore a b = .error (.nodeNotFound k) := by
  rw [firstUnknown?_cons] at hk
  -- the first handle is looked up before the second
  split at hk
  · rename_i ha
    cases hk
    rw [runsBefore, check_of_le ha]
    rfl
  · rename_i ha
    have hkb : k = b := List.mem_singleton.1 (List.mem_of_find?_eq_some hk)
    have hb : g.size ≤ position b := hkb ▸ le_of_firstUnknown? hk
    rw [hkb, runsBefore, check_of_lt (Nat.lt_of_not_le ha), check_of_le hb]
    rfl

theorem runsBefore_ne_of_known {a b : Handle} (hlt : position h < g.size) :
    g.runsBefore a b ≠ .error (.nodeNotFound h) := by
  intro herror
  cases hk : g.firstUnknown? [a, b] with
  | some k =>
    rw [runsBefore_of_unknown hk] at herror
    cases herror
    exact absurd (le_of_firstUnknown? hk) (Nat.not_le_of_lt hlt)
  | none =>
    have hknown := List.find?_eq_none.1 hk
    have ha : position a < g.size := by simpa using hknown a (by simp)
    have hb : position b < g.size := by simpa using hknown b (by simp)
    rw [runsBefore_of_exist ha hb] at herror
    split at herror
    · cases herror
    split at herror
    · cases herror
    · cases herror

/-- A chosen name that gives a free id. -/
def Admits (g : Graph) (name : String) : Prop :=
  (Label.ofName name).isEmpty = false ∧ g.hasId (Label.ofName name) = false

end Graph

/-! ## Handles of a workspace -/

namespace Workspace

variable {w : Workspace} {i : Nat} {name : Option String} {entity : Nat}
  {bindings : List (Binding Promise)}

/-- The calls on a graph find a handle: they may fail, but not for want of it. -/
structure Knows (w : Workspace) (i : Nat) (h : Handle) : Prop where
  node : ∃ node, (w.graph i).node? h = some node ∧ node.handle = Graph.position h
  output : ∀ var, (w.graph i).output h var = .ok ⟨h, var⟩
  override : ∀ o, w.override i h o ≠ .error (.nodeNotFound h)
  order : ∀ a b, w.runsBefore i a b ≠ .error (.nodeNotFound h)
  add : ∀ name entity bindings, w.addNode i name entity bindings ≠ .error (.nodeNotFound h)

/-- The calls on a graph refuse a handle, wherever it stands among those they are given. They name the
first that is unknown, and nothing changes. -/
structure Refuses (w : Workspace) (i : Nat) (h : Handle) : Prop where
  node : (w.graph i).node? h = none
  output : ∀ var, (w.graph i).output h var = .error (.nodeNotFound h)
  override : ∀ o, w.override i h o = .error (.nodeNotFound h) ∧ w.perform (.override i h o) = w
  order : ∀ a b, h = a ∨ h = b → ∃ k, (w.graph i).firstUnknown? [a, b] = some k ∧
    w.runsBefore i a b = .error (.nodeNotFound k) ∧ w.perform (.order i a b) = w
  add : ∀ name entity (bindings : List (Binding Promise)),
    (∀ text, name = some text → (w.graph i).Admits text) →
    (∃ b ∈ bindings, ∃ p ∈ b.data.references, p.node = h) →
    ∃ k, (w.graph i).firstUnknown? (bindings.flatMap fun b => b.data.references.map (·.node)) =
        some k ∧
      w.addNode i name entity bindings = .error (.nodeNotFound k) ∧
      w.perform (.add i name entity bindings) = w

/-- A new node without a name of its own is inserted under the id that is free. -/
theorem addNode_of_freshNumber? {k : Nat} (h : (w.graph i).freshNumber? = some k) (entity : Nat)
    (bindings : List (Binding Promise)) :
    w.addNode i none entity bindings =
      ((w.graph i).insert (Graph.generatedId k) entity (w.entity entity).metadata bindings).map
        fun r => (w.setGraph i r.1, r.2) := by
  simp only [addNode, Graph.addNode, h]
  rfl

/-- A new node is refused for its name, or it is inserted under some id. -/
theorem addNode_cases (w : Workspace) (i : Nat) (name : Option String) (entity : Nat)
    (bindings : List (Binding Promise)) :
    (∃ text, name = some text ∧ ¬ (w.graph i).Admits text ∧
      ∀ h, w.addNode i name entity bindings ≠ .error (.nodeNotFound h)) ∨
    ∃ id, w.addNode i name entity bindings =
      ((w.graph i).insert id entity (w.entity entity).metadata bindings).map
        fun r => (w.setGraph i r.1, r.2) := by
  cases name with
  | none =>
    obtain ⟨k, hk⟩ := (w.graph i).freshNumber?_eq_some
    exact .inr ⟨Graph.generatedId k, addNode_of_freshNumber? hk entity bindings⟩
  | some text =>
    by_cases hempty : (Label.ofName text).isEmpty = true
    · refine .inl ⟨text, rfl, fun hadmits => ?_, fun h herror => ?_⟩
      · rw [hadmits.1] at hempty
        cases hempty
      · simp only [addNode, Graph.addNodeWithId, if_pos hempty] at herror
        cases herror
    · by_cases hused : (w.graph i).hasId (Label.ofName text) = true
      · refine .inl ⟨text, rfl, fun hadmits => ?_, fun h herror => ?_⟩
        · rw [hadmits.2] at hused
          cases hused
        · simp only [addNode, Graph.addNodeWithId, if_neg hempty, if_pos hused] at herror
          cases herror
      · refine .inr ⟨Label.ofName text, ?_⟩
        simp only [addNode, Graph.addNodeWithId, if_neg hempty, if_neg hused]
        rfl

/-- What a call made of an unknown handle leaves. -/
theorem perform_of_error {e : Edit} {r : Except GraphError Workspace} {error : GraphError}
    (hperform : w.perform e = w.orSame r) (herror : r = .error error) : w.perform e = w := by
  rw [hperform, herror, orSame]

/-- **A handle at the position of a node is known.** -/
theorem knows_of_lt (hg : (w.graph i).Linked) {h : Handle}
    (hlt : Graph.position h < (w.graph i).size) : w.Knows i h := by
  have hnode : (w.graph i).node? h = some (w.graph i).nodes[Graph.position h] :=
    List.getElem?_eq_getElem hlt
  refine ⟨⟨_, hnode, hg.handle_eq _ _ hnode⟩, fun var => ?_, fun o => ?_, fun a b => ?_, ?_⟩
  · rw [Graph.output, Graph.check_of_lt hlt]
    rfl
  · -- a call on a node that exists fails for what it asks for
    intro herror
    have hkind := (override_outcome hnode o).2 _ herror
    rcases hkind.1 with hkind | ⟨hkind, -⟩
    · cases hkind
    · cases hkind
  · intro herror
    unfold runsBefore at herror
    cases hok : (w.graph i).runsBefore a b with
    | ok g =>
      rw [hok] at herror
      cases herror
    | error e =>
      rw [hok] at herror
      cases herror
      exact Graph.runsBefore_ne_of_known hlt hok
  · intro name entity bindings herror
    rcases w.addNode_cases i name entity bindings with ⟨_, -, -, hother⟩ | ⟨id, hinsert⟩
    · exact hother h herror
    · rw [hinsert] at herror
      cases hok : (w.graph i).insert id entity (w.entity entity).metadata bindings with
      | ok r =>
        rw [hok] at herror
        cases herror
      | error e =>
        rw [hok] at herror
        cases herror
        exact Graph.insert_ne_of_known hlt hok

/-- **A handle at no position of a node is refused.** -/
theorem refuses_of_le {h : Handle} (hle : (w.graph i).size ≤ Graph.position h) :
    w.Refuses i h := by
  have hnode : (w.graph i).node? h = none := List.getElem?_eq_none hle
  refine ⟨hnode, fun var => ?_, fun o => ?_, fun a b hab => ?_, ?_⟩
  · rw [Graph.output, Graph.check_of_le hle]
    rfl
  · have herror : w.override i h o = .error (.nodeNotFound h) := by
      rw [override, hnode]
      rfl
    exact ⟨herror, perform_of_error rfl herror⟩
  · have hmem : h ∈ [a, b] := by simpa using hab
    obtain ⟨k, hk⟩ := Graph.firstUnknown?_of_mem hmem hle
    have herror : w.runsBefore i a b = .error (.nodeNotFound k) := by
      rw [runsBefore, Graph.runsBefore_of_unknown hk]
      rfl
    exact ⟨k, hk, herror, perform_of_error rfl herror⟩
  · rintro name entity bindings hadmits ⟨b, hb, p, hp, rfl⟩
    have hmem : p.node ∈ bindings.flatMap fun b => b.data.references.map (·.node) :=
      List.mem_flatMap.2 ⟨b, hb, List.mem_map.2 ⟨p, hp, rfl⟩⟩
    obtain ⟨k, hk⟩ := Graph.firstUnknown?_of_mem hmem hle
    have herror : w.addNode i name entity bindings = .error (.nodeNotFound k) := by
      rcases w.addNode_cases i name entity bindings with ⟨text, hname, hnot, -⟩ | ⟨id, hinsert⟩
      · exact absurd (hadmits text hname) hnot
      · rw [hinsert, Graph.insert_of_unknown hk]
        rfl
    refine ⟨k, hk, herror, ?_⟩
    exact perform_of_error (e := .add i name entity bindings) rfl (congrArg (·.map (·.1)) herror)

theorem Knows.lt {h : Handle} (hknows : w.Knows i h) : Graph.position h < (w.graph i).size := by
  obtain ⟨node, hnode, -⟩ := hknows.node
  exact (List.getElem?_eq_some_iff.1 hnode).1

theorem Refuses.le {h : Handle} (hrefuses : w.Refuses i h) :
    (w.graph i).size ≤ Graph.position h :=
  List.getElem?_eq_none_iff.1 hrefuses.node

/-- **After any history a handle is known or refused by its position**: known where the position is
that of a node, and refused everywhere else. So a handle of at most 32 bits is known when it is smaller
than the number of nodes. -/
theorem handles_decided {allowed : Edit → Prop} (hw : w.Reachable allowed) (i : Nat) (h : Handle) :
    (w.Knows i h ↔ Graph.position h < (w.graph i).size) ∧
      (w.Refuses i h ↔ (w.graph i).size ≤ Graph.position h) ∧
      (h < Graph.positions → (w.Knows i h ↔ h < (w.graph i).size) ∧
        (w.Refuses i h ↔ (w.graph i).size ≤ h)) := by
  have hknows : w.Knows i h ↔ Graph.position h < (w.graph i).size :=
    ⟨Knows.lt, knows_of_lt (hw.linked i)⟩
  have hrefuses : w.Refuses i h ↔ (w.graph i).size ≤ Graph.position h := ⟨Refuses.le, refuses_of_le⟩
  refine ⟨hknows, hrefuses, fun hrange => ?_⟩
  rw [hknows, hrefuses, Graph.position_eq hrange]
  exact ⟨Iff.rfl, Iff.rfl⟩

/-- In the sample the third handle is known and the fourth is not. -/
theorem handles_decided_sample :
    ((ofEntities [default]).run sampleEdits).Reachable Edit.InRange ∧
      2 < Graph.positions ∧ 3 < Graph.positions ∧
      ((ofEntities [default]).run sampleEdits).Knows 0 2 ∧
      ((ofEntities [default]).run sampleEdits).Refuses 0 3 := by
  have hreach : ((ofEntities [default]).run sampleEdits).Reachable Edit.InRange :=
    reachable_run [default] (by decide)
  exact ⟨hreach, by decide, by decide,
    ((handles_decided hreach 0 2).2.2 (by decide)).1.2 (by decide +kernel),
    ((handles_decided hreach 0 3).2.2 (by decide)).2.2 (by decide +kernel)⟩

/-- **A handle beyond 32 bits** is no number of a node, and yet it finds one, whose handle is
another. -/
theorem not_refuses_wrapped :
    oneNode.Reachable (fun _ => True) ∧ (oneNode.graph 0).size ≤ 2 ^ 32 ∧
      ¬ oneNode.Refuses 0 (2 ^ 32) ∧
      ∃ node, (oneNode.graph 0).node? (2 ^ 32) = some node ∧ node.handle = 0 := by
  have hnode : ∃ node, (oneNode.graph 0).node? (2 ^ 32) = some node ∧ node.handle = 0 := by
    obtain ⟨node, hnode⟩ : ∃ node, (oneNode.graph 0).node? (2 ^ 32) = some node :=
      Option.isSome_iff_exists.1 (by decide +kernel)
    have hhandle : ((oneNode.graph 0).node? (2 ^ 32)).map (·.handle) = some 0 := by decide +kernel
    rw [hnode] at hhandle
    exact ⟨node, hnode, Option.some.inj hhandle⟩
  refine ⟨reachable_run _ fun _ _ => trivial, by decide +kernel, fun hrefuses => ?_, hnode⟩
  obtain ⟨node, hnode, -⟩ := hnode
  cases hrefuses.node.symm.trans hnode

end Workspace

end Workflow
