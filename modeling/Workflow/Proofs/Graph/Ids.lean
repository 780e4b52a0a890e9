import Mathlib.Algebra.Ring.Nat
import Workflow.Proofs.Graph.Journal
import Workflow.Proofs.Graph.Links
import Workflow.Proofs.Text.Label

/-!
# Ids of nodes

An id is generated, chosen, or given by an override, and a chosen one may look like a generated one.

* `freshNumber?_eq_some`: there is always a free number, and it is small.
* `Graph.Labeled`: the nodes of a graph of fewer than 2^32 nodes have DNS labels for ids.
  `Reachable.labeled` says that every graph of a history is so.
* `nodup_run`: only overrides bring an id to a second node.
* `history_ids`: ids are labels, and a graph is refused for an id that an override brought to a second
  node, and for nothing else.
-/

namespace Workflow

variable {g g' : Graph} {i : Nat}

namespace Graph

/-! ## Generated ids -/

theorem toList_generatedId (k : Nat) : (generatedId k).toList = 'n' :: Nat.toDigits 10 k := by
  have happend : generatedId k = "n" ++ Nat.repr k := rfl
  rw [happend, String.toList_append, Nat.toList_repr]
  rfl

theorem generatedId_inj {k l : Nat} (h : generatedId k = generatedId l) : k = l := by
  have hdigits := congrArg String.toList h
  rw [toList_generatedId, toList_generatedId, List.cons.injEq] at hdigits
  rw [← Nat.ofDigitChars_ten_toDigits (n := k), hdigits.2, Nat.ofDigitChars_ten_toDigits]

theorem hasId_iff {id : String} : g.hasId id = true ↔ id ∈ g.nodes.map (·.id) := by
  simp [hasId]

/-- **There is always a free number**: there are more numbers to choose from than nodes. -/
theorem freshNumber?_eq_some (g : Graph) : ∃ k, g.freshNumber? = some k := by
  by_contra hnone
  have hused : ∀ k ∈ List.range' g.size (g.size + 1), g.hasId (generatedId k) = true := by
    have hfind : g.freshNumber? = none := by simpa [Option.eq_none_iff_forall_ne_some] using hnone
    simpa using List.find?_eq_none.1 hfind
  have hnodup : ((List.range' g.size (g.size + 1)).map generatedId).Nodup :=
    (List.nodup_range' 1).map fun _ _ => generatedId_inj
  have hsubset : (List.range' g.size (g.size + 1)).map generatedId ⊆ g.nodes.map (·.id) := by
    intro id hid
    obtain ⟨k, hk, rfl⟩ := List.mem_map.1 hid
    exact hasId_iff.1 (hused k hk)
  -- the numbers tried are one more than the nodes, so their ids are not all taken
  have hlength := hnodup.length_le_of_subset hsubset
  simp only [List.length_map, List.length_range'] at hlength
  exact absurd hlength (Nat.not_le_of_lt (Nat.lt_succ_self _))

theorem freshNumber?_le {k : Nat} (h : g.freshNumber? = some k) : k ≤ 2 * g.size := by
  have hmem := List.mem_range'_1.1 (List.mem_of_find?_eq_some h)
  omega

/-- The id of a number of at most 62 digits is a label. -/
theorem isLabel_generatedId {k : Nat} (h : k < 10 ^ 62) :
    Label.IsLabel (generatedId k).toList := by
  rw [toList_generatedId]
  have hdigits := (Nat.length_toDigits_le_iff (by decide) (by decide)).2 h
  refine ⟨Label.Hyphenated.of_word fun c hc => ?_, by simp, ?_⟩
  · rcases List.mem_cons.1 hc with rfl | hc
    · exact .inl (by decide)
    · exact .inr (Nat.isDigit_of_mem_toDigits (by decide) (by decide) hc)
  · rw [List.length_cons]
    exact Nat.succ_le_succ hdigits

/-! ## Ids are labels -/

/-- The nodes at 32-bit positions have labels for ids. -/
def Labeled (g : Graph) : Prop :=
  ∀ i (node : Node), i < positions → g.nodes[i]? = some node → Label.IsLabel node.id.toList

/-- A fresh id of a graph that is not full is a label. -/
theorem Fresh.isLabel {id : String} (h : g.Fresh id) (hsize : g.size < positions) :
    Label.IsLabel id.toList := by
  rcases h.origin with ⟨k, hk, rfl⟩ | ⟨name, hname, rfl⟩
  · have hle := freshNumber?_le hk
    have hpositions : positions = 4294967296 := rfl
    exact isLabel_generatedId (by omega)
  · exact Label.isLabel_ofName hname

end Graph

/-- A name that is accepted gives a label. -/
theorem Overrides.isLabel_of_checkNodeName {o : Overrides} {id : String}
    (h : o.checkNodeName = .ok (some id)) : Label.IsLabel id.toList := by
  unfold checkNodeName at h
  obtain ⟨name, -, h⟩ := Outcome.bind_eq_ok.1 h
  cases name with
  | none => cases h
  | some name =>
    simp only at h
    split at h
    · cases h
    · rename_i hempty
      obtain rfl := Option.some.inj (Outcome.pure_eq_ok.1 h)
      exact Label.isLabel_ofName (by simpa using hempty)

/-- A checked override gives a node the label of its new name, if it has one. -/
theorem Overrides.id_of_check {o : Overrides} {present : Option TaskConfig} {u : NodeUpdate}
    (h : o.check present = .ok u) :
    (∀ id, u.id = some id → Label.IsLabel id.toList) ∧ (o.nodeName = none → u.id = none) := by
  have hchecked := check_eq_ok_iff.1 h
  refine ⟨fun id hid => ?_, fun hunset => hchecked.spares (k := .nodeName) hunset⟩
  exact isLabel_of_checkNodeName (hchecked.id.trans (congrArg Except.ok hid))

namespace Graph

theorem ids_modify {t : Nat} {f : Node → Node} {edges : List Order.Edge}
    (hf : ∀ node, (f node).id = node.id) :
    (⟨g.nodes.modify t f, edges⟩ : Graph).nodes.map (·.id) = g.nodes.map (·.id) := by
  refine List.ext_getElem? fun i => ?_
  simp only [List.getElem?_map, List.getElem?_modify]
  cases g.nodes[i]? with
  | none => rfl
  | some node =>
    simp only [Option.map_some, Option.map_eq_map, Option.some.injEq]
    split
    · exact hf node
    · rfl

/-- **An ordering** leaves all ids. -/
theorem ids_runsBefore {a b : Handle} (h : g.runsBefore a b = .ok g') :
    g'.nodes.map (·.id) = g.nodes.map (·.id) := by
  obtain ⟨-, -, ⟨-, rfl⟩ | ⟨-, -, -, rfl⟩⟩ := runsBefore_eq_ok.1 h
  · rfl
  · exact ids_modify fun _ => rfl

/-- **A new node** brings its fresh id, behind all others. -/
theorem ids_insert {id : String} {entity : Nat} {metadata : NodeMetadata}
    {bindings : List (Binding Promise)} {h : Handle}
    (hok : g.insert id entity metadata bindings = .ok (g', h)) :
    g'.nodes.map (·.id) = g.nodes.map (·.id) ++ [id] := by
  obtain ⟨-, -, rfl⟩ := insert_eq_ok.1 hok
  rw [List.map_append]
  rfl

/-- **Every change leaves labels.** -/
theorem Labeled.change (hg : g.Labeled) (h : g.Change g') : g'.Labeled := by
  intro i node hi hnode
  -- a new id is fresh, an ordering leaves all ids, and an override writes a label or none
  cases h with
  | added hid hok =>
    obtain ⟨-, -, rfl⟩ := insert_eq_ok.1 hok
    rcases getElem?_append_one hnode with hnode | ⟨rfl, rfl⟩
    · exact hg i node hi hnode
    · exact hid.isLabel hi
  | ordered hok =>
    have hids := congrArg (·[i]?) (ids_runsBefore hok)
    simp only [List.getElem?_map, hnode, Option.map_some] at hids
    obtain ⟨old, hold, hid⟩ := Option.map_eq_some_iff.1 hids.symm
    rw [← hid]
    exact hg i old hi hold
  | overridden t isArrayMap hcheck =>
    obtain ⟨old, hold, rfl⟩ := exists_of_getElem?_modify hnode
    have hlabel := hg i old hi hold
    split
    · simp only [NodeUpdate.applyToNode]
      cases hid : (‹NodeUpdate›).id with
      | none => exact hlabel
      | some id => exact (Overrides.id_of_check hcheck).1 id hid
    · exact hlabel

/-! ## The first id that is used twice -/

/-- What is found stood before, and nothing in front of it did. -/
theorem duplicateId?_eq_some {ids : List String} {id : String} : ∀ {seen : List String},
    duplicateId? seen ids = some id → ∃ earlier later, ids = earlier ++ id :: later ∧
      (id ∈ seen ∨ id ∈ earlier) ∧ (∀ x ∈ earlier, x ∉ seen) ∧ earlier.Nodup := by
  -- the induction carries what was seen, which is nothing at the start
  induction ids with
  | nil => exact fun h => nomatch h
  | cons x ids ih =>
    intro seen h
    rw [duplicateId?] at h
    split at h
    · rename_i hseen
      cases h
      exact ⟨[], ids, rfl, .inl (List.contains_iff_mem.1 hseen), by simp, List.nodup_nil⟩
    · rename_i hseen
      rw [List.contains_iff_mem] at hseen
      obtain ⟨earlier, later, rfl, hid, hnew, hnodup⟩ := ih h
      refine ⟨x :: earlier, later, rfl, ?_, ?_, ?_⟩
      · rcases hid with hid | hid
        · rcases List.mem_cons.1 hid with rfl | hid
          · exact .inr (by simp)
          · exact .inl hid
        · exact .inr (List.mem_cons_of_mem _ hid)
      · intro y hy
        rcases List.mem_cons.1 hy with rfl | hy
        · exact hseen
        · exact fun hmem => hnew y hy (List.mem_cons_of_mem _ hmem)
      · exact List.nodup_cons.2 ⟨fun hmem => hnew x hmem (by simp), hnodup⟩

/-- **A graph with an id used twice** is refused for the first that is. -/
theorem validate_of_not_nodup (h : ¬ (g.nodes.map (·.id)).Nodup) :
    ∃ id earlier later, g.nodes.map (·.id) = earlier ++ id :: later ∧ id ∈ earlier ∧
      earlier.Nodup ∧ g.validate = .error (.duplicateNodeId id) := by
  cases hfound : duplicateId? [] (g.nodes.map (·.id)) with
  | none => exact absurd (duplicateId?_eq_none.1 hfound).2 h
  | some id =>
    obtain ⟨earlier, later, hids, hid, -, hnodup⟩ := duplicateId?_eq_some hfound
    refine ⟨id, earlier, later, hids, ?_, hnodup, ?_⟩
    · simpa using hid
    · rw [validate, hfound]

end Graph

/-! ## Histories -/

namespace Workspace

variable {w : Workspace} {j : Journal}

/-- **Every graph that calls lead to has labels for ids.** -/
theorem Reachable.labeled {allowed : Edit → Prop} (hw : w.Reachable allowed) (i : Nat) :
    (w.graph i).Labeled :=
  hw.of_changes (fun _ _ _ hnode => nomatch hnode) (fun h hg => hg.change h) i

/-- The ids of a graph are distinct unless a call in the journal gave a node another name. -/
def DistinctUnlessNamed (w : Workspace) (j : Journal) : Prop :=
  ∀ i, (∀ n, ∀ o ∈ j.ofNode i n, o.nodeName = none) → ((w.graph i).nodes.map (·.id)).Nodup

/-- **Only an override brings an id to a second node.** -/
theorem DistinctUnlessNamed.perform (hw : w.DistinctUnlessNamed j) (e : Edit) :
    (w.perform e).DistinctUnlessNamed (w.record j e) := by
  have hset : ∀ {g : Graph} {i : Nat}, ((∀ n, ∀ o ∈ j.ofNode i n, o.nodeName = none) →
      (g.nodes.map (·.id)).Nodup) → (w.setGraph i g).DistinctUnlessNamed j := by
    intro g i hg i' hnames
    rw [graph_of_set (i := i) (g := g) rfl]
    split
    · rename_i hi
      exact hg (hi.1 ▸ hnames)
    · exact hw i' hnames
  cases e with
  | add i name entity bindings =>
    refine orSame_induction (motive := fun w' => w'.DistinctUnlessNamed j) hw fun w' hok => ?_
    obtain ⟨⟨_, _⟩, hadd, rfl⟩ := Outcome.map_eq_ok.1 hok
    obtain ⟨g, id, hid, hinsert, rfl⟩ := fresh_of_addNode hadd
    refine hset fun hnames => ?_
    rw [Graph.ids_insert hinsert]
    refine List.nodup_append.2 ⟨hw i hnames, by simp, ?_⟩
    rintro x hx y hy rfl
    obtain rfl := List.mem_singleton.1 hy
    rw [← Graph.hasId_iff, hid.free] at hx
    cases hx
  | order i before after =>
    refine orSame_induction (motive := fun w' => w'.DistinctUnlessNamed j) hw fun w' hok => ?_
    obtain ⟨g, horder, hret⟩ := Outcome.bind_eq_ok.1 hok
    obtain rfl := Outcome.pure_eq_ok.1 hret
    refine hset fun hnames => ?_
    rw [Graph.ids_runsBefore horder]
    exact hw i hnames
  | chain i cursor rest =>
    refine hset fun hnames => ?_
    refine Graph.chain_induction (motive := fun g => (g.nodes.map (·.id)).Nodup) ?_ (hw i hnames)
    intro g g' a b hok hg
    rwa [Graph.ids_runsBefore hok]
  | override i h o =>
    have hstep := step_perform w j (.override i h o)
    generalize w.perform (.override i h o) = w', w.record j (.override i h o) = j' at hstep ⊢
    cases hstep with
    | refused => exact hw
    | @overridden _ _ _ node u _ hnode hcheck _ hgraphs =>
      intro i' hnames
      rw [graph_of_set hgraphs]
      split
      · rename_i hi
        obtain ⟨rfl, -⟩ := hi
        -- the call itself is in the journal, and gave no name
        have hnone : u.id = none :=
          (Overrides.id_of_check hcheck).2 (hnames _ o (j.mem_addCall_self _ _ _ o))
        have hid : ∀ isArrayMap node, (u.applyToNode isArrayMap node).id = node.id := by
          intro isArrayMap node
          rw [NodeUpdate.applyToNode, hnone]
          rfl
        rw [Graph.ids_modify (hid _)]
        exact hw i' fun n call hcall => hnames n call (Journal.mem_addCall hcall)
      · exact hw i' fun n call hcall => hnames n call (Journal.mem_addCall hcall)
  | clone i =>
    intro i' hnames
    simp only [Workspace.perform]
    rw [graph_clone]
    simp only [record, Journal.addClone] at hnames
    split
    · rename_i hi
      rw [if_pos hi] at hnames
      exact hw i hnames
    · rename_i hi
      rw [if_neg hi] at hnames
      exact hw i' hnames

theorem nodup_runFrom (edits : List Edit) : ∀ {w : Workspace} {j : Journal},
    w.DistinctUnlessNamed j → (w.run edits).DistinctUnlessNamed (w.journalFrom j edits) := by
  induction edits with
  | nil => exact fun hw => hw
  | cons e edits ih => exact fun hw => ih (hw.perform e)

/-- **After any history the ids of a graph are distinct** unless a call on one of its nodes named
it. -/
theorem nodup_run (entities : List RunEntity) (edits : List Edit) :
    ((ofEntities entities).run edits).DistinctUnlessNamed ((ofEntities entities).journal edits) := by
  refine nodup_runFrom edits fun i _ => ?_
  refine graph_induction (motive := fun g => (g.nodes.map (·.id)).Nodup) List.nodup_nil ?_ i
  intro g hg
  rw [List.mem_singleton.1 hg]
  exact List.nodup_nil

/-- **After any history the ids of a graph are labels**, as long as positions last. They are distinct
unless an override named a node, and then the graph is accepted and rendered. A graph is accepted, and
rendered, when its ids are distinct; else it is refused for the id of the first node whose id an
earlier node has. -/
theorem history_ids (entities : List RunEntity) (edits : List Edit) (i : Nat) :
    let w := (ofEntities entities).run edits
    let calls := (ofEntities entities).journal edits
    let ids := (w.graph i).nodes.map (·.id)
    ((w.graph i).size ≤ Graph.positions → ∀ id ∈ ids, Label.IsLabel id.toList) ∧
      ((∀ n, ∀ o ∈ calls.ofNode i n, o.nodeName = none) → ids.Nodup ∧
        (w.graph i).validate = .ok () ∧ ∃ spec, w.toSpec i = .ok spec) ∧
      ((w.graph i).validate = .ok () ↔ ids.Nodup) ∧
      ((∃ spec, w.toSpec i = .ok spec) ↔ ids.Nodup) ∧
      (¬ ids.Nodup → ∃ id earlier later, ids = earlier ++ id :: later ∧ id ∈ earlier ∧
        earlier.Nodup ∧ (w.graph i).validate = .error (.duplicateNodeId id) ∧
        w.toSpec i = .error (.duplicateNodeId id)) := by
  intro w calls ids
  have hreach : w.Reachable fun _ => True := reachable_run entities fun _ _ => trivial
  have hg : (w.graph i).Linked := hreach.linked i
  have hspec : (∃ spec, w.toSpec i = .ok spec) ↔ ids.Nodup :=
    ⟨fun ⟨_, hok⟩ => (hg.toSpec_eq_ok.1 hok).1, fun hids => ⟨_, hg.toSpec_eq_ok.2 ⟨hids, rfl⟩⟩⟩
  refine ⟨fun hsize id hid => ?_, fun hnames => ?_, hg.validate_eq_ok, hspec, fun hids => ?_⟩
  · obtain ⟨node, hnode, rfl⟩ := List.mem_map.1 hid
    obtain ⟨n, hn⟩ := List.mem_iff_getElem?.1 hnode
    have hlt : n < (w.graph i).size := (List.getElem?_eq_some_iff.1 hn).1
    exact hreach.labeled i n node (Nat.lt_of_lt_of_le hlt hsize) hn
  · have hids : ids.Nodup := nodup_run entities edits i hnames
    exact ⟨hids, hg.validate_eq_ok.2 hids, hspec.2 hids⟩
  · obtain ⟨id, earlier, later, hsplit, hid, hnodup, herror⟩ := Graph.validate_of_not_nodup hids
    refine ⟨id, earlier, later, hsplit, hid, hnodup, herror, ?_⟩
    rw [toSpec, Graph.toSpec, herror]
    rfl

/-- A chosen id that looks generated, generated ids that give way to it, and a clone in which an
override brings an id to a second node. -/
def imitatingEdits : List Edit :=
  [.add 0 (some "N1") 0 [], .add 0 none 0 [], .add 0 none 0 [], .clone 0,
    .override 1 0 { nodeName := some (.value "N3") }]

theorem history_ids_imitating :
    let w := (ofEntities [default]).run imitatingEdits
    (w.graph 0).size ≤ Graph.positions ∧
      (∀ n, ∀ o ∈ ((ofEntities [default]).journal imitatingEdits).ofNode 0 n, o.nodeName = none) ∧
      (w.graph 0).nodes.map (·.id) = ["n1", "n2", "n3"] ∧
      (∀ id ∈ ["n1", "n2", "n3"], Label.IsLabel id.toList) ∧ (∃ spec, w.toSpec 0 = .ok spec) ∧
      (w.graph 1).nodes.map (·.id) = ["n3", "n2", "n3"] ∧
      w.toSpec 1 = .error (.duplicateNodeId "n3") := by
  intro w
  have hids : (w.graph 0).nodes.map (·.id) = ["n1", "n2", "n3"] := by decide +kernel
  have hsize : (w.graph 0).size ≤ Graph.positions := by decide +kernel
  have htwice : (w.graph 1).nodes.map (·.id) = ["n3", "n2", "n3"] := by decide +kernel
  have hnames : ∀ n, ∀ o ∈ ((ofEntities [default]).journal imitatingEdits).ofNode 0 n,
      o.nodeName = none := by
    intro n
    have hnone : ((ofEntities [default]).journal imitatingEdits).ofNode 0 n = [] := rfl
    rw [hnone]
    simp
  obtain ⟨hlabels, hdistinct, -⟩ := history_ids [default] imitatingEdits 0
  obtain ⟨-, -, -, -, hrefused⟩ := history_ids [default] imitatingEdits 1
  refine ⟨hsize, hnames, hids, hids ▸ hlabels hsize, (hdistinct hnames).2.2, htwice, ?_⟩
  obtain ⟨id, earlier, later, hsplit, hid, hnodup, -, herror⟩ := hrefused (by rw [htwice]; decide)
  have hcount : 2 ≤ ["n3", "n2", "n3"].count id := by
    have hearlier := List.count_pos_iff.2 hid
    rw [← htwice, hsplit, List.count_append, List.count_cons_self]
    omega
  have hall : ∀ x ∈ ["n3", "n2", "n3"], 2 ≤ ["n3", "n2", "n3"].count x → x = "n3" := by decide
  have hmem : id ∈ ["n3", "n2", "n3"] := List.count_pos_iff.1 (by omega)
  rw [herror, hall id hmem hcount]

end Workspace

end Workflow
