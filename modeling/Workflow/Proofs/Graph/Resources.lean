import Mathlib.Data.List.Sort
import Workflow.Proofs.Graph.Admission
import Workflow.Proofs.Graph.Frame
import Workflow.Proofs.Graph.Links

/-!
# Lists of resources

A node asks for some quantities and is limited to others. Authors write both in one, or one by one, and
a call writes the lists anew, so each list has been made from one set of quantities.

* `Ascending`: a list in the order of the resources. `Lists` says that it also holds just the
  quantities that were chosen; there is one such list (`Lists.unique`).
* `entries_eq_ok`, `split_eq_ok`: when quantities are accepted, and the lists they give.
* `Reachable.ascends`: the lists of every node ascend, whatever calls led to it.
* `history_resources`: and a call leaves the lists of the quantities that it gave.
-/

namespace Workflow

/-! ## Lists in order -/

/-- The place of a resource in resource lists. -/
def ResourceName.rank : ResourceName → Nat
  | .cpu => 0
  | .memory => 1
  | .gpu => 2
  | .ephemeralStorage => 3

/-- Each entry is of a resource behind those of the entries before it. -/
def Ascending (entries : List ResourceEntry) : Prop :=
  entries.Pairwise fun a b => a.name.rank < b.name.rank

/-- A list in order of the quantities that were chosen, and of no others. -/
structure Lists (chosen : ResourceName → Option String) (entries : List ResourceEntry) : Prop where
  ascending : Ascending entries
  mem_iff : ∀ name quantity, ⟨name, quantity⟩ ∈ entries ↔ chosen name = some quantity

/-- No resource stands twice in a list in order. -/
theorem Ascending.nodup {entries : List ResourceEntry} (h : Ascending entries) :
    (entries.map (·.name)).Nodup := by
  refine List.pairwise_map.2 (h.imp fun hlt heq => ?_)
  rw [heq] at hlt
  exact Nat.lt_irrefl _ hlt

/-- **A list is told by its quantities.** -/
theorem Lists.unique {chosen : ResourceName → Option String} {l l' : List ResourceEntry}
    (h : Lists chosen l) (h' : Lists chosen l') : l = l' := by
  have hperm : l.Perm l' := by
    refine (List.perm_ext_iff_of_nodup h.ascending.nodup.of_map h'.ascending.nodup.of_map).2 ?_
    exact fun e => (h.mem_iff e.name e.value).trans (h'.mem_iff e.name e.value).symm
  refine hperm.eq_of_pairwise (fun a b _ _ hab hba => ?_) h.ascending h'.ascending
  exact absurd hab (Nat.lt_asymm hba)

/-- The list of the quantities that were chosen. -/
def quantities (chosen : ResourceName → Option String) : List ResourceEntry :=
  ResourceName.all.filterMap fun name => (chosen name).map (ResourceEntry.mk name)

theorem lists_quantities (chosen : ResourceName → Option String) :
    Lists chosen (quantities chosen) where
  ascending := by
    have hall : ResourceName.all.Pairwise fun a b => a.rank < b.rank := by decide
    refine List.pairwise_filterMap.2 (hall.imp ?_)
    intro a b hlt x hx y hy
    obtain ⟨_, -, rfl⟩ := Option.map_eq_some_iff.1 hx
    obtain ⟨_, -, rfl⟩ := Option.map_eq_some_iff.1 hy
    exact hlt
  mem_iff name quantity := by
    simp only [quantities, List.mem_filterMap, Option.map_eq_some_iff, ResourceEntry.mk.injEq]
    constructor
    · rintro ⟨_, -, _, h, rfl, rfl⟩
      exact h
    · exact fun h => ⟨name, Resources.mem_all name, quantity, h, rfl, rfl⟩

/-! ## What an author writes -/

namespace ResourceValue

/-- A quantity that stands alone. -/
def single? : ResourceValue → Option String
  | .single (.value quantity) => some quantity
  | _ => none

/-- The quantity to ask for: a single one, or the first side of a pair. -/
def request? : ResourceValue → Option String
  | .single (.value quantity) => some quantity
  | .bounded (.value quantity) _ => some quantity
  | _ => none

/-- The quantity to be limited to: the second side of a pair. -/
def limit? : ResourceValue → Option String
  | .bounded _ (.value quantity) => some quantity
  | _ => none

/-- What is limited is asked for. -/
theorem exists_request_of_limit {v : ResourceValue} {limit : String} (hv : ¬ v.HasPromise)
    (h : v.limit? = some limit) : ∃ request, v.request? = some request := by
  cases v with
  | single _ => cases h
  | bounded request _ =>
    cases request with
    | value quantity => exact ⟨quantity, rfl⟩
    | promise p => exact absurd (.inl ⟨p, rfl⟩) hv

end ResourceValue

namespace Resources

variable {r : Resources} {place : String} {entries : List ResourceEntry}
  {requirements : ResourceRequirements}

/-- One side of what is written for a resource. -/
def side (r : Resources) (f : ResourceValue → Option String) (name : ResourceName) :
    Option String := (r.get name).bind f

/-- **A resource in a list of single quantities** gives its quantity, if it is set. -/
theorem entry_eq_ok {name : ResourceName} {value : Option ResourceValue} :
    entry place name value = .ok entries ↔ (∀ v, value = some v → ¬ v.IsPair ∧ ¬ v.HasPromise) ∧
      ((value.bind ResourceValue.single?).map (ResourceEntry.mk name)).toList = entries := by
  cases value with
  | none => simp [entry]
  | some v =>
    cases v with
    | bounded request limit => simp [entry, ResourceValue.IsPair]
    | single quantity =>
      cases quantity with
      | promise p => simp [entry, Param.known, ResourceValue.HasPromise]
      | value q =>
        simp [entry, Param.known, ResourceValue.IsPair, ResourceValue.HasPromise,
          ResourceValue.single?]

/-- **A resource that is split** gives its two sides, as far as they are set. -/
theorem share_eq_ok {name : ResourceName} {value : Option ResourceValue} :
    share name value = .ok requirements ↔ (∀ v, value = some v → ¬ v.HasPromise) ∧
      ResourceRequirements.mk
        ((value.bind ResourceValue.request?).map (ResourceEntry.mk name)).toList
        ((value.bind ResourceValue.limit?).map (ResourceEntry.mk name)).toList = requirements := by
  cases value with
  | none => simp [share, ResourceRequirements.empty]
  | some v =>
    cases v with
    | single quantity =>
      cases quantity with
      | promise p => simp [share, Param.known, ResourceValue.HasPromise]
      | value q =>
        simp [share, Param.known, ResourceValue.HasPromise, ResourceValue.request?,
          ResourceValue.limit?]
    | bounded request limit =>
      cases request with
      | promise p => simp [share, Param.known, ResourceValue.HasPromise, bind, Except.bind]
      | value q =>
        cases limit with
        | promise p => simp [share, Param.known, ResourceValue.HasPromise, bind, Except.bind]
        | value l =>
          simp [share, Param.known, ResourceValue.HasPromise, ResourceValue.request?,
            ResourceValue.limit?, bind, Except.bind, Outcome.pure_eq_ok]

/-- The parts of all resources make up the list. -/
theorem quantities_eq_flatMap (chosen : ResourceName → Option String) : quantities chosen =
    ResourceName.all.flatMap fun name => ((chosen name).map (ResourceEntry.mk name)).toList :=
  List.filterMap_eq_flatMap_toList _ _

/-- **Quantities that stand alone** are listed, unless one is a pair or promised. -/
theorem entries_eq_ok : r.entries place = .ok entries ↔
    (r.IsSingle ∧ ¬ r.HasPromise) ∧ quantities (r.side ResourceValue.single?) = entries := by
  -- the parts are checked one by one, and put together in the order of the resources
  have hparts : ∀ parts, ResourceName.all.mapM (fun name => entry place name (r.get name)) =
      .ok parts ↔ _ := fun parts => Outcome.mapM_eq_ok_iff fun _ _ => entry_eq_ok
  rw [Resources.entries, Outcome.bind_eq_ok]
  simp only [hparts, Outcome.pure_eq_ok]
  constructor
  · rintro ⟨_, ⟨hknown, rfl⟩, rfl⟩
    refine ⟨⟨fun name v hv => (hknown name (mem_all name) v hv).1, ?_⟩, quantities_eq_flatMap _⟩
    rintro ⟨name, v, hv, hp⟩
    exact (hknown name (mem_all name) v hv).2 hp
  · rintro ⟨⟨hsingle, hknown⟩, rfl⟩
    refine ⟨_, ⟨fun name _ v hv => ⟨hsingle name v hv, fun hp => ?_⟩, rfl⟩,
      (quantities_eq_flatMap _).symm⟩
    exact hknown ⟨name, v, hv, hp⟩

/-- **Quantities and pairs** are split, unless one is promised. -/
theorem split_eq_ok : r.split = .ok requirements ↔ ¬ r.HasPromise ∧
    ⟨quantities (r.side ResourceValue.request?), quantities (r.side ResourceValue.limit?)⟩ =
      requirements := by
  have hshares : ∀ shares, ResourceName.all.mapM (fun name => share name (r.get name)) =
      .ok shares ↔ _ := fun shares => Outcome.mapM_eq_ok_iff fun _ _ => share_eq_ok
  rw [split, Outcome.bind_eq_ok]
  simp only [hshares, Outcome.pure_eq_ok]
  constructor
  · rintro ⟨_, ⟨hknown, rfl⟩, rfl⟩
    refine ⟨?_, ?_⟩
    · rintro ⟨name, v, hv, hp⟩
      exact hknown name (mem_all name) v hv hp
    · rw [quantities_eq_flatMap, quantities_eq_flatMap, List.flatMap_map, List.flatMap_map]
      rfl
  · rintro ⟨hknown, rfl⟩
    refine ⟨_, ⟨fun name _ v hv hp => hknown ⟨name, v, hv, hp⟩, rfl⟩, ?_⟩
    rw [quantities_eq_flatMap, quantities_eq_flatMap, List.flatMap_map, List.flatMap_map]
    rfl

end Resources

/-! ## What a call writes -/

namespace Overrides

variable {o : Overrides} {written : Option ResourceRequirements} {r : Resources}

/-- **What a checked call writes** to the lists: nothing, the sides of `resources`, or `requests` and
`limits` each on its own. -/
theorem checkResources_cases (h : o.checkResources = .ok written) :
    (o.resources = none ∧ o.requests = none ∧ o.limits = none ∧ written = none) ∨
    (∃ r req, o.resources = some r ∧ o.requests = none ∧ o.limits = none ∧ r.split = .ok req ∧
      written = some req) ∨
    ∃ requests limits, o.resources = none ∧
      checkEntries "resources.requests" o.requests = .ok requests ∧
      checkEntries "resources.limits" o.limits = .ok limits ∧ written = some ⟨requests, limits⟩ := by
  unfold checkResources at h
  split at h
  · -- with `resources` neither of the other two may be set
    rename_i r hr
    split at h
    · cases h
    · rename_i halone
      obtain ⟨req, hsplit, rfl⟩ := Outcome.map_eq_ok.1 h
      simp only [Bool.or_eq_true, Option.isSome_iff_ne_none, not_or, not_not] at halone
      exact .inr (.inl ⟨r, req, hr, halone.1, halone.2, hsplit, rfl⟩)
  · rename_i hr
    split at h
    · rename_i hnone
      cases h
      simp only [Bool.and_eq_true, Option.isNone_iff_eq_none] at hnone
      exact .inl ⟨hr, hnone.1, hnone.2, rfl⟩
    · obtain ⟨requests, hrequests, h⟩ := Outcome.bind_eq_ok.1 h
      obtain ⟨limits, hlimits, h⟩ := Outcome.bind_eq_ok.1 h
      exact .inr (.inr ⟨requests, limits, hr, hrequests, hlimits, (Outcome.pure_eq_ok.1 h).symm⟩)

theorem checkEntries_eq_ok {place : String} {field : Option Resources}
    {entries : List ResourceEntry} (h : checkEntries place field = .ok entries) :
    Ascending entries ∧ ∀ r, field = some r →
      r.IsSingle ∧ ¬ r.HasPromise ∧ Lists (r.side ResourceValue.single?) entries := by
  cases field with
  | none =>
    cases h
    exact ⟨List.Pairwise.nil, fun r hr => nomatch hr⟩
  | some r =>
    obtain ⟨⟨hsingle, hknown⟩, rfl⟩ := Resources.entries_eq_ok.1 h
    refine ⟨(lists_quantities _).ascending, ?_⟩
    rintro _ ⟨⟩
    exact ⟨hsingle, hknown, lists_quantities _⟩

/-- Lists as a call leaves them that sets some of the three fields for them. -/
structure Leaves (o : Overrides) (requests limits : List ResourceEntry) : Prop where
  /-- Single quantities and first sides are asked for, second sides are limits. -/
  resources : ∀ r, o.resources = some r → ¬ r.HasPromise ∧
    Lists (r.side ResourceValue.request?) requests ∧ Lists (r.side ResourceValue.limit?) limits ∧
    ∀ e ∈ limits, ∃ e' ∈ requests, e'.name = e.name
  requests : ∀ r, o.requests = some r →
    r.IsSingle ∧ ¬ r.HasPromise ∧ Lists (r.side ResourceValue.single?) requests
  limits : ∀ r, o.limits = some r →
    r.IsSingle ∧ ¬ r.HasPromise ∧ Lists (r.side ResourceValue.single?) limits

/-- What is limited in lists that were split is asked for. -/
theorem exists_request_of_mem_limits {requests limits : List ResourceEntry} (hknown : ¬ r.HasPromise)
    (hrequests : Lists (r.side ResourceValue.request?) requests)
    (hlimits : Lists (r.side ResourceValue.limit?) limits) :
    ∀ e ∈ limits, ∃ e' ∈ requests, e'.name = e.name := by
  intro e he
  obtain ⟨v, hv, hlimit⟩ := Option.bind_eq_some_iff.1 ((hlimits.mem_iff e.name e.value).1 he)
  obtain ⟨q, hq⟩ := ResourceValue.exists_request_of_limit (fun hp => hknown ⟨_, v, hv, hp⟩) hlimit
  exact ⟨⟨e.name, q⟩, (hrequests.mem_iff e.name q).2 (Option.bind_eq_some_iff.2 ⟨v, hv, hq⟩), rfl⟩

/-- **Written lists** ascend and are those of the call. -/
theorem leaves_of_checkResources {req : ResourceRequirements}
    (h : o.checkResources = .ok (some req)) :
    Ascending req.requests ∧ Ascending req.limits ∧ o.Leaves req.requests req.limits := by
  obtain ⟨-, -, -, hwritten⟩ | ⟨r, _, hr, hrequests, hlimits, hsplit, hwritten⟩ |
    ⟨requests, limits, hr, hrequests, hlimits, hwritten⟩ := checkResources_cases h
  · cases hwritten
  · cases hwritten
    obtain ⟨hknown, rfl⟩ := Resources.split_eq_ok.1 hsplit
    have hasked := lists_quantities (r.side ResourceValue.request?)
    have hlimited := lists_quantities (r.side ResourceValue.limit?)
    refine ⟨hasked.ascending, hlimited.ascending, ?_, ?_, ?_⟩
    · intro r' hr'
      obtain rfl := Option.some.inj (hr.symm.trans hr')
      exact ⟨hknown, hasked, hlimited, exists_request_of_mem_limits hknown hasked hlimited⟩
    · simp [hrequests]
    · simp [hlimits]
  · cases hwritten
    obtain ⟨hasked, hgiven⟩ := checkEntries_eq_ok hrequests
    obtain ⟨hlimited, hgiven'⟩ := checkEntries_eq_ok hlimits
    exact ⟨hasked, hlimited, by simp [hr], hgiven, hgiven'⟩

/-- A call that writes no lists sets none of the fields for them. -/
theorem leaves_of_unwritten (h : o.checkResources = .ok none) (requests limits : List ResourceEntry) :
    o.Leaves requests limits := by
  obtain ⟨hr, hrequests, hlimits, -⟩ | ⟨_, _, -, -, -, -, hwritten⟩ | ⟨_, _, -, -, -, hwritten⟩ :=
    checkResources_cases h
  · exact ⟨by simp [hr], by simp [hrequests], by simp [hlimits]⟩
  · cases hwritten
  · cases hwritten

end Overrides

/-! ## Histories -/

namespace Node

/-- Both lists of a node are in order. -/
def Ascends (node : Node) : Prop := Ascending node.requests ∧ Ascending node.limits

variable {node : Node} {o : Overrides} {present : Option TaskConfig} {u : NodeUpdate}
  {isArrayMap : Bool}

/-- **A checked call** keeps the lists in order, and leaves those that it gave. -/
theorem Ascends.applyToNode (hnode : node.Ascends) (h : o.check present = .ok u) :
    (u.applyToNode isArrayMap node).Ascends ∧
      o.Leaves (u.applyToNode isArrayMap node).requests (u.applyToNode isArrayMap node).limits := by
  have hresources := (Overrides.check_eq_ok_iff.1 h).resources
  unfold Ascends Node.requests Node.limits NodeUpdate.applyToNode
  cases hwritten : u.resources with
  | none =>
    rw [hwritten] at hresources
    exact ⟨hnode, Overrides.leaves_of_unwritten hresources _ _⟩
  | some req =>
    rw [hwritten] at hresources
    obtain ⟨hrequests, hlimits, hleaves⟩ := Overrides.leaves_of_checkResources hresources
    exact ⟨⟨hrequests, hlimits⟩, hleaves⟩

end Node

namespace Graph

variable {g g' : Graph}

/-- The lists of all nodes are in order. -/
def Ascends (g : Graph) : Prop := ∀ node ∈ g.nodes, node.Ascends

/-- **Every change** keeps the lists of all nodes in order. -/
theorem Ascends.change (hg : g.Ascends) (h : g.Change g') : g'.Ascends := by
  intro node hnode
  cases h with
  | added _ hok =>
    obtain ⟨-, -, rfl⟩ := insert_eq_ok.1 hok
    rcases List.mem_append.1 hnode with hnode | hnode
    · exact hg node hnode
    · -- a new node has no lists yet
      rw [List.mem_singleton.1 hnode]
      exact ⟨List.Pairwise.nil, List.Pairwise.nil⟩
  | ordered hok =>
    obtain ⟨-, -, ⟨-, rfl⟩ | ⟨-, -, -, rfl⟩⟩ := runsBefore_eq_ok.1 hok
    · exact hg node hnode
    · obtain ⟨old, hold, rfl | rfl⟩ := exists_of_mem_modify hnode
      · exact hg old hold
      · exact hg old hold
  | overridden t isArrayMap hcheck =>
    obtain ⟨old, hold, rfl | rfl⟩ := exists_of_mem_modify hnode
    · exact ((hg old hold).applyToNode hcheck).1
    · exact hg old hold

end Graph

namespace Workspace

variable {w : Workspace} {allowed : Edit → Prop}

theorem Reachable.ascends (hw : w.Reachable allowed) (i : Nat) : (w.graph i).Ascends :=
  hw.of_changes (fun _ hnode => nomatch hnode) (fun h hg => hg.change h) i

/-- **After any history the resource lists of every node are in order**, so that no resource stands in
one twice. A call that goes through leaves just the quantities that it gave: of `resources`, single
quantities and first sides are asked for and second sides are limits, which are thus of resources that
are asked for; `requests` and `limits` give each its own list. -/
theorem history_resources (hw : w.Reachable allowed) (i : Nat) :
    (∀ node ∈ (w.graph i).nodes, Ascending node.requests ∧ Ascending node.limits ∧
      (node.requests.map (·.name)).Nodup ∧ (node.limits.map (·.name)).Nodup) ∧
    ∀ h o w', w.override i h o = .ok w' → ∃ node, (w'.graph i).node? h = some node ∧
      o.Leaves node.requests node.limits := by
  -- nodes have their lists from earlier calls, or from the call that goes through
  refine ⟨fun node hnode => ?_, fun h o w' hok => ?_⟩
  · obtain ⟨hrequests, hlimits⟩ := hw.ascends i node hnode
    exact ⟨hrequests, hlimits, hrequests.nodup, hlimits.nodup⟩
  · obtain ⟨node, -, hnode, -⟩ := override_eq_ok hok
    obtain ⟨u, hcheck, rfl⟩ := (override_eq_ok_iff hnode).1 hok
    have hascends := hw.ascends i node (List.mem_of_getElem? hnode)
    exact ⟨_, node?_write hnode _ u, (hascends.applyToNode hcheck).2⟩

/-- Quantities in another order than that of the lists, one of them with a limit. -/
def mixedQuantities : Resources where
  ephemeralStorage := some (.single (.value "1Gi"))
  memory := some (.bounded (.value "4Gi") (.value "8Gi"))
  cpu := some (.single (.value "2"))

theorem history_resources_mixed :
    boundedNode.Reachable (fun _ => True) ∧
      (∀ node ∈ (boundedNode.graph 0).nodes, Ascending node.requests ∧ Ascending node.limits) ∧
      ∃ w' node, boundedNode.override 0 0 { resources := some mixedQuantities } = .ok w' ∧
        (w'.graph 0).node? 0 = some node ∧
        node.requests = [⟨.cpu, "2"⟩, ⟨.memory, "4Gi"⟩, ⟨.ephemeralStorage, "1Gi"⟩] ∧
        node.limits = [⟨.memory, "8Gi"⟩] := by
  have hreach : boundedNode.Reachable fun _ => True := reachable_run _ fun _ _ => trivial
  obtain ⟨hascends, hcalls⟩ := history_resources hreach 0
  obtain ⟨w', hok⟩ : ∃ w', boundedNode.override 0 0 { resources := some mixedQuantities } =
    .ok w' := ⟨_, rfl⟩
  obtain ⟨node, hnode, hleaves⟩ := hcalls 0 _ w' hok
  obtain ⟨-, hrequests, hlimits, -⟩ := hleaves.resources _ rfl
  refine ⟨hreach, fun node hmem => ?_, w', node, hok, hnode, ?_, ?_⟩
  · exact ⟨(hascends node hmem).1, (hascends node hmem).2.1⟩
  · exact hrequests.unique (lists_quantities _)
  · exact hlimits.unique (lists_quantities _)

end Workspace

end Workflow
