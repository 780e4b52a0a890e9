import Mathlib.Data.List.Lex
import Workflow.Proofs.Graph.Inputs

/-!
# The order of promises

The promises of an input are collected in one walk over its tree and rendered in another. Both meet
the same promises in the same order, and a new node waits for their nodes in that order.

* `BindingTree.At`: what stands at a place of a tree. A place is told by the steps that lead to it.
* `Enumerates`: a list with one entry for each place that has a reference, the places in the order
  of a walk that takes collections from front to back and maps by key.
* `enumerates_references`, `Enumerates.unique`: `references` is that list, and there is no other.
* `map_references_resolve`: rendering a tree renders its references one after another, and is
  refused as they are. What comes out is a tree of the same shape, and its references are enumerated
  in the same way.
* `Node.producers_eq`: the nodes that a new node waits for.
* `Graph.promises_agree`: all of it, for the inputs of a new node.
-/

namespace Workflow

variable {ρ σ ε : Type}

namespace BindingTree

/-! ## Places -/

/-- A step down a tree: to an item of a collection, or to an entry of a map. -/
inductive Step where
  | item (index : Nat)
  | entry (key : String)

/-- Of two steps from one place, the first one is taken before the other. -/
inductive Step.Before : Step → Step → Prop where
  | item {i j : Nat} (h : i < j) : Before (.item i) (.item j)
  | entry {k l : String} (h : k < l) : Before (.entry k) (.entry l)

/-- A reference stands at the end of some steps. -/
inductive At : BindingTree ρ → List Step → ρ → Prop where
  | reference {target : ρ} : At (.reference target) [] target
  | item {items : List (BindingTree ρ)} {i : Nat} {t : BindingTree ρ} {steps : List Step} {r : ρ}
      (hitem : items[i]? = some t) (h : At t steps r) : At (.collection items) (.item i :: steps) r
  | entry {entries : List (String × BindingTree ρ)} {key : String} {t : BindingTree ρ}
      {steps : List Step} {r : ρ} (hentry : (key, t) ∈ entries) (h : At t steps r) :
      At (.map entries) (.entry key :: steps) r

/-- The list of the references of a tree: one for each place that has one, in the order of the
places. -/
def Enumerates (t : BindingTree ρ) (rs : List ρ) : Prop :=
  ∃ sites : List (List Step × ρ), sites.map (·.2) = rs ∧
    (sites.map (·.1)).Pairwise (List.Lex Step.Before) ∧ ∀ steps r, (steps, r) ∈ sites ↔ t.At steps r

theorem Step.Before.asymm {a b : Step} (h : Before a b) : ¬ Before b a := by
  cases h with
  | item h =>
    rintro ⟨h'⟩
    exact Nat.lt_asymm h h'
  | entry h =>
    rintro ⟨⟩
    rename_i h'
    exact Std.lt_irrefl (String.lt_trans h h')

theorem lex_asymm {p q : List Step} (h : List.Lex Step.Before p q) :
    ¬ List.Lex Step.Before q p := by
  induction h with
  | nil => exact nofun
  | cons _ ih =>
    intro h'
    cases h' with
    | cons h' => exact ih h'
    | rel h' => exact h'.asymm h'
  | rel h =>
    intro h'
    cases h' with
    | cons _ => exact h.asymm h
    | rel h' => exact h.asymm h'

/-- **A tree has one such list.** -/
theorem Enumerates.unique {t : BindingTree ρ} {rs rs' : List ρ} (h : t.Enumerates rs)
    (h' : t.Enumerates rs') : rs = rs' := by
  obtain ⟨sites, rfl, hordered, hmem⟩ := h
  obtain ⟨sites', rfl, hordered', hmem'⟩ := h'
  have hnodup : ∀ {sites : List (List Step × ρ)},
      (sites.map (·.1)).Pairwise (List.Lex Step.Before) → sites.Nodup := by
    intro sites hordered
    refine (List.pairwise_map.1 hordered).imp fun hlt heq => ?_
    rw [heq] at hlt
    exact lex_asymm hlt hlt
  have hperm : sites.Perm sites' := by
    rw [List.perm_ext_iff_of_nodup (hnodup hordered) (hnodup hordered')]
    exact fun site => (hmem site.1 site.2).trans (hmem' site.1 site.2).symm
  have hsame : sites = sites' := by
    refine hperm.eq_of_pairwise (fun a b _ _ hab hba => ?_) (List.pairwise_map.1 hordered)
      (List.pairwise_map.1 hordered')
    exact absurd hba (lex_asymm hab)
  rw [hsame]

/-! ## The walk -/

mutual

/-- The references of a tree with the steps that lead to each. -/
def sites : BindingTree ρ → List (List Step × ρ)
  | .scalar _ => []
  | .reference target => [([], target)]
  | .collection items => sitesOfItems 0 items
  | .map entries => sitesOfEntries entries

/-- The references of the items of a list, the first of which has the given index. -/
def sitesOfItems (start : Nat) : List (BindingTree ρ) → List (List Step × ρ)
  | [] => []
  | item :: items =>
    (sites item).map (fun site => (.item start :: site.1, site.2)) ++ sitesOfItems (start + 1) items

/-- The references of the entries of a map. -/
def sitesOfEntries : List (String × BindingTree ρ) → List (List Step × ρ)
  | [] => []
  | (key, value) :: entries =>
    (sites value).map (fun site => (.entry key :: site.1, site.2)) ++ sitesOfEntries entries

end

mutual

theorem map_snd_sites : ∀ t : BindingTree ρ, t.sites.map (·.2) = t.references
  | .scalar _ => rfl
  | .reference _ => rfl
  | .collection items => map_snd_sitesOfItems 0 items
  | .map entries => map_snd_sitesOfEntries entries

theorem map_snd_sitesOfItems (start : Nat) : ∀ items : List (BindingTree ρ),
    (sitesOfItems start items).map (·.2) = referencesOfItems items
  | [] => rfl
  | item :: items => by
    rw [sitesOfItems, referencesOfItems, List.map_append, List.map_map, ← map_snd_sites item,
      ← map_snd_sitesOfItems (start + 1) items]
    rfl

theorem map_snd_sitesOfEntries : ∀ entries : List (String × BindingTree ρ),
    (sitesOfEntries entries).map (·.2) = referencesOfEntries entries
  | [] => rfl
  | (_, value) :: entries => by
    rw [sitesOfEntries, referencesOfEntries, List.map_append, List.map_map, ← map_snd_sites value,
      ← map_snd_sitesOfEntries entries]
    rfl

end

mutual

/-- **The walk meets every place** with a reference and no other. -/
theorem mem_sites : ∀ {t : BindingTree ρ} {steps : List Step} {r : ρ},
    (steps, r) ∈ t.sites ↔ t.At steps r
  | .scalar _, _, _ => ⟨nofun, nofun⟩
  | .reference target, steps, r => by
    rw [sites, List.mem_singleton]
    constructor
    · rintro ⟨⟩
      exact .reference
    · rintro ⟨⟩
      rfl
  | .collection items, steps, r => by
    rw [sites, mem_sitesOfItems]
    constructor
    · rintro ⟨i, t, rest, hitem, rfl, h⟩
      rw [Nat.zero_add]
      exact .item hitem h
    · intro h
      cases h with
      | item hitem h => exact ⟨_, _, _, hitem, by rw [Nat.zero_add], h⟩
  | .map entries, steps, r => by
    rw [sites, mem_sitesOfEntries]
    constructor
    · rintro ⟨key, t, rest, hentry, rfl, h⟩
      exact .entry hentry h
    · intro h
      cases h with
      | entry hentry h => exact ⟨_, _, _, hentry, rfl, h⟩

theorem mem_sitesOfItems {start : Nat} : ∀ {items : List (BindingTree ρ)} {steps : List Step} {r : ρ},
    (steps, r) ∈ sitesOfItems start items ↔ ∃ i t rest, items[i]? = some t ∧
      steps = .item (start + i) :: rest ∧ t.At rest r
  | [], _, _ => by simp [sitesOfItems]
  | item :: items, steps, r => by
    rw [sitesOfItems, List.mem_append, List.mem_map, mem_sitesOfItems]
    constructor
    · rintro (⟨⟨rest, r'⟩, hsite, heq⟩ | ⟨i, t, rest, hitem, rfl, h⟩)
      · cases heq
        exact ⟨0, item, rest, rfl, rfl, mem_sites.1 hsite⟩
      · exact ⟨i + 1, t, rest, hitem, by rw [Nat.add_right_comm, Nat.add_assoc], h⟩
    · rintro ⟨i, t, rest, hitem, rfl, h⟩
      cases i with
      | zero =>
        cases hitem
        exact .inl ⟨(rest, r), mem_sites.2 h, rfl⟩
      | succ i => exact .inr ⟨i, t, rest, hitem, by rw [Nat.add_right_comm, Nat.add_assoc], h⟩

theorem mem_sitesOfEntries : ∀ {entries : List (String × BindingTree ρ)} {steps : List Step} {r : ρ},
    (steps, r) ∈ sitesOfEntries entries ↔ ∃ key t rest, (key, t) ∈ entries ∧
      steps = .entry key :: rest ∧ t.At rest r
  | [], _, _ => by simp [sitesOfEntries]
  | (key, value) :: entries, steps, r => by
    rw [sitesOfEntries, List.mem_append, List.mem_map, mem_sitesOfEntries]
    constructor
    · rintro (⟨⟨rest, r'⟩, hsite, heq⟩ | ⟨key', t, rest, hentry, rfl, h⟩)
      · cases heq
        exact ⟨key, value, rest, List.mem_cons_self, rfl, mem_sites.1 hsite⟩
      · exact ⟨key', t, rest, List.mem_cons_of_mem _ hentry, rfl, h⟩
    · rintro ⟨key', t, rest, hentry, rfl, h⟩
      rcases List.mem_cons.1 hentry with heq | hentry
      · cases heq
        exact .inl ⟨(rest, r), mem_sites.2 h, rfl⟩
      · exact .inr ⟨key', t, rest, hentry, rfl, h⟩

end

/-- Places behind one step are in order if they are in order from there on. -/
theorem pairwise_behind {step : Step} {sites : List (List Step × ρ)}
    (h : (sites.map (·.1)).Pairwise (List.Lex Step.Before)) :
    ((sites.map fun site => (step :: site.1, site.2)).map (·.1)).Pairwise
      (List.Lex Step.Before) := by
  rw [List.map_map]
  exact List.pairwise_map.2 ((List.pairwise_map.1 h).imp .cons)

mutual

/-- **The walk goes from front to back and by key.** -/
theorem pairwise_sites : ∀ {t : BindingTree ρ}, t.KeysSorted →
    (t.sites.map (·.1)).Pairwise (List.Lex Step.Before)
  | .scalar _, _ => .nil
  | .reference _, _ => List.pairwise_singleton _ _
  | .collection _, h => pairwise_sitesOfItems 0 h
  | .map _, h => pairwise_sitesOfEntries h.1 h.2

theorem pairwise_sitesOfItems (start : Nat) : ∀ {items : List (BindingTree ρ)},
    KeysSortedItems items →
      ((sitesOfItems start items).map (·.1)).Pairwise (List.Lex Step.Before)
  | [], _ => .nil
  | item :: items, h => by
    rw [sitesOfItems, List.map_append, List.pairwise_append]
    refine ⟨pairwise_behind (pairwise_sites h.1), pairwise_sitesOfItems (start + 1) h.2, ?_⟩
    intro p hp q hq
    obtain ⟨_, hsite, rfl⟩ := List.mem_map.1 hp
    obtain ⟨site, -, rfl⟩ := List.mem_map.1 hsite
    obtain ⟨_, hlater, rfl⟩ := List.mem_map.1 hq
    obtain ⟨i, _, rest, -, hsteps, -⟩ := mem_sitesOfItems.1 hlater
    rw [hsteps]
    exact .rel (.item (by omega))

theorem pairwise_sitesOfEntries : ∀ {entries : List (String × BindingTree ρ)},
    SortedKeys entries → KeysSortedEntries entries →
      ((sitesOfEntries entries).map (·.1)).Pairwise (List.Lex Step.Before)
  | [], _, _ => .nil
  | (key, value) :: entries, hkeys, h => by
    rw [SortedKeys, List.map_cons, List.pairwise_cons] at hkeys
    rw [sitesOfEntries, List.map_append, List.pairwise_append]
    refine ⟨pairwise_behind (pairwise_sites h.1), pairwise_sitesOfEntries hkeys.2 h.2, ?_⟩
    intro p hp q hq
    obtain ⟨_, hsite, rfl⟩ := List.mem_map.1 hp
    obtain ⟨site, -, rfl⟩ := List.mem_map.1 hsite
    obtain ⟨_, hlater, rfl⟩ := List.mem_map.1 hq
    obtain ⟨key', t, rest, hentry, hsteps, -⟩ := mem_sitesOfEntries.1 hlater
    rw [hsteps]
    exact .rel (.entry (hkeys.1 key' (List.mem_map_of_mem hentry)))

end

/-- **The references of a tree** are those of all its places, in their order. -/
theorem enumerates_references {t : BindingTree ρ} (h : t.KeysSorted) : t.Enumerates t.references :=
  ⟨t.sites, map_snd_sites t, pairwise_sites h, fun _ _ => mem_sites⟩

theorem enumerates_iff {t : BindingTree ρ} (h : t.KeysSorted) {rs : List ρ} :
    t.Enumerates rs ↔ t.references = rs :=
  ⟨fun hrs => (enumerates_references h).unique hrs, fun hrs => hrs ▸ enumerates_references h⟩

/-! ## Rendering -/

section

variable {f : ρ → Except ε σ}

mutual

/-- **A tree is rendered** by rendering its references one after another. The first one that is
refused ends both. -/
theorem map_references_resolve : ∀ t : BindingTree ρ,
    (t.resolve f).map references = t.references.mapM f
  | .scalar _ => rfl
  | .reference target => by
    rw [resolve, references, List.mapM_cons, List.mapM_nil]
    cases f target <;> rfl
  | .collection items => by
    rw [resolve, references, ← map_references_resolveItems items]
    cases resolveItems f items <;> rfl
  | .map entries => by
    rw [resolve, references, ← map_references_resolveEntries entries]
    cases resolveEntries f entries <;> rfl

theorem map_references_resolveItems : ∀ items : List (BindingTree ρ),
    (resolveItems f items).map referencesOfItems = (referencesOfItems items).mapM f
  | [] => rfl
  | item :: items => by
    rw [resolveItems, referencesOfItems, List.mapM_append, ← map_references_resolve item,
      ← map_references_resolveItems items]
    cases item.resolve f with
    | error e => rfl
    | ok item => cases resolveItems f items <;> rfl

theorem map_references_resolveEntries : ∀ entries : List (String × BindingTree ρ),
    (resolveEntries f entries).map referencesOfEntries = (referencesOfEntries entries).mapM f
  | [] => rfl
  | (_, value) :: entries => by
    rw [resolveEntries, referencesOfEntries, List.mapM_append, ← map_references_resolve value,
      ← map_references_resolveEntries entries]
    cases value.resolve f with
    | error e => rfl
    | ok value => cases resolveEntries f entries <;> rfl

end

end

end BindingTree

/-! ## New nodes -/

namespace Node

/-- A handle that is added once comes to the others the first time only. -/
theorem foldl_addOnce_eq (uses : List Handle) : ∀ handles : List Handle,
    uses.foldl addOnce handles = handles ++ (uses.removeAll handles).eraseDups := by
  induction uses with
  | nil => simp [List.removeAll]
  | cons h uses ih =>
    intro handles
    rw [List.foldl_cons, ih, addOnce]
    split
    · rename_i hmem
      rw [List.removeAll, List.removeAll, List.filter_cons_of_neg (by simpa using hmem)]
    · rename_i hmem
      have hrest : uses.removeAll (handles ++ [h]) =
          (uses.removeAll handles).filter (fun k => !k == h) := by
        simp only [List.removeAll, List.filter_filter]
        exact List.filter_congr fun k _ => by simp [Bool.and_comm, Bool.beq_eq_decide_eq]
      rw [hrest, List.append_assoc, List.singleton_append, List.removeAll, List.removeAll,
        List.filter_cons_of_pos (by simpa using hmem), List.eraseDups_cons]

/-- **The nodes that a new node waits for** are those of its promises, in the order of the promises,
each where it comes first. -/
theorem producers_eq (bindings : List (Binding Promise)) : producers bindings =
    ((bindings.flatMap fun b => b.data.references).map (·.node)).eraseDups := by
  have hall : ∀ uses : List Handle, uses.removeAll [] = uses := fun uses => by simp [List.removeAll]
  rw [producers, foldl_addOnce_eq, List.nil_append, hall, List.map_flatMap]

end Node

namespace Graph

open BindingTree

/-- A node that was added, with either kind of id, was made from its inputs. -/
theorem exists_of_added {g g' : Graph} {entity : Nat} {metadata : NodeMetadata} {h : Handle}
    {bindings : List (Binding Promise)}
    (hadded : g.addNode entity metadata bindings = .ok (g', h) ∨
      ∃ name, g.addNodeWithId name entity metadata bindings = .ok (g', h)) :
    ∃ id, g'.nodes = g.nodes ++ [Node.ofBindings h id entity metadata bindings] := by
  have hinsert : ∃ id, g.insert id entity metadata bindings = .ok (g', h) := by
    rcases hadded with hadded | ⟨name, hadded⟩
    · exact insert_of_addNode hadded
    · exact insert_of_addNodeWithId hadded
  obtain ⟨id, hinsert⟩ := hinsert
  obtain ⟨-, rfl, rfl⟩ := insert_eq_ok.1 hinsert
  exact ⟨id, rfl⟩

/-- **Collecting and rendering meet the same promises.** The promises of an input are those of all
places of its tree, one for each, in the order of the places. Rendering the input renders these one
after another, or is refused for the first that is, and what it gives is walked in the same order.
A new node waits for the nodes of all its promises, input by input, each where it comes first. -/
theorem promises_agree (g : Graph) {bindings : List (Binding Promise)}
    (hsorted : ∀ b ∈ bindings, b.data.KeysSorted) :
    (∀ b ∈ bindings,
      (∀ promises, b.data.Enumerates promises ↔ b.data.references = promises) ∧
      (g.bindingSpec b).map (·.data.references) = b.data.references.mapM g.referenceOf ∧
      ∀ b', g.bindingSpec b = .ok b' →
        ∀ outputs, b'.data.Enumerates outputs ↔ b'.data.references = outputs) ∧
    ∀ entity metadata g' h,
      (g.addNode entity metadata bindings = .ok (g', h) ∨
        ∃ name, g.addNodeWithId name entity metadata bindings = .ok (g', h)) →
      ∃ node, g'.nodes = g.nodes ++ [node] ∧ node.bindings = bindings ∧ node.dependencies =
        ((bindings.flatMap fun b => b.data.references).map (·.node)).eraseDups := by
  refine ⟨fun b hb => ⟨fun _ => enumerates_iff (hsorted b hb), ?_, ?_⟩, ?_⟩
  · rw [← map_references_resolve, bindingSpec]
    cases b.data.resolve g.referenceOf <;> rfl
  · intro b' hb' outputs
    obtain ⟨-, rfl⟩ := (bindingSpec_eq_ok b b').1 hb'
    exact enumerates_iff (hsorted b hb).relabel
  · intro entity metadata g' h hadded
    obtain ⟨id, hnodes⟩ := exists_of_added hadded
    exact ⟨_, hnodes, rfl, Node.producers_eq bindings⟩

/-- Two inputs that take outputs of three nodes, some of them more than once and at several depths. -/
def nested : List (Binding Promise) :=
  [⟨"a", .collection [.reference ⟨2, "x"⟩,
      .map [("k", .collection [.scalar Literal.none, .reference ⟨0, "y"⟩]), ("l", .reference ⟨2, "z"⟩)],
      .reference ⟨0, "y"⟩]⟩,
    ⟨"b", .map [("m", .reference ⟨1, "x"⟩), ("n", .reference ⟨2, "x"⟩)]⟩]

/-- Three nodes without inputs. -/
def threeNodes : Graph :=
  ⟨(List.range 3).map fun k => Node.ofBindings k (generatedId k) 0 default [], []⟩

theorem promises_agree_nested : (∀ b ∈ nested, b.data.KeysSorted) ∧
    (∀ b ∈ nested, ∀ promises, b.data.Enumerates promises ↔ b.data.references = promises) ∧
    nested.map (·.data.references.map Promise.render) =
      [["promise(#2.x)", "promise(#0.y)", "promise(#2.z)", "promise(#0.y)"],
        ["promise(#1.x)", "promise(#2.x)"]] ∧
    ∃ g h node, threeNodes.addNode 0 default nested = .ok (g, h) ∧
      g.nodes = threeNodes.nodes ++ [node] ∧ node.dependencies = [2, 0, 1] := by
  have hkl : ["k", "l"].Pairwise (· < ·) := by decide
  have hmn : ["m", "n"].Pairwise (· < ·) := by decide
  have hsorted : ∀ b ∈ nested, b.data.KeysSorted := List.forall_mem_cons.2
    ⟨⟨trivial, ⟨hkl, ⟨trivial, trivial, trivial⟩, trivial, trivial⟩, trivial, trivial⟩,
      List.forall_mem_singleton.2 ⟨hmn, trivial, trivial, trivial⟩⟩
  obtain ⟨hinputs, hadded⟩ := promises_agree threeNodes hsorted
  have hok : ∃ g h, threeNodes.addNode 0 default nested = .ok (g, h) := ⟨_, _, rfl⟩
  obtain ⟨g, h, hok⟩ := hok
  obtain ⟨node, hnodes, -, hdependencies⟩ := hadded 0 default g h (.inl hok)
  exact ⟨hsorted, fun b hb => (hinputs b hb).1, by decide, g, h, node, hok, hnodes, hdependencies⟩

end Graph

end Workflow
