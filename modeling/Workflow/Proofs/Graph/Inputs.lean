import Workflow.Proofs.Graph.Rendering
import Workflow.Proofs.Literal.Wire

/-!
# Literals in the inputs of graphs

What a graph is rendered as has the literals of the graph, and its maps have the same keys.

* `BindingTree.literals`: the literals of a tree, at any depth.
* `BindingTree.KeysSorted`: the entries of its maps, and of those in its literals, are sorted by key.
* `Binding.Sound`: an input with sorted keys and finite numbers.
* `Graph.sound_of_toSpec`: the inputs of a rendered graph are sound when those of the graph are.
-/

namespace Workflow

namespace BindingTree

variable {ρ σ : Type}

mutual

/-- The literals of a tree. -/
def literals : BindingTree ρ → List Literal
  | .scalar value => [value]
  | .reference _ => []
  | .collection items => literalsOfItems items
  | .map entries => literalsOfEntries entries

/-- The literals of the items of a list. -/
def literalsOfItems : List (BindingTree ρ) → List Literal
  | [] => []
  | item :: items => literals item ++ literalsOfItems items

/-- The literals of the entries of a map. -/
def literalsOfEntries : List (String × BindingTree ρ) → List Literal
  | [] => []
  | (_, value) :: entries => literals value ++ literalsOfEntries entries

end

mutual

/-- The entries of every map in a tree, and in its literals, are sorted by key. -/
def KeysSorted : BindingTree ρ → Prop
  | .scalar value => value.KeysSorted
  | .reference _ => True
  | .collection items => KeysSortedItems items
  | .map entries => SortedKeys entries ∧ KeysSortedEntries entries

/-- The entries of every map in the items of a list are sorted by key. -/
def KeysSortedItems : List (BindingTree ρ) → Prop
  | [] => True
  | item :: items => KeysSorted item ∧ KeysSortedItems items

/-- The entries of every map in the entries of a map are sorted by key. -/
def KeysSortedEntries : List (String × BindingTree ρ) → Prop
  | [] => True
  | (_, value) :: entries => KeysSorted value ∧ KeysSortedEntries entries

end

/-! ## Other references -/

section

variable (g : ρ → σ)

mutual

theorem literals_relabel : ∀ t : BindingTree ρ, (t.relabel g).literals = t.literals
  | .scalar _ => rfl
  | .reference _ => rfl
  | .collection items => literals_relabelItems items
  | .map entries => literals_relabelEntries entries

theorem literals_relabelItems : ∀ items : List (BindingTree ρ),
    literalsOfItems (relabelItems g items) = literalsOfItems items
  | [] => rfl
  | item :: items => by
    rw [relabelItems, literalsOfItems, literalsOfItems, literals_relabel item,
      literals_relabelItems items]

theorem literals_relabelEntries : ∀ entries : List (String × BindingTree ρ),
    literalsOfEntries (relabelEntries g entries) = literalsOfEntries entries
  | [] => rfl
  | (_, value) :: entries => by
    rw [relabelEntries, literalsOfEntries, literalsOfEntries, literals_relabel value,
      literals_relabelEntries entries]

end

theorem keys_relabelEntries : ∀ entries : List (String × BindingTree ρ),
    (relabelEntries g entries).map (·.1) = entries.map (·.1)
  | [] => rfl
  | (_, _) :: entries => by
    rw [relabelEntries, List.map_cons, List.map_cons, keys_relabelEntries entries]

variable {g}

mutual

theorem KeysSorted.relabel : ∀ {t : BindingTree ρ}, t.KeysSorted → (t.relabel g).KeysSorted
  | .scalar _, h => h
  | .reference _, h => h
  | .collection _, h => KeysSortedItems.relabel h
  | .map entries, ⟨hkeys, h⟩ => by
    refine ⟨?_, KeysSortedEntries.relabel h⟩
    rwa [SortedKeys, keys_relabelEntries]

theorem KeysSortedItems.relabel : ∀ {items : List (BindingTree ρ)}, KeysSortedItems items →
    KeysSortedItems (relabelItems g items)
  | [], h => h
  | _ :: _, ⟨hitem, hitems⟩ => ⟨hitem.relabel, KeysSortedItems.relabel hitems⟩

theorem KeysSortedEntries.relabel : ∀ {entries : List (String × BindingTree ρ)},
    KeysSortedEntries entries → KeysSortedEntries (relabelEntries g entries)
  | [], h => h
  | (_, _) :: _, ⟨hvalue, hentries⟩ => ⟨hvalue.relabel, KeysSortedEntries.relabel hentries⟩

end

end

end BindingTree

/-! ## Inputs of graphs -/

namespace Binding

variable {ρ σ : Type}

/-- Sorted keys and finite numbers, in the value of an input. -/
structure Sound (b : Binding ρ) : Prop where
  keysSorted : b.data.KeysSorted
  finite : ∀ l ∈ b.data.literals, l.isFinite = true

theorem Sound.relabel {b : Binding ρ} (h : b.Sound) (g : ρ → σ) : (b.relabel g).Sound where
  keysSorted := h.keysSorted.relabel
  finite := by
    rw [Binding.relabel, BindingTree.literals_relabel]
    exact h.finite

end Binding

/-- The inputs of all nodes. -/
def WorkflowSpec.bindings (spec : WorkflowSpec) : List (Binding OutputReference) :=
  spec.nodes.flatMap (·.bindings)

namespace Graph

/-- The inputs of all nodes. -/
def bindings (g : Graph) : List (Binding Promise) := g.nodes.flatMap (·.bindings)

theorem sound_of_toSpec {g : Graph} {entityOf : Nat → RunEntity} {spec : WorkflowSpec}
    (hspec : g.toSpec entityOf = .ok spec) (h : ∀ b ∈ g.bindings, b.Sound) :
    ∀ b ∈ spec.bindings, b.Sound := by
  obtain ⟨-, -, rfl⟩ := toSpec_eq_ok.1 hspec
  intro b hb
  obtain ⟨r, hr, hb⟩ := List.mem_flatMap.1 hb
  obtain ⟨node, hnode, rfl⟩ := List.mem_map.1 hr
  obtain ⟨input, hinput, rfl⟩ := List.mem_map.1 hb
  exact (h input (List.mem_flatMap.2 ⟨node, hnode, hinput⟩)).relabel _

end Graph

end Workflow
