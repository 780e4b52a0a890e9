import Workflow.Literal.Basic

/-!
# Node inputs

A node is named by its position in the graph, its handle. A `Promise` is an output of another node.
The value bound to an input is a tree of literals and references; before the graph is rendered the
references are promises, afterwards they are `OutputReference`s.

* `BindingTree.references` lists the references of a tree, depth first.
* `BindingTree.resolve` replaces every reference, or stops at the first that cannot be.
-/

namespace Workflow

/-- The position of a node in its graph. -/
abbrev Handle := Nat

/-- The text of a handle. -/
def Handle.render (h : Handle) : String := s!"#{h}"

/-- An output of a node, known once the node has run. -/
structure Promise where
  node : Handle
  var : String
deriving DecidableEq, Inhabited

/-- The text of a promise. -/
def Promise.render (p : Promise) : String := s!"promise({Handle.render p.node}.{p.var})"

/-- An output of the node with a given id. -/
structure OutputReference where
  nodeId : String
  var : String
deriving DecidableEq, Inhabited

/-- A value with references of type `ρ` in it. The entries of a map are sorted by key. -/
inductive BindingTree (ρ : Type) where
  | scalar (value : Literal)
  | reference (target : ρ)
  | collection (items : List (BindingTree ρ))
  | map (entries : List (String × BindingTree ρ))

namespace BindingTree

instance {ρ : Type} : Inhabited (BindingTree ρ) := ⟨.scalar Literal.none⟩

mutual

/-- The references of a tree, depth first. -/
def references {ρ : Type} : BindingTree ρ → List ρ
  | .scalar _ => []
  | .reference target => [target]
  | .collection items => referencesOfItems items
  | .map entries => referencesOfEntries entries

/-- The references of the items of a list. -/
def referencesOfItems {ρ : Type} : List (BindingTree ρ) → List ρ
  | [] => []
  | item :: items => references item ++ referencesOfItems items

/-- The references of the entries of a map, by key. -/
def referencesOfEntries {ρ : Type} : List (String × BindingTree ρ) → List ρ
  | [] => []
  | (_, value) :: entries => references value ++ referencesOfEntries entries

end

mutual

/-- Replaces every reference of a tree, or stops at the first that cannot be. -/
def resolve {ρ σ ε : Type} (f : ρ → Except ε σ) : BindingTree ρ → Except ε (BindingTree σ)
  | .scalar value => .ok (.scalar value)
  | .reference target => (f target).map .reference
  | .collection items => (resolveItems f items).map .collection
  | .map entries => (resolveEntries f entries).map .map

/-- Replaces every reference of the items of a list. -/
def resolveItems {ρ σ ε : Type} (f : ρ → Except ε σ) :
    List (BindingTree ρ) → Except ε (List (BindingTree σ))
  | [] => .ok []
  | item :: items => do
    let item ← resolve f item
    let items ← resolveItems f items
    return item :: items

/-- Replaces every reference of the entries of a map. -/
def resolveEntries {ρ σ ε : Type} (f : ρ → Except ε σ) :
    List (String × BindingTree ρ) → Except ε (List (String × BindingTree σ))
  | [] => .ok []
  | (key, value) :: entries => do
    let value ← resolve f value
    let entries ← resolveEntries f entries
    return (key, value) :: entries

end

end BindingTree

/-- A named input with its value. -/
structure Binding (ρ : Type) where
  var : String
  data : BindingTree ρ
deriving Inhabited

end Workflow
