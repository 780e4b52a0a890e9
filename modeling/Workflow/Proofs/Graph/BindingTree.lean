import Workflow.Graph.Binding
import Workflow.Proofs.Outcome

/-!
# Trees of inputs

`BindingTree.relabel` changes the references of a tree and nothing else: its shape, the keys of its maps
and its literals stay. `resolve_eq_ok` says that a tree is resolved by such a change, and when.
`references_relabel` says that the references of the new tree stand in the order of the old ones.
-/

namespace Workflow

variable {ρ σ ε : Type}

namespace BindingTree

mutual

/-- A tree with every reference changed. -/
def relabel (g : ρ → σ) : BindingTree ρ → BindingTree σ
  | .scalar value => .scalar value
  | .reference target => .reference (g target)
  | .collection items => .collection (relabelItems g items)
  | .map entries => .map (relabelEntries g entries)

/-- The items of a list with every reference changed. -/
def relabelItems (g : ρ → σ) : List (BindingTree ρ) → List (BindingTree σ)
  | [] => []
  | item :: items => relabel g item :: relabelItems g items

/-- The entries of a map with every reference changed. -/
def relabelEntries (g : ρ → σ) : List (String × BindingTree ρ) → List (String × BindingTree σ)
  | [] => []
  | (key, value) :: entries => (key, relabel g value) :: relabelEntries g entries

end

mutual

theorem references_relabel (g : ρ → σ) : ∀ t : BindingTree ρ,
    (t.relabel g).references = t.references.map g
  | .scalar _ => rfl
  | .reference _ => rfl
  | .collection items => references_relabelItems g items
  | .map entries => references_relabelEntries g entries

theorem references_relabelItems (g : ρ → σ) : ∀ items : List (BindingTree ρ),
    referencesOfItems (relabelItems g items) = (referencesOfItems items).map g
  | [] => rfl
  | item :: items => by
    rw [relabelItems, referencesOfItems, referencesOfItems, references_relabel g item,
      references_relabelItems g items, List.map_append]

theorem references_relabelEntries (g : ρ → σ) : ∀ entries : List (String × BindingTree ρ),
    referencesOfEntries (relabelEntries g entries) = (referencesOfEntries entries).map g
  | [] => rfl
  | (_, value) :: entries => by
    rw [relabelEntries, referencesOfEntries, referencesOfEntries, references_relabel g value,
      references_relabelEntries g entries, List.map_append]

end

section

variable {f g : ρ → σ}

mutual

/-- Only the references that a tree has decide what becomes of it. -/
theorem relabel_congr : ∀ {t : BindingTree ρ}, (∀ r ∈ t.references, f r = g r) →
    t.relabel f = t.relabel g
  | .scalar _, _ => rfl
  | .reference target, h => by rw [relabel, relabel, h target (List.mem_singleton.2 rfl)]
  | .collection items, h => by rw [relabel, relabel, relabelItems_congr h]
  | .map entries, h => by rw [relabel, relabel, relabelEntries_congr h]

theorem relabelItems_congr : ∀ {items : List (BindingTree ρ)},
    (∀ r ∈ referencesOfItems items, f r = g r) → relabelItems f items = relabelItems g items
  | [], _ => rfl
  | item :: items, h => by
    rw [referencesOfItems, List.forall_mem_append] at h
    rw [relabelItems, relabelItems, relabel_congr h.1, relabelItems_congr h.2]

theorem relabelEntries_congr : ∀ {entries : List (String × BindingTree ρ)},
    (∀ r ∈ referencesOfEntries entries, f r = g r) → relabelEntries f entries = relabelEntries g entries
  | [], _ => rfl
  | (_, value) :: entries, h => by
    rw [referencesOfEntries, List.forall_mem_append] at h
    rw [relabelEntries, relabelEntries, relabel_congr h.1, relabelEntries_congr h.2]

end

end

section

variable {f : ρ → Except ε σ} {p : ρ → Prop} {g : ρ → σ}

/-! A reference can be replaced under the condition `p`, and then `g` says by what. -/

mutual

/-- **A tree is resolved** when each of its references is, and nothing else of it changes. -/
theorem resolve_eq_ok (hf : ∀ r s, f r = .ok s ↔ p r ∧ g r = s) :
    ∀ {t : BindingTree ρ} {t' : BindingTree σ},
      t.resolve f = .ok t' ↔ (∀ r ∈ t.references, p r) ∧ t.relabel g = t'
  | .scalar value, t' => by simp [resolve, references, relabel]
  | .reference target, t' => by
    rw [resolve, Outcome.map_eq_ok]
    simp only [hf, references, List.mem_singleton, forall_eq, relabel]
    constructor
    · rintro ⟨s, ⟨hp, rfl⟩, rfl⟩
      exact ⟨hp, rfl⟩
    · rintro ⟨hp, rfl⟩
      exact ⟨g target, ⟨hp, rfl⟩, rfl⟩
  | .collection items, t' => by
    rw [resolve, Outcome.map_eq_ok]
    simp only [resolveItems_eq_ok hf, references, relabel]
    constructor
    · rintro ⟨items', ⟨hp, rfl⟩, rfl⟩
      exact ⟨hp, rfl⟩
    · rintro ⟨hp, rfl⟩
      exact ⟨_, ⟨hp, rfl⟩, rfl⟩
  | .map entries, t' => by
    rw [resolve, Outcome.map_eq_ok]
    simp only [resolveEntries_eq_ok hf, references, relabel]
    constructor
    · rintro ⟨entries', ⟨hp, rfl⟩, rfl⟩
      exact ⟨hp, rfl⟩
    · rintro ⟨hp, rfl⟩
      exact ⟨_, ⟨hp, rfl⟩, rfl⟩

theorem resolveItems_eq_ok (hf : ∀ r s, f r = .ok s ↔ p r ∧ g r = s) :
    ∀ {items : List (BindingTree ρ)} {items' : List (BindingTree σ)},
      resolveItems f items = .ok items' ↔
        (∀ r ∈ referencesOfItems items, p r) ∧ relabelItems g items = items'
  | [], items' => by simp [resolveItems, referencesOfItems, relabelItems]
  | item :: items, items' => by
    rw [resolveItems, Outcome.bind_eq_ok]
    simp only [Outcome.bind_eq_ok, Outcome.pure_eq_ok, resolve_eq_ok hf, resolveItems_eq_ok hf,
      referencesOfItems, List.forall_mem_append, relabelItems]
    constructor
    · rintro ⟨a, ⟨ha, rfl⟩, as, ⟨has, rfl⟩, rfl⟩
      exact ⟨⟨ha, has⟩, rfl⟩
    · rintro ⟨⟨ha, has⟩, rfl⟩
      exact ⟨_, ⟨ha, rfl⟩, _, ⟨has, rfl⟩, rfl⟩

theorem resolveEntries_eq_ok (hf : ∀ r s, f r = .ok s ↔ p r ∧ g r = s) :
    ∀ {entries : List (String × BindingTree ρ)} {entries' : List (String × BindingTree σ)},
      resolveEntries f entries = .ok entries' ↔
        (∀ r ∈ referencesOfEntries entries, p r) ∧ relabelEntries g entries = entries'
  | [], entries' => by simp [resolveEntries, referencesOfEntries, relabelEntries]
  | (key, value) :: entries, entries' => by
    rw [resolveEntries, Outcome.bind_eq_ok]
    simp only [Outcome.bind_eq_ok, Outcome.pure_eq_ok, resolve_eq_ok hf, resolveEntries_eq_ok hf,
      referencesOfEntries, List.forall_mem_append, relabelEntries]
    constructor
    · rintro ⟨a, ⟨ha, rfl⟩, as, ⟨has, rfl⟩, rfl⟩
      exact ⟨⟨ha, has⟩, rfl⟩
    · rintro ⟨⟨ha, has⟩, rfl⟩
      exact ⟨_, ⟨ha, rfl⟩, _, ⟨has, rfl⟩, rfl⟩

end

end

end BindingTree

namespace Binding

/-- An input with every reference changed. -/
def relabel (g : ρ → σ) (b : Binding ρ) : Binding σ := ⟨b.var, b.data.relabel g⟩

end Binding

end Workflow
