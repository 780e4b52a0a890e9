/-!
# Lists sorted by key

* `insertKey` puts a pair into a sorted list; a pair of the same key is replaced.
* `sortKeys` sorts pairs; of equal keys the last one stays.
* `Dict` is a sorted list from text to text, the shape of all free-form annotations.
-/

namespace Workflow

/-- Puts a pair into a list sorted by key; a pair of the same key is replaced. -/
def insertKey {α : Type} (key : String) (value : α) : List (String × α) → List (String × α)
  | [] => [(key, value)]
  | (k, v) :: rest =>
    if key < k then (key, value) :: (k, v) :: rest
    else if key = k then (key, value) :: rest
    else (k, v) :: insertKey key value rest

/-- Pairs sorted by key; of equal keys the last one stays. -/
def sortKeys {α : Type} (pairs : List (String × α)) : List (String × α) :=
  pairs.foldl (fun sorted pair => insertKey pair.1 pair.2 sorted) []

/-- The keys strictly increase. -/
def SortedKeys {α : Type} (pairs : List (String × α)) : Prop :=
  (pairs.map (·.1)).Pairwise (· < ·)

theorem mem_keys_insertKey {α : Type} {key k : String} {value : α} {pairs : List (String × α)} :
    k ∈ (insertKey key value pairs).map (·.1) ↔ k = key ∨ k ∈ pairs.map (·.1) := by
  induction pairs with
  | nil => simp [insertKey]
  | cons pair rest ih =>
    obtain ⟨k', v⟩ := pair
    simp only [insertKey]
    split
    · simp
    · split
      · rename_i h
        subst h
        simp
      · simp only [List.map_cons, List.mem_cons, ih]
        exact ⟨fun h => by rcases h with h | h | h <;> simp [h],
          fun h => by rcases h with h | h | h <;> simp [h]⟩

/-- A key above all others goes to the end. -/
theorem insertKey_of_last {α : Type} {key : String} {value : α} {pairs : List (String × α)}
    (last : ∀ p ∈ pairs, p.1 < key) : insertKey key value pairs = pairs ++ [(key, value)] := by
  induction pairs with
  | nil => rfl
  | cons pair rest ih =>
    have h : pair.1 < key := last pair (by simp)
    have h₁ : ¬ key < pair.1 := fun h₁ => Std.lt_irrefl (String.lt_trans h h₁)
    have h₂ : key ≠ pair.1 := fun e => Std.lt_irrefl (e ▸ h)
    simp [insertKey, h₁, h₂, ih fun p hp => last p (by simp [hp])]

theorem sortedKeys_insertKey {α : Type} {key : String} {value : α} {pairs : List (String × α)}
    (sorted : SortedKeys pairs) : SortedKeys (insertKey key value pairs) := by
  induction pairs with
  | nil => simp [insertKey, SortedKeys]
  | cons pair rest ih =>
    obtain ⟨k, v⟩ := pair
    simp only [SortedKeys, List.map_cons, List.pairwise_cons] at sorted ih ⊢
    simp only [insertKey]
    split
    · rename_i h
      simp only [List.map_cons, List.pairwise_cons, List.mem_cons]
      refine ⟨?_, sorted⟩
      rintro k' (rfl | hk)
      · exact h
      · exact String.lt_trans h (sorted.1 k' hk)
    · split
      · rename_i h
        subst h
        simpa using sorted
      · rename_i h₁ h₂
        simp only [List.map_cons, List.pairwise_cons]
        refine ⟨fun k' hk => ?_, ih sorted.2⟩
        rcases mem_keys_insertKey.1 hk with rfl | hk
        · rcases String.le_total k k' with h | h
          · exact Std.lt_of_le_of_ne h fun e => h₂ e.symm
          · exact absurd (Std.lt_of_le_of_ne h h₂) h₁
        · exact sorted.1 k' hk

theorem sortedKeys_sortKeys {α : Type} (pairs : List (String × α)) :
    SortedKeys (sortKeys pairs) := by
  unfold sortKeys
  suffices ∀ sorted : List (String × α), SortedKeys sorted →
      SortedKeys (pairs.foldl (fun sorted pair => insertKey pair.1 pair.2 sorted) sorted) from
    this [] (by simp [SortedKeys])
  induction pairs with
  | nil => exact fun _ h => h
  | cons pair rest ih => exact fun sorted h => ih _ (sortedKeys_insertKey h)

/-- A list sorted already is left as it is. -/
theorem sortKeys_of_sortedKeys {α : Type} {pairs : List (String × α)} (sorted : SortedKeys pairs) :
    sortKeys pairs = pairs := by
  unfold sortKeys
  suffices ∀ front : List (String × α), SortedKeys (front ++ pairs) →
      pairs.foldl (fun sorted pair => insertKey pair.1 pair.2 sorted) front = front ++ pairs from
    this [] sorted
  induction pairs with
  | nil => simp
  | cons pair rest ih =>
    intro front h
    have snoc : insertKey pair.1 pair.2 front = front ++ [pair] := by
      have last : ∀ p ∈ front, p.1 < pair.1 := fun p hp => by
        simp only [SortedKeys, List.map_append, List.map_cons, List.pairwise_append] at h
        exact h.2.2 p.1 (List.mem_map_of_mem hp) pair.1 (by simp)
      exact insertKey_of_last last
    have rest_sorted : SortedKeys rest := by
      simp only [SortedKeys, List.map_cons, List.pairwise_cons] at sorted
      exact sorted.2
    rw [List.foldl_cons, snoc, ih rest_sorted (front ++ [pair]) (by simpa using h)]
    simp

/-- The members of a sorted list come from the list. -/
theorem mem_of_mem_insertKey {α : Type} {key : String} {value : α} {pairs : List (String × α)}
    {p : String × α} (h : p ∈ insertKey key value pairs) : p = (key, value) ∨ p ∈ pairs := by
  induction pairs with
  | nil => simpa [insertKey] using h
  | cons pair rest ih =>
    simp only [insertKey] at h
    split at h
    · simpa using h
    · split at h
      · simp only [List.mem_cons] at h
        rcases h with h | h <;> simp [h]
      · simp only [List.mem_cons] at h
        rcases h with h | h
        · simp [h]
        · rcases ih h with h | h <;> simp [h]

theorem mem_of_mem_sortKeys {α : Type} {pairs : List (String × α)} {p : String × α}
    (h : p ∈ sortKeys pairs) : p ∈ pairs := by
  unfold sortKeys at h
  suffices ∀ front : List (String × α),
      p ∈ pairs.foldl (fun sorted pair => insertKey pair.1 pair.2 sorted) front →
      p ∈ front ∨ p ∈ pairs by
    rcases this [] h with h | h
    · simp at h
    · exact h
  clear h
  induction pairs with
  | nil => simp
  | cons pair rest ih =>
    intro front h
    rcases ih _ h with h | h
    · rcases mem_of_mem_insertKey h with h | h <;> simp [h]
    · simp [h]

/-- A finite map from text to text, by its sorted entries. -/
structure Dict where
  entries : List (String × String)
  sorted : SortedKeys entries

namespace Dict

instance : DecidableEq Dict := fun a b =>
  if h : a.entries = b.entries then
    isTrue (by cases a; cases b; simp_all)
  else isFalse fun e => h (congrArg entries e)

/-- The map without entries. -/
def empty : Dict := ⟨[], List.Pairwise.nil⟩

instance : Inhabited Dict := ⟨empty⟩

def isEmpty (d : Dict) : Bool := d.entries.isEmpty

/-- The map with one entry added or replaced. -/
def insert (d : Dict) (key value : String) : Dict :=
  ⟨insertKey key value d.entries, sortedKeys_insertKey d.sorted⟩

/-- The map of a list of entries; of equal keys the last one stays. -/
def ofList (entries : List (String × String)) : Dict :=
  ⟨sortKeys entries, sortedKeys_sortKeys entries⟩

/-- The entries of a map make that map again. -/
theorem ofList_entries (d : Dict) : ofList d.entries = d := by
  obtain ⟨entries, sorted⟩ := d
  simp only [ofList, sortKeys_of_sortedKeys sorted]

/-- The value of a key. -/
def get? (d : Dict) (key : String) : Option String := d.entries.lookup key

end Dict

end Workflow
