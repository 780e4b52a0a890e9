import Workflow.Storage.Basic

/-!
# What object stores keep

Objects are found by the name of their store and their key.

* `Sound`: every store has a bucket of its own.
* `objectOf?_put`: an object put into a store is there, and all others are as before.
* `objectOf?_openStore`: a store opened anew is empty, and all others are as before.
-/

namespace Workflow

theorem lookup_cons {κ α : Type} [DecidableEq κ] (key k : κ) (value : α) (pairs : List (κ × α)) :
    ((key, value) :: pairs).lookup k = if k = key then some value else pairs.lookup k := by
  rw [List.lookup_cons]
  by_cases h : k = key
  · simp [h]
  · have : (k == key) = false := by simpa using h
    rw [this, if_neg h]

/-- Other keys are found as before where one is taken out. -/
theorem lookup_filter_ne {κ α : Type} [DecidableEq κ] {key k : κ} (h : k ≠ key)
    (pairs : List (κ × α)) : (pairs.filter (·.1 != key)).lookup k = pairs.lookup k := by
  induction pairs with
  | nil => rfl
  | cons pair rest ih =>
    obtain ⟨k', value⟩ := pair
    rw [lookup_cons, List.filter_cons]
    by_cases hkey : k' = key
    · rw [if_neg (by simp [hkey]), ih, if_neg (hkey ▸ h)]
    · rw [if_pos (by simp [hkey]), lookup_cons, ih]

theorem lookup_insertKey {α : Type} (key k : String) (value : α) (pairs : List (String × α)) :
    (insertKey key value pairs).lookup k = if k = key then some value else pairs.lookup k := by
  induction pairs with
  | nil => exact lookup_cons key k value []
  | cons pair rest ih =>
    obtain ⟨k', v⟩ := pair
    rw [insertKey]
    split
    · exact lookup_cons key k value _
    · split
      · rename_i heq
        subst heq
        rw [lookup_cons, lookup_cons]
        split
        · rfl
        · rfl
      · rename_i hne
        rw [lookup_cons, lookup_cons, ih]
        by_cases hk : k = k'
        · subst hk
          rw [if_pos rfl, if_neg (Ne.symm hne), if_pos rfl]
        · rw [if_neg hk, if_neg hk]

namespace Stores

variable {s : Stores} {store : String} {bucket : Nat}

/-- The object of a store and a key. -/
def objectOf? (s : Stores) (store key : String) : Option StoredObject :=
  (s.routes.lookup store).bind fun bucket => s.object? bucket key

/-- Every store has a bucket, which it shares with no other. -/
structure Sound (s : Stores) : Prop where
  bounded : ∀ store bucket, s.routes.lookup store = some bucket → bucket < s.buckets.length
  distinct : ∀ store other bucket, s.routes.lookup store = some bucket →
    s.routes.lookup other = some bucket → store = other

theorem Sound.empty : Sound .empty where
  bounded := by
    intro store bucket h
    cases h
  distinct := by
    intro store other bucket h
    cases h

/-! ## Objects that are put -/

theorem object?_put (hbucket : bucket < s.buckets.length) (key : String) (object : StoredObject)
    (b : Nat) (k : String) : (s.put bucket key object).object? b k =
      if b = bucket ∧ k = key then some object else s.object? b k := by
  unfold object? put
  rw [List.getD_eq_getElem?_getD, List.getElem?_modify, List.getD_eq_getElem?_getD]
  by_cases hb : b = bucket
  · subst hb
    simp [List.getElem?_eq_getElem hbucket, lookup_insertKey]
  · simp [Ne.symm hb, hb]

theorem Sound.put (hs : s.Sound) (bucket : Nat) (key : String) (object : StoredObject) :
    (s.put bucket key object).Sound where
  bounded := fun a b h => by
    have := hs.bounded a b h
    simpa [Stores.put] using this
  distinct := hs.distinct

/-- **An object put into a store** is there, and all others are as before. -/
theorem objectOf?_put (hs : s.Sound) (hstore : s.routes.lookup store = some bucket) (key : String)
    (object : StoredObject) (a k : String) : (s.put bucket key object).objectOf? a k =
      if a = store ∧ k = key then some object else s.objectOf? a k := by
  have hroutes : (s.put bucket key object).routes = s.routes := rfl
  unfold objectOf?
  rw [hroutes]
  cases ha : s.routes.lookup a with
  | none =>
    rw [if_neg]
    · rfl
    rintro ⟨rfl, -⟩
    rw [hstore] at ha
    cases ha
  | some b =>
    -- another store has another bucket
    have hb : b = bucket ↔ a = store := by
      constructor
      · rintro rfl
        exact hs.distinct a store b ha hstore
      · rintro rfl
        rw [hstore] at ha
        cases ha
        rfl
    simp only [Option.bind_some, object?_put (hs.bounded store bucket hstore), hb]

/-! ## Stores that are opened -/

theorem lookup_openStore (s : Stores) (store a : String) : (s.openStore store).1.routes.lookup a =
    if a = store then some s.buckets.length else s.routes.lookup a := by
  unfold openStore
  rw [lookup_cons]
  by_cases ha : a = store
  · rw [if_pos ha, if_pos ha]
  · rw [if_neg ha, if_neg ha]
    exact lookup_filter_ne ha s.routes

theorem Sound.openStore (hs : s.Sound) (store : String) : (s.openStore store).1.Sound where
  bounded := by
    intro a b h
    rw [lookup_openStore] at h
    have hlength : (s.openStore store).1.buckets.length = s.buckets.length + 1 := by
      simp [Stores.openStore]
    rw [hlength]
    split at h
    · cases h
      exact Nat.lt_succ_self _
    · exact Nat.lt_succ_of_lt (hs.bounded a b h)
  distinct := by
    intro a a' b h h'
    rw [lookup_openStore] at h h'
    -- the new bucket is none of those that were there
    split at h
    · split at h'
      · exact ‹a = store›.trans ‹a' = store›.symm
      · cases h
        exact absurd (hs.bounded a' _ h') (Nat.lt_irrefl _)
    · split at h'
      · cases h'
        exact absurd (hs.bounded a _ h) (Nat.lt_irrefl _)
      · exact hs.distinct a a' b h h'

/-- **A store opened anew** is empty, and all others are as before. -/
theorem objectOf?_openStore (hs : s.Sound) (store a k : String) :
    (s.openStore store).1.objectOf? a k = if a = store then none else s.objectOf? a k := by
  unfold objectOf?
  rw [lookup_openStore]
  by_cases ha : a = store
  · simp [ha, object?, Stores.openStore]
  · rw [if_neg ha, if_neg ha]
    cases hroute : s.routes.lookup a with
    | none => rfl
    | some b =>
      have hb := hs.bounded a b hroute
      simp [object?, Stores.openStore, List.getElem?_append_left hb]

end Stores

end Workflow
