import Workflow.Marshal.Registry
import Workflow.Proofs.Storage.Objects

/-!
# What a registry has been told

A registry is reached by calls that put transformers under keys. The same transformer may come in
several calls, and a call may ask for all of its keys to be free.

* `Registry.run`: what a history of calls leaves.
* `Ledger`: the calls that took effect, with what they granted. `Ledger.enter` tells whether one
  more does by the calls before it alone, without a look at the table.
* `Ledger.holder?`: whom the latest grant of a key names.
* `Registry.Follows`: the table of a registry says of each key what the ledger does. Every call
  keeps it so (`Follows.perform`), and with that every history (`follows_run`).
-/

namespace Workflow

/-- One call: who is registered, under which keys, and whether all of them must be free. -/
structure Registration where
  who : Registrant
  keys : List TypeKey
  unique : Bool

/-- The caller has the transformer in hand: it is new, or its number stands for one of those that
the registry knows. -/
def Registrant.AtHand (known : Nat) : Registrant → Prop
  | .new _ => True
  | .known number => number ≤ known

instance (known : Nat) : (who : Registrant) → Decidable (who.AtHand known)
  | .new _ => .isTrue trivial
  | .known number => inferInstanceAs (Decidable (number ≤ known))

namespace Registry

/-- What a call leaves. A call that is refused changes nothing, and one for a transformer that is
not at hand cannot be made. -/
def perform (r : Registry) (c : Registration) : Registry :=
  if c.who.AtHand r.transformers.length then
    if c.unique then
      match r.registerUnique c.who c.keys with
      | .ok r' => r'
      | .error _ => r
    else r.register c.who c.keys
  else r

/-- What a history of calls leaves. -/
def run (r : Registry) (history : List Registration) : Registry := history.foldl perform r

/-- The calls that make the registry of a fresh session. -/
def standardCalls : List Registration :=
  ⟨.new Files.transformer, [.ofHostType .file, .ofHostType .pathLike, .capability .pathLike], false⟩
    :: PrimitiveRule.defaults.map fun rule =>
      ⟨.new rule.transformer, [.ofHostType rule.hostType], false⟩

/-- So a history that goes on from there is one that starts without keys. -/
theorem run_standard (history : List Registration) :
    standard.run history = empty.run (standardCalls ++ history) := by
  unfold run
  rw [List.foldl_append]
  rfl

end Registry

/-! ## The ledger -/

/-- The calls that took effect: the transformers that came with them, in order, and for each call,
the latest first, the number of its transformer with the keys. -/
structure Ledger where
  transformers : List Transformer
  grants : List (Nat × List TypeKey)

namespace Ledger

variable {l : Ledger} {c : Registration} {key : TypeKey} {number : Nat}

def empty : Ledger := ⟨[], []⟩

/-- Some grant covers the key. -/
def Covers (l : Ledger) (key : TypeKey) : Prop := ∃ grant ∈ l.grants, key ∈ grant.2

instance (l : Ledger) (key : TypeKey) : Decidable (l.Covers key) :=
  inferInstanceAs (Decidable (∃ grant ∈ l.grants, key ∈ grant.2))

/-- A call takes effect if its transformer is at hand and, where free keys are asked for, no key of
it was covered before. -/
def Grants (l : Ledger) (c : Registration) : Prop :=
  c.who.AtHand l.transformers.length ∧ (c.unique = true → ∀ key ∈ c.keys, ¬ l.Covers key)

instance (l : Ledger) (c : Registration) : Decidable (l.Grants c) :=
  inferInstanceAs (Decidable (_ ∧ _))

/-- The transformers with a registrant among them, and its number. -/
def enlist (l : Ledger) : Registrant → List Transformer × Nat
  | .new t => (l.transformers ++ [t], l.transformers.length + 1)
  | .known number => (l.transformers, number)

/-- The ledger after one more call. -/
def enter (l : Ledger) (c : Registration) : Ledger :=
  if l.Grants c then ⟨(l.enlist c.who).1, ((l.enlist c.who).2, c.keys) :: l.grants⟩ else l

theorem enter_of_grants (h : l.Grants c) :
    l.enter c = ⟨(l.enlist c.who).1, ((l.enlist c.who).2, c.keys) :: l.grants⟩ := if_pos h

theorem enter_of_not_grants (h : ¬ l.Grants c) : l.enter c = l := if_neg h

/-- The ledger of a history. -/
def ofHistory (history : List Registration) : Ledger := history.foldl enter empty

/-- The number that the latest grant of a key names. -/
def holder? (l : Ledger) (key : TypeKey) : Option Nat :=
  (l.grants.find? fun grant => decide (key ∈ grant.2)).map (·.1)

theorem holder?_eq_none : l.holder? key = none ↔ ¬ l.Covers key := by
  unfold holder? Covers
  rw [Option.map_eq_none_iff, List.find?_eq_none]
  simp

theorem holder?_cons (transformers : List Transformer) (grant : Nat × List TypeKey)
    (grants : List (Nat × List TypeKey)) (key : TypeKey) :
    holder? ⟨transformers, grant :: grants⟩ key =
      if key ∈ grant.2 then some grant.1 else holder? ⟨transformers, grants⟩ key := by
  unfold holder?
  rw [List.find?_cons]
  by_cases h : key ∈ grant.2
  · simp [h]
  · simp [h]

/-- Every grant names a transformer that the ledger knows. -/
def Bounded (l : Ledger) : Prop := ∀ grant ∈ l.grants, grant.1 ≤ l.transformers.length

theorem Bounded.enter (hl : l.Bounded) (c : Registration) : (l.enter c).Bounded := by
  by_cases hgrants : l.Grants c
  · rw [enter_of_grants hgrants]
    obtain ⟨hhand, -⟩ := hgrants
    intro grant hgrant
    rcases List.mem_cons.1 hgrant with rfl | hold
    · cases hwho : c.who with
      | new t => simp [enlist]
      | known number =>
        rw [hwho] at hhand
        exact hhand
    · have hbefore := hl grant hold
      cases c.who with
      | new t =>
        simp only [enlist, List.length_append, List.length_singleton]
        omega
      | known number => exact hbefore
  · rw [enter_of_not_grants hgrants]
    exact hl

theorem bounded_ofHistory (history : List Registration) : (ofHistory history).Bounded := by
  have hempty : empty.Bounded := by
    intro grant hgrant
    cases hgrant
  exact List.foldlRecOn history enter hempty fun l hl c _ => hl.enter c

end Ledger

/-! ## Registries follow their ledgers -/

namespace Registry

variable {r : Registry} {l : Ledger}

/-- A registry knows the transformers of a ledger, and its table says of each key, once, what the
ledger does. -/
structure Follows (r : Registry) (l : Ledger) : Prop where
  transformers : r.transformers = l.transformers
  lookup : ∀ key, r.entries.lookup key = l.holder? key
  distinct : (r.entries.map (·.1)).Nodup

theorem Follows.empty : Registry.empty.Follows .empty where
  transformers := rfl
  lookup _ := rfl
  distinct := List.nodup_nil

theorem lookup_bind (entries : List (TypeKey × Nat)) (k : TypeKey) (number : Nat) (key : TypeKey) :
    (bind entries k number).lookup key = if key = k then some number else entries.lookup key := by
  unfold bind
  rw [lookup_cons]
  by_cases h : key = k
  · rw [if_pos h, if_pos h]
  · rw [if_neg h, if_neg h, lookup_filter_ne h]

theorem distinct_bind {entries : List (TypeKey × Nat)} (h : (entries.map (·.1)).Nodup) (k : TypeKey)
    (number : Nat) : ((bind entries k number).map (·.1)).Nodup := by
  have hsublist : (entries.filter (·.1 != k)).Sublist entries := List.filter_sublist
  unfold bind
  rw [List.map_cons, List.nodup_cons]
  refine ⟨fun hmem => ?_, (hsublist.map Prod.fst).nodup h⟩
  obtain ⟨entry, hentry, hkey⟩ := List.mem_map.1 hmem
  have hne := (List.mem_filter.1 hentry).2
  simp [hkey] at hne

/-- A number that is put under keys is found there, and all other keys lead where they did. -/
theorem lookup_bindAll (number : Nat) (keys : List TypeKey) (entries : List (TypeKey × Nat))
    (key : TypeKey) :
    (keys.foldl (fun entries key => bind entries key number) entries).lookup key =
      if key ∈ keys then some number else entries.lookup key := by
  induction keys generalizing entries with
  | nil => simp
  | cons k keys ih =>
    rw [List.foldl_cons, ih, lookup_bind]
    by_cases hkey : key = k <;> by_cases hkeys : key ∈ keys <;> simp [hkey, hkeys]

theorem distinct_bindAll (number : Nat) (keys : List TypeKey) {entries : List (TypeKey × Nat)}
    (h : (entries.map (·.1)).Nodup) :
    ((keys.foldl (fun entries key => bind entries key number) entries).map (·.1)).Nodup := by
  induction keys generalizing entries with
  | nil => exact h
  | cons k keys ih => exact ih (distinct_bind h k number)

/-- A registration that takes effect is one more grant. -/
theorem Follows.register (hr : r.Follows l) (who : Registrant) (keys : List TypeKey) :
    (r.register who keys).Follows
      ⟨(l.enlist who).1, ((l.enlist who).2, keys) :: l.grants⟩ := by
  have hgranted : ∀ (transformers : List Transformer) (number : Nat),
      Follows ⟨transformers, keys.foldl (fun entries key => bind entries key number) r.entries⟩
        ⟨transformers, (number, keys) :: l.grants⟩ := by
    intro transformers number
    refine ⟨rfl, fun key => ?_, distinct_bindAll number keys hr.distinct⟩
    have hbefore : r.entries.lookup key = Ledger.holder? ⟨transformers, l.grants⟩ key :=
      hr.lookup key
    rw [lookup_bindAll, Ledger.holder?_cons, hbefore]
  cases who with
  | new t =>
    have hnew := hgranted (r.transformers ++ [t]) (r.transformers.length + 1)
    unfold Ledger.enlist
    rw [← hr.transformers]
    exact hnew
  | known number =>
    have hknown := hgranted r.transformers number
    unfold Ledger.enlist
    rw [← hr.transformers]
    exact hknown

/-- Whether all keys are free can be told from the ledger. -/
theorem Follows.registerUnique_eq (hr : r.Follows l) (who : Registrant) (keys : List TypeKey) :
    (∀ key ∈ keys, ¬ l.Covers key) ∧ r.registerUnique who keys = .ok (r.register who keys) ∨
      ∃ key ∈ keys, l.Covers key ∧ r.registerUnique who keys = .error (.because .configuration
        ("a transformer for `" ++ key.render ++ "` is already registered")) := by
  have htaken : ∀ key, (r.entries.lookup key).isSome = true ↔ l.Covers key := by
    intro key
    rw [hr.lookup, Option.isSome_iff_ne_none, ne_eq, Ledger.holder?_eq_none, Decidable.not_not]
  unfold registerUnique
  cases hfound : keys.find? fun key => (r.entries.lookup key).isSome with
  | none =>
    refine .inl ⟨fun key hkey => ?_, rfl⟩
    have hfree := List.find?_eq_none.1 hfound key hkey
    rwa [htaken] at hfree
  | some key =>
    have hcovered := (htaken key).1 (by simpa using List.find?_some hfound)
    exact .inr ⟨key, List.mem_of_find?_eq_some hfound, hcovered, rfl⟩

/-- **One call**: the registry goes on as the ledger does. -/
theorem Follows.perform (hr : r.Follows l) (c : Registration) :
    (r.perform c).Follows (l.enter c) := by
  have hregister := hr.register c.who c.keys
  unfold Registry.perform
  rw [hr.transformers]
  by_cases hhand : c.who.AtHand l.transformers.length
  · rw [if_pos hhand]
    by_cases hunique : c.unique = true
    · rw [if_pos hunique]
      -- the table finds a key taken where the ledger has it covered
      rcases hr.registerUnique_eq c.who c.keys with ⟨hfree, hok⟩ | ⟨key, hkey, hcovered, herror⟩
      · rw [hok, Ledger.enter_of_grants ⟨hhand, fun _ => hfree⟩]
        exact hregister
      · rw [herror, Ledger.enter_of_not_grants fun hgrants => hgrants.2 hunique key hkey hcovered]
        exact hr
    · rw [if_neg hunique, Ledger.enter_of_grants ⟨hhand, fun h => absurd h hunique⟩]
      exact hregister
  · rw [if_neg hhand, Ledger.enter_of_not_grants fun hgrants => hhand hgrants.1]
    exact hr

/-- **A history of calls**: the registry that it leaves says of each key what the latest grant
did. -/
theorem follows_run (history : List Registration) :
    (Registry.empty.run history).Follows (.ofHistory history) :=
  List.foldl_rel (r := Follows) Follows.empty fun c _ _ _ hr => hr.perform c

end Registry

end Workflow
