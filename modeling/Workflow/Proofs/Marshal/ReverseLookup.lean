import Mathlib.Data.List.Nodup
import Mathlib.Data.List.Sort
import Mathlib.Data.String.Basic
import Workflow.Proofs.Marshal.Registrations

/-!
# Who answers for a literal type

Reverse lookup goes through the table of a registry in whatever order it comes, passes over numbers
that it has seen, and asks the fallback last.

* `Ledger.Counts`: a transformer counts while some key is its own by the latest grant, and the
  fallback always does (`counts_iff`).
* `Claimant`: a transformer that counts and claims a literal type.
* `Registry.claimants`: those that the loop collects, each once (`nodup_claimants`); in every order
  of the table they are the claimants of the ledger (`mem_claimants_run`).
* `Answers`: what is answered to given claims, which their order does not change (`Answers.unique`);
  so registries that collect the same claims answer alike (`hostTypeOf_renumber`).
* `hostTypeOf_run`: so the answer of a registry depends on the claimants of its history alone.
-/

namespace Workflow

/-- No number is left twice. -/
theorem nodup_eraseDups (numbers : List Nat) : numbers.eraseDups.Nodup := by
  induction hlength : numbers.length using Nat.strongRecOn generalizing numbers with
  | ind length ih =>
    cases numbers with
    | nil => exact List.nodup_nil
    | cons number rest =>
      rw [List.eraseDups_cons, List.nodup_cons]
      have hshorter := List.length_filter_le (fun other => !other == number) rest
      rw [List.length_cons] at hlength
      refine ⟨fun hmem => ?_, ih _ (by omega) _ rfl⟩
      rw [List.mem_eraseDups, List.mem_filter] at hmem
      simp at hmem

/-- Where keys are distinct, the values are those that some key leads to. -/
theorem mem_values_iff {κ : Type} [DecidableEq κ] {entries : List (κ × Nat)}
    (h : (entries.map (·.1)).Nodup) (number : Nat) :
    number ∈ entries.map (·.2) ↔ ∃ key, entries.lookup key = some number := by
  constructor
  · intro hmem
    obtain ⟨⟨key, n⟩, hentry, rfl⟩ := List.mem_map.1 hmem
    obtain ⟨before, behind, rfl⟩ := List.append_of_mem hentry
    refine ⟨key, List.lookup_eq_some_iff.2 ⟨before, behind, rfl, fun entry hbefore => ?_⟩⟩
    rw [List.map_append, List.nodup_append] at h
    have hne := h.2.2 entry.1 (List.mem_map_of_mem hbefore) key (by simp)
    simpa using hne.symm
  · rintro ⟨key, hlookup⟩
    obtain ⟨before, behind, rfl, -⟩ := List.lookup_eq_some_iff.1 hlookup
    simp

/-! ## Whom the ledger counts -/

namespace Ledger

variable {l : Ledger} {number : Nat}

/-- A transformer counts if it is the fallback, or if it was granted some key that no later grant
covers. -/
def Counts (l : Ledger) (number : Nat) : Prop :=
  number = 0 ∨ ∃ later keys earlier, l.grants = later ++ (number, keys) :: earlier ∧
    ∃ key ∈ keys, ∀ grant ∈ later, key ∉ grant.2

theorem counts_iff : l.Counts number ↔ number = 0 ∨ ∃ key, l.holder? key = some number := by
  unfold Counts holder?
  refine or_congr_right ⟨?_, ?_⟩
  · rintro ⟨later, keys, earlier, hgrants, key, hkey, hlater⟩
    have hfound : l.grants.find? (fun grant => decide (key ∈ grant.2)) = some (number, keys) := by
      rw [List.find?_eq_some_iff_append]
      exact ⟨by simpa using hkey, later, earlier, hgrants,
        fun grant h => by simpa using hlater grant h⟩
    exact ⟨key, by rw [hfound]; rfl⟩
  · rintro ⟨key, hholder⟩
    obtain ⟨⟨n, keys⟩, hfound, rfl⟩ := Option.map_eq_some_iff.1 hholder
    obtain ⟨hkey, later, earlier, hgrants, hlater⟩ := List.find?_eq_some_iff_append.1 hfound
    exact ⟨later, keys, earlier, hgrants, key, by simpa using hkey,
      fun grant h => by simpa using hlater grant h⟩

/-- A transformer whose last keys are granted to another one counts no more. -/
theorem not_counts_enter {c : Registration} (hgrants : l.Grants c) (hnumber : number ≠ 0)
    (hother : number ≠ (l.enlist c.who).2)
    (hkeys : ∀ key, l.holder? key = some number → key ∈ c.keys) : ¬ (l.enter c).Counts number := by
  rw [counts_iff, enter_of_grants hgrants]
  rintro (hzero | ⟨key, hholder⟩)
  · exact hnumber hzero
  · rw [holder?_cons] at hholder
    by_cases hkey : key ∈ c.keys
    · rw [if_pos hkey] at hholder
      cases hholder
      exact hother rfl
    · rw [if_neg hkey] at hholder
      exact hkey (hkeys key hholder)

end Ledger

/-- A transformer that counts after a history and claims a literal type: its number, and the host
type that it gives. -/
structure Claimant (history : List Registration) (type : LiteralType) (number : Nat)
    (t : Transformer) (host : HostType) : Prop where
  counts : (Ledger.ofHistory history).Counts number
  known : (Registry.empty.run history).transformer? number = some t
  claims : t.hostType type = .ok host

/-- What is answered where the given transformers claim a literal type, each with the host type that
it gives. -/
structure Answers (type : LiteralType) (claims : List (Transformer × HostType))
    (answer : Except Failure HostType) : Prop where
  /-- A host type is given by one claim. -/
  one : ∀ host, answer = .ok host ↔ ∃ t, claims = [(t, host)]
  /-- No claim is an error. -/
  none : claims = [] →
    answer = .error (.because .lookup ("no transformer can reverse " ++ type.describe))
  /-- More than one is an error that names them all, in order. -/
  several : 2 ≤ claims.length → ∃ names : List String,
    names.Perm (claims.map (·.1.name)) ∧ names.Pairwise (· ≤ ·) ∧
      answer = .error (.because .lookup ("ambiguous reverse lookup for " ++ type.describe ++
        ": claimed by " ++ String.intercalate ", " names))

/-- **The order of the claims does not matter.** -/
theorem Answers.unique {type : LiteralType} {claims claims' : List (Transformer × HostType)}
    {answer answer' : Except Failure HostType} (h : Answers type claims answer)
    (h' : Answers type claims' answer') (hperm : claims.Perm claims') : answer = answer' := by
  match claims, h with
  | [], h =>
    rw [h.none rfl, h'.none hperm.symm.eq_nil]
  | [(t, host)], h =>
    rw [(h.one host).2 ⟨t, rfl⟩, (h'.one host).2 ⟨t, List.perm_singleton.1 hperm.symm⟩]
  | _ :: _ :: _, h =>
    have hlength : 2 ≤ claims'.length := by
      rw [← hperm.length_eq]
      simp
    obtain ⟨names, hnames, hsorted, rfl⟩ := h.several (by simp)
    obtain ⟨names', hnames', hsorted', rfl⟩ := h'.several hlength
    -- the names are the same, and there is one way to sort them
    have hsame : names.Perm names' :=
      (hnames.trans (hperm.map fun claim => claim.1.name)).trans hnames'.symm
    obtain rfl := hsame.eq_of_pairwise (fun a b _ _ hle hge => String.le_antisymm hle hge)
      hsorted hsorted'
    rfl

namespace Registry

variable {r : Registry} {type : LiteralType}

/-- The claims that the loop collects, with the numbers of their transformers. -/
def claimants (r : Registry) (type : LiteralType) : List (Nat × Transformer × HostType) :=
  (r.entries.map Prod.snd ++ [0]).eraseDups.filterMap fun number =>
    (r.transformer? number).bind fun t =>
      (t.hostType type).toOption.map fun host => (number, t, host)

theorem claims_eq (r : Registry) (type : LiteralType) :
    r.claims type = (r.claimants type).map fun claim => (claim.2.1.name, claim.2.2) := by
  unfold claims reachable claimants
  rw [List.filterMap_filterMap, List.map_filterMap]
  congr 1
  funext number
  cases r.transformer? number with
  | none => rfl
  | some t =>
    simp only [Option.bind_some]
    cases t.hostType type <;> rfl

theorem mem_claimants_iff {number : Nat} {t : Transformer} {host : HostType} :
    (number, t, host) ∈ r.claimants type ↔
      (number = 0 ∨ number ∈ r.entries.map (·.2)) ∧ r.transformer? number = some t ∧
        t.hostType type = .ok host := by
  have hanswer : ∀ x : Except Failure HostType, x.toOption = some host ↔ x = .ok host := by
    intro x
    cases x <;> simp [Except.toOption]
  have hnumber : number ∈ (r.entries.map Prod.snd ++ [0]).eraseDups ↔
      number = 0 ∨ number ∈ r.entries.map (·.2) := by
    rw [List.mem_eraseDups, List.mem_append, List.mem_singleton, or_comm]
  rw [← hnumber, ← hanswer]
  unfold claimants
  rw [List.mem_filterMap]
  constructor
  · rintro ⟨n, hn, hclaim⟩
    obtain ⟨t', ht, hhost⟩ := Option.bind_eq_some_iff.1 hclaim
    obtain ⟨host', hhost, hsame⟩ := Option.map_eq_some_iff.1 hhost
    cases hsame
    exact ⟨hn, ht, hhost⟩
  · rintro ⟨hn, ht, hhost⟩
    exact ⟨number, hn, by rw [ht, Option.bind_some, hhost]; rfl⟩

/-- No transformer claims twice. -/
theorem nodup_claimants (r : Registry) (type : LiteralType) :
    ((r.claimants type).map (·.1)).Nodup := by
  have hnumber : ∀ number n, n ∈ ((r.transformer? number).bind fun t =>
      (t.hostType type).toOption.map fun host => (number, t, host)).map (·.1) → n = number := by
    intro number n hn
    obtain ⟨claim, hclaim, rfl⟩ := Option.map_eq_some_iff.1 hn
    obtain ⟨t, -, hhost⟩ := Option.bind_eq_some_iff.1 hclaim
    obtain ⟨host, -, rfl⟩ := Option.map_eq_some_iff.1 hhost
    rfl
  unfold claimants
  rw [List.map_filterMap]
  refine (nodup_eraseDups _).filterMap ?_
  intro number number' n hn hn'
  rw [← hnumber number n hn, ← hnumber number' n hn']

/-- **Reverse lookup** answers to what it collects. -/
theorem answers_hostTypeOf (r : Registry) (type : LiteralType) :
    Answers type ((r.claimants type).map (·.2)) (r.hostTypeOf type) := by
  unfold hostTypeOf
  rw [claims_eq]
  match r.claimants type with
  | [] => exact ⟨by simp, fun _ => rfl, by simp⟩
  | [(number, t, host)] => exact ⟨by simp, by simp, by simp⟩
  | a :: b :: rest =>
    refine ⟨by simp, by simp, fun _ => ⟨_, ?_, List.pairwise_mergeSort' (· ≤ ·) _, rfl⟩⟩
    have hnames := List.mergeSort_perm ((a :: b :: rest).map fun claim => claim.2.1.name)
      fun a b => decide (a ≤ b)
    simpa [Function.comp_def] using hnames

/-- **Registries that collect the same claims**, whatever their numbers and their order, answer
alike. -/
theorem hostTypeOf_renumber {r' : Registry} (renumber : Nat ≃ Nat)
    (h : ∀ number t host, (renumber number, t, host) ∈ r'.claimants type ↔
      (number, t, host) ∈ r.claimants type) : r'.hostTypeOf type = r.hostTypeOf type := by
  have hinjective : Function.Injective (Prod.map renumber (id : Transformer × HostType → _)) :=
    renumber.injective.prodMap Function.injective_id
  have hnodup : ∀ r : Registry, (r.claimants type).Nodup := fun r =>
    .of_map _ (nodup_claimants r type)
  -- the claims of the one with their numbers changed are those of the other in some order
  have hperm : (r'.claimants type).Perm ((r.claimants type).map (Prod.map renumber id)) := by
    rw [List.perm_ext_iff_of_nodup (hnodup r') ((hnodup r).map hinjective)]
    rintro ⟨number, t, host⟩
    obtain ⟨number, rfl⟩ := renumber.surjective number
    rw [h]
    exact (List.mem_map_of_injective hinjective (a := (number, t, host))).symm
  have hclaims := hperm.map (·.2)
  rw [List.map_map] at hclaims
  exact (answers_hostTypeOf r' type).unique (answers_hostTypeOf r type) hclaims

/-- Whoever counts is a transformer that the registry knows. -/
theorem exists_of_counts {history : List Registration} {number : Nat}
    (h : (Ledger.ofHistory history).Counts number) :
    ∃ t, (empty.run history).transformer? number = some t := by
  cases number with
  | zero => exact ⟨fallback, rfl⟩
  | succ number =>
    rcases h with hzero | ⟨later, keys, earlier, hgrants, -⟩
    · cases hzero
    · have hbound : number + 1 ≤ (empty.run history).transformers.length := by
        rw [(follows_run history).transformers]
        refine Ledger.bounded_ofHistory history (number + 1, keys) ?_
        rw [hgrants]
        simp
      exact ⟨_, List.getElem?_eq_getElem hbound⟩

/-- **In any order of the table** the loop collects the claimants of the history. -/
theorem mem_claimants_run (history : List Registration) {listing : List (TypeKey × Nat)}
    (hperm : listing.Perm (empty.run history).entries) (number : Nat) (t : Transformer)
    (host : HostType) :
    (number, t, host) ∈ claimants { empty.run history with entries := listing } type ↔
      Claimant history type number t host := by
  have hfollows := follows_run history
  have hcounts : number ∈ listing.map (·.2) ↔
      ∃ key, (Ledger.ofHistory history).holder? key = some number := by
    rw [(hperm.map Prod.snd).mem_iff, mem_values_iff hfollows.distinct]
    simp only [hfollows.lookup]
  rw [mem_claimants_iff, hcounts, ← Ledger.counts_iff]
  constructor
  · rintro ⟨hnumber, ht, hhost⟩
    exact ⟨hnumber, ht, hhost⟩
  · rintro ⟨hnumber, ht, hhost⟩
    exact ⟨hnumber, ht, hhost⟩

/-- Reverse lookup after a history of registrations, in terms of who is registered. -/
structure DependsOnClaimants (history : List Registration) (type : LiteralType) : Prop where
  /-- Every number that counts is that of a transformer, which claims the type or not. -/
  known : ∀ number, (Ledger.ofHistory history).Counts number →
    ∃ t, (empty.run history).transformer? number = some t
  /-- It answers to the claimants, each taken once. -/
  answers : ∃ claimants : List (Nat × Transformer × HostType), (claimants.map (·.1)).Nodup ∧
    (∀ number t host, (number, t, host) ∈ claimants ↔ Claimant history type number t host) ∧
    Answers type (claimants.map (·.2)) ((empty.run history).hostTypeOf type)
  /-- In whatever order the table comes, the answer is the same. -/
  order : ∀ listing, listing.Perm (empty.run history).entries →
    hostTypeOf { empty.run history with entries := listing } type =
      (empty.run history).hostTypeOf type
  /-- By which keys and by how many the claimants are reached does not matter either, nor does the
  order in which they came. -/
  keys : ∀ history' (renumber : Nat ≃ Nat), (∀ number t host,
      Claimant history' type (renumber number) t host ↔ Claimant history type number t host) →
    (empty.run history').hostTypeOf type = (empty.run history).hostTypeOf type
  /-- A transformer is no claimant once the last of its keys went to another one. -/
  overwritten : ∀ c number, (Ledger.ofHistory history).Grants c → number ≠ 0 →
    number ≠ ((Ledger.ofHistory history).enlist c.who).2 →
    (∀ key, (Ledger.ofHistory history).holder? key = some number → key ∈ c.keys) →
    ∀ t host, ¬ Claimant (history ++ [c]) type number t host

/-- **Reverse lookup depends on who is registered**, whatever the history and the literal type. -/
theorem hostTypeOf_run (history : List Registration) (type : LiteralType) :
    DependsOnClaimants history type := by
  have hclaimants := @mem_claimants_run type history _ (List.Perm.refl _)
  constructor
  case known => exact fun number => exists_of_counts
  case answers => exact ⟨_, nodup_claimants _ _, hclaimants, answers_hostTypeOf _ _⟩
  case order =>
    intro listing hlisting
    refine hostTypeOf_renumber (.refl Nat) fun number t host => ?_
    rw [hclaimants]
    exact mem_claimants_run history hlisting number t host
  case keys =>
    intro history' renumber hhistory
    refine hostTypeOf_renumber renumber fun number t host => ?_
    rw [hclaimants, ← hhistory]
    exact mem_claimants_run history' (List.Perm.refl _) (renumber number) t host
  case overwritten =>
    intro c number hgrants hnumber hother hkeys t host hclaimant
    have hcounts := hclaimant.counts
    unfold Ledger.ofHistory at hcounts
    rw [List.foldl_append] at hcounts
    exact Ledger.not_counts_enter hgrants hnumber hother hkeys hcounts

/-- The transformer of files under three keys answers once, and not any more when another one has
them. -/
theorem hostTypeOf_run_shared :
    let files : List Registration := [⟨.new Files.transformer, [.type "A", .type "B"], false⟩,
      ⟨.known 1, [.type "C"], true⟩, ⟨.new Files.transformer, [.type "C", .type "D"], true⟩]
    let other : Registration :=
      ⟨.new Sealing.transformer, [.type "C", .type "B", .type "A"], false⟩
    hostTypeOf { empty.run files with entries := (empty.run files).entries.reverse }
        (.ofFormat "csv") = .ok (.fileOf "csv") ∧
      ∀ t host, ¬ Claimant (files ++ [other]) (.ofFormat "csv") 1 t host := by
  intro files other
  have hdepends := hostTypeOf_run files (.ofFormat "csv")
  refine ⟨(hdepends.order _ (List.reverse_perm _)).trans rfl,
    hdepends.overwritten other 1 (by decide) (by decide) (by decide) fun key hholder => ?_⟩
  have hcovered : (Ledger.ofHistory files).Covers key := by
    by_contra hfree
    rw [Ledger.holder?_eq_none.2 hfree] at hholder
    cases hholder
  obtain ⟨grant, hgrant, hkey⟩ := hcovered
  have hall : ∀ grant ∈ (Ledger.ofHistory files).grants, ∀ key ∈ grant.2, key ∈ other.keys := by
    decide
  exact hall grant hgrant key hkey

end Registry

end Workflow
