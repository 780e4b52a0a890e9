import Mathlib.Data.List.Induction
import Workflow.Proofs.Marshal.Registrations

/-!
# Which transformer serves a host type

The keys of a host type are its name, the name of its generic origin and its capabilities. The first
of them that any call covered decides, by the latest call that did.

* `Registry.Accepts`: a call takes effect. `Registry.Covering`, `Registry.Latest`: a call of a history
  that took effect and covers a key, and the last of them.
* `exists_latest`: whom the ledger names for a key is the registrant of the latest call.
* `covered_iff`: so a key is covered by the ledger when some call of the history covers it.
* `get?_of_covered`: so the transformer of a key is the one that the latest call came with.
* `resolve_run`: resolution after a history of calls, on a registry without keys or a fresh one.
-/

namespace Workflow.Registry

variable {r r' : Registry} {history earlier later : List Registration} {c d : Registration}
  {key : TypeKey} {number : Nat} {t : Transformer}

/-- A call takes effect if its transformer is at hand and it is not refused. -/
def Accepts (r : Registry) (c : Registration) : Prop :=
  c.who.AtHand r.transformers.length ∧
    (c.unique = true → ∃ r', r.registerUnique c.who c.keys = .ok r')

/-- The transformer that a call comes with. -/
def registrant? (r : Registry) : Registrant → Option Transformer
  | .new t => some t
  | .known number => r.transformer? number

/-- A call of a history, between those before and those behind it, that took effect and covers a
key. -/
structure Covering (history : List Registration) (key : TypeKey) (earlier : List Registration)
    (c : Registration) (later : List Registration) : Prop where
  split : history = earlier ++ c :: later
  accepted : (empty.run earlier).Accepts c
  covers : key ∈ c.keys

/-- Some call of a history took effect and covers the key. -/
def Covered (history : List Registration) (key : TypeKey) : Prop :=
  ∃ earlier c later, Covering history key earlier c later

/-- No call with effect that covers the key stands further behind. -/
structure Latest (history : List Registration) (key : TypeKey) (earlier : List Registration)
    (c : Registration) (later : List Registration) : Prop
    extends Covering history key earlier c later where
  last : ∀ earlier' c' later', Covering history key earlier' c' later' →
    earlier'.length ≤ earlier.length

/-! ## Calls with effect -/

theorem Follows.accepts_iff {l : Ledger} (hr : r.Follows l) : r.Accepts c ↔ l.Grants c := by
  unfold Accepts Ledger.Grants
  rw [hr.transformers]
  refine and_congr_right fun _ => imp_congr_right fun _ => ?_
  rcases hr.registerUnique_eq c.who c.keys with ⟨hfree, hok⟩ | ⟨key, hkey, hcovered, herror⟩
  · exact iff_of_true ⟨_, hok⟩ hfree
  · refine iff_of_false ?_ fun hfree => hfree key hkey hcovered
    rintro ⟨r', hok⟩
    rw [herror] at hok
    cases hok

theorem run_append (r : Registry) (history later : List Registration) :
    r.run (history ++ later) = (r.run history).run later := List.foldl_append

theorem ofHistory_append_one (history : List Registration) (c : Registration) :
    Ledger.ofHistory (history ++ [c]) = (Ledger.ofHistory history).enter c := by
  rw [Ledger.ofHistory, List.foldl_append]
  rfl

/-- **With one more call** a key is covered by that call, or as it was before. -/
theorem covering_append_one : Covering (history ++ [d]) key earlier c later ↔
    (earlier = history ∧ c = d ∧ later = [] ∧ (Ledger.ofHistory history).Grants d ∧ key ∈ d.keys) ∨
      ∃ later', later = later' ++ [d] ∧ Covering history key earlier c later' := by
  constructor
  · rintro ⟨hsplit, haccepted, hcovers⟩
    rcases List.eq_nil_or_concat later with rfl | ⟨later', e, rfl⟩
    · obtain ⟨rfl, hcd⟩ := List.append_inj' hsplit rfl
      cases hcd
      exact .inl ⟨rfl, rfl, rfl, (follows_run history).accepts_iff.1 haccepted, hcovers⟩
    · rw [List.concat_eq_append, ← List.cons_append, ← List.append_assoc] at hsplit
      obtain ⟨hhistory, hed⟩ := List.append_inj' hsplit rfl
      cases hed
      exact .inr ⟨later', List.concat_eq_append, hhistory, haccepted, hcovers⟩
  · rintro (⟨rfl, rfl, rfl, hgrants, hkey⟩ | ⟨later', rfl, hsplit, haccepted, hcovers⟩)
    · exact ⟨rfl, (follows_run _).accepts_iff.2 hgrants, hkey⟩
    · exact ⟨by rw [hsplit]; simp, haccepted, hcovers⟩

/-! ## The latest call -/

/-- **Whom the ledger names for a key** is the registrant of the latest call that covers it. -/
theorem exists_latest (h : (Ledger.ofHistory history).holder? key = some number) :
    ∃ earlier c later, Latest history key earlier c later ∧
      number = ((Ledger.ofHistory earlier).enlist c.who).2 := by
  -- from the end of the history: the last call decides, or the key is as it was before
  induction history using List.reverseRecOn with
  | nil => cases h
  | append_singleton history d ih =>
    rw [ofHistory_append_one] at h
    by_cases hlast : (Ledger.ofHistory history).Grants d ∧ key ∈ d.keys
    · obtain ⟨hgrants, hkey⟩ := hlast
      rw [Ledger.enter_of_grants hgrants, Ledger.holder?_cons, if_pos hkey] at h
      cases h
      refine ⟨history, d, [], ⟨covering_append_one.2 (.inl ⟨rfl, rfl, rfl, hgrants, hkey⟩), ?_⟩, rfl⟩
      intro earlier' c' later' hcovering
      have hlength := congrArg List.length hcovering.split
      simp only [List.length_append, List.length_cons, List.length_nil] at hlength
      omega
    · have hbefore : (Ledger.ofHistory history).holder? key = some number := by
        by_cases hgrants : (Ledger.ofHistory history).Grants d
        · rwa [Ledger.enter_of_grants hgrants, Ledger.holder?_cons,
            if_neg fun hkey => hlast ⟨hgrants, hkey⟩] at h
        · rwa [Ledger.enter_of_not_grants hgrants] at h
      obtain ⟨earlier, c, later, hlatest, hnumber⟩ := ih hbefore
      refine ⟨earlier, c, later ++ [d],
        ⟨covering_append_one.2 (.inr ⟨later, rfl, hlatest.toCovering⟩), ?_⟩, hnumber⟩
      intro earlier' c' later' hcovering
      rcases covering_append_one.1 hcovering with ⟨-, -, -, hnew⟩ | ⟨later'', -, hold⟩
      · exact absurd hnew hlast
      · exact hlatest.last _ _ _ hold

theorem covers_enter {l : Ledger} (h : l.Covers key) (c : Registration) : (l.enter c).Covers key := by
  by_cases hgrants : l.Grants c
  · obtain ⟨grant, hgrant, hkey⟩ := h
    rw [Ledger.enter_of_grants hgrants]
    exact ⟨grant, List.mem_cons_of_mem _ hgrant, hkey⟩
  · rwa [Ledger.enter_of_not_grants hgrants]

theorem covered_iff : Covered history key ↔ (Ledger.ofHistory history).Covers key := by
  constructor
  · rintro ⟨earlier, c, later, hcovering⟩
    induction history using List.reverseRecOn generalizing later with
    | nil =>
      have hnil := hcovering.split
      simp at hnil
    | append_singleton history d ih =>
      rw [ofHistory_append_one]
      rcases covering_append_one.1 hcovering with ⟨-, -, -, hgrants, hkey⟩ | ⟨later', -, hold⟩
      · rw [Ledger.enter_of_grants hgrants]
        exact ⟨_, List.mem_cons_self, hkey⟩
      · exact covers_enter (ih later' hold) d
  · intro hcovers
    cases hholder : (Ledger.ofHistory history).holder? key with
    | none => exact absurd hcovers (Ledger.holder?_eq_none.1 hholder)
    | some number =>
      obtain ⟨earlier, c, later, hlatest, -⟩ := exists_latest hholder
      exact ⟨earlier, c, later, hlatest.toCovering⟩

instance (history : List Registration) (key : TypeKey) : Decidable (Covered history key) :=
  decidable_of_iff _ covered_iff.symm

/-! ## Transformers by number -/

theorem perform_of_accepts (h : r.Accepts c) : r.perform c = r.register c.who c.keys := by
  obtain ⟨hhand, hunique⟩ := h
  rw [perform, if_pos hhand]
  split
  · rename_i hc
    obtain ⟨r', hok⟩ := hunique hc
    have hregister : r' = r.register c.who c.keys := by
      unfold registerUnique at hok
      split at hok
      · cases hok
      · exact (Except.ok.inj hok).symm
    rw [hok, hregister]
  · rfl

theorem perform_of_not_accepts (h : ¬ r.Accepts c) : r.perform c = r := by
  unfold perform
  split
  · rename_i hhand
    split
    · split
      · rename_i r' hok
        exact absurd ⟨hhand, fun _ => ⟨r', hok⟩⟩ h
      · rfl
    · rename_i hc
      exact absurd ⟨hhand, fun hunique => absurd hunique hc⟩ h
  · rfl

/-- Transformers keep their numbers. -/
def Keeps (r r' : Registry) : Prop :=
  ∀ number t, r.transformer? number = some t → r'.transformer? number = some t

theorem keeps_of_prefix (h : r.transformers <+: r'.transformers) : r.Keeps r' := by
  intro number t ht
  cases number with
  | zero => exact ht
  | succ number =>
    obtain ⟨rest, hrest⟩ := h
    have hlt := (List.getElem?_eq_some_iff.1 ht).1
    rw [transformer?, ← hrest, List.getElem?_append_left hlt]
    exact ht

theorem keeps_perform (r : Registry) (c : Registration) : r.Keeps (r.perform c) := by
  by_cases h : r.Accepts c
  · rw [perform_of_accepts h]
    refine keeps_of_prefix ?_
    cases hwho : c.who with
    | new t => exact List.prefix_append _ [t]
    | known number => exact List.prefix_rfl
  · rw [perform_of_not_accepts h]
    exact fun _ _ ht => ht

theorem keeps_run (r : Registry) (history : List Registration) : r.Keeps (r.run history) := by
  induction history generalizing r with
  | nil => exact fun _ _ ht => ht
  | cons c history ih => exact fun number t ht => ih _ _ _ (keeps_perform r c number t ht)

/-- A call with effect comes with a transformer, which then has the number that is entered. -/
theorem exists_registrant (h : r.Accepts c) : ∃ t, r.registrant? c.who = some t ∧
    (r.perform c).transformer? (r.enlist c.who).2 = some t := by
  have hhand := h.1
  rw [perform_of_accepts h]
  cases hwho : c.who with
  | new t =>
    -- a new transformer is numbered behind those that are there
    refine ⟨t, rfl, ?_⟩
    simp [register, enlist, transformer?]
  | known number =>
    rw [hwho] at hhand
    obtain ⟨t, ht⟩ : ∃ t, r.transformer? number = some t := by
      cases number with
      | zero => exact ⟨fallback, rfl⟩
      | succ number => exact ⟨_, List.getElem?_eq_getElem hhand⟩
    exact ⟨t, ht, ht⟩

/-! ## Keys -/

/-- **The transformer of a key** is the one that the latest call came with. -/
theorem get?_of_covered (h : Covered history key) : ∃ earlier c later t,
    Latest history key earlier c later ∧ (empty.run earlier).registrant? c.who = some t ∧
      (empty.run history).get? key = some t := by
  cases hholder : (Ledger.ofHistory history).holder? key with
  | none => exact absurd (covered_iff.1 h) (Ledger.holder?_eq_none.1 hholder)
  | some number =>
    obtain ⟨earlier, c, later, hlatest, rfl⟩ := exists_latest hholder
    obtain ⟨t, hregistrant, hnumber⟩ := exists_registrant hlatest.accepted
    refine ⟨earlier, c, later, t, hlatest, hregistrant, ?_⟩
    have hentry : ((Ledger.ofHistory earlier).enlist c.who).2 =
        ((empty.run earlier).enlist c.who).2 := by
      rw [Ledger.enlist.eq_def, enlist.eq_def, (follows_run earlier).transformers]
      cases c.who <;> rfl
    -- the later calls leave the number to its transformer
    have hkept := keeps_run ((empty.run earlier).perform c) later _ t hnumber
    have hrun : ((empty.run earlier).perform c).run later = empty.run history := by
      rw [hlatest.split, run_append]
      rfl
    rw [get?, (follows_run history).lookup, hholder, Option.bind_some, hentry, ← hrun]
    exact hkept

theorem get?_of_not_covered (h : ¬ Covered history key) : (empty.run history).get? key = none := by
  rw [get?, (follows_run history).lookup, Ledger.holder?_eq_none.2 (mt covered_iff.2 h)]
  rfl

/-! ## Host types -/

/-- What a registry makes of host types and of further calls, after a history. -/
structure ServesLatest (r : Registry) (history : List Registration) : Prop where
  /-- The first key that is covered decides, by the latest call that covers it. -/
  covered : ∀ (type : HostType) before key behind,
    .type type.name :: (type.origin.toList.map .type ++ type.capabilities.map .capability) =
      before ++ key :: behind →
    (∀ k ∈ before, ¬ Covered history k) → Covered history key →
    ∃ earlier c later t, Latest history key earlier c later ∧
      (empty.run earlier).registrant? c.who = some t ∧ r.resolve type = t
  /-- A type without such a key is left to the fallback. -/
  uncovered : ∀ type : HostType,
    (∀ k ∈ TypeKey.type type.name ::
      (type.origin.toList.map .type ++ type.capabilities.map .capability), ¬ Covered history k) →
    r.resolve type = fallback
  /-- A call that asks for free keys takes effect when none of them was covered before. -/
  accepts : ∀ c, c.unique = true → c.who.AtHand r.transformers.length →
    (r.Accepts c ↔ ∀ key ∈ c.keys, ¬ Covered history key)
  /-- Otherwise it fails, and no type is served otherwise for it, whatever comes after. -/
  refused : ∀ c, c.unique = true → (∃ key ∈ c.keys, Covered history key) →
    (∃ key ∈ c.keys, Covered history key ∧
      r.registerUnique c.who c.keys = .error (.because .configuration
        ("a transformer for `" ++ key.render ++ "` is already registered"))) ∧
    ∀ later type, ((r.perform c).run later).resolve type = (r.run later).resolve type

theorem resolve_of_split {type : HostType} {before behind : List TypeKey}
    (hsplit : TypeKey.candidates type = before ++ key :: behind)
    (hbefore : ∀ k ∈ before, r.get? k = none) (ht : r.get? key = some t) : r.resolve type = t := by
  rw [resolve, hsplit, List.findSome?_append, List.findSome?_eq_none_iff.2 hbefore,
    Option.none_or, List.findSome?_cons, ht]
  rfl

theorem servesLatest_run (history : List Registration) :
    ServesLatest (empty.run history) history := by
  have hfollows := follows_run history
  have hfree : ∀ c : Registration, (∀ key ∈ c.keys, ¬ (Ledger.ofHistory history).Covers key) ↔
      ∀ key ∈ c.keys, ¬ Covered history key := by
    simp only [covered_iff, implies_true]
  constructor
  case covered =>
    intro type before key behind hsplit hbefore hkey
    obtain ⟨earlier, c, later, t, hlatest, hregistrant, hget⟩ := get?_of_covered hkey
    refine ⟨earlier, c, later, t, hlatest, hregistrant, ?_⟩
    exact resolve_of_split hsplit (fun k hk => get?_of_not_covered (hbefore k hk)) hget
  case uncovered =>
    intro type hnone
    have hget : (TypeKey.candidates type).findSome? (empty.run history).get? = none :=
      List.findSome?_eq_none_iff.2 fun k hk => get?_of_not_covered (hnone k hk)
    rw [resolve, hget]
    rfl
  case accepts =>
    intro c hunique hhand
    rw [hfollows.transformers] at hhand
    rw [hfollows.accepts_iff, ← hfree]
    exact ⟨fun hgrants => hgrants.2 hunique, fun hkeys => ⟨hhand, fun _ => hkeys⟩⟩
  case refused =>
    rintro c hunique ⟨key, hkey, hcovered⟩
    have hnot : ¬ (empty.run history).Accepts c := by
      rw [hfollows.accepts_iff]
      exact fun hgrants => hgrants.2 hunique key hkey (covered_iff.1 hcovered)
    refine ⟨?_, fun later type => by rw [perform_of_not_accepts hnot]⟩
    rcases hfollows.registerUnique_eq c.who c.keys with ⟨hkeys, -⟩ | ⟨taken, htaken, hcovers, herror⟩
    · exact absurd (covered_iff.1 hcovered) (hkeys key hkey)
    · exact ⟨taken, htaken, covered_iff.2 hcovers, herror⟩

/-- **Resolution after any history of calls**, on a registry without keys and on that of a fresh
session, whose own calls come first. -/
theorem resolve_run (history : List Registration) :
    ServesLatest (empty.run history) history ∧
      ServesLatest (standard.run history) (standardCalls ++ history) := by
  refine ⟨servesLatest_run history, ?_⟩
  rw [run_standard]
  exact servesLatest_run (standardCalls ++ history)

/-- A plain type that is registered captures the generic types of its name, and the free key of a
call that was refused stays free. -/
theorem resolve_run_captured :
    let history : List Registration := [⟨.new Files.transformer, [.type "Frame"], true⟩,
      ⟨.new Sealing.transformer, [.type "Table", .type "Frame"], true⟩]
    (∃ earlier c later t, Latest (standardCalls ++ history) (.type "Frame") earlier c later ∧
      (empty.run earlier).registrant? c.who = some t ∧
        (standard.run history).resolve (.generic "Frame" ["int"]) = t) ∧
      (standard.run history).resolve (.ofName "Table") = fallback := by
  intro history
  obtain ⟨-, hserves⟩ := resolve_run history
  exact ⟨hserves.covered (.generic "Frame" ["int"]) [.type "Frame[int]"] (.type "Frame") [] rfl
      (by decide) (by decide),
    hserves.uncovered (.ofName "Table") (by decide)⟩

end Workflow.Registry
