import Workflow.Proofs.Graph.Admission
import Workflow.Proofs.Graph.Caching
import Workflow.Proofs.Graph.Wire
import Workflow.Proofs.Text.Ends
import Workflow.Proofs.Time.DurationText

/-!
# Two ways to give a deadline

A call gives a deadline as a duration, or in words. The words that the wire form of metadata has for
a duration, with any white space around them, are as good as the duration itself.

* `NodeMetadata.Carries`: the words in the wire form.
* `Duration.isBlank_of_mem_renderChars`: there is no white space in these words, so that only what
  was put around them is trimmed.
* `Timeout.resolve_surrounded`: a deadline in these words is the duration, or is refused as it is.
* `timeout_spellings_agree`: so no call can tell the two ways apart.
-/

namespace Workflow

/-! ## Words for a duration -/

theorem Text.isBlank_of_isDigit {c : Char} (h : c.isDigit = true) : isBlank c = false := by
  simp only [Char.isDigit, ge_iff_le, UInt32.le_iff_toNat_le, Bool.and_eq_true,
    decide_eq_true_eq] at h
  have hcode : 48 ≤ c.toNat ∧ c.toNat ≤ 57 := h
  rw [← Bool.not_eq_true]
  simp only [isBlank, Bool.or_eq_true, Bool.and_eq_true, decide_eq_true_eq, beq_iff_eq]
  omega

namespace Duration

theorem isDigit_of_mem_fractionDigits {width n : Nat} {c : Char} (h : c ∈ fractionDigits width n) :
    c.isDigit = true := by
  obtain ⟨zeros, hzeros⟩ := fractionDigits_append width n
  exact Instant.isDigit_of_mem_field (hzeros ▸ List.mem_append_left _ h)

theorem isBlank_of_mem_isoText {a : Amount} {c : Char} (h : c ∈ a.isoText) :
    Text.isBlank c = false := by
  have hunit : ∀ unit : Unit, Text.isBlank unit.designator = false := by
    intro unit
    cases unit <;> decide
  obtain ⟨unit, count, fraction⟩ := a
  rw [Amount.isoText, List.mem_append, List.mem_append, List.mem_singleton] at h
  rcases h with h | h | rfl
  · exact Text.isBlank_of_isDigit (Decimal.isDigit_of_mem_natDigits h)
  · cases fraction with
    | none => exact absurd h List.not_mem_nil
    | some f =>
      rcases List.mem_cons.1 h with rfl | h
      · decide
      · exact Text.isBlank_of_isDigit (isDigit_of_mem_fractionDigits h)
  · exact hunit unit

/-- **No white space** stands in the text of a duration. -/
theorem isBlank_of_mem_renderChars {d : Duration} {c : Char} (h : c ∈ d.renderChars) :
    Text.isBlank c = false := by
  rw [renderChars_eq, List.mem_append, List.mem_cons, List.mem_cons, List.mem_flatMap] at h
  rcases h with h | rfl | rfl | ⟨a, -, h⟩
  · have hsign : c = '-' := by
      split at h
      · exact List.mem_singleton.1 h
      · exact absurd h List.not_mem_nil
    rw [hsign]
    decide
  · decide
  · decide
  · exact isBlank_of_mem_isoText h

end Duration

/-- The wire form of metadata has a text for the deadline. -/
def NodeMetadata.Carries (m : NodeMetadata) (words : String) : Prop :=
  ∃ members, m.toJson = .obj members ∧ members.lookup "timeout" = some (.str words)

theorem NodeMetadata.carries_render {m : NodeMetadata} {d : Duration} (h : m.timeout = some d) :
    m.Carries d.render := by
  have hnodup : ["name", "timeout", "retries", "interruptible", "cacheable", "cache_version",
    "cache_serializable"].Nodup := by decide
  have hslot : m.timeout.map Duration.toJson = some (.str d.render) := by rw [h]; rfl
  refine ⟨_, m.toJson_eq, Eq.trans (Json.lookup_record ?_ ("timeout", _) ?_) hslot⟩
  · exact hnodup
  · exact .tail _ (.head _)

/-- There is one such text. -/
theorem NodeMetadata.Carries.unique {m : NodeMetadata} {words words' : String}
    (h : m.Carries words) (h' : m.Carries words') : words = words' := by
  obtain ⟨members, hmembers, hwords⟩ := h
  obtain ⟨members', hmembers', hwords'⟩ := h'
  obtain rfl : members = members' := Json.obj.inj (hmembers.symm.trans hmembers')
  exact Json.str.inj (Option.some.inj (hwords.symm.trans hwords'))

namespace Timeout

/-- **Words with white space around them** stand for what the words stand for. -/
theorem resolve_surrounded {before after : List Char} (d : Duration)
    (hbefore : ∀ c ∈ before, Text.isBlank c = true) (hafter : ∀ c ∈ after, Text.isBlank c = true) :
    (text (String.ofList (before ++ d.render.toList ++ after))).resolve = (duration d).resolve := by
  have htrim : Text.trim (before ++ d.renderChars ++ after) = d.renderChars :=
    Text.trim_surrounded hbefore hafter fun _ => Duration.isBlank_of_mem_renderChars
  simp only [resolve, Duration.render, String.toList_ofList, htrim, d.readChars?_renderChars]

end Timeout

/-! ## Calls with a deadline -/

namespace Overrides

variable {o : Overrides} {t t' : Timeout} {present : Option TaskConfig} {u : NodeUpdate}

/-- The call with its deadline replaced. -/
def withTimeout (o : Overrides) (t : Timeout) : Overrides := { o with timeout := some t }

/-- **Only what a deadline stands for** counts for a call. -/
theorem check_withTimeout_congr (h : t.resolve = t'.resolve) :
    (o.withTimeout t).check present = (o.withTimeout t').check present := by
  have htimeout : (o.withTimeout t).checkTimeout = (o.withTimeout t').checkTimeout :=
    congrArg (·.map some) h
  have hmetadata : (o.withTimeout t).checkMetadata = (o.withTimeout t').checkMetadata := by
    unfold checkMetadata
    rw [htimeout]
    rfl
  unfold check
  rw [hmetadata]
  rfl

/-- The call without a deadline. -/
def withoutTimeout (o : Overrides) : Overrides := { o with timeout := none }

/-- **A call that goes through without a deadline** goes through with one that can be set, which it
writes besides, and else is refused for the deadline. -/
theorem check_withTimeout (h : o.withoutTimeout.check present = .ok u) (t : Timeout) :
    (o.withTimeout t).check present = t.resolve.map fun d =>
      { u with metadata := { u.metadata with timeout := some d } } := by
  have hchecked := check_eq_ok_iff.1 h
  have hmetadata := checkMetadata_eq_ok_iff.1 hchecked.metadata
  have htimeout : (o.withTimeout t).checkTimeout = t.resolve.map some := rfl
  cases hresolve : t.resolve with
  | ok d =>
    rw [hresolve] at htimeout
    exact check_eq_ok_iff.2 { hchecked with
      metadata := checkMetadata_eq_ok_iff.2 { hmetadata with timeout := htimeout } }
  | error e =>
    rw [hresolve] at htimeout
    have hrefused : (o.withTimeout t).checkMetadata = .error e := by
      unfold checkMetadata
      rw [htimeout]
      rfl
    unfold check
    simp only [show (o.withTimeout t).checkNodeName = _ from hchecked.id,
      show (o.withTimeout t).checkResources = _ from hchecked.resources,
      show (o.withTimeout t).checkTaskConfig present = _ from hchecked.taskConfig,
      show Param.known? _ (o.withTimeout t).containerImage = _ from hchecked.containerImage,
      show Param.known? _ (o.withTimeout t).accelerator = _ from hchecked.accelerator,
      show Param.known? _ (o.withTimeout t).sharedMemory = _ from hchecked.sharedMemory,
      show Param.known? _ (o.withTimeout t).podTemplate = _ from hchecked.podTemplate, hrefused]
    rfl

/-- A call that sets nothing goes through. -/
theorem check_empty (present : Option TaskConfig) : ∃ u, check {} present = .ok u := ⟨_, rfl⟩

end Overrides

/-! ## Calls on a workspace -/

namespace Workspace

variable {w w' : Workspace} {i : Nat} {h : Handle} {node : Node} {o : Overrides} {d : Duration}

/-- A call that goes through without a deadline sets one that is not negative, and else is refused
with a value error. -/
theorem override_withTimeout (hok : w.override i h o.withoutTimeout = .ok w') (d : Duration) :
    (0 ≤ d.nanos → ∃ w' node', w.override i h (o.withTimeout (.duration d)) = .ok w' ∧
        (w'.graph i).node? h = some node' ∧ (w'.settingsOf node').timeout = some d) ∧
      (d.nanos < 0 → ∃ e, w.override i h (o.withTimeout (.duration d)) = .error e ∧
        e.kind = .invalidValue) := by
  cases hnode : (w.graph i).node? h with
  | none =>
    unfold override at hok
    rw [hnode] at hok
    cases hok
  | some node =>
    obtain ⟨u, hcheck, -⟩ := (override_eq_ok_iff hnode).1 hok
    have hwith := Overrides.check_withTimeout hcheck (.duration d)
    have hresolve : (Timeout.duration d).resolve = Timeout.nonnegative d := rfl
    constructor
    · intro hd
      have hd' : Timeout.nonnegative d = .ok d := by simp [Timeout.nonnegative, Duration.isNegative, hd]
      rw [hresolve, hd'] at hwith
      refine ⟨_, _, (override_eq_ok_iff hnode).2 ⟨_, hwith, rfl⟩, node?_write hnode node.entity _, ?_⟩
      rw [settingsOf_write hwith]
      rfl
    · intro hd
      rw [hresolve, Timeout.nonnegative, if_pos (by simpa [Duration.isNegative] using hd)] at hwith
      rw [override_eq hnode, hwith]
      exact ⟨_, rfl, rfl⟩

/-- **A duration and its words are as good as each other.** The words are those that the wire form of
metadata has for the duration, with any white space in front and behind. No call on any node can tell
which of the two gave the deadline. If the call goes through without a deadline, as one that sets
nothing else does, then it sets a deadline that is not negative, and a negative one is refused as a
wrong value and leaves everything as it was. -/
theorem timeout_spellings_agree {m : NodeMetadata} (hm : m.timeout = some d) :
    ∃ words, m.Carries words ∧ ∀ before after : List Char,
      (∀ c ∈ before, Text.isBlank c = true) → (∀ c ∈ after, Text.isBlank c = true) →
      ∀ (w : Workspace) (i : Nat) (h : Handle) (o : Overrides),
        let spelled := o.withTimeout (.text (String.ofList (before ++ words.toList ++ after)))
        let given := o.withTimeout (.duration d)
        (w.notices i h spelled = w.notices i h given ∧
          w.override i h spelled = w.override i h given ∧
          w.perform (.override i h spelled) = w.perform (.override i h given)) ∧
        (∀ node, (w.graph i).node? h = some node →
          ∃ w₀, w.override i h (Overrides.withoutTimeout {}) = .ok w₀) ∧
        ∀ w₀, w.override i h o.withoutTimeout = .ok w₀ →
          (0 ≤ d.nanos → ∃ w' node', w.override i h spelled = .ok w' ∧
            (w'.graph i).node? h = some node' ∧ (w'.settingsOf node').timeout = some d) ∧
          (d.nanos < 0 → ∃ e, w.override i h spelled = .error e ∧ e.kind = .invalidValue ∧
            w.perform (.override i h spelled) = w) := by
  refine ⟨d.render, NodeMetadata.carries_render hm, ?_⟩
  intro before after hbefore hafter w i h o spelled given
  have hcheck : ∀ present, spelled.check present = given.check present := fun _ =>
    Overrides.check_withTimeout_congr (Timeout.resolve_surrounded d hbefore hafter)
  have hsame : w.override i h spelled = w.override i h given := by
    unfold override
    simp only [hcheck]
  refine ⟨⟨rfl, hsame, congrArg w.orSame hsame⟩, fun node hnode => ?_, fun w₀ hok => ?_⟩
  · obtain ⟨u, hu⟩ := Overrides.check_empty (w.entity node.entity).taskConfig
    exact ⟨_, (override_eq_ok_iff hnode).2 ⟨u, hu, rfl⟩⟩
  · obtain ⟨haccepted, hrefused⟩ := override_withTimeout hok d
    rw [hsame]
    refine ⟨haccepted, fun hd => ?_⟩
    obtain ⟨e, he, hkind⟩ := hrefused hd
    exact ⟨e, he, hkind, congrArg w.orSame (hsame.trans he)⟩

theorem timeout_spellings_agree_extremes : ∃ greatest least : Duration,
    greatest.nanos = Duration.greatest ∧ least.nanos = Duration.least ∧
    greatest.render = "PT2562047788015215H30M7.999999999S" ∧
    least.render = "-PT2562047788015215H30M8.999999999S" ∧
    (∃ w' node', oneNode.override 0 0 (Overrides.withTimeout {}
        (.text " \nPT2562047788015215H30M7.999999999S\t")) = .ok w' ∧
      (w'.graph 0).node? 0 = some node' ∧ (w'.settingsOf node').timeout = some greatest) ∧
    ∃ e, oneNode.override 0 0 (Overrides.withTimeout {}
        (.text " \n-PT2562047788015215H30M8.999999999S\t")) = .error e ∧ e.kind = .invalidValue := by
  obtain ⟨node, hnode⟩ : ∃ node, (oneNode.graph 0).node? 0 = some node :=
    Option.isSome_iff_exists.1 (by decide +kernel)
  have hbefore : ∀ c ∈ [' ', '\n'], Text.isBlank c = true := List.all_eq_true.1 rfl
  have hafter : ∀ c ∈ ['\t'], Text.isBlank c = true := List.all_eq_true.1 rfl
  let greatest : Duration := ⟨Duration.greatest, by decide⟩
  let least : Duration := ⟨Duration.least, by decide⟩
  have hgreatest : greatest.render = "PT2562047788015215H30M7.999999999S" := by decide +kernel
  have hleast : least.render = "-PT2562047788015215H30M8.999999999S" := by decide +kernel
  obtain ⟨words, hwords, hcall⟩ :=
    timeout_spellings_agree (m := { name := "", timeout := some greatest }) rfl
  obtain ⟨words', hwords', hcall'⟩ :=
    timeout_spellings_agree (m := { name := "", timeout := some least }) rfl
  obtain rfl := hwords.unique (NodeMetadata.carries_render rfl)
  obtain rfl := hwords'.unique (NodeMetadata.carries_render rfl)
  rw [hgreatest] at hcall
  rw [hleast] at hcall'
  obtain ⟨-, hempty, hset⟩ := hcall _ _ hbefore hafter oneNode 0 0 {}
  obtain ⟨-, -, hset'⟩ := hcall' _ _ hbefore hafter oneNode 0 0 {}
  obtain ⟨w₀, hok⟩ := hempty node hnode
  obtain ⟨e, he, hkind, -⟩ := (hset' w₀ hok).2 (by decide)
  exact ⟨greatest, least, rfl, rfl, hgreatest, hleast, (hset w₀ hok).1 (by decide), e, he, hkind⟩

end Workspace

end Workflow
