import Workflow.Proofs.Time.Fields

/-!
# Durations are read back

`read?_render`: the text of a duration is read as the same duration. In between stand the amounts that
the text names, `amounts`: the text spells them (`renderChars_eq`), they are read from it
(`readIsoAmounts_isoText`), and their sum is the duration (`sumsTo_amounts`).
-/

namespace Workflow.Duration

open Decimal

/-! ## Texts of amounts -/

/-- The designator of a unit, for the units that have one. -/
def Unit.designator : Unit → Char
  | .hour => 'H'
  | .minute => 'M'
  | _ => 'S'

/-- An amount in the ISO 8601 notation. -/
def Amount.isoText (a : Amount) : List Char :=
  natDigits a.count ++ ((a.fraction.elim [] fun f => '.' :: fractionDigits 9 f) ++ [a.unit.designator])

/-- Amounts that the ISO 8601 notation has a text for: the units decrease, and a fraction, not nought,
is the last thing there is. -/
inductive Written : Option Unit → List Amount → Prop
  | nil {previous : Option Unit} : Written previous []
  | whole {previous : Option Unit} {unit : Unit} {count : Nat} {amounts : List Amount}
      (hfollows : follows previous unit = true)
      (hunit : Unit.ofDesignator? unit.designator = some unit)
      (hrest : Written (some unit) amounts) : Written previous (⟨unit, count, none⟩ :: amounts)
  | last {previous : Option Unit} {unit : Unit} {count f : Nat}
      (hfollows : follows previous unit = true)
      (hunit : Unit.ofDesignator? unit.designator = some unit)
      (hf : f ≠ 0) (hlt : f < second) : Written previous [⟨unit, count, some f⟩]

theorem designator_ends (unit : Unit) :
    unit.designator.isDigit = false ∧ unit.designator ≠ '.' ∧ unit.designator ≠ ',' := by
  cases unit <;> decide

/-- **Amounts that have a text** are read from it. -/
theorem readIsoAmounts_isoText {previous : Option Unit} {amounts : List Amount}
    (h : Written previous amounts) : ∀ fuel : Nat, (amounts.flatMap Amount.isoText).length ≤ fuel →
      readIsoAmounts fuel previous (amounts.flatMap Amount.isoText) = some amounts := by
  -- each amount has a designator, so that the fuel lasts for the amounts behind it
  induction h with
  | nil =>
    intro fuel _
    cases fuel <;> rfl
  | @whole previous unit count amounts hfollows hunit hrest ih =>
    intro fuel hfuel
    have htext : (⟨unit, count, none⟩ :: amounts : List Amount).flatMap Amount.isoText =
        natDigits count ++ unit.designator :: amounts.flatMap Amount.isoText := by
      simp [Amount.isoText]
    rw [htext, List.length_append, List.length_cons] at hfuel
    obtain ⟨fuel, rfl⟩ : ∃ n, fuel = n + 1 := ⟨fuel - 1, by omega⟩
    have hcount : readCount? (natDigits count ++ unit.designator :: amounts.flatMap Amount.isoText) =
        some (count, unit.designator :: amounts.flatMap Amount.isoText) :=
      readCount?_natDigits (endsNumber_cons (designator_ends unit).1)
    have hrest := ih fuel (by omega)
    rw [htext, readIsoAmounts]
    · simp only [hcount, Option.bind_eq_bind, Option.bind_some,
        readFraction?_none (designator_ends unit).2, hunit, hfollows, if_true, Option.isSome_none,
        Bool.false_eq_true, false_and, if_false, hrest, Option.pure_def]
    · simp
  | @last previous unit count f hfollows hunit hf hlt =>
    intro fuel hfuel
    have htext : [(⟨unit, count, some f⟩ : Amount)].flatMap Amount.isoText =
        natDigits count ++ '.' :: (fractionDigits 9 f ++ [unit.designator]) := by
      simp [Amount.isoText]
    rw [htext, List.length_append, List.length_cons] at hfuel
    obtain ⟨fuel, rfl⟩ : ∃ n, fuel = n + 1 := ⟨fuel - 1, by omega⟩
    have hcount : readCount? (natDigits count ++ '.' :: (fractionDigits 9 f ++ [unit.designator])) =
        some (count, '.' :: (fractionDigits 9 f ++ [unit.designator])) :=
      readCount?_natDigits (endsNumber_cons rfl)
    have hfraction : readFraction? ('.' :: (fractionDigits 9 f ++ [unit.designator])) =
        some (some f, [unit.designator]) :=
      readFraction?_fractionDigits hf hlt (endsNumber_cons (designator_ends unit).1)
    rw [htext, readIsoAmounts]
    · simp only [hcount, Option.bind_eq_bind, Option.bind_some, hfraction, hunit, hfollows, if_true,
        ne_eq, not_true_eq_false, and_false, if_false, readIsoAmounts, Option.pure_def]
    · simp

/-! ## Sums of amounts -/

/-- Amounts that are so many nanoseconds in all. -/
def SumsTo (amounts : List Amount) (total : Nat) : Prop :=
  ∃ nanos : List Nat, amounts.mapM Amount.nanos? = some nanos ∧ nanos.sum = total

theorem SumsTo.append {amounts amounts' : List Amount} {total total' : Nat}
    (h : SumsTo amounts total) (h' : SumsTo amounts' total') :
    SumsTo (amounts ++ amounts') (total + total') := by
  obtain ⟨nanos, hnanos, rfl⟩ := h
  obtain ⟨nanos', hnanos', rfl⟩ := h'
  refine ⟨nanos ++ nanos', ?_, List.sum_append⟩
  simp only [List.mapM_append, hnanos, hnanos', Option.bind_eq_bind, Option.bind_some,
    Option.pure_def]

theorem sum?_eq_some {negative : Bool} {amounts : List Amount} {d : Duration}
    (hsum : SumsTo amounts d.nanos.natAbs) (hnegative : negative = d.isNegative)
    (hcount : ∀ a ∈ amounts, a.count ≤ maxCount negative) : sum? negative amounts = some d := by
  obtain ⟨nanos, hnanos, htotal⟩ := hsum
  have hall : (amounts.all fun a => a.count ≤ maxCount negative) = true := by
    simpa using hcount
  have hsigned : (if negative = true then -(d.nanos.natAbs : Int) else d.nanos.natAbs) = d.nanos := by
    rw [hnegative, isNegative]
    split_ifs with hneg <;> simp only [decide_eq_true_eq] at hneg <;> omega
  unfold sum?
  simp only [hnanos, Option.bind_eq_bind, Option.bind_some, ← List.sum_eq_foldl, htotal, hall,
    if_true, hsigned]
  exact dif_pos d.inRange

/-! ## Amounts of a duration -/

/-- An amount without a fraction, left out when the count is nought. -/
def wholeAmount (unit : Unit) (count : Nat) : List Amount :=
  if count = 0 then [] else [⟨unit, count, none⟩]

/-- Seconds with a fraction, left out when both are nought. -/
def secondsAmount (seconds nanos : Nat) : List Amount :=
  if seconds = 0 ∧ nanos = 0 then []
  else [⟨.second, seconds, if nanos = 0 then none else some nanos⟩]

theorem isoText_wholeAmount (unit : Unit) (count : Nat) :
    (wholeAmount unit count).flatMap Amount.isoText = part count unit.designator := by
  unfold wholeAmount part
  split_ifs
  · rfl
  · simp [Amount.isoText]

theorem isoText_secondsAmount (seconds nanos : Nat) :
    (secondsAmount seconds nanos).flatMap Amount.isoText =
      if seconds = 0 ∧ nanos = 0 then [] else secondsText seconds nanos ++ ['S'] := by
  unfold secondsAmount secondsText
  split_ifs
  · rfl
  · simp [Amount.isoText, Unit.designator]
  · simp [Amount.isoText, Unit.designator]

theorem Written.wholeAmount_append {previous : Option Unit} {unit : Unit} {count : Nat}
    {amounts : List Amount} (hfollows : follows previous unit = true)
    (hunit : Unit.ofDesignator? unit.designator = some unit) (h : Written previous amounts)
    (h' : Written (some unit) amounts) : Written previous (wholeAmount unit count ++ amounts) := by
  unfold wholeAmount
  split_ifs
  · exact h
  · exact .whole hfollows hunit h'

theorem Written.secondsAmount {previous : Option Unit} {seconds nanos : Nat}
    (hfollows : follows previous .second = true) (hlt : nanos < Duration.second) :
    Written previous (secondsAmount seconds nanos) := by
  unfold Duration.secondsAmount
  split_ifs with hnone hwhole
  · exact .nil
  · exact .whole hfollows (by decide) .nil
  · exact .last hfollows (by decide) hwhole hlt

theorem sumsTo_wholeAmount (unit : Unit) (count : Nat) :
    SumsTo (wholeAmount unit count) (count * unit.nanos) := by
  unfold wholeAmount
  split_ifs with hzero
  · exact ⟨[], rfl, by simp [hzero]⟩
  · exact ⟨[count * unit.nanos], rfl, by simp⟩

theorem sumsTo_secondsAmount (seconds nanos : Nat) :
    SumsTo (secondsAmount seconds nanos) (seconds * second + nanos) := by
  unfold secondsAmount
  split_ifs with hnone hwhole
  · exact ⟨[], rfl, by simp [hnone]⟩
  · exact ⟨[seconds * second], rfl, by simp [hwhole]⟩
  · refine ⟨[seconds * second + nanos * second / second], rfl, ?_⟩
    rw [Nat.mul_div_cancel _ (by decide), List.sum_singleton]

theorem count_of_mem_wholeAmount {unit : Unit} {count : Nat} {a : Amount}
    (h : a ∈ wholeAmount unit count) : a.count = count := by
  unfold wholeAmount at h
  split_ifs at h
  · exact absurd h List.not_mem_nil
  · rw [List.mem_singleton.1 h]

theorem count_of_mem_secondsAmount {seconds nanos : Nat} {a : Amount}
    (h : a ∈ secondsAmount seconds nanos) : a.count = seconds := by
  unfold secondsAmount at h
  split_ifs at h
  · exact absurd h List.not_mem_nil
  · rw [List.mem_singleton.1 h]
  · rw [List.mem_singleton.1 h]

section

variable (d : Duration)

/-- The amounts that the text of a duration names. -/
def amounts : List Amount :=
  let seconds := d.nanos.natAbs / second
  if d.nanos.natAbs = 0 then [⟨.second, 0, none⟩]
  else wholeAmount .hour (seconds / 3600) ++ (wholeAmount .minute (seconds / 60 % 60) ++
    secondsAmount (seconds % 60) (d.nanos.natAbs % second))

/-- **The text of a duration** spells its amounts. -/
theorem renderChars_eq : d.renderChars =
    (if d.isNegative then ['-'] else []) ++ 'P' :: 'T' :: d.amounts.flatMap Amount.isoText := by
  have hbody : d.amounts.flatMap Amount.isoText =
      if d.nanos.natAbs = 0 then ['0', 'S']
      else part (d.nanos.natAbs / second / 3600) 'H' ++
        (part (d.nanos.natAbs / second / 60 % 60) 'M' ++
          if d.nanos.natAbs / second % 60 = 0 ∧ d.nanos.natAbs % second = 0 then []
          else secondsText (d.nanos.natAbs / second % 60) (d.nanos.natAbs % second) ++ ['S']) := by
    unfold amounts
    by_cases hzero : d.nanos.natAbs = 0
    · rw [if_pos hzero, if_pos hzero]
      rfl
    · rw [if_neg hzero, if_neg hzero]
      simp only [List.flatMap_append, isoText_wholeAmount, isoText_secondsAmount, Unit.designator]
  rw [hbody]
  simp only [renderChars, List.append_assoc, List.cons_append, List.nil_append]

theorem written_amounts : Written none d.amounts := by
  have hlt : d.nanos.natAbs % second < second := Nat.mod_lt _ (by decide)
  unfold amounts
  split_ifs
  · exact .whole rfl (by decide) .nil
  · -- minutes and seconds may stand behind hours or first
    have hminutes : ∀ {previous : Option Unit}, follows previous .second = true →
        follows previous .minute = true →
        Written previous (wholeAmount .minute (d.nanos.natAbs / second / 60 % 60) ++
          secondsAmount (d.nanos.natAbs / second % 60) (d.nanos.natAbs % second)) :=
      fun h h' => .wholeAmount_append h' (by decide) (.secondsAmount h hlt) (.secondsAmount rfl hlt)
    exact .wholeAmount_append rfl (by decide) (hminutes rfl rfl) (hminutes rfl rfl)

theorem sumsTo_amounts : SumsTo d.amounts d.nanos.natAbs := by
  unfold amounts
  split_ifs with hzero
  · exact ⟨[0], rfl, by simp [hzero]⟩
  · have hsum := (sumsTo_wholeAmount .hour (d.nanos.natAbs / second / 3600)).append
      ((sumsTo_wholeAmount .minute (d.nanos.natAbs / second / 60 % 60)).append
        (sumsTo_secondsAmount (d.nanos.natAbs / second % 60) (d.nanos.natAbs % second)))
    have htotal : d.nanos.natAbs / second / 3600 * Unit.hour.nanos +
        (d.nanos.natAbs / second / 60 % 60 * Unit.minute.nanos +
          (d.nanos.natAbs / second % 60 * second + d.nanos.natAbs % second)) = d.nanos.natAbs := by
      simp only [Unit.nanos, second]
      omega
    rwa [htotal] at hsum

/-- The counts are those of the seconds, which fit a signed 64-bit word. -/
theorem count_le_maxCount : ∀ a ∈ d.amounts, a.count ≤ maxCount d.isNegative := by
  have hrange := d.inRange
  have hseconds : d.nanos.natAbs / second ≤ maxCount d.isNegative := by
    simp only [least, greatest, second, maxCount, isNegative, decide_eq_true_eq] at hrange ⊢
    split_ifs <;> omega
  intro a ha
  refine le_trans ?_ hseconds
  unfold amounts at ha
  split_ifs at ha
  · rw [List.mem_singleton.1 ha]
    exact Nat.zero_le _
  · simp only [List.mem_append] at ha
    rcases ha with ha | ha | ha
    · rw [count_of_mem_wholeAmount ha]
      exact Nat.div_le_self _ _
    · rw [count_of_mem_wholeAmount ha]
      exact (Nat.mod_le _ _).trans (Nat.div_le_self _ _)
    · rw [count_of_mem_secondsAmount ha]
      exact Nat.mod_le _ _

/-- There is always something to read behind `PT`. -/
theorem text_ne_nil : d.amounts.flatMap Amount.isoText ≠ [] := by
  intro hnil
  have hamounts : d.amounts = [] := by
    rw [List.eq_nil_iff_forall_not_mem]
    intro a ha
    simpa [Amount.isoText] using List.flatMap_eq_nil_iff.1 hnil a ha
  have hzero : d.nanos.natAbs = 0 := by
    obtain ⟨nanos, hnanos, htotal⟩ := d.sumsTo_amounts
    rw [hamounts, List.mapM_nil] at hnanos
    rw [← htotal, ← Option.some.inj hnanos, List.sum_nil]
  rw [amounts, if_pos hzero] at hamounts
  exact List.cons_ne_nil _ _ hamounts

end

/-- **The text of a duration** is read as the same duration. -/
theorem readChars?_renderChars (d : Duration) : readChars? d.renderChars = some d := by
  have hread := readIsoAmounts_isoText d.written_amounts _ le_rfl
  have hsum := sum?_eq_some d.sumsTo_amounts rfl d.count_le_maxCount
  have hiso : readIso? d.isNegative ('P' :: 'T' :: d.amounts.flatMap Amount.isoText) = some d :=
    calc readIso? d.isNegative ('P' :: 'T' :: d.amounts.flatMap Amount.isoText)
        = (readIsoAmounts _ none (d.amounts.flatMap Amount.isoText)).bind (sum? d.isNegative) :=
          if_pos ⟨by decide, by decide, d.text_ne_nil⟩
      _ = some d := by rw [hread, Option.bind_some, hsum]
  rw [renderChars_eq]
  unfold readChars?
  cases hsign : d.isNegative <;> rw [hsign] at hiso
  · exact (if_pos (by decide)).trans hiso
  · exact (if_pos (by decide)).trans hiso

theorem read?_render (d : Duration) : read? d.render = some d := by
  rw [read?, render, String.toList_ofList, readChars?_renderChars]

end Workflow.Duration
