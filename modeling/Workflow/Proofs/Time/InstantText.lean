import Workflow.Proofs.Time.Calendar
import Workflow.Proofs.Time.Fields

/-!
# Instants are read back

`read?_render`: the text of an instant is read as the same instant. The text is read from the front, a
part at a time: the year (`readYear?_yearText`), the date (`readDate?_dashed`) and the time of day
(`readClock?_colons`).
-/

namespace Workflow.Instant

open Decimal

variable {rest : List Char}

/-! ## Dates -/

theorem readYear?_yearText {year : Int} (h₀ : -9999 ≤ year) (h₁ : year ≤ 9999) :
    readYear? (yearText year ++ rest) = some (year, rest) := by
  unfold yearText
  split
  · rename_i hneg
    have hread : readField? 6 (field 6 year.natAbs ++ rest) = some (year.natAbs, rest) :=
      readField?_field (by decide) (by omega)
    have hzero : ¬ (year.natAbs = 0 ∨ 9999 < year.natAbs) := by omega
    rw [List.cons_append, readYear?, hread]
    simp only [hzero, if_false, Option.some.injEq, Prod.mk.injEq, and_true]
    omega
  · rename_i hnonneg
    have hread : readField? 4 (field 4 year.natAbs ++ rest) = some (year.natAbs, rest) :=
      readField?_field (by decide) (by omega)
    have hlength : (field 4 year.natAbs).length = 4 := length_field (by decide) (by omega)
    -- a field starts with a digit, so that no sign is read
    obtain ⟨c, tail, hcons⟩ := List.exists_cons_of_length_pos (l := field 4 year.natAbs) (by omega)
    have hdigit : c.isDigit = true := by
      have hmem : c ∈ field 4 year.natAbs := by
        rw [hcons]
        exact List.mem_cons_self
      exact isDigit_of_mem_field hmem
    rw [hcons, List.cons_append] at hread ⊢
    unfold readYear?
    split
    · rename_i heq
      rw [(List.cons.inj heq).1] at hdigit
      exact absurd hdigit (by decide)
    · rename_i heq
      rw [(List.cons.inj heq).1] at hdigit
      exact absurd hdigit (by decide)
    · rw [hread]
      simp only [Option.map_some, Option.some.injEq, Prod.mk.injEq, and_true]
      omega

theorem readDate?_dashed {d : Date} (h₀ : -9999 ≤ d.year) (h₁ : d.year ≤ 9999)
    (hexists : d.exists? = true) :
    readDate? (yearText d.year ++ '-' :: (field 2 d.month ++ '-' :: (field 2 d.day ++ rest))) =
      some (d, rest) := by
  have hmonth : d.month < 10 ^ 2 := by
    simp only [Date.exists?, Bool.and_eq_true, decide_eq_true_eq] at hexists
    omega
  have hday : d.day < 10 ^ 2 := by
    have hdays := d.daysInMonth_le
    simp only [Date.exists?, Bool.and_eq_true, decide_eq_true_eq] at hexists
    omega
  unfold readDate?
  simp only [readYear?_yearText h₀ h₁, Option.bind_eq_bind, Option.bind_some, List.head?_cons,
    if_true, List.drop_succ_cons, List.drop_zero, readField?_field (by decide) hmonth,
    readField?_field (by decide) hday, hexists, Option.pure_def]

/-! ## Times of day -/

/-- The text of a fraction, which is left out when it is nought. -/
theorem readFraction?_text {nanos : Nat} (hlt : nanos < Duration.second) {c : Char}
    (hc : c.isDigit = false ∧ c ≠ '.' ∧ c ≠ ',') :
    Duration.readFraction? ((if nanos = 0 then [] else '.' :: Duration.fractionDigits 9 nanos) ++
      c :: rest) = some (if nanos = 0 then none else some nanos, c :: rest) := by
  split
  · exact Duration.readFraction?_none hc.2
  · rename_i hn
    exact Duration.readFraction?_fractionDigits hn hlt (endsNumber_cons hc.1)

/-- The clock reading of a number of seconds, with the nanoseconds after it. -/
def clockOf (clock nanos : Nat) : Clock :=
  ⟨clock / 3600, some (clock / 60 % 60), some (clock % 60), if nanos = 0 then none else some nanos⟩

theorem readClock?_colons {clock nanos : Nat} (hclock : clock < 86400)
    (hnanos : nanos < Duration.second) {c : Char} (hc : c.isDigit = false ∧ c ≠ '.' ∧ c ≠ ',') :
    readClock? (field 2 (clock / 3600) ++ ':' :: (field 2 (clock / 60 % 60) ++
      ':' :: (field 2 (clock % 60) ++
        ((if nanos = 0 then [] else '.' :: Duration.fractionDigits 9 nanos) ++ c :: rest)))) =
      some (clockOf clock nanos, c :: rest) := by
  have hread : ∀ {n : Nat} {rest : List Char}, n < 100 →
      readField? 2 (field 2 n ++ rest) = some (n, rest) :=
    fun h => readField?_field (by decide) h
  have hhour : clock / 3600 < 100 := by omega
  have hminute : clock / 60 % 60 < 100 := by omega
  have hsecond : clock % 60 < 100 := by omega
  unfold readClock? readNext?
  simp only [hread hhour, Option.bind_eq_bind, Option.bind_some, List.head?_cons, decide_true,
    if_true, hread hminute, Option.map_some, Option.isNone_some, Bool.false_eq_true, if_false,
    hread hsecond, readFraction?_text hnanos hc, Option.pure_def]
  rfl

theorem timeOfDay?_clockOf {clock nanos : Nat} (hclock : clock < 86400) :
    (clockOf clock nanos).timeOfDay? = some (clock * Duration.second + nanos) := by
  have hhour : clock / 3600 < 24 := by omega
  have hminute : clock / 60 % 60 < 60 := by omega
  have hsecond : clock % 60 ≤ 60 := by omega
  have hsum : (clock / 3600 * 60 + clock / 60 % 60) * 60 + min (clock % 60) 59 = clock := by omega
  have hfraction : (if nanos = 0 then none else some nanos : Option Nat).getD 0 = nanos := by
    split
    · rename_i h
      rw [h, Option.getD_none]
    · rfl
  simp only [clockOf, Clock.timeOfDay?, Option.getD_some, hhour, hminute, hsecond, and_self,
    if_true, hsum, hfraction]

/-! ## Instants -/

/-- The days that instants lie in have years of at most four digits. -/
theorem year_bounds (t : Instant) :
    -9999 ≤ (Date.ofDays (t.nanos / Duration.second / 86400)).year ∧
      (Date.ofDays (t.nanos / Duration.second / 86400)).year ≤ 9999 := by
  have hrange := t.inRange
  simp only [least, greatest] at hrange
  simp only [Duration.second]
  exact Date.year_ofDays (by omega) (by omega)

theorem readChars?_renderChars (t : Instant) : readChars? t.renderChars = some t := by
  obtain ⟨hyear₀, hyear₁⟩ := t.year_bounds
  obtain ⟨seconds, hseconds⟩ : ∃ s, s = t.nanos / Duration.second := ⟨_, rfl⟩
  obtain ⟨nanos, hnanos⟩ : ∃ n, n = (t.nanos % Duration.second).toNat := ⟨_, rfl⟩
  obtain ⟨clock, hclock⟩ : ∃ n, n = (seconds % 86400).toNat := ⟨_, rfl⟩
  have hnanos_lt : nanos < Duration.second := by
    simp only [hnanos, Duration.second]
    omega
  have hclock_lt : clock < 86400 := by omega
  have hsum : ((Date.ofDays (seconds / 86400)).toDays * 86400 - 0) * Duration.second +
      (clock * Duration.second + nanos : Nat) = t.nanos := by
    rw [Date.toDays_ofDays]
    simp only [Duration.second] at hseconds hnanos ⊢
    omega
  have hdate := Date.exists?_ofDays (seconds / 86400)
  -- date, time of day and the mark of universal time, each read up to where the next one starts
  unfold renderChars readChars?
  simp only [← hseconds, ← hnanos, ← hclock] at hyear₀ hyear₁ ⊢
  simp only [List.append_assoc, List.cons_append, Option.bind_eq_bind,
    readDate?_dashed hyear₀ hyear₁ hdate, Option.bind_some, true_or, if_true,
    readClock?_colons hclock_lt hnanos_lt (c := 'Z') (by decide), timeOfDay?_clockOf hclock_lt,
    readOffset?, List.length_nil, areAnnotations, hsum]
  exact dif_pos t.inRange

/-- **The text of an instant** is read as the same instant. -/
theorem read?_render (t : Instant) : read? t.render = some t := by
  rw [read?, render, String.toList_ofList, readChars?_renderChars]

end Workflow.Instant
