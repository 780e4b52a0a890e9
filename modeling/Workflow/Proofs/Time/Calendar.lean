import Mathlib.Tactic.IntervalCases
import Workflow.Time.Instant

/-!
# Days and dates

The calendar repeats after an era of 400 years. A day of an era is placed by its century, its block of
four years in the century, its year in the block and its day in the year, where years begin in March.

* `exists_placed`: every day of an era has a place.
* `Placed.yearOfEra`: the year that `Date.ofDays` finds is the one of the place.
* `toDays_ofDays`, `exists?_ofDays`: the date of a day exists and leads back to the day.
* `year_ofDays`: the years of the days that instants lie in.
-/

namespace Workflow.Date

theorem daysInMonth_le (d : Date) : daysInMonth d.year d.month ≤ 31 := by
  unfold daysInMonth
  split_ifs <;> decide

/-! ## Places in an era -/

/-- The place of a day in its era. A year of 366 days is the last of its block, and only in the last
century of an era it is the last one of its century. -/
structure Placed (dayOfEra c b y d : Int) : Prop where
  century : 0 ≤ c ∧ c ≤ 3
  block : 0 ≤ b ∧ b ≤ 24
  year : 0 ≤ y ∧ y ≤ 3
  day : 0 ≤ d ∧ d ≤ 365
  leapDay : d = 365 → y = 3 ∧ (b = 24 → c = 3)
  sum : dayOfEra = 36524 * c + 1461 * b + 365 * y + d

theorem exists_placed {dayOfEra : Int} (h₀ : 0 ≤ dayOfEra) (h₁ : dayOfEra < 146097) :
    ∃ c b y d, Placed dayOfEra c b y d := by
  obtain ⟨c, hc⟩ : ∃ c, c = min (dayOfEra / 36524) 3 := ⟨_, rfl⟩
  obtain ⟨b, hb⟩ : ∃ b, b = (dayOfEra - 36524 * c) / 1461 := ⟨_, rfl⟩
  obtain ⟨y, hy⟩ : ∃ y, y = min ((dayOfEra - 36524 * c - 1461 * b) / 365) 3 := ⟨_, rfl⟩
  refine ⟨c, b, y, dayOfEra - 36524 * c - 1461 * b - 365 * y, ?_, ?_, ?_, ?_, ?_, ?_⟩
  all_goals omega

theorem exists_placed_emod (days : Int) : ∃ c b y d, Placed (days % 146097) c b y d :=
  exists_placed (Int.emod_nonneg _ (by decide)) (Int.emod_lt_of_pos _ (by decide))

namespace Placed

variable {dayOfEra c b y d : Int}

/-- The days since the start of the block, and of the century. -/
theorem bounds (h : Placed dayOfEra c b y d) : 365 * y + d ≤ 1460 ∧
    (1461 * b + (365 * y + d) ≤ 36523 ∨ c = 3 ∧ 1461 * b + (365 * y + d) = 36524) := by
  obtain ⟨hc, hb, hy, hd, hleap, -⟩ := h
  have hblock : 365 * y + d ≤ 1460 := by omega
  refine ⟨hblock, ?_⟩
  omega

/-- **The year of a place**: the divisions by 1460, 36524 and 146096 take the leap days away. -/
theorem yearOfEra (h : Placed dayOfEra c b y d) :
    (dayOfEra - dayOfEra / 1460 + dayOfEra / 36524 - dayOfEra / 146096) / 365 =
      100 * c + 4 * b + y := by
  obtain ⟨hblock, hcentury⟩ := h.bounds
  obtain ⟨hc, hb, hy, hd, hleap, hsum⟩ := h
  obtain ⟨s, hs⟩ : ∃ s, s = 365 * y + d := ⟨_, rfl⟩
  rw [← hs] at hblock hcentury
  have hcenturies : dayOfEra / 36524 - dayOfEra / 146096 = c := by
    rcases hcentury with hcentury | ⟨rfl, hcentury⟩
    · have hquotient : dayOfEra / 36524 = c := by omega
      omega
    · omega
  have hblocks : dayOfEra / 1460 = 25 * c + b + (24 * c + b + s) / 1460 := by omega
  -- the quotient that is left is one at the end of a block, where it makes up for the leap day
  have hlast : (24 * c + b + s) / 1460 = 0 ∧ d ≤ 364 ∨ (24 * c + b + s) / 1460 = 1 ∧ 1 ≤ d := by
    omega
  omega

/-- The days before a year of an era. -/
theorem daysBefore (h : Placed dayOfEra c b y d) : 365 * (100 * c + 4 * b + y) +
    (100 * c + 4 * b + y) / 4 - (100 * c + 4 * b + y) / 100 = dayOfEra - d := by
  obtain ⟨hc, hb, hy, hd, hleap, hsum⟩ := h
  have hblocks : (100 * c + 4 * b + y) / 4 = 25 * c + b := by omega
  have hcenturies : (100 * c + 4 * b + y) / 100 = c := by omega
  omega

/-- A leap day makes the year that begins before it end in a leap year. -/
theorem isLeap (h : Placed dayOfEra c b y d) (hd : d = 365) (era : Int) :
    Date.isLeap (100 * c + 4 * b + y + era * 400 + 1) = true := by
  obtain ⟨hc, hb, hy, -, hleap, -⟩ := h
  obtain ⟨rfl, hlast⟩ := hleap hd
  simp only [Date.isLeap, Bool.and_eq_true, beq_iff_eq, Bool.or_eq_true, bne_iff_ne]
  refine ⟨by omega, ?_⟩
  by_cases hblock : b = 24
  · obtain rfl := hlast hblock
    right
    omega
  · left
    omega

end Placed

/-! ## Dates of days -/

/-- A date by the year that began in March, the month counted from March, and the day. -/
def ofMarch (year month day : Int) : Date :=
  let m := if month < 10 then month + 3 else month - 9
  ⟨year + (if m ≤ 2 then 1 else 0), m.toNat, day.toNat⟩

/-- The date of a day, by the place of the day in its era. -/
theorem ofDays_eq {days dayOfEra c b y d : Int} (h : Placed dayOfEra c b y d)
    (hday : (days + 719468) % 146097 = dayOfEra) :
    ofDays days = ofMarch (100 * c + 4 * b + y + (days + 719468) / 146097 * 400)
      ((5 * d + 2) / 153) (d - (153 * ((5 * d + 2) / 153) + 2) / 5 + 1) := by
  have hyear := h.yearOfEra
  have hbefore := h.daysBefore
  unfold ofDays ofMarch
  simp only [hday, hyear, hbefore, sub_sub_cancel]

theorem toDays_ofMarch {year month day : Int} (hm : 0 ≤ month ∧ month ≤ 11) (hday : 0 ≤ day) :
    (ofMarch year month day).toDays = year / 400 * 146097 +
      (year % 400 * 365 + year % 400 / 4 - year % 400 / 100 + ((153 * month + 2) / 5 + day - 1)) -
        719468 := by
  obtain ⟨h₀, h₁⟩ := hm
  unfold toDays ofMarch
  interval_cases month <;> simp [hday]

/-- **The date of a day leads back to the day.** -/
theorem toDays_ofDays (days : Int) : (ofDays days).toDays = days := by
  obtain ⟨c, b, y, d, h⟩ := exists_placed_emod (days + 719468)
  have hbefore := h.daysBefore
  rw [ofDays_eq h rfl]
  obtain ⟨hc, hb, hy, hd, -, -⟩ := h
  have hmonth : 0 ≤ (5 * d + 2) / 153 ∧ (5 * d + 2) / 153 ≤ 11 := by omega
  rw [toDays_ofMarch hmonth (by omega)]
  have hera : (100 * c + 4 * b + y + (days + 719468) / 146097 * 400) / 400 =
      (days + 719468) / 146097 := by omega
  have hyear : (100 * c + 4 * b + y + (days + 719468) / 146097 * 400) % 400 =
      100 * c + 4 * b + y := by omega
  rw [hera, hyear]
  omega

/-- **The date of a day exists.** -/
theorem exists?_ofDays (days : Int) : (ofDays days).exists? = true := by
  obtain ⟨c, b, y, d, h⟩ := exists_placed_emod (days + 719468)
  have hleap := fun hd => h.isLeap hd ((days + 719468) / 146097)
  rw [ofDays_eq h rfl]
  obtain ⟨-, -, -, hd, -, -⟩ := h
  generalize 100 * c + 4 * b + y + (days + 719468) / 146097 * 400 = year at hleap ⊢
  obtain ⟨m, hm⟩ : ∃ m, m = (5 * d + 2) / 153 := ⟨_, rfl⟩
  rw [← hm]
  unfold ofMarch exists? daysInMonth
  by_cases hfebruary : m = 11
  · have hday : d - (153 * m + 2) / 5 + 1 = d - 336 := by omega
    rw [hday, hfebruary]
    by_cases hlast : d = 365
    · simp [hleap hlast, hlast]
    · split <;> simp <;> omega
  · obtain ⟨h₀, h₁⟩ : 0 ≤ m ∧ m ≤ 10 := by omega
    interval_cases m <;> simp <;> omega

/-- The years of the days from -9999-01-01 to 9999-12-31. -/
theorem year_ofDays {days : Int} (h₀ : -4371587 ≤ days) (h₁ : days ≤ 2932896) :
    -9999 ≤ (ofDays days).year ∧ (ofDays days).year ≤ 9999 := by
  obtain ⟨c, b, y, d, h⟩ := exists_placed_emod (days + 719468)
  rw [ofDays_eq h rfl]
  obtain ⟨hc, hb, hy, hd, -, hsum⟩ := h
  simp only [ofMarch]
  omega

end Workflow.Date
