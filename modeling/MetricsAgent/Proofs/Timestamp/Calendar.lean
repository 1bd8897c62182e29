import MetricsAgent.Timestamp.Basic
import Mathlib.Tactic.IntervalCases
import Mathlib.Tactic.Ring

/-!
# The calendar

`Date.ofDays` gives a day of the calendar for every number of days, before 1970 as well as after
(`isValid_ofDays`), and `Date.toDays` gives the number back (`toDays_ofDays`).

A cycle of 400 years that starts with March has four centuries, all but the last a day short of a
hundred Julian years.  With a day put in for each century that is over, a day of the cycle is a day
in groups of four Julian years, of 1461 days each; that is where the divisions of `Date.ofDays` come
from.

The proof goes down one level at a time — the cycle, the century in it, the group of four years, the
year, the month — and on each level there is a structure that says where a day lies and bounds every
part.  With these bounds at hand linear arithmetic closes each step, and only the divisors of
`ofDays` need an explanation: two of them are one too small on purpose, so that the last day of a
long year or century is not counted as the first of the next.
-/

set_option autoImplicit false

namespace MetricsAgent

namespace Date

/-- A division that rounds down, with its rest. -/
theorem exists_fdiv (n : Int) {d : Int} (pos : 0 < d) :
    ∃ (q : Int) (r : Nat), n.fdiv d = q ∧ n - q * d = r ∧ (r : Int) < d := by
  refine ⟨n / d, (n % d).toNat, Int.fdiv_eq_ediv_of_nonneg n pos.le, ?_⟩
  have rest := Int.mul_ediv_add_emod n d
  have nonneg := Int.emod_nonneg n pos.ne'
  have lt := Int.emod_lt_of_pos n pos
  rw [Int.toNat_of_nonneg nonneg, Int.mul_comm]
  exact ⟨by omega, lt⟩

/-! ## The year in a cycle

First the century, then the group of four years with the missing days put in, then the year.  Only a
leap year has a day 365, and in these years it is the last one, since they start with March. -/

/-- A day of a cycle lies in this century of it. -/
structure InCentury (n century : Int) : Prop where
  nonneg : 0 ≤ century
  le_three : century ≤ 3
  lower : 36524 * century ≤ n
  upper : n ≤ 36524 * century + 36524
  last : n = 36524 * century + 36524 → century = 3

theorem inCentury {n : Int} (low : 0 ≤ n) (high : n < 146097) :
    InCentury n (n / 36524 - n / 146096) := by
  constructor <;> omega

/-- With the days put in that the centuries are short of, a day of a cycle is day `day` in a group
of four years, the `group`-th of the cycle. -/
structure InGroup (n century group day : Int) : Prop where
  eq : n + century = 1461 * group + day
  nonneg : 0 ≤ day
  le : day ≤ 1460
  lower : 25 * century ≤ group
  upper : group ≤ 25 * century + 24
  /-- The last group of a century is a day short. -/
  last : day = 1460 → group = 25 * century + 24 → century = 3

theorem InCentury.exists_inGroup {n century : Int} (h : InCentury n century) :
    ∃ group day, InGroup n century group day := by
  obtain ⟨nonneg, le_three, lower, upper, last⟩ := h
  refine ⟨(n + century) / 1461, (n + century) % 1461, ?_⟩
  constructor <;> omega

/-- The divisor 1460 counts the groups that are over, and one too many at most in the last year of a
group, so that its last day is not taken for a fifth year. -/
theorem InGroup.count {n century group day : Int} (c : InCentury n century)
    (h : InGroup n century group day) :
    n / 1460 = group ∧ day < 1460 ∨ n / 1460 = group + 1 ∧ 1361 ≤ day := by
  obtain ⟨nonneg, le_three, -, -, -⟩ := c
  obtain ⟨eq, day_nonneg, le, lower, upper, -⟩ := h
  omega

/-- The year of a group. -/
theorem exists_year {m group day : Int} (nonneg : 0 ≤ day) (le : day ≤ 1460)
    (h : m = 1460 * group + day ∧ day < 1460 ∨ m = 1460 * group + day - 1 ∧ 1361 ≤ day) :
    ∃ year, m / 365 = 4 * group + year ∧ 0 ≤ year ∧ year ≤ 3 ∧ 365 * year ≤ day ∧
      day ≤ 365 * year + 365 ∧ (day = 365 * year + 365 → day = 1460) := by
  refine ⟨m / 365 - 4 * group, ?_⟩
  omega

/-- A day of a cycle is day `day` in a year of the cycle; only leap years have a day 365. Years
start with March here, so the leap day is that of the next year. -/
structure InYear (n year day : Int) : Prop where
  eq : n = year * 365 + year / 4 - year / 100 + day
  year_nonneg : 0 ≤ year
  year_le : year ≤ 399
  nonneg : 0 ≤ day
  le : day ≤ 365
  leap : day = 365 → (year + 1) % 4 = 0 ∧ ((year + 1) % 100 ≠ 0 ∨ (year + 1) % 400 = 0)

theorem InGroup.inYear {n century group day year : Int} (c : InCentury n century)
    (h : InGroup n century group day) (year_nonneg : 0 ≤ year) (year_le : year ≤ 3)
    (start : 365 * year ≤ day) (stop : day ≤ 365 * year + 365)
    (full : day = 365 * year + 365 → day = 1460) :
    InYear n (4 * group + year) (day - 365 * year) := by
  obtain ⟨nonneg, le_three, -, -, -⟩ := c
  obtain ⟨eq, -, le, lower, upper, last⟩ := h
  have quarter : (4 * group + year) / 4 = group := by omega
  have hundredth : (4 * group + year) / 100 = century := by omega
  refine ⟨?_, by omega, by omega, by omega, by omega, fun h ↦ ?_⟩
  · rw [quarter, hundredth]
    omega
  · have := full (by omega)
    omega

theorem exists_inYear {n : Int} (low : 0 ≤ n) (high : n < 146097) :
    ∃ day, InYear n ((n - n / 1460 + n / 36524 - n / 146096) / 365) day := by
  have century := inCentury low high
  obtain ⟨group, day, inGroup⟩ := century.exists_inGroup
  obtain ⟨t, ht, t_nonneg, t_le, start, stop, full⟩ : ∃ t, _ := by
    refine @exists_year
      (n + (n / 36524 - n / 146096) - n / 1460) group day inGroup.nonneg inGroup.le ?_
    rw [inGroup.eq]
    refine (inGroup.count century).imp ?_ ?_ <;>
    · rintro ⟨count, bound⟩
      rw [count]
      exact ⟨by ring, bound⟩
  rw [show n - n / 1460 + n / 36524 - n / 146096 =
    n + (n / 36524 - n / 146096) - n / 1460 by ring, ht]
  exact ⟨_, inGroup.inYear century t_nonneg t_le start stop full⟩

/-! ## The month in a year

Counted from March the lengths of the months follow one pattern of five, which the multiplication by
153 and the division by five reproduce; there are twelve cases, and each of them is decided. -/

/-- The number of days of a month, counted from March. -/
def lengthFromMarch (leap : Bool) (month : Int) : Int :=
  if month = 11 then if leap then 29 else 28
  else if month = 1 ∨ month = 3 ∨ month = 6 ∨ month = 8 then 30
  else 31

theorem lengthFromMarch_le {leap leap' : Bool} {month : Int}
    (h : month = 11 → leap = true → leap' = true) :
    lengthFromMarch leap month ≤ lengthFromMarch leap' month := by
  rw [lengthFromMarch, lengthFromMarch]
  split
  · rename_i february
    cases leap
    · cases leap' <;> decide
    · rw [h february rfl]
  · exact le_rfl

theorem monthLength_eq {year month : Int} (low : 0 ≤ month) (high : month ≤ 11) :
    (monthLength year ((month + 2) % 12 + 1).toNat : Int) = lengthFromMarch
    (isLeap year) month := by
  interval_cases month <;> simp [monthLength, lengthFromMarch]

/-- A day of a year that starts with March is this day of this month. -/
structure InMonth (n month day : Int) : Prop where
  eq : n = (153 * month + 2) / 5 + day - 1
  month_nonneg : 0 ≤ month
  month_le : month ≤ 11
  one_le : 1 ≤ day
  le : day ≤ lengthFromMarch (n = 365) month

theorem inMonth {n : Int} (low : 0 ≤ n) (high : n ≤ 365) :
    InMonth n ((5 * n + 2) / 153) (n - (153 * ((5 * n + 2) / 153) + 2) / 5 + 1) := by
  generalize hm : (5 * n + 2) / 153 = month
  have month_nonneg : 0 ≤ month := by omega
  have month_le : month ≤ 11 := by omega
  refine ⟨by omega, month_nonneg, month_le, by omega, ?_⟩
  rw [lengthFromMarch]
  interval_cases month <;> simp <;> omega

/-! ## Days and dates

The parts of the three levels are put together, and the date is turned back to a year that starts
with January. -/

/-- What the date of a day is: a day of a month of a year, all three counted from March, in a
cycle. -/
structure IsOfDays (n cycle year month day : Int) : Prop where
  date : ofDays n = ⟨year + cycle * 400 + (if 10 ≤ month then 1 else 0),
    ((month + 2) % 12 + 1).toNat, day.toNat⟩
  eq : n = cycle * 146097 +
    (year * 365 + year / 4 - year / 100 + ((153 * month + 2) / 5 + day - 1)) - 719468
  year_nonneg : 0 ≤ year
  year_le : year ≤ 399
  month_nonneg : 0 ≤ month
  month_le : month ≤ 11
  one_le : 1 ≤ day
  le : day ≤ lengthFromMarch (isLeap (year + cycle * 400 + (if 10 ≤ month then 1 else 0))) month

theorem isLeap_iff {year : Int} :
    isLeap year = true ↔ year % 4 = 0 ∧ (year % 100 ≠ 0 ∨ year % 400 = 0) := by
  simp [isLeap]

/-- Each division of `ofDays` finds its part of the date. -/
theorem exists_isOfDays (n : Int) : ∃ cycle year month day, IsOfDays n cycle year month day := by
  obtain ⟨cycle, r, cycle_eq, r_eq, high⟩ := exists_fdiv (n + 719468) (show 0 < 146097 by decide)
  obtain ⟨d, inYear⟩ := exists_inYear r.cast_nonneg high
  have inMonth := inMonth inYear.nonneg inYear.le
  have date := ofDays.eq_def n
  simp only [cycle_eq, r_eq] at date
  generalize ((r : Int) - r / 1460 + r / 36524 - r / 146096) / 365 = year at inYear date
  have day_eq : (r : Int) - (365 * year + year / 4 - year / 100) = d := by
    rw [inYear.eq]
    ring
  rw [day_eq] at date
  generalize (5 * d + 2) / 153 = month at inMonth date
  refine ⟨cycle, year, month, _, ⟨date.trans ?_, ?_, inYear.year_nonneg, inYear.year_le,
    inMonth.month_nonneg, inMonth.month_le, inMonth.one_le, inMonth.le.trans ?_⟩⟩
  · have month_nonneg := inMonth.month_nonneg
    have month_le := inMonth.month_le
    have late : ((month + 2) % 12 + 1).toNat ≤ 2 ↔ 10 ≤ month := by omega
    simp only [late]
  · rw [← inMonth.eq, ← inYear.eq, ← r_eq]
    ring
  · refine lengthFromMarch_le fun february last ↦ ?_
    rw [isLeap_iff, if_pos (by omega)]
    have := inYear.leap (by simpa using last)
    omega

/-- **The date of a day is a day of the calendar.** -/
theorem isValid_ofDays (n : Int) : (ofDays n).isValid = true := by
  obtain ⟨cycle, year, month, day, h⟩ := exists_isOfDays n
  have month_nonneg := h.month_nonneg
  have month_le := h.month_le
  have one_le := h.one_le
  have le := h.le
  rw [← monthLength_eq month_nonneg month_le] at le
  rw [h.date, isValid]
  simp only [Bool.and_eq_true, decide_eq_true_eq]
  omega

/-- **The days up to the date of a day are that day's number.** -/
theorem toDays_ofDays (n : Int) : (ofDays n).toDays = n := by
  obtain ⟨cycle, year, month, day, h⟩ := exists_isOfDays n
  have month_nonneg := h.month_nonneg
  have month_le := h.month_le
  have late : ((month + 2) % 12 + 1).toNat ≤ 2 ↔ 10 ≤ month := by omega
  have fromMarch : (((((month + 2) % 12 + 1).toNat + 9) % 12 : Nat) : Int) = month := by omega
  -- January and February belong to the year that began in March before them.
  have y : (if 10 ≤ month then year + cycle * 400 + (if 10 ≤ month then 1 else 0) - 1
      else year + cycle * 400 + (if 10 ≤ month then 1 else 0)) = year + cycle * 400 := by
    split <;> ring
  have cycle_eq : (year + cycle * 400).fdiv 400 = cycle := by
    rw [Int.fdiv_eq_ediv_of_nonneg _ (by decide)]
    have := h.year_nonneg
    have := h.year_le
    omega
  have year_eq : year + cycle * 400 - cycle * 400 = year := by ring
  have day_eq : (day.toNat : Int) = day := Int.toNat_of_nonneg (by have := h.one_le; omega)
  rw [h.date, toDays]
  simp only [late, y, cycle_eq, fromMarch, day_eq, year_eq]
  exact h.eq.symm

end Date

end MetricsAgent
