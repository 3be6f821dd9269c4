import CrashReporter.Calendar
import Mathlib.Tactic.IntervalCases

/-!
# Counting days

Every day of the calendar has a number: the days before its year, before its month, and in it. A
month is as long as its first day is before the next month's.

* `Date.monthLength_eq`: the length that a day's month is taken to have is the number of its days;
* `Date.number_inj`: a day is known by its number;
* `Date.eq_of_number_succ`: the day after a day is in the same month, or is the first of the next.
-/

namespace CrashReporter

namespace Calendar

/-- The days before a year, from the first day of the first year on: of four years one is a leap year,
but of a hundred one is not, and of four hundred one is again. -/
def daysBeforeYear (year : Int) : Int :=
  365 * (year - 1) + (year - 1) / 4 - (year - 1) / 100 + (year - 1) / 400

/-- The days of a year before a month: if February had thirty days, the year would have 367, spread
evenly over its months. -/
def daysBeforeMonth (year : Int) (month : Nat) : Int :=
  (367 * month - 362) / 12 - (if month ≤ 2 then 0 else if isLeap year then 1 else 2)

theorem daysBeforeYear_succ (year : Int) :
    daysBeforeYear (year + 1) = daysBeforeYear year + if isLeap year then 366 else 365 := by
  unfold daysBeforeYear isLeap
  simp only [decide_eq_true_eq]
  split <;> omega

theorem daysBeforeYear_mono {a b : Int} (h : a ≤ b) : daysBeforeYear a ≤ daysBeforeYear b := by
  unfold daysBeforeYear
  omega

end Calendar

namespace Date

open Calendar

/-- The number of a day; the first day of the first year has number one. -/
def number (d : Date) : Int := daysBeforeYear d.year + daysBeforeMonth d.year d.month + d.day

/-- The first day of a day's month. -/
def monthStart (d : Date) : Date := { d with day := 1 }

/-- The first day of the month after a day's. -/
def nextMonth (d : Date) : Date := if d.month = 12 then ⟨d.year + 1, 1, 1⟩ else ⟨d.year, d.month + 1, 1⟩

/-- The number of days of a day's month. -/
def monthDays (d : Date) : Nat := (d.nextMonth.number - d.monthStart.number).toNat

/-- A day of the calendar. -/
structure Valid (d : Date) : Prop where
  month : 1 ≤ d.month ∧ d.month ≤ 12
  day : 1 ≤ d.day ∧ d.day ≤ d.monthDays

instance (d : Date) : Decidable d.Valid :=
  decidable_of_iff ((1 ≤ d.month ∧ d.month ≤ 12) ∧ 1 ≤ d.day ∧ d.day ≤ d.monthDays)
    ⟨fun h => ⟨h.1, h.2⟩, fun h => ⟨h.month, h.day⟩⟩

/-- A month ends where the next one begins. -/
theorem number_nextMonth {d : Date} (h : 1 ≤ d.month ∧ d.month ≤ 12) :
    d.nextMonth.number = d.monthStart.number + Calendar.monthLength d.year d.month := by
  obtain ⟨year, month, day⟩ := d
  obtain ⟨h₁, h₂⟩ := h
  simp only at h₁ h₂
  have := daysBeforeYear_succ year
  interval_cases month <;>
    cases leap : isLeap year <;>
    simp [nextMonth, monthStart, number, daysBeforeMonth, Calendar.monthLength, leap] at this ⊢ <;>
    omega

theorem monthDays_eq {d : Date} (h : 1 ≤ d.month ∧ d.month ≤ 12) :
    d.monthDays = Calendar.monthLength d.year d.month := by
  rw [monthDays, number_nextMonth h]
  omega

theorem monthDays_bounds {d : Date} (h : 1 ≤ d.month ∧ d.month ≤ 12) :
    28 ≤ d.monthDays ∧ d.monthDays ≤ 31 := by
  rw [monthDays_eq h]
  unfold Calendar.monthLength
  split <;> split <;> omega

/-- The length that a month is taken to have, unless it is the last one of the calendar. -/
theorem monthLength_eq {d : Date} (h : d.Valid) (hl : d.month = 12 → d.year < lastYear) :
    d.monthLength = d.monthDays := by
  rw [monthDays_eq h.month, Date.monthLength, if_neg]
  rintro ⟨last, le⟩
  have := hl last
  omega

/-! ## A day is known by its number -/

variable {d e : Date}

theorem number_eq (d : Date) : d.number = d.monthStart.number + d.day - 1 := by
  simp only [number, monthStart]
  omega

theorem number_lt_nextMonth (h : d.Valid) : d.number < d.nextMonth.number := by
  have := h.day
  rw [monthDays_eq h.month] at this
  rw [number_nextMonth h.month, number_eq]
  omega

theorem daysBeforeMonth_bounds (year : Int) {month : Nat} (h : 1 ≤ month ∧ month ≤ 12) :
    0 ≤ daysBeforeMonth year month ∧ daysBeforeMonth year month ≤ 336 := by
  unfold daysBeforeMonth
  split
  · omega
  · split <;> omega

theorem daysBeforeMonth_mono (year : Int) {m n : Nat} (h : m ≤ n) :
    daysBeforeMonth year m ≤ daysBeforeMonth year n := by
  unfold daysBeforeMonth
  cases isLeap year <;> simp only [Bool.false_eq_true, if_false, if_true] <;> split <;> split <;> omega

/-- A month begins after all months before it have ended. -/
theorem nextMonth_le_monthStart (hd : d.Valid) (he : e.Valid)
    (h : d.year < e.year ∨ d.year = e.year ∧ d.month < e.month) :
    d.nextMonth.number ≤ e.monthStart.number := by
  have hm := hd.month
  have hn := he.month
  have before := daysBeforeMonth_bounds e.year hn
  unfold nextMonth
  split
  · -- The next month is the first of a year, so `e` is in a later year.
    have years : daysBeforeYear (d.year + 1) ≤ daysBeforeYear e.year :=
      daysBeforeYear_mono (by omega)
    have first : daysBeforeMonth (d.year + 1) 1 = 0 := rfl
    simp only [number, monthStart]
    omega
  · simp only [number, monthStart]
    rcases h with later | ⟨same, later⟩
    · have years : daysBeforeYear (d.year + 1) ≤ daysBeforeYear e.year :=
        daysBeforeYear_mono later
      have length := daysBeforeYear_succ d.year
      have next := daysBeforeMonth_bounds d.year (show 1 ≤ d.month + 1 ∧ d.month + 1 ≤ 12 by omega)
      split at length <;> omega
    · rw [same]
      have := daysBeforeMonth_mono e.year (show d.month + 1 ≤ e.month from later)
      omega

theorem number_lt_of_month_lt (hd : d.Valid) (he : e.Valid)
    (h : d.year < e.year ∨ d.year = e.year ∧ d.month < e.month) : d.number < e.number := by
  have inside := number_lt_nextMonth hd
  have after := nextMonth_le_monthStart hd he h
  have := he.day
  rw [number_eq e]
  omega

theorem number_inj (hd : d.Valid) (he : e.Valid) (h : d.number = e.number) : d = e := by
  have not_before : ∀ {a b : Date}, a.Valid → b.Valid → a.number = b.number →
      ¬ (a.year < b.year ∨ a.year = b.year ∧ a.month < b.month) := fun ha hb eq lt =>
    absurd eq (Int.ne_of_lt (number_lt_of_month_lt ha hb lt))
  have hde := not_before hd he h
  have hed := not_before he hd h.symm
  obtain ⟨year, month, day⟩ := d
  obtain ⟨year', month', day'⟩ := e
  simp only at hde hed
  obtain rfl : year = year' := by omega
  obtain rfl : month = month' := by omega
  simp only [number] at h
  obtain rfl : day = day' := by omega
  rfl

/-! ## The day after a day -/

theorem valid_nextMonth (h : d.Valid) : d.nextMonth.Valid := by
  have hm := h.month
  have month : 1 ≤ d.nextMonth.month ∧ d.nextMonth.month ≤ 12 := by
    unfold nextMonth
    split <;> simp only <;> omega
  have first : d.nextMonth.day = 1 := by
    unfold nextMonth
    split <;> rfl
  have := monthDays_bounds month
  exact ⟨month, by omega⟩

/-- Every number up to the length of the month is a day of it. -/
theorem valid_setDay (h : d.Valid) {day : Nat} (hd : 1 ≤ day ∧ day ≤ d.monthDays) :
    Valid { d with day } :=
  ⟨h.month, hd⟩

/-- The day after a day is in the same month, or it is the first of the next. -/
theorem eq_of_number_succ (hd : d.Valid) (he : e.Valid) (h : e.number = d.number + 1) :
    e = { d with day := d.day + 1 } ∨ d.day = d.monthDays ∧ e = d.nextMonth := by
  have days := hd.day
  rcases Nat.lt_or_eq_of_le days.2 with inside | last
  · refine .inl (number_inj he (valid_setDay hd ⟨by omega, inside⟩) ?_)
    rw [h]
    simp only [number]
    omega
  · refine .inr ⟨last, number_inj he (valid_nextMonth hd) ?_⟩
    rw [h, number_nextMonth hd.month, ← monthDays_eq hd.month, number_eq]
    omega

end Date

end CrashReporter
