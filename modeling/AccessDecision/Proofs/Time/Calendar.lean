import AccessDecision.Time.Calendar
import Mathlib.Algebra.GroupWithZero.Nat
import Mathlib.Algebra.Order.BigOperators.Group.List
import Mathlib.Algebra.Order.Group.Nat
import Mathlib.Logic.Function.Iterate
import Mathlib.Order.Monotone.Basic

/-
  The calendar, day by day

  A date has a day after it (`Date.next`): the next of its month, else the first of the
  next month, else of the next year. To count days is to go on that way from the first
  of January of the year zero (`Date.afterDays`).

  What is proved:
    1. `daysBeforeYear_succ` — a year has 365 days, and one more if it is a leap year.
    2. `toDays_next` — the day after a date counts one day more.
    3. `toDays_afterDays` and `afterDays_toDays` — dates and counts of days are each
       other's inverse.
-/

namespace AccessDecision.Time

/-! ## Years -/

/-- One multiple more of `k` lies before the next number exactly if this one is a
multiple. -/
theorem ceilDiv_succ {k : Nat} (hk : 0 < k) (y : Nat) :
    (y + 1 + (k - 1)) / k = (y + (k - 1)) / k + if y % k = 0 then 1 else 0 := by
  have hstep := Nat.succ_div (a := y + (k - 1)) (b := k)
  have hdvd : k ∣ y + (k - 1) + 1 ↔ y % k = 0 := by
    rw [Nat.add_assoc, Nat.sub_add_cancel hk, Nat.dvd_add_self_right, Nat.dvd_iff_mod_eq_zero]
  rw [Nat.add_right_comm, hstep]
  simp only [hdvd]

theorem daysBeforeYear_succ (y : Nat) :
    daysBeforeYear (y + 1) = daysBeforeYear y + (if isLeapYear y then 366 else 365) := by
  have h4 := ceilDiv_succ (k := 4) (by decide) y
  have h100 := ceilDiv_succ (k := 100) (by decide) y
  have h400 := ceilDiv_succ (k := 400) (by decide) y
  have hle : (y + 99) / 100 ≤ (y + 3) / 4 := by omega
  have hleap : (if isLeapYear y then 366 else 365) + (if y % 100 = 0 then 1 else 0) =
      365 + (if y % 4 = 0 then 1 else 0) + (if y % 400 = 0 then 1 else 0) := by
    by_cases hy4 : y % 4 = 0
    · by_cases hy100 : y % 100 = 0
      · by_cases hy400 : y % 400 = 0 <;> simp [isLeapYear, hy4, hy100, hy400]
      · have hy400 : y % 400 ≠ 0 := by omega
        simp [isLeapYear, hy4, hy100, hy400]
    · have hy100 : y % 100 ≠ 0 := by omega
      have hy400 : y % 400 ≠ 0 := by omega
      simp [isLeapYear, hy4, hy100, hy400]
  simp only [Nat.reduceSub] at h4 h100 h400
  simp only [daysBeforeYear, h4, h100, h400]
  omega

theorem strictMono_daysBeforeYear : StrictMono daysBeforeYear := by
  apply strictMono_nat_of_lt_succ
  intro y
  rw [daysBeforeYear_succ]
  split <;> omega

theorem sum_monthLengths (y : Nat) : (monthLengths y).sum = if isLeapYear y then 366 else 365 := by
  rw [monthLengths]
  cases isLeapYear y <;> rfl

theorem monthLength_bounds (y : Nat) : ∀ length ∈ monthLengths y, 1 ≤ length ∧ length ≤ 31 := by
  rw [monthLengths]
  cases isLeapYear y <;> decide

namespace Date

/-! ## Months -/

/-- The day after a date. -/
def next (d : Date) : Date :=
  if d.day < (monthLengths d.year).getD (d.month - 1) 0 then ⟨d.year, d.month, d.day + 1⟩
  else if d.month < 12 then ⟨d.year, d.month + 1, 1⟩
  else ⟨d.year + 1, 1, 1⟩

/-- The day at the start of the count. -/
def first : Date := ⟨0, 1, 1⟩

/-- The date so many days after the first one. -/
def afterDays (n : Nat) : Date := next^[n] first

/-- The days of the year up to a date. -/
def dayOfYear (d : Date) : Nat := ((monthLengths d.year).take (d.month - 1)).sum + (d.day - 1)

theorem toDays_eq (d : Date) : d.toDays = daysBeforeYear d.year + d.dayOfYear := by
  rw [toDays, dayOfYear, List.sum_eq_foldl, Nat.add_assoc]

theorem isValid_iff {d : Date} : d.isValid = true ↔
    ∃ m, ∃ h : m < 12, d.month = m + 1 ∧ 1 ≤ d.day ∧ d.day ≤ (monthLengths d.year)[m] := by
  unfold isValid
  split
  · rename_i hmonth
    simp [hmonth]
  · rename_i m hmonth
    simp only [Option.any_eq_true, List.getElem?_eq_some_iff, Bool.and_eq_true, decide_eq_true_eq]
    constructor
    · rintro ⟨length, ⟨hm, rfl⟩, hday⟩
      exact ⟨m, hm, hmonth, hday⟩
    · rintro ⟨m', hm, hmonth', hday⟩
      obtain rfl : m = m' := Nat.succ.inj (hmonth.symm.trans hmonth')
      exact ⟨_, ⟨hm, rfl⟩, hday⟩

section
variable {d : Date}

theorem dayOfYear_lt (h : d.isValid = true) :
    d.dayOfYear < if isLeapYear d.year then 366 else 365 := by
  obtain ⟨m, hm, hmonth, hfirst, hlast⟩ := isValid_iff.mp h
  have hsplit := List.sum_take_add_sum_drop (monthLengths d.year) (m + 1)
  rw [sum_monthLengths, List.sum_take_succ (monthLengths d.year) m hm] at hsplit
  rw [dayOfYear, hmonth, Nat.add_sub_cancel]
  omega

/-- The day after a date is a date, and counts one day more. -/
theorem toDays_next (h : d.isValid = true) :
    d.next.isValid = true ∧ d.next.toDays = d.toDays + 1 := by
  obtain ⟨m, hm, hmonth, hfirst, hlast⟩ := isValid_iff.mp h
  have hlength : (monthLengths d.year).getD (d.month - 1) 0 = (monthLengths d.year)[m] := by
    have hget : (monthLengths d.year)[m]? = some (monthLengths d.year)[m] :=
      List.getElem?_eq_getElem hm
    rw [hmonth, Nat.add_sub_cancel, List.getD_eq_getElem?_getD, hget, Option.getD_some]
  have hsum := List.sum_take_succ (monthLengths d.year) m hm
  rw [next, hlength]
  split
  · -- The next day of the month.
    refine ⟨isValid_iff.mpr ⟨m, hm, hmonth, by simp, by simpa⟩, ?_⟩
    simp only [toDays_eq, dayOfYear]
    omega
  · split
    · -- The first day of the next month.
      have hnext : m + 1 < 12 := by omega
      have hlong : 1 ≤ (monthLengths d.year)[m + 1] :=
        (monthLength_bounds d.year _ (List.getElem_mem _)).1
      refine ⟨isValid_iff.mpr ⟨m + 1, hnext, by simp [hmonth], by simp, hlong⟩, ?_⟩
      simp only [toDays_eq, dayOfYear, hmonth, Nat.add_sub_cancel, hsum]
      omega
    · -- The first day of the next year.
      obtain rfl : m = 11 := by omega
      refine ⟨isValid_iff.mpr ⟨0, by decide, rfl, by simp, by simp [monthLengths]⟩, ?_⟩
      have hall : (monthLengths d.year).take (11 + 1) = monthLengths d.year := rfl
      rw [hall, sum_monthLengths] at hsum
      simp only [toDays_eq, dayOfYear, hmonth, daysBeforeYear_succ, hsum]
      simp
      omega

/-! ## Counting days -/

/-- A date lies within its year. -/
theorem toDays_bounds (h : d.isValid = true) :
    daysBeforeYear d.year ≤ d.toDays ∧ d.toDays < daysBeforeYear (d.year + 1) := by
  have hlt := dayOfYear_lt h
  rw [toDays_eq, daysBeforeYear_succ]
  omega

/-- A later year counts more days. -/
theorem toDays_lt_of_year_lt {d' : Date} (h : d.isValid = true) (h' : d'.isValid = true)
    (hlt : d.year < d'.year) : d.toDays < d'.toDays := by
  calc d.toDays < daysBeforeYear (d.year + 1) := (toDays_bounds h).2
    _ ≤ daysBeforeYear d'.year := strictMono_daysBeforeYear.monotone hlt
    _ ≤ d'.toDays := (toDays_bounds h').1

/-- In a year a later month counts more days. -/
theorem dayOfYear_lt_of_month_lt {d' : Date} (h : d.isValid = true) (h' : d'.isValid = true)
    (hyear : d.year = d'.year) (hlt : d.month < d'.month) : d.dayOfYear < d'.dayOfYear := by
  obtain ⟨m, hm, hmonth, hfirst, hlast⟩ := isValid_iff.mp h
  obtain ⟨m', hm', hmonth', hfirst', _⟩ := isValid_iff.mp h'
  have hsum := List.sum_take_succ (monthLengths d.year) m hm
  have hmore : ((monthLengths d.year).take (m + 1)).sum ≤ ((monthLengths d.year).take m').sum :=
    (monthLengths d.year).monotone_sum_take (by omega)
  rw [dayOfYear, dayOfYear, hmonth, hmonth', ← hyear, Nat.add_sub_cancel, Nat.add_sub_cancel]
  omega

/-- Different dates count differently. -/
theorem toDays_injective {d' : Date} (h : d.isValid = true) (h' : d'.isValid = true)
    (heq : d.toDays = d'.toDays) : d = d' := by
  have hyear : d.year = d'.year := by
    rcases Nat.lt_trichotomy d.year d'.year with hlt | hyear | hlt
    · exact absurd heq (Nat.ne_of_lt (toDays_lt_of_year_lt h h' hlt))
    · exact hyear
    · exact absurd heq.symm (Nat.ne_of_lt (toDays_lt_of_year_lt h' h hlt))
  have hday : d.dayOfYear = d'.dayOfYear := by
    rw [toDays_eq, toDays_eq, hyear] at heq
    exact Nat.add_left_cancel heq
  have hmonth : d.month = d'.month := by
    rcases Nat.lt_trichotomy d.month d'.month with hlt | hmonth | hlt
    · exact absurd hday (Nat.ne_of_lt (dayOfYear_lt_of_month_lt h h' hyear hlt))
    · exact hmonth
    · exact absurd hday.symm (Nat.ne_of_lt (dayOfYear_lt_of_month_lt h' h hyear.symm hlt))
  obtain ⟨_, _, _, hfirst, _⟩ := isValid_iff.mp h
  obtain ⟨_, _, _, hfirst', _⟩ := isValid_iff.mp h'
  obtain ⟨year, month, day⟩ := d
  obtain ⟨year', month', day'⟩ := d'
  simp only at hyear hmonth hfirst hfirst'
  subst hyear hmonth
  have hsame : day = day' := by
    simp only [dayOfYear] at hday
    omega
  rw [hsame]

theorem afterDays_succ (n : Nat) : afterDays (n + 1) = (afterDays n).next :=
  Function.iterate_succ_apply' next n first

/-- So many days after the first date there is a date that counts them. -/
theorem toDays_afterDays (n : Nat) :
    (afterDays n).isValid = true ∧ (afterDays n).toDays = n := by
  induction n with
  | zero => exact ⟨rfl, rfl⟩
  | succ n ih =>
    obtain ⟨hvalid, hdays⟩ := toDays_next ih.1
    rw [afterDays_succ]
    exact ⟨hvalid, by rw [hdays, ih.2]⟩

/-- A date comes as many days after the first one as it counts. -/
theorem afterDays_toDays (h : d.isValid = true) : afterDays d.toDays = d :=
  toDays_injective (toDays_afterDays _).1 h (toDays_afterDays _).2

end
end Date
end AccessDecision.Time
