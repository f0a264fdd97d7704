import ArtifactRelay.Time.Calendar

/-!
# ArtifactRelay.Proofs.Time.Calendar

`dateOfDay` is right: the date of a day exists in the calendar, `dayNumber` counts
back to the day, and later days have later dates.

The year of a day is a quotient in which the leap days are smoothed out.  That it is
the right one is checked at the two ends of each of the 400 years of a cycle
(`yearOfCycle_ends`) and carried to the days between by monotonicity.
-/

namespace ArtifactRelay.Time

/-! ## Years of a cycle -/

/-- The year of its cycle of 400 years that a day of the cycle belongs to. -/
def yearOfCycle (d : Int) : Int := (d - d / 1460 + d / 36524 - d / 146096) / 365

/-- Days from the start of a cycle to the start of a year of it. -/
def daysBeforeYearOfCycle (y : Int) : Int := 365 * y + y / 4 - y / 100

theorem yearOfCycle_mono {d e : Int} (h0 : 0 ≤ d) (hde : d ≤ e) (he : e < 146097) :
    yearOfCycle d ≤ yearOfCycle e := by
  have hdays : d - d / 1460 ≤ e - e / 1460 := by omega
  have hcenturies : d / 36524 - d / 146096 ≤ e / 36524 - e / 146096 := by omega
  unfold yearOfCycle
  omega

/-- The first and the last day of each year of a cycle belong to it. -/
theorem yearOfCycle_ends : ∀ y : Fin 400,
    yearOfCycle (daysBeforeYearOfCycle y.val) = y.val ∧
      (y.val < 399 → yearOfCycle (daysBeforeYearOfCycle (y.val + 1) - 1) = y.val) := by
  decide +kernel

theorem yearOfCycle_bounds {d : Int} (h0 : 0 ≤ d) (h1 : d < 146097) :
    0 ≤ yearOfCycle d ∧ yearOfCycle d ≤ 399 := by
  have hlow := yearOfCycle_mono (Int.le_refl 0) h0 h1
  have hhigh := yearOfCycle_mono h0 (show d ≤ 146096 by omega) (by decide)
  have hfirst : yearOfCycle 0 = 0 := by decide
  have hlast : yearOfCycle 146096 = 399 := by decide
  omega

/-- A day is not before the start of its year. -/
theorem daysBeforeYearOfCycle_le {d : Int} (h0 : 0 ≤ d) (h1 : d < 146097) :
    daysBeforeYearOfCycle (yearOfCycle d) ≤ d := by
  obtain ⟨hy0, hy1⟩ := yearOfCycle_bounds h0 h1
  rcases Int.lt_or_le 0 (yearOfCycle d) with hpos | hzero
  · refine Int.not_lt.mp fun hlt => ?_
    have hend := (yearOfCycle_ends ⟨(yearOfCycle d - 1).toNat, by omega⟩).2 (by
      show (yearOfCycle d - 1).toNat < 399
      omega)
    have hcast : (((yearOfCycle d - 1).toNat : Nat) : Int) = yearOfCycle d - 1 := by omega
    simp only [hcast, Int.sub_add_cancel] at hend
    have hmono := yearOfCycle_mono h0 (show d ≤ daysBeforeYearOfCycle (yearOfCycle d) - 1 by omega)
      (by unfold daysBeforeYearOfCycle; omega)
    omega
  · have hy : yearOfCycle d = 0 := by omega
    rw [hy]
    exact h0

/-- A day is before the start of the year after its own. -/
theorem lt_daysBeforeYearOfCycle {d : Int} (h0 : 0 ≤ d) (h1 : d < 146097)
    (hy : yearOfCycle d < 399) : d < daysBeforeYearOfCycle (yearOfCycle d + 1) := by
  obtain ⟨hy0, -⟩ := yearOfCycle_bounds h0 h1
  refine Int.not_le.mp fun hle => ?_
  have hstart := (yearOfCycle_ends ⟨(yearOfCycle d + 1).toNat, by omega⟩).1
  have hcast : (((yearOfCycle d + 1).toNat : Nat) : Int) = yearOfCycle d + 1 := by omega
  simp only [hcast] at hstart
  have hmono := yearOfCycle_mono (by unfold daysBeforeYearOfCycle; omega)
    hle h1
  omega

/-! ## Days of a year that starts in March -/

/-- The year that starts in March to which a day belongs. -/
def marchYear (n : Int) : Int :=
  yearOfCycle ((n + epochDay) % 146097) + (n + epochDay) / 146097 * 400

/-- The number of a day in its year that starts in March. -/
def dayOfMarchYear (n : Int) : Int :=
  (n + epochDay) % 146097 - daysBeforeYearOfCycle (yearOfCycle ((n + epochDay) % 146097))

/-- The month of a day of such a year, where March is month 0. -/
def monthOfDay (d : Int) : Int := (5 * d + 2) / 153

theorem dayOfMarchYear_bounds (n : Int) : 0 ≤ dayOfMarchYear n ∧ dayOfMarchYear n ≤ 365 := by
  have h0 : 0 ≤ (n + epochDay) % 146097 := by omega
  have h1 : (n + epochDay) % 146097 < 146097 := by omega
  have hle := daysBeforeYearOfCycle_le h0 h1
  have hlt := lt_daysBeforeYearOfCycle h0 h1
  have hy := yearOfCycle_bounds h0 h1
  unfold dayOfMarchYear
  unfold daysBeforeYearOfCycle at *
  omega

/-- Only a year whose February is long has a day 365. -/
theorem isLeapYear_of_dayOfMarchYear {n : Int} (h : dayOfMarchYear n = 365) :
    Date.isLeapYear (marchYear n + 1) = true := by
  have h0 : 0 ≤ (n + epochDay) % 146097 := by omega
  have h1 : (n + epochDay) % 146097 < 146097 := by omega
  have hlt := lt_daysBeforeYearOfCycle h0 h1
  have hy := yearOfCycle_bounds h0 h1
  unfold dayOfMarchYear at h
  unfold daysBeforeYearOfCycle at *
  have hquarters : (yearOfCycle ((n + epochDay) % 146097) + 1) % 4 = 0 ∨
      (yearOfCycle ((n + epochDay) % 146097) + 1) / 4 =
        yearOfCycle ((n + epochDay) % 146097) / 4 := by omega
  have hcenturies : (yearOfCycle ((n + epochDay) % 146097) + 1) / 100 =
      yearOfCycle ((n + epochDay) % 146097) / 100 +
        (if (yearOfCycle ((n + epochDay) % 146097) + 1) % 100 = 0 then 1 else 0) := by
    split <;> omega
  have hofCycle : (yearOfCycle ((n + epochDay) % 146097) + 1) % 4 = 0 ∧
      ((yearOfCycle ((n + epochDay) % 146097) + 1) % 100 ≠ 0 ∨
        yearOfCycle ((n + epochDay) % 146097) = 399) := by
    split at hcenturies <;> omega
  have hquarter : (marchYear n + 1) % 4 = 0 := by unfold marchYear; omega
  have hcentury : (marchYear n + 1) % 100 ≠ 0 ∨ (marchYear n + 1) % 400 = 0 := by
    unfold marchYear; omega
  simp only [Date.isLeapYear, Bool.and_eq_true, Bool.or_eq_true, beq_iff_eq, bne_iff_ne]
  exact ⟨hquarter, hcentury⟩

/-- A day lies between the start of its month and the start of the next. -/
theorem monthOfDay_bounds {d : Int} (h0 : 0 ≤ d) (h1 : d ≤ 365) :
    0 ≤ monthOfDay d ∧ monthOfDay d ≤ 11 ∧ daysBeforeMonth (monthOfDay d) ≤ d ∧
      d < daysBeforeMonth (monthOfDay d + 1) := by
  unfold monthOfDay daysBeforeMonth
  omega

/-! ## Dates of days -/

/-- The parts of a date, counted from March, give the date. -/
theorem dateOfDay_eq (n : Int) :
    dateOfDay n =
      let m := monthOfDay (dayOfMarchYear n)
      let month := if m < 10 then m + 3 else m - 9
      ⟨if month ≤ 2 then marchYear n + 1 else marchYear n, month.toNat,
        (dayOfMarchYear n - daysBeforeMonth m + 1).toNat⟩ :=
  rfl

/-- The months of a date since the year 0 are those of the year that starts in March. -/
theorem months_dateOfDay (n : Int) :
    (dateOfDay n).year * 12 + (dateOfDay n).month =
      marchYear n * 12 + monthOfDay (dayOfMarchYear n) + 3 := by
  obtain ⟨h0, h1⟩ := dayOfMarchYear_bounds n
  have hm := monthOfDay_bounds h0 h1
  rw [dateOfDay_eq]
  dsimp only
  split <;> split <;> omega

theorem month_dateOfDay_bounds (n : Int) :
    1 ≤ (dateOfDay n).month ∧ (dateOfDay n).month ≤ 12 := by
  obtain ⟨h0, h1⟩ := dayOfMarchYear_bounds n
  have hm := monthOfDay_bounds h0 h1
  rw [dateOfDay_eq]
  dsimp only
  split <;> omega

theorem day_dateOfDay (n : Int) :
    ((dateOfDay n).day : Int) =
      dayOfMarchYear n - daysBeforeMonth (monthOfDay (dayOfMarchYear n)) + 1 := by
  obtain ⟨h0, h1⟩ := dayOfMarchYear_bounds n
  have hm := monthOfDay_bounds h0 h1
  rw [dateOfDay_eq]
  dsimp only
  omega

theorem day_dateOfDay_le (n : Int) : 1 ≤ (dateOfDay n).day ∧ (dateOfDay n).day ≤ 31 := by
  obtain ⟨h0, h1⟩ := dayOfMarchYear_bounds n
  have hm := monthOfDay_bounds h0 h1
  have hd := day_dateOfDay n
  unfold daysBeforeMonth at *
  omega

/-- Counting the days up to the date of a day gives the day. -/
theorem dayNumber_dateOfDay (n : Int) : dayNumber (dateOfDay n) = n := by
  have h0 : 0 ≤ (n + epochDay) % 146097 := by omega
  have h1 : (n + epochDay) % 146097 < 146097 := by omega
  have hy := yearOfCycle_bounds h0 h1
  have hdays := dayOfMarchYear_bounds n
  have hm := monthOfDay_bounds hdays.1 hdays.2
  have hmonths := months_dateOfDay n
  have hmonth := month_dateOfDay_bounds n
  have hday := day_dateOfDay n
  have hyear : (if (dateOfDay n).month ≤ 2 then (dateOfDay n).year - 1 else (dateOfDay n).year) =
      marchYear n := by split <;> omega
  have hcount : ((((dateOfDay n).month + 9) % 12 : Nat) : Int) = monthOfDay (dayOfMarchYear n) := by
    omega
  have hleap : daysBeforeYear (marchYear n) + dayOfMarchYear n - epochDay = n := by
    unfold daysBeforeYear marchYear dayOfMarchYear daysBeforeYearOfCycle
    omega
  unfold dayNumber
  simp only [hyear, hcount]
  omega

/-- Different days have different dates. -/
theorem dateOfDay_injective {n k : Int} (h : dateOfDay n = dateOfDay k) : n = k := by
  rw [← dayNumber_dateOfDay n, h, dayNumber_dateOfDay]

/-- The date of a day exists. -/
theorem isValid_dateOfDay (n : Int) : (dateOfDay n).isValid = true := by
  obtain ⟨h0, h1⟩ := dayOfMarchYear_bounds n
  have hm := monthOfDay_bounds h0 h1
  have hmonths := months_dateOfDay n
  have hmonth := month_dateOfDay_bounds n
  have hday := day_dateOfDay n
  have hd := day_dateOfDay_le n
  have hle : (dateOfDay n).day ≤ Date.daysInMonth (dateOfDay n).year (dateOfDay n).month := by
    unfold daysBeforeMonth at *
    unfold Date.daysInMonth
    split
    · -- February ends the year that starts in March, so its length is that of the year.
      split
      · omega
      · rename_i hfeb hshort
        have hyear : (dateOfDay n).year = marchYear n + 1 := by omega
        have hlast : dayOfMarchYear n ≠ 365 := fun h =>
          hshort (hyear ▸ isLeapYear_of_dayOfMarchYear h)
        omega
    all_goals omega
  simp [Date.isValid, hmonth, hd, hle]

/-! ## Order -/

theorem marchYear_mono {n k : Int} (h : n ≤ k) : marchYear n ≤ marchYear k := by
  have hn := yearOfCycle_bounds (d := (n + epochDay) % 146097) (by omega) (by omega)
  have hk := yearOfCycle_bounds (d := (k + epochDay) % 146097) (by omega) (by omega)
  unfold marchYear
  rcases Int.lt_or_le ((n + epochDay) / 146097) ((k + epochDay) / 146097) with hlt | hle
  · omega
  · have hsame : (n + epochDay) / 146097 = (k + epochDay) / 146097 := by omega
    have hmono := yearOfCycle_mono (d := (n + epochDay) % 146097) (e := (k + epochDay) % 146097)
      (by omega) (by omega) (by omega)
    omega

/-- A date is before another one, by year, month and day. -/
def Date.Before (a b : Date) : Prop :=
  a.year < b.year ∨ (a.year = b.year ∧ (a.month < b.month ∨ (a.month = b.month ∧ a.day < b.day)))

/-- Later days have later dates. -/
theorem dateOfDay_before {n k : Int} (h : n < k) : (dateOfDay n).Before (dateOfDay k) := by
  have hmn := months_dateOfDay n
  have hmk := months_dateOfDay k
  have hbn := month_dateOfDay_bounds n
  have hbk := month_dateOfDay_bounds k
  have hdn := day_dateOfDay n
  have hdk := day_dateOfDay k
  have hyears := marchYear_mono (Int.le_of_lt h)
  obtain ⟨h0n, h1n⟩ := dayOfMarchYear_bounds n
  obtain ⟨h0k, h1k⟩ := dayOfMarchYear_bounds k
  have hn := monthOfDay_bounds h0n h1n
  have hk := monthOfDay_bounds h0k h1k
  rcases Int.lt_or_le (marchYear n) (marchYear k) with hlt | hle
  · unfold Date.Before
    omega
  · have hsame : marchYear n = marchYear k := by omega
    have hdays : dayOfMarchYear n < dayOfMarchYear k := by
      have hyn := yearOfCycle_bounds (d := (n + epochDay) % 146097) (by omega) (by omega)
      have hyk := yearOfCycle_bounds (d := (k + epochDay) % 146097) (by omega) (by omega)
      have hcycle : (n + epochDay) / 146097 = (k + epochDay) / 146097 := by
        unfold marchYear at hsame; omega
      have hyear : yearOfCycle ((n + epochDay) % 146097) =
          yearOfCycle ((k + epochDay) % 146097) := by unfold marchYear at hsame; omega
      unfold dayOfMarchYear
      rw [hyear]
      omega
    have hmonths : monthOfDay (dayOfMarchYear n) ≤ monthOfDay (dayOfMarchYear k) := by
      unfold monthOfDay; omega
    rcases Int.lt_or_le (monthOfDay (dayOfMarchYear n)) (monthOfDay (dayOfMarchYear k)) with
      hltm | hlem
    · unfold Date.Before
      omega
    · have hsamem : monthOfDay (dayOfMarchYear n) = monthOfDay (dayOfMarchYear k) := by omega
      rw [hsamem] at hdn hmn
      unfold Date.Before
      omega

end ArtifactRelay.Time
