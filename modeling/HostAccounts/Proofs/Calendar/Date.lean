import HostAccounts.Calendar.Date

/-!
# Dates and their numbers

The date that is found for a day number has that number, and every date is found by its number. A
day of an era is told apart by its century, by the four years in that which hold it, and by what is
left of them; the year that is read off the day then begins on or before it, and by no more than the
days of a year. Main statements: `dayNumber_of_ofDayNumber?`, `ofDayNumber?_dayNumber`,
`dayNumber_pos_iff`.
-/

set_option autoImplicit false

namespace HostAccounts.Date

/-! ## Dates that are found -/

/-- The year that is read off a day, by the century and the four years that hold it. -/
theorem yearOfDay_parts {c q r : Nat} (hc : c ≤ 3) (hq : 1461 * q + r < 36524) (hr : r ≤ 1460) :
    yearOfDay (36524 * c + 1461 * q + r) =
      100 * c + 4 * q + (r - (24 * c + q + r) / 1460) / 365 := by
  have hcentury : (36524 * c + 1461 * q + r) / 36524 = c := by omega
  have hera : (36524 * c + 1461 * q + r) / 146096 = 0 := by omega
  have hleap : (36524 * c + 1461 * q + r) / 1460 = 25 * c + q + (24 * c + q + r) / 1460 := by omega
  rw [yearOfDay, hcentury, hera, hleap]
  omega

/-- The year that is read off a day of an era begins on that day or before it, but less than a year
before it. -/
theorem yearOfDay_spec {day : Nat} (h : day < daysPerEra) :
    yearOfDay day < 400 ∧ daysBeforeYear (yearOfDay day) ≤ day ∧
      day - daysBeforeYear (yearOfDay day) ≤ 365 := by
  rw [daysPerEra] at h
  -- Only the leap day that ends the era lies in none of its four centuries.
  obtain rfl | hcenturies : day = 146096 ∨ day < 146096 := by omega
  · decide
  obtain ⟨c, q, r, hc, hq, hr, rfl⟩ :
      ∃ c q r, c ≤ 3 ∧ 1461 * q + r < 36524 ∧ r ≤ 1460 ∧ day = 36524 * c + 1461 * q + r := by
    refine ⟨day / 36524, day % 36524 / 1461, day % 36524 % 1461, ?_, ?_, ?_, ?_⟩ <;> omega
  have hyear := yearOfDay_parts hc hq hr
  have hquarter : (r - (24 * c + q + r) / 1460) / 365 ≤ 3 := by omega
  have hdays : daysBeforeYear (yearOfDay (36524 * c + 1461 * q + r)) =
      36524 * c + 1461 * q + 365 * ((r - (24 * c + q + r) / 1460) / 365) := by
    rw [daysBeforeYear, hyear]
    omega
  rw [hdays, hyear]
  omega

/-- The month that is read off a day of a year begins on that day or before it. -/
theorem monthOfDay_spec {day : Nat} (h : day ≤ 365) :
    monthOfDay day ≤ 11 ∧ daysBeforeMonth (monthOfDay day) ≤ day := by
  rw [monthOfDay, daysBeforeMonth]
  omega

/-- The date that is found for a day number has that number. -/
theorem dayNumber_of_ofDayNumber? {n : Int} {d : Date} (h : ofDayNumber? n = some d) :
    d.dayNumber = n := by
  have hday : ((n + epochOffset) % daysPerEra).toNat < daysPerEra := by
    rw [epochOffset, daysPerEra]
    omega
  obtain ⟨hyear, hbegun, hlength⟩ := yearOfDay_spec hday
  obtain ⟨hmonth, hmonthBegun⟩ := monthOfDay_spec hlength
  obtain ⟨hy, hm, hd⟩ := ofParts?_eq_some_iff.mp h
  -- From here on the day of the era, its year and its month are only known by these bounds.
  generalize hdayOfEra : ((n + epochOffset) % daysPerEra).toNat = day at *
  generalize yearOfDay day = y at *
  generalize hdayOfYear : day - daysBeforeYear y = rest at *
  generalize monthOfDay rest = m at *
  generalize hera : (n + epochOffset) / daysPerEra = era at *
  have hyearOf : (if d.month ≤ 2 then d.year - 1 else d.year) = era * 400 + y := by
    rw [hy, hm]
    split <;> omega
  have hmonthOf : (if d.month ≤ 2 then d.month + 9 else d.month - 3) = m := by
    rw [hm]
    split <;> split <;> omega
  have hcycle : (era * 400 + y) / 400 = era ∧ ((era * 400 + y) % 400).toNat = y := by omega
  have hsum : daysBeforeYear y + daysBeforeMonth m + (d.day - 1) = day := by
    rw [hd]
    omega
  have hnumber : era * daysPerEra + day = n + epochOffset := by
    rw [← hera, ← hdayOfEra, daysPerEra]
    omega
  simp only [dayNumber, hyearOf, hmonthOf, hcycle.1, hcycle.2, hsum, hnumber]
  omega

/-! ## The year from March on -/

/-- A day lies in a month, counted from March, if it is not before it and before the next. -/
theorem monthOfDay_eq_iff {day m : Nat} :
    monthOfDay day = m ↔ daysBeforeMonth m ≤ day ∧ day < daysBeforeMonth (m + 1) := by
  rw [monthOfDay, daysBeforeMonth, daysBeforeMonth]
  omega

/-- The day with the number `rest` is one of the year `y` of an era; only a year that ends in a leap
day has the number 365. -/
def IsDayOfYear (y rest : Nat) : Prop :=
  rest ≤ 364 ∨ rest = 365 ∧ y % 4 = 3 ∧ (y % 100 ≠ 99 ∨ y = 399)

/-- The year is read off its days. -/
theorem yearOfDay_eq {y rest : Nat} (hy : y < 400) (hrest : IsDayOfYear y rest) :
    yearOfDay (daysBeforeYear y + rest) = y := by
  rw [IsDayOfYear] at hrest
  -- Only the leap day that ends the era lies in none of its four centuries.
  obtain hlast | hcenturies : y = 399 ∧ rest = 365 ∨ ¬ (y = 399 ∧ rest = 365) := Decidable.em _
  · rw [hlast.1, hlast.2]
    decide
  obtain ⟨c, q, k, hc, hq, hk, rfl⟩ :
      ∃ c q k, c ≤ 3 ∧ q ≤ 24 ∧ k ≤ 3 ∧ y = 100 * c + 4 * q + k :=
    ⟨y / 100, y % 100 / 4, y % 4, by omega, by omega, by omega, by omega⟩
  have hday : daysBeforeYear (100 * c + 4 * q + k) + rest =
      36524 * c + 1461 * q + (365 * k + rest) := by
    rw [daysBeforeYear]
    omega
  rw [hday, yearOfDay_parts hc (by omega) (by omega)]
  omega

/-- The month of a date, counted from March of the year that it is counted to. -/
def marchMonth (d : Date) : Nat :=
  if d.month ≤ 2 then d.month + 9 else d.month - 3

/-- The year of a date, if years begin in March. -/
def marchYear (d : Date) : Int :=
  if d.month ≤ 2 then d.year - 1 else d.year

/-- The day of its year, if years begin in March. -/
def marchDay (d : Date) : Nat :=
  daysBeforeMonth d.marchMonth + (d.day - 1)

theorem dayNumber_eq (d : Date) :
    d.dayNumber = d.marchYear / 400 * daysPerEra +
      (daysBeforeYear (d.marchYear % 400).toNat + d.marchDay : Nat) - epochOffset := by
  rw [dayNumber, marchDay, ← Nat.add_assoc]
  rfl

theorem isLeapYear_iff {year : Int} :
    isLeapYear year = true ↔ year % 4 = 0 ∧ (year % 100 ≠ 0 ∨ year % 400 = 0) := by
  simp [isLeapYear]

/-- The days that a month has, by its number. -/
theorem daysInMonth_cases (year : Int) (month : Nat) :
    (month = 2 ∧ daysInMonth year month = 29 ∧
        year % 4 = 0 ∧ (year % 100 ≠ 0 ∨ year % 400 = 0)) ∨
      (month = 2 ∧ daysInMonth year month = 28 ∧
        ¬ (year % 4 = 0 ∧ (year % 100 ≠ 0 ∨ year % 400 = 0))) ∨
      ((month = 4 ∨ month = 6 ∨ month = 9 ∨ month = 11) ∧ daysInMonth year month = 30) ∨
      ((month = 1 ∨ month = 3 ∨ month = 5 ∨ month = 7 ∨ month = 8 ∨ month = 10 ∨ month = 12) ∧
        daysInMonth year month = 31) ∨
      ((month = 0 ∨ 12 < month) ∧ daysInMonth year month = 0) := by
  rw [← isLeapYear_iff]
  unfold daysInMonth
  split
  case h_12 => cases isLeapYear year <;> simp
  case h_13 => exact .inr (.inr (.inr (.inr ⟨by grind, rfl⟩)))
  all_goals simp

/-- The days that a date can be on, by its month. -/
theorem day_cases (d : Date) : 1 ≤ d.day ∧
    ((d.month = 2 ∧ (d.day ≤ 28 ∨
        d.day = 29 ∧ d.year % 4 = 0 ∧ (d.year % 100 ≠ 0 ∨ d.year % 400 = 0))) ∨
      ((d.month = 4 ∨ d.month = 6 ∨ d.month = 9 ∨ d.month = 11) ∧ d.day ≤ 30) ∨
      ((d.month = 1 ∨ d.month = 3 ∨ d.month = 5 ∨ d.month = 7 ∨ d.month = 8 ∨ d.month = 10 ∨
        d.month = 12) ∧ d.day ≤ 31)) := by
  obtain ⟨-, -, hday, hlast⟩ := d.isDate
  refine ⟨hday, ?_⟩
  rcases daysInMonth_cases d.year d.month with ⟨hmonth, hdays, hleap⟩ | ⟨hmonth, hdays, -⟩ |
    ⟨hmonth, hdays⟩ | ⟨hmonth, hdays⟩ | ⟨-, hdays⟩
  · exact .inl ⟨hmonth, by omega⟩
  · exact .inl ⟨hmonth, by omega⟩
  · exact .inr (.inl ⟨hmonth, by omega⟩)
  · exact .inr (.inr ⟨hmonth, by omega⟩)
  · omega

/-- The month is read off the day of the year. -/
theorem monthOfDay_marchDay (d : Date) :
    monthOfDay d.marchDay = d.marchMonth ∧ d.marchMonth ≤ 11 := by
  have hcases := d.day_cases
  rw [monthOfDay_eq_iff, marchDay, daysBeforeMonth, daysBeforeMonth, marchMonth]
  split <;> omega

/-- The leap day is the last day of its year, and years that have none are shorter. -/
theorem isDayOfYear_marchDay (d : Date) :
    IsDayOfYear (d.marchYear % 400).toNat d.marchDay := by
  have hcases := d.day_cases
  rw [IsDayOfYear, marchYear, marchDay, marchMonth, daysBeforeMonth]
  split <;> omega

/-! ## Dates by their numbers -/

/-- Every date is found by its day number. -/
theorem ofDayNumber?_dayNumber (d : Date) : ofDayNumber? d.dayNumber = some d := by
  obtain ⟨hmonth, hmonthLast⟩ := d.monthOfDay_marchDay
  have hyearOfEra : (d.marchYear % 400).toNat < 400 := by omega
  have hdayOfYear := d.isDayOfYear_marchDay
  have hyear := yearOfDay_eq hyearOfEra hdayOfYear
  -- The shifted number is made of the era and of a day that is less than one.
  have hday : daysBeforeYear (d.marchYear % 400).toNat + d.marchDay < daysPerEra := by
    rw [IsDayOfYear] at hdayOfYear
    rw [daysBeforeYear, daysPerEra]
    omega
  have hshifted : d.dayNumber + epochOffset = d.marchYear / 400 * daysPerEra +
      (daysBeforeYear (d.marchYear % 400).toNat + d.marchDay : Nat) := by
    rw [dayNumber_eq]
    omega
  have hera : (d.dayNumber + epochOffset) / daysPerEra = d.marchYear / 400 := by
    rw [daysPerEra] at hday hshifted ⊢
    omega
  have hdayOfEra : ((d.dayNumber + epochOffset) % daysPerEra).toNat =
      daysBeforeYear (d.marchYear % 400).toNat + d.marchDay := by
    rw [daysPerEra] at hday hshifted ⊢
    omega
  have hcases := d.day_cases
  simp only [ofDayNumber?, hera, hdayOfEra, hyear, Nat.add_sub_cancel_left, hmonth]
  rw [ofParts?_eq_some_iff, marchDay, marchYear, marchMonth]
  refine ⟨?_, ?_, ?_⟩
  · split <;> split <;> omega
  · split <;> split <;> omega
  · omega

/-- No two dates have the same day number. -/
theorem dayNumber_injective : Function.Injective dayNumber := by
  intro d e h
  have hfound : some d = some e := by rw [← ofDayNumber?_dayNumber d, h, ofDayNumber?_dayNumber]
  exact Option.some.inj hfound

/-- No date is more than a hundred million days away from the first of January 1970. -/
theorem dayNumber_bounds (d : Date) : -100000000 ≤ d.dayNumber ∧ d.dayNumber ≤ 100000000 := by
  obtain ⟨hfirst, hlast, -⟩ := d.isDate
  have hcases := d.day_cases
  rw [firstYear] at hfirst
  rw [lastYear] at hlast
  rw [dayNumber_eq, marchDay, marchYear, marchMonth, daysBeforeMonth, daysBeforeYear, daysPerEra,
    epochOffset]
  split <;> omega

/-- The date comes after the first of January 1970. -/
def IsAfterEpoch (d : Date) : Prop :=
  1970 < d.year ∨ d.year = 1970 ∧ (1 < d.month ∨ 1 < d.day)

instance (d : Date) : Decidable d.IsAfterEpoch :=
  inferInstanceAs (Decidable (_ ∨ _))

/-- The days that come after the first of January 1970 are those that are counted from one on. -/
theorem dayNumber_pos_iff (d : Date) : 0 < d.dayNumber ↔ d.IsAfterEpoch := by
  have hcases := d.day_cases
  rw [dayNumber_eq, IsAfterEpoch, marchDay, marchYear, marchMonth, daysBeforeMonth, daysBeforeYear,
    daysPerEra, epochOffset]
  split <;> omega

end HostAccounts.Date
