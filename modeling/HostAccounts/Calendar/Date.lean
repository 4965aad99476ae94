/-!
# Calendar dates

Dates of the proleptic Gregorian calendar between two fixed years, and their day numbers, counted
from the first of January 1970. Years are taken to begin in March and gathered into eras of 400
years, which all have the same number of days; the leap day is then the last day of its year.
-/

set_option autoImplicit false

namespace HostAccounts

/-! ## Valid dates -/

/-- The year has a leap day. -/
def isLeapYear (year : Int) : Bool :=
  year % 4 == 0 && (year % 100 != 0 || year % 400 == 0)

/-- The number of days of a month; none for what is no month. -/
def daysInMonth (year : Int) (month : Nat) : Nat :=
  match month with
  | 1 | 3 | 5 | 7 | 8 | 10 | 12 => 31
  | 4 | 6 | 9 | 11 => 30
  | 2 => if isLeapYear year then 29 else 28
  | _ => 0

/-- The first year that is represented. -/
def firstYear : Int := -262143

/-- The last year that is represented. -/
def lastYear : Int := 262142

/-- The three numbers are a date that is represented. -/
def IsDate (year : Int) (month day : Nat) : Prop :=
  firstYear ≤ year ∧ year ≤ lastYear ∧ 1 ≤ day ∧ day ≤ daysInMonth year month

instance (year : Int) (month day : Nat) : Decidable (IsDate year month day) :=
  inferInstanceAs (Decidable (_ ∧ _ ∧ _ ∧ _))

/-- A day of the calendar. -/
structure Date where
  year : Int
  month : Nat
  day : Nat
  isDate : IsDate year month day
  deriving DecidableEq

namespace Date

/-- The date with the three numbers, if there is one. -/
def ofParts? (year : Int) (month day : Nat) : Option Date :=
  if h : IsDate year month day then some ⟨year, month, day, h⟩ else none

theorem ofParts?_eq_some_iff {year : Int} {month day : Nat} {d : Date} :
    ofParts? year month day = some d ↔ d.year = year ∧ d.month = month ∧ d.day = day := by
  unfold ofParts?
  split
  · constructor
    · rintro ⟨⟩; exact ⟨rfl, rfl, rfl⟩
    · rintro ⟨rfl, rfl, rfl⟩; rfl
  · next h =>
    constructor
    · rintro ⟨⟩
    · rintro ⟨rfl, rfl, rfl⟩; exact absurd d.isDate h

@[simp] theorem ofParts?_parts (d : Date) : ofParts? d.year d.month d.day = some d :=
  ofParts?_eq_some_iff.2 ⟨rfl, rfl, rfl⟩

/-! ## Day numbers -/

/-- The number of days of an era. -/
def daysPerEra : Nat := 146097

/-- The day number of the first of March of the year 0, negated. -/
def epochOffset : Int := 719468

/-- Days from the first of March to the first of the month that is `m` months later. -/
def daysBeforeMonth (m : Nat) : Nat :=
  (153 * m + 2) / 5

/-- Days from the beginning of an era to the beginning of its year `y`. -/
def daysBeforeYear (y : Nat) : Nat :=
  365 * y + y / 4 - y / 100

/-- Days from the first of January 1970. -/
def dayNumber (d : Date) : Int :=
  let early := d.month ≤ 2
  let year := if early then d.year - 1 else d.year
  let month := if early then d.month + 9 else d.month - 3
  let era := year / 400
  let yearOfEra := (year % 400).toNat
  let dayOfEra : Nat := daysBeforeYear yearOfEra + daysBeforeMonth month + (d.day - 1)
  era * daysPerEra + dayOfEra - epochOffset

/-- The year of an era that holds the day of the era. -/
def yearOfDay (day : Nat) : Nat :=
  (day - day / 1460 + day / 36524 - day / 146096) / 365

/-- The month, counted from March, that holds the day of a year that begins in March. -/
def monthOfDay (day : Nat) : Nat :=
  (5 * day + 2) / 153

/-- The date with the day number, if it is represented. -/
def ofDayNumber? (n : Int) : Option Date :=
  let shifted := n + epochOffset
  let era := shifted / daysPerEra
  let dayOfEra := (shifted % daysPerEra).toNat
  let yearOfEra := yearOfDay dayOfEra
  let dayOfYear := dayOfEra - daysBeforeYear yearOfEra
  let month := monthOfDay dayOfYear
  let day := dayOfYear - daysBeforeMonth month + 1
  let late := month ≥ 10
  let year := era * 400 + yearOfEra + (if late then 1 else 0)
  ofParts? year (if late then month - 9 else month + 3) day

/-- The date is not after the other one. -/
def isOnOrBefore (d e : Date) : Bool :=
  d.dayNumber ≤ e.dayNumber

end Date

end HostAccounts
