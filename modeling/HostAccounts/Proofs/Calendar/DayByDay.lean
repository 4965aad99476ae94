import HostAccounts.Proofs.Calendar.DayCount

/-!
# Days one after the other

A day is followed by the next one of its month, the last of a month by the first of the next, and
the last of December by the first of January. Day numbers count just these steps, across the leap
days and up to the last year that is represented. A request that gives a number therefore asks for
the date that is reached in as many steps from the first of January 1970, and one that gives a date
asks for that date. Main statements: `dayNumber_of_tomorrow?`, `ofDayNumber?_eq_later?`,
`requests_are_read`.
-/

set_option autoImplicit false

namespace HostAccounts.Date

/-! ## The next day -/

/-- The next day of the month, or else the first of the next month, or of the next year. -/
def tomorrow? (d : Date) : Option Date :=
  (ofParts? d.year d.month (d.day + 1)).or
    ((ofParts? d.year (d.month + 1) 1).or (ofParts? (d.year + 1) 1 1))

/-- The last day that is represented. -/
def last : Date := ⟨lastYear, 12, 31, by decide⟩

theorem ofParts?_eq_none_iff {year : Int} {month day : Nat} :
    ofParts? year month day = none ↔ ¬ IsDate year month day := by
  unfold ofParts?
  split <;> simp_all

theorem day_eq_of_ofParts?_eq_none {d : Date} (h : ofParts? d.year d.month (d.day + 1) = none) :
    d.day = daysInMonth d.year d.month := by
  obtain ⟨hfirst, hlast, hday, hdays⟩ := d.isDate
  have hnone := ofParts?_eq_none_iff.mp h
  rw [IsDate] at hnone
  omega

theorem month_eq_of_ofParts?_eq_none {d : Date} (h : ofParts? d.year (d.month + 1) 1 = none) :
    d.month = 12 := by
  obtain ⟨hfirst, hlast, -, -⟩ := d.isDate
  have hnone := ofParts?_eq_none_iff.mp h
  have hmonth := d.day_cases
  have hnext := daysInMonth_cases d.year (d.month + 1)
  rw [IsDate] at hnone
  have hzero : daysInMonth d.year (d.month + 1) = 0 := by omega
  omega

/-- Inside of a year that begins in March the days are counted one by one. -/
theorem dayNumber_of_marchYear_eq {d e : Date} (hyear : e.marchYear = d.marchYear)
    (hday : e.marchDay = d.marchDay + 1) : e.dayNumber = d.dayNumber + 1 := by
  rw [dayNumber_eq, dayNumber_eq, hyear, hday]
  omega

/-- Behind the last of February the next year that begins in March is counted from. -/
theorem dayNumber_of_february {d e : Date} (hmonth : d.month = 2)
    (hlast : d.day = daysInMonth d.year d.month) (hyear : e.marchYear = d.year)
    (hday : e.marchDay = 0) : e.dayNumber = d.dayNumber + 1 := by
  have hcases := daysInMonth_cases d.year d.month
  have hmarchDay : d.marchDay = d.day + 336 := by
    have hpositive := d.isDate.2.2.1
    rw [marchDay, marchMonth, hmonth, if_pos (by decide), daysBeforeMonth]
    omega
  rw [dayNumber_eq, dayNumber_eq, hyear, hday, hmarchDay, marchYear, if_pos (by omega),
    daysBeforeYear, daysBeforeYear, daysPerEra]
  rcases hcases with h | h | h | h | h <;> omega

/-- Behind the last day of another month the next month begins. -/
theorem marchDay_of_last {d : Date} (hmonth : d.month ≠ 2)
    (hlast : d.day = daysInMonth d.year d.month) :
    d.marchDay + 1 = daysBeforeMonth (d.marchMonth + 1) := by
  have hpositive := d.isDate.2.2.1
  rw [marchDay, marchMonth, hlast]
  rcases daysInMonth_cases d.year d.month with h | h | ⟨hshort, hdays⟩ | ⟨hlong, hdays⟩ | h
  · exact absurd h.1 hmonth
  · exact absurd h.1 hmonth
  · rw [hdays]
    rcases hshort with h | h | h | h <;> rw [h] <;> rfl
  · rw [hdays]
    rcases hlong with h | h | h | h | h | h | h <;> rw [h] <;> rfl
  · omega

/-- The next day has the next number. -/
theorem dayNumber_of_tomorrow? {d e : Date} (h : d.tomorrow? = some e) :
    e.dayNumber = d.dayNumber + 1 := by
  rcases Option.or_eq_some_iff.mp h with hday | ⟨hday, h⟩
  · -- The day is not the last of its month.
    obtain ⟨hyear, hmonth, hday⟩ := ofParts?_eq_some_iff.mp hday
    have hpositive := d.isDate.2.2.1
    apply dayNumber_of_marchYear_eq
    · rw [marchYear, marchYear, hyear, hmonth]
    · rw [marchDay, marchDay, marchMonth, marchMonth, hmonth, hday]
      omega
  have hlast := day_eq_of_ofParts?_eq_none hday
  rcases Option.or_eq_some_iff.mp h with hmonth | ⟨hmonth, hyear⟩
  · -- The day is the last of a month, but not of its year.
    obtain ⟨hyear, hmonth, hday⟩ := ofParts?_eq_some_iff.mp hmonth
    have hpositive := d.day_cases
    by_cases hfebruary : d.month = 2
    · apply dayNumber_of_february hfebruary hlast
      · rw [marchYear, hmonth, hfebruary, if_neg (by decide), hyear]
      · rw [marchDay, marchMonth, hmonth, hfebruary, hday]
        rfl
    · apply dayNumber_of_marchYear_eq
      · rw [marchYear, marchYear, hyear, hmonth]
        split <;> split <;> omega
      · have hnext : e.marchMonth = d.marchMonth + 1 := by
          rw [marchMonth, marchMonth, hmonth]
          split <;> split <;> omega
        rw [marchDay_of_last hfebruary hlast, marchDay, hnext, hday, Nat.sub_self, Nat.add_zero]
  · -- December and January lie in one year that begins in March.
    have hdecember := month_eq_of_ofParts?_eq_none hmonth
    obtain ⟨hyear, hmonth, hday⟩ := ofParts?_eq_some_iff.mp hyear
    apply dayNumber_of_marchYear_eq
    · rw [marchYear, marchYear, hyear, hmonth, hdecember, if_pos (by decide), if_neg (by decide)]
      omega
    · rw [marchDay_of_last (by omega) hlast, marchDay, marchMonth, marchMonth, hmonth, hday,
        hdecember]
      rfl

/-- No day comes after the last one. -/
theorem dayNumber_le_last (d : Date) : d.dayNumber ≤ last.dayNumber := by
  have hend : last.dayNumber = 95026236 := rfl
  have hlast := d.isDate.2.1
  have hcases := d.day_cases
  rw [lastYear] at hlast
  rw [hend, dayNumber_eq, marchDay, marchYear, marchMonth, daysBeforeMonth, daysBeforeYear,
    daysPerEra, epochOffset]
  split <;> omega

/-- Only the last day is not followed by one. -/
theorem tomorrow?_eq_none_iff {d : Date} : d.tomorrow? = none ↔ d = last := by
  constructor
  · intro h
    obtain ⟨hday, hlater⟩ := Option.or_eq_none_iff.mp h
    obtain ⟨hmonth, hyear⟩ := Option.or_eq_none_iff.mp hlater
    have hend := day_eq_of_ofParts?_eq_none hday
    have hdecember := month_eq_of_ofParts?_eq_none hmonth
    have hnone : ¬ IsDate (d.year + 1) 1 1 := ofParts?_eq_none_iff.mp hyear
    obtain ⟨hfirst, hlast, -, -⟩ := d.isDate
    have hlastYear : d.year = lastYear := by
      have hjanuary : daysInMonth (d.year + 1) 1 = 31 := rfl
      rw [IsDate, hjanuary] at hnone
      omega
    rw [hdecember] at hend
    exact Option.some.inj ((ofParts?_parts d).symm.trans
      (ofParts?_eq_some_iff.mpr ⟨hlastYear.symm, hdecember.symm, hend.symm⟩))
  · rintro rfl
    rfl

/-! ## Later days -/

/-- The date that comes so many days later. -/
def later? (d : Date) : Nat → Option Date
  | 0 => some d
  | n + 1 => (d.later? n).bind tomorrow?

theorem dayNumber_of_later? {d e : Date} {n : Nat} (h : d.later? n = some e) :
    e.dayNumber = d.dayNumber + n := by
  induction n generalizing e with
  | zero =>
    obtain rfl := Option.some.inj h
    exact (Int.add_zero _).symm
  | succ n ih =>
    obtain ⟨eve, heve, htomorrow⟩ := Option.bind_eq_some_iff.mp h
    rw [dayNumber_of_tomorrow? htomorrow, ih heve]
    omega

/-- There is a date so many days later, as long as the last one is not passed. -/
theorem exists_later? {d : Date} {n : Nat} (h : d.dayNumber + n ≤ last.dayNumber) :
    ∃ e, d.later? n = some e := by
  induction n with
  | zero => exact ⟨d, rfl⟩
  | succ n ih =>
    obtain ⟨eve, heve⟩ := ih (by omega)
    have hnot : eve ≠ last := by
      rintro rfl
      have hnumber := dayNumber_of_later? heve
      omega
    obtain ⟨e, he⟩ := Option.ne_none_iff_exists'.mp (mt tomorrow?_eq_none_iff.mp hnot)
    exact ⟨e, Option.bind_eq_some_iff.mpr ⟨eve, heve, he⟩⟩

/-- The date with a later day number is found by going on day by day. -/
theorem ofDayNumber?_eq_later? (d : Date) (n : Nat) :
    ofDayNumber? (d.dayNumber + n) = d.later? n := by
  refine Option.ext fun e => ⟨fun h => ?_, fun h => ?_⟩
  · have hnumber := dayNumber_of_ofDayNumber? h
    obtain ⟨found, hfound⟩ := exists_later? (hnumber ▸ e.dayNumber_le_last)
    rw [hfound, dayNumber_injective ((dayNumber_of_later? hfound).trans hnumber.symm)]
  · rw [← dayNumber_of_later? h]
    exact e.ofDayNumber?_dayNumber

theorem isDate_epoch : IsDate 1970 1 1 := by decide

/-- The day that is counted from. -/
def epoch : Date := ⟨1970, 1, 1, isDate_epoch⟩

theorem ofDayNumber?_natCast (n : Nat) : ofDayNumber? n = epoch.later? n := by
  have hzero : epoch.dayNumber = 0 := rfl
  rw [← ofDayNumber?_eq_later?, hzero, Int.zero_add]

/-! ## Requests -/

/-- Blanks around a request do not count. -/
theorem ofRequest_append_append {front back : String} (hfront : Text.isBlankText front = true)
    (hback : Text.isBlankText back = true) (s : String) :
    ofRequest (front ++ s ++ back) = ofRequest s := by
  rw [ofRequest, Text.trim_append_append hfront hback, ofRequest]

/-- Whatever blanks stand around it, every date is read from the way it is written, and a numeral is
never read like a date: one that is positive asks for the date that comes as many days after the
first of January 1970, and there is one as long as the last date is not passed. -/
theorem requests_are_read (front back : String) (hfront : Text.isBlankText front = true)
    (hback : Text.isBlankText back = true) :
    (∀ d : Date, ofRequest (front ++ d.written ++ back) = .ok d) ∧
      ∀ (s : String) (n : Int), Text.IsSignedNumeral s n →
        ofWritten? (Text.trim (front ++ s ++ back)) = none ∧
          (∀ d, ofRequest (front ++ s ++ back) = .ok d ↔
            0 < n ∧ epoch.later? n.toNat = some d) ∧
          ((∃ d, ofRequest (front ++ s ++ back) = .ok d) ↔ 0 < n ∧ n ≤ last.dayNumber) := by
  refine ⟨fun d => ?_, fun s n hs => ?_⟩
  · rw [ofRequest_append_append hfront hback, ofRequest_written]
  have hread : ∀ d, ofRequest (front ++ s ++ back) = .ok d ↔
      0 < n ∧ epoch.later? n.toNat = some d := by
    intro d
    rw [ofRequest_append_append hfront hback, ofRequest_of_isSignedNumeral hs]
    refine and_congr_right fun hpositive => ?_
    rw [← ofDayNumber?_natCast, Int.toNat_of_nonneg (Int.le_of_lt hpositive)]
  refine ⟨?_, hread, ?_⟩
  · rw [Text.trim_append_append hfront hback, Text.trim_of_isCount hs.isCount,
      ofWritten?_of_isCount hs.isCount]
  · have hzero : epoch.dayNumber = 0 := rfl
    constructor
    · rintro ⟨d, hd⟩
      obtain ⟨hpositive, hlater⟩ := (hread d).mp hd
      have hnumber := dayNumber_of_later? hlater
      have hlast := d.dayNumber_le_last
      exact ⟨hpositive, by omega⟩
    · rintro ⟨hpositive, hlast⟩
      obtain ⟨d, hd⟩ := exists_later? (d := epoch) (n := n.toNat) (by omega)
      exact ⟨d, (hread d).mpr ⟨hpositive, hd⟩⟩

/-- A leap day is read with blanks around it, and the day after the first of March by its number. -/
theorem requests_are_read_leapDay :
    ofRequest ("  " ++ written ⟨2024, 2, 29, by decide⟩ ++ "\t") = .ok ⟨2024, 2, 29, by decide⟩ ∧
      ofRequest ("  " ++ "+0060" ++ "\t") = .ok ⟨1970, 3, 2, by decide⟩ := by
  obtain ⟨hwritten, hcount⟩ := requests_are_read "  " "\t" (by decide) (by decide)
  have hsixty : Text.IsSignedNumeral "+0060" 60 :=
    ⟨['+'], ['0', '0', '6', '0'], by decide, by simp, by simp, .inl (by decide)⟩
  exact ⟨hwritten _, ((hcount "+0060" 60 hsixty).2.1 _).mpr ⟨by decide, by decide +kernel⟩⟩

end HostAccounts.Date
