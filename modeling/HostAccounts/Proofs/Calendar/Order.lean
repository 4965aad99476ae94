import HostAccounts.Proofs.Calendar.DayByDay

/-!
# Dates in their order

A date comes before another one by its year, then by its month, then by its day. Day numbers grow
along this order: one step to the next day goes forward in it, hence any number of steps does, and
of two dates one is always reached from the other. What a host stores for the end of an account
therefore tells one date from all others, and keeps their order. Main statements: `isBefore_iff`,
`Expiry.counts_are_decoded`.

The rest of the theory counts days in whole numbers without bounds. `Expiry.ofStored` and
`Expiry.stored` spell out the same decoding and encoding in machine words of 64 bits, with the
change from a signed to an unsigned word in between, and `millisecondsPerDay` the unit in which a
span of days is held. They stand for no function of their own: with them the last two parts of
`Expiry.counts_are_decoded` say that nothing is lost in the words.
-/

set_option autoImplicit false

namespace HostAccounts

/-! ## Earlier and later dates -/

namespace Date

variable {d e f : Date}

/-- The date is in an earlier year, or in an earlier month of the same year, or on an earlier day of
the same month. -/
def IsBefore (d e : Date) : Prop :=
  d.year < e.year ∨ d.year = e.year ∧ (d.month < e.month ∨ d.month = e.month ∧ d.day < e.day)

instance (d e : Date) : Decidable (d.IsBefore e) :=
  inferInstanceAs (Decidable (_ ∨ _))

theorem not_isBefore_self (d : Date) : ¬ d.IsBefore d := by
  rw [IsBefore]
  omega

theorem IsBefore.trans (h : d.IsBefore e) (k : e.IsBefore f) : d.IsBefore f := by
  rw [IsBefore] at *
  omega

theorem isBefore_of_tomorrow? (h : d.tomorrow? = some e) : d.IsBefore e := by
  rw [IsBefore]
  rcases Option.or_eq_some_iff.mp h with hday | ⟨-, h⟩
  · have hparts := ofParts?_eq_some_iff.mp hday
    omega
  rcases Option.or_eq_some_iff.mp h with hmonth | ⟨-, hyear⟩
  · have hparts := ofParts?_eq_some_iff.mp hmonth
    omega
  · have hparts := ofParts?_eq_some_iff.mp hyear
    omega

/-- All later days come behind, whether or not a month or a year ends between them. -/
theorem isBefore_of_later? {n : Nat} (h : d.later? (n + 1) = some e) : d.IsBefore e := by
  induction n generalizing e with
  | zero => exact isBefore_of_tomorrow? h
  | succ n ih =>
    obtain ⟨eve, heve, htomorrow⟩ := Option.bind_eq_some_iff.mp h
    exact (ih heve).trans (isBefore_of_tomorrow? htomorrow)

theorem isBefore_of_dayNumber_lt (h : d.dayNumber < e.dayNumber) : d.IsBefore e := by
  obtain ⟨n, hn⟩ : ∃ n : Nat, e.dayNumber = d.dayNumber + (n + 1 : Nat) :=
    ⟨(e.dayNumber - d.dayNumber - 1).toNat, by omega⟩
  have hlater : d.later? (n + 1) = some e := by
    rw [← ofDayNumber?_eq_later?, ← hn, ofDayNumber?_dayNumber]
  exact isBefore_of_later? hlater

/-- Dates are in the order of their day numbers. -/
theorem isBefore_iff : d.IsBefore e ↔ d.dayNumber < e.dayNumber := by
  refine ⟨fun h => ?_, isBefore_of_dayNumber_lt⟩
  rcases Int.lt_trichotomy d.dayNumber e.dayNumber with hless | hsame | hmore
  · exact hless
  · exact absurd (dayNumber_injective hsame ▸ h) (not_isBefore_self d)
  · exact absurd (h.trans (isBefore_of_dayNumber_lt hmore)) (not_isBefore_self d)

end Date

/-! ## Ends that have come -/

namespace Expiry

/-- An account is not ended before the day of its end. -/
theorem hasPassed_eq_false_iff {e : Expiry} {today : Date} :
    e.hasPassed today = false ↔ ∀ d, e.date? = some d → today.IsBefore d := by
  cases e with
  | never => simp [hasPassed, date?]
  | on date =>
    have hpassed : (on date).hasPassed today = decide (date.dayNumber ≤ today.dayNumber) := rfl
    rw [hpassed, decide_eq_false_iff_not, Int.not_le, ← Date.isBefore_iff]
    constructor
    · rintro h d ⟨⟩
      exact h
    · exact fun h => h date rfl

/-! ## Stored counts -/

/-- The length of a day, as spans of time are counted. -/
def millisecondsPerDay : Int := 86400000

/-- The end with a day count that a host stores in 64 bits. A count above zero loses its sign, and
so many days are counted on from the first of January 1970. -/
def ofStored (n : Int64) : Except RowDefect Expiry :=
  if n ≤ 0 then .ok never
  else
    match Date.epoch.later? n.toUInt64.toNat with
    | some d => .ok (on d)
    | none => .error (.expiryOutOfRange n.toInt)

/-- The count that a host stores for an end. -/
def stored (e : Expiry) : Int64 :=
  Int64.ofInt e.days

variable {n : Int} {d : Date}

theorem ofDays_eq_never_iff : ofDays n = .ok never ↔ n ≤ 0 := by
  unfold ofDays
  split
  · next hn => simp [hn]
  · next hn => cases Date.ofDayNumber? n <;> simp [hn]

/-- A count above zero is the date that is so many days after the first of January 1970. -/
theorem ofDays_eq_on_iff_later? :
    ofDays n = .ok (on d) ↔ 0 < n ∧ Date.epoch.later? n.toNat = some d := by
  rw [ofDays_eq_on_iff]
  refine and_congr_right fun hpositive => ?_
  rw [← Date.ofDayNumber?_natCast, Int.toNat_of_nonneg (Int.le_of_lt hpositive)]

theorem ofDays_eq_error_iff {defect : RowDefect} :
    ofDays n = .error defect ↔
      0 < n ∧ Date.epoch.later? n.toNat = none ∧ .expiryOutOfRange n = defect := by
  unfold ofDays
  split
  · next hn =>
    have hnot : ¬ 0 < n := by omega
    simp [hnot]
  · next hn =>
    have hpositive : 0 < n := by omega
    rw [← Date.ofDayNumber?_natCast, Int.toNat_of_nonneg (Int.le_of_lt hpositive)]
    cases Date.ofDayNumber? n <;> simp [hpositive]

/-- A count is refused only if it is past the last date. -/
theorem exists_ofDays_iff :
    (∃ e, ofDays n = .ok e) ↔ (0 < n → ∃ d, Date.epoch.later? n.toNat = some d) := by
  constructor
  · rintro ⟨e, he⟩ hpositive
    refine Option.ne_none_iff_exists'.mp fun hnone => ?_
    rw [ofDays_eq_error_iff.mpr ⟨hpositive, hnone, rfl⟩] at he
    cases he
  · intro h
    by_cases hpositive : 0 < n
    · obtain ⟨d, hd⟩ := h hpositive
      exact ⟨on d, ofDays_eq_on_iff_later?.mpr ⟨hpositive, hd⟩⟩
    · exact ⟨never, ofDays_eq_never_iff.mpr (Int.not_lt.mp hpositive)⟩

theorem date?_eq_some_iff_of_ofDays {e : Expiry} (h : ofDays n = .ok e) :
    e.date? = some d ↔ 0 < n ∧ Date.epoch.later? n.toNat = some d := by
  rw [← ofDays_eq_on_iff_later?, h]
  cases e <;> simp [date?]

theorem date?_ne_none_iff_of_ofDays {e : Expiry} (h : ofDays n = .ok e) :
    e.date? ≠ none ↔ 0 < n := by
  rw [← Int.not_le, ← ofDays_eq_never_iff, h]
  cases e <;> simp [date?]

/-- Dates are compared as their counts are. -/
theorem hasPassed_eq_false_iff_of_ofDays {e : Expiry} (h : ofDays n = .ok e) {today : Date} :
    e.hasPassed today = false ↔ n ≤ 0 ∨ today.dayNumber < n := by
  cases e with
  | never => exact iff_of_true rfl (.inl (ofDays_eq_never_iff.mp h))
  | on date =>
    obtain ⟨hpositive, hfound⟩ := ofDays_eq_on_iff.mp h
    rw [hasPassed, Date.isOnOrBefore, decide_eq_false_iff_not, Int.not_le,
      Date.dayNumber_of_ofDayNumber? hfound]
    omega

/-- Nothing is lost of a count when its sign is dropped. -/
theorem ofStored_eq (n : Int64) : ofStored n = ofDays n.toInt := by
  unfold ofStored
  split
  · next hn =>
    have hcount : n.toInt ≤ 0 := Int64.le_iff_toInt_le.mp hn
    exact (ofDays_eq_never_iff.mpr hcount).symm
  · next hn =>
    have hcount : 0 < n.toInt := Int.not_le.mp fun h => hn (Int64.le_iff_toInt_le.mpr h)
    have hunsigned : n.toUInt64.toNat = n.toInt.toNat :=
      Int64.toNat_toUInt64_of_le (Int64.le_iff_toInt_le.mpr (Int.le_of_lt hcount))
    rw [hunsigned]
    cases hlater : Date.epoch.later? n.toInt.toNat with
    | some d => exact (ofDays_eq_on_iff_later?.mpr ⟨hcount, hlater⟩).symm
    | none => exact (ofDays_eq_error_iff.mpr ⟨hcount, hlater, rfl⟩).symm

/-- The count of every end fits in the word that it is stored in. -/
theorem toInt_stored (e : Expiry) : e.stored.toInt = e.days := by
  cases e with
  | never => rfl
  | on d =>
    have hbounds := d.dayNumber_bounds
    have hdays : (on d).days = d.dayNumber := rfl
    exact Int64.toInt_ofInt_of_le (by omega) (by omega)

/-- So does the span of time up to the end. -/
theorem inInt64_span (e : Expiry) : Text.inInt64 (millisecondsPerDay * e.days) = true := by
  cases e with
  | never => rfl
  | on d =>
    have hbounds := d.dayNumber_bounds
    have hdays : (on d).days = d.dayNumber := rfl
    rw [Text.inInt64, Bool.and_eq_true, decide_eq_true_eq, decide_eq_true_eq, hdays,
      millisecondsPerDay]
    omega

/-- A count above zero is read as the date that comes so many days after the first of January 1970,
and is refused if that is past the last date; any other count means that there is no end. The
greater of two counts is the later date, and a date is read back from its count if it comes after
the first of January 1970. Words of 64 bits are read like the integers that they hold, and hold
every count that is written and the span of time behind it. -/
theorem counts_are_decoded :
    (∀ n : Int,
      (ofDays n = .ok never ↔ n ≤ 0) ∧
      ((∃ defect, ofDays n = .error defect) ↔ 0 < n ∧ Date.epoch.later? n.toNat = none) ∧
      (∀ d, ofDays n = .ok (on d) ↔ 0 < n ∧ Date.epoch.later? n.toNat = some d) ∧
      ∀ d, ofDays n = .ok (on d) → (on d).days = n) ∧
    (∀ (m n : Int) (d e : Date), ofDays m = .ok (on d) → ofDays n = .ok (on e) →
      (m < n ↔ d.IsBefore e)) ∧
    (∀ d : Date, ofDays (on d).days = .ok (if d.IsAfterEpoch then on d else never)) ∧
    (∀ d : Date, d.tomorrow? = none ↔ d.year = 262142 ∧ d.month = 12 ∧ d.day = 31) ∧
    (∀ n : Int64, ofStored n = ofDays n.toInt) ∧
    ∀ e : Expiry, e.stored.toInt = e.days ∧
      Text.inInt64 (millisecondsPerDay * e.days) = true := by
  have hcount : ∀ {n : Int} {d : Date}, ofDays n = .ok (on d) → d.dayNumber = n := fun h =>
    Date.dayNumber_of_ofDayNumber? (ofDays_eq_on_iff.mp h).2
  refine ⟨fun n => ⟨ofDays_eq_never_iff, ?_, fun d => ofDays_eq_on_iff_later?, fun d => hcount⟩,
    fun m n d e hm hn => ?_, ofDays_days, fun d => ?_, ofStored_eq,
    fun e => ⟨e.toInt_stored, e.inInt64_span⟩⟩
  · constructor
    · rintro ⟨defect, h⟩
      obtain ⟨hpositive, hpast, -⟩ := ofDays_eq_error_iff.mp h
      exact ⟨hpositive, hpast⟩
    · rintro ⟨hpositive, hpast⟩
      exact ⟨_, ofDays_eq_error_iff.mpr ⟨hpositive, hpast, rfl⟩⟩
  · rw [Date.isBefore_iff, hcount hm, hcount hn]
  · rw [Date.tomorrow?_eq_none_iff]
    constructor
    · rintro rfl
      exact ⟨rfl, rfl, rfl⟩
    · rintro ⟨hyear, hmonth, hday⟩
      exact Option.some.inj ((Date.ofParts?_parts d).symm.trans
        (Date.ofParts?_eq_some_iff.mpr ⟨hyear.symm, hmonth.symm, hday.symm⟩))

/-- The first day of 2024 comes after the second day of 1970, as its count is the greater one; no
date is reached by the greatest word. -/
theorem counts_are_decoded_newYear :
    ofDays 1 = .ok (on ⟨1970, 1, 2, by decide⟩) ∧ ofDays 19723 = .ok (on ⟨2024, 1, 1, by decide⟩) ∧
      Date.IsBefore ⟨1970, 1, 2, by decide⟩ ⟨2024, 1, 1, by decide⟩ ∧
      ∃ defect, ofStored Int64.maxValue = .error defect := by
  obtain ⟨-, horder, -, -, hwords, -⟩ := counts_are_decoded
  have hfirst : ofDays 1 = .ok (on ⟨1970, 1, 2, by decide⟩) :=
    ofDays_eq_on_iff.mpr ⟨by decide, by decide +kernel⟩
  have hsecond : ofDays 19723 = .ok (on ⟨2024, 1, 1, by decide⟩) :=
    ofDays_eq_on_iff.mpr ⟨by decide, by decide +kernel⟩
  refine ⟨hfirst, hsecond, (horder 1 19723 _ _ hfirst hsecond).mp (by decide), ?_⟩
  rw [hwords]
  exact ⟨_, rfl⟩

end Expiry

end HostAccounts
