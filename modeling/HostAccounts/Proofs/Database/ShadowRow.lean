import HostAccounts.Database.RootOnly
import HostAccounts.Proofs.Calendar.Order
import HostAccounts.Proofs.Database.Grammar

/-!
# The status in a shadow record

Which lines are records of the shadow database, and what each of them says of its account on a day.
The nine fields of a record tell all of it: the second whether the password is locked, by the sign
that it begins with, and the eighth when the account ends, by a day count that may be left out.
Whether the end has come is a comparison of dates, and the same as one of day counts. Main
statements: `ShadowRow.ofLine_eq_ok_iff`, `ShadowRow.status_is_read`.
-/

set_option autoImplicit false

namespace HostAccounts.Database

/-! ## Numbers that may be left out -/

/-- The field is a numeral of 64 bits, or it is empty and there is no number. -/
def HoldsNumber (field : String) (n? : Option Int) : Prop :=
  match n? with
  | none => field = ""
  | some n => Text.IsSignedNumeral field n ∧ Text.inInt64 n = true

theorem ShadowRow.optionalNumber_eq_ok_iff {name field : String} {n? : Option Int} :
    optionalNumber name field = .ok n? ↔ HoldsNumber field n? := by
  unfold optionalNumber
  split
  · next hempty =>
    obtain rfl : field = "" := by simpa using hempty
    cases n? with
    | none => exact iff_of_true rfl rfl
    | some n =>
      refine iff_of_false nofun fun h => ?_
      have hread := Text.readInt64?_eq_some_iff.mpr h
      cases hread
  · next hwritten =>
    have hne : field ≠ "" := by simpa using hwritten
    cases n? with
    | none => cases Text.readInt64? field <;> simp [HoldsNumber, hne]
    | some n =>
      rw [HoldsNumber, ← Text.readInt64?_eq_some_iff]
      cases Text.readInt64? field <;> simp

namespace HoldsNumber

variable {field : String} {n? : Option Int}

/-- The number of a field is that of the numeral in it. -/
theorem isSignedNumeral_iff (h : HoldsNumber field n?) {n : Int} :
    Text.IsSignedNumeral field n ↔ n? = some n := by
  constructor
  · intro hn
    have hread := Text.readInt64?_of_isSignedNumeral hn
    cases n? with
    | none =>
      obtain ⟨sign, digits, hsplit, hne, -⟩ := hn
      rw [show field = "" from h] at hsplit
      exact absurd (List.append_eq_nil_iff.mp hsplit.symm).2 hne
    | some m =>
      rw [Text.readInt64?_eq_some_iff.mpr h] at hread
      rw [(Option.filter_eq_some_iff.mp hread.symm).1]
  · rintro rfl
    exact h.1

theorem eq_empty_iff (h : HoldsNumber field n?) : field = "" ↔ n? = none := by
  cases n? with
  | none => exact iff_of_true h rfl
  | some n =>
    refine iff_of_false ?_ nofun
    rintro rfl
    have hnone : none = some n := (show HoldsNumber "" none from rfl).isSignedNumeral_iff.mp h.1
    cases hnone

end HoldsNumber

/-- A field that is left out stands for the count zero. -/
theorem ofField_eq_ok_iff {field : String} {e : Expiry} :
    Expiry.ofField field = .ok e ↔
      ∃ n?, HoldsNumber field n? ∧ Expiry.ofDays (n?.getD 0) = .ok e := by
  unfold Expiry.ofField
  split
  · next hempty =>
    have hnone : HoldsNumber field none := String.isEmpty_iff.mp hempty
    constructor
    · intro h
      exact ⟨none, hnone, h⟩
    · rintro ⟨n?, hn, h⟩
      rw [hn.eq_empty_iff.mp hnone] at h
      exact h
  · next hwritten =>
    have hne : field ≠ "" := by simpa using hwritten
    cases hread : Text.readInt64? field with
    | none =>
      refine iff_of_false nofun ?_
      rintro ⟨n?, hn, -⟩
      cases n? with
      | none => exact hne hn
      | some n =>
        rw [Text.readInt64?_eq_some_iff.mpr hn] at hread
        cases hread
    | some n =>
      have hn : HoldsNumber field (some n) := Text.readInt64?_eq_some_iff.mp hread
      constructor
      · intro h
        exact ⟨some n, hn, h⟩
      · rintro ⟨n?, hn?, h⟩
        rw [hn?.isSignedNumeral_iff.mp hn.1] at h
        exact h

/-! ## Records -/

/-- The fields of a record, in the order in which they stand. -/
structure ShadowFields where
  username : String
  password : String
  lastChange : String
  minDays : String
  maxDays : String
  warnDays : String
  inactiveDays : String
  expiry : String
  reserved : String

namespace ShadowFields

variable (f : ShadowFields)

/-- The fields as they stand in a line. -/
def list : List String :=
  [f.username, f.password, f.lastChange, f.minDays, f.maxDays, f.warnDays, f.inactiveDays, f.expiry,
    f.reserved]

/-- The fields that hold numbers. -/
def numbers : List String :=
  [f.lastChange, f.minDays, f.maxDays, f.warnDays, f.inactiveDays, f.expiry]

/-- The line is made of the fields, blanks at its ends aside. -/
def StandIn (line : String) : Prop :=
  Text.IsMadeOf ':' (Text.trim line) f.list

/-- The fields are those of the row. -/
structure Describe (r : ShadowRow) : Prop where
  username : r.username = f.username
  locked : r.locked = true ↔ f.password.toList.head? = some '!'
  lastChange : HoldsNumber f.lastChange r.lastChange
  minDays : HoldsNumber f.minDays r.minDays
  maxDays : HoldsNumber f.maxDays r.maxDays
  warnDays : HoldsNumber f.warnDays r.warnDays
  inactiveDays : HoldsNumber f.inactiveDays r.inactiveDays
  expiry : ∃ n?, HoldsNumber f.expiry n? ∧ Expiry.ofDays (n?.getD 0) = .ok r.expiry

/-- The fields tell the status of the account on the day. -/
structure Report (today : Date) (status : AccountStatus) : Prop where
  locked : status.locked = true ↔ f.password.toList.head? = some '!'
  enabled : status.enabled = true ↔ f.expiry = "" ∨
    ∃ n, Text.IsSignedNumeral f.expiry n ∧ (n ≤ 0 ∨ today.dayNumber < n)
  inTime : status.enabled = true ↔ ∀ d, status.disableDate = some d → today.IsBefore d
  ends : status.disableDate ≠ none ↔ ∃ n, Text.IsSignedNumeral f.expiry n ∧ 0 < n
  date : ∀ d, status.disableDate = some d ↔
    ∃ n, Text.IsSignedNumeral f.expiry n ∧ 0 < n ∧ Date.epoch.later? n.toNat = some d

end ShadowFields

namespace ShadowRow

variable {line : String} {f : ShadowFields} {r : ShadowRow}

theorem exists_standIn_of_ofLine (h : ofLine line = .ok r) :
    ∃ f : ShadowFields, f.StandIn line := by
  unfold ofLine at h
  split at h
  · cases h
  · next username password lastChange minDays maxDays warnDays inactiveDays expiry reserved
      hfields =>
    exact ⟨⟨username, password, lastChange, minDays, maxDays, warnDays, inactiveDays, expiry,
      reserved⟩, (fields_eq_ok_iff.mp hfields).2⟩
  · cases h

/-- A line of nine fields is read as the row that they are of. -/
theorem ofLine_eq_ok_iff (hf : f.StandIn line) : ofLine line = .ok r ↔ f.Describe r := by
  have hfields : fields 9 (Text.trim line) = .ok f.list := fields_eq_ok_iff.mpr ⟨rfl, hf⟩
  unfold ofLine
  rw [hfields]
  simp only [ShadowFields.list, bind_eq_ok_iff_exists, optionalNumber_eq_ok_iff, ofField_eq_ok_iff]
  constructor
  · rintro ⟨a, ha, b, hb, c, hc, d, hd, e, he, end_, hend, hrow⟩
    cases hrow
    exact ⟨rfl, decide_eq_true_iff, ha, hb, hc, hd, he, hend⟩
  · rintro ⟨husername, hlocked, ha, hb, hc, hd, he, hend⟩
    have hsign : decide (f.password.toList.head? = some '!') = r.locked := by
      rw [Bool.eq_iff_iff, decide_eq_true_iff, hlocked]
    refine ⟨_, ha, _, hb, _, hc, _, hd, _, he, _, hend, ?_⟩
    rw [hsign, ← husername]
    rfl

/-- What is reported of the account is what its record says. -/
theorem report_status (h : f.Describe r) (today : Date) : f.Report today (r.status today) := by
  obtain ⟨n?, hn, hend⟩ := h.expiry
  have henabled : (r.status today).enabled = true ↔ r.expiry.hasPassed today = false := by
    simp [status]
  refine ⟨h.locked, ?_, ?_, ?_, fun d => ?_⟩
  · rw [henabled, Expiry.hasPassed_eq_false_iff_of_ofDays hend, hn.eq_empty_iff]
    simp only [hn.isSignedNumeral_iff]
    cases n? <;> simp
  · rw [henabled, Expiry.hasPassed_eq_false_iff]
    rfl
  · refine (Expiry.date?_ne_none_iff_of_ofDays hend).trans ?_
    simp only [hn.isSignedNumeral_iff]
    cases n? <;> simp
  · refine (Expiry.date?_eq_some_iff_of_ofDays hend).trans ?_
    simp only [hn.isSignedNumeral_iff]
    cases n? <;> simp

/-- A line is a record if it has nine fields, the numbers among them can be read, and the last of
those is the count of a date if it is above zero. -/
theorem exists_ofLine_iff : (∃ r, ofLine line = .ok r) ↔ ∃ f : ShadowFields, f.StandIn line ∧
    (∀ field ∈ f.numbers, ∃ n?, HoldsNumber field n?) ∧
      ∀ n, Text.IsSignedNumeral f.expiry n → 0 < n →
        ∃ d, Date.epoch.later? n.toNat = some d := by
  constructor
  · rintro ⟨r, hr⟩
    obtain ⟨f, hf⟩ := exists_standIn_of_ofLine hr
    obtain ⟨-, -, ha, hb, hc, hd, he, n?, hn, hend⟩ := (ofLine_eq_ok_iff hf).mp hr
    refine ⟨f, hf, ?_, fun n hnumeral hpositive => ?_⟩
    · simp only [ShadowFields.numbers, List.forall_mem_cons]
      exact ⟨⟨_, ha⟩, ⟨_, hb⟩, ⟨_, hc⟩, ⟨_, hd⟩, ⟨_, he⟩, ⟨_, hn⟩, nofun⟩
    · obtain rfl := hn.isSignedNumeral_iff.mp hnumeral
      exact Expiry.exists_ofDays_iff.mp ⟨r.expiry, hend⟩ hpositive
  · rintro ⟨f, hf, hnumbers, hdate⟩
    simp only [ShadowFields.numbers, List.forall_mem_cons] at hnumbers
    obtain ⟨⟨a, ha⟩, ⟨b, hb⟩, ⟨c, hc⟩, ⟨d, hd⟩, ⟨e, he⟩, ⟨n?, hn⟩, -⟩ := hnumbers
    obtain ⟨expiry, hend⟩ : ∃ expiry, Expiry.ofDays (n?.getD 0) = .ok expiry := by
      refine Expiry.exists_ofDays_iff.mpr fun hpositive => ?_
      cases n? with
      | none => exact absurd hpositive (by decide)
      | some n => exact hdate n hn.1 hpositive
    exact ⟨⟨f.username, decide (f.password.toList.head? = some '!'), a, b, c, d, e, expiry⟩,
      (ofLine_eq_ok_iff hf).mpr ⟨rfl, decide_eq_true_iff, ha, hb, hc, hd, he, n?, hn, hend⟩⟩

/-- A line is read as a record exactly if, blanks at its ends aside, it has nine fields, of which
the third to the eighth are empty or numerals of 64 bits, and a date is so many days after the first
of January 1970 as the eighth says if it is above zero. On any day the account is then locked if the
second field begins with an exclamation mark; it is enabled if the eighth field is empty, not above
zero, or above the number of the day; and its end is the date of the eighth field, if that is above
zero. -/
theorem status_is_read (line : String) :
    ((∃ r, ofLine line = .ok r) ↔ ∃ f : ShadowFields, f.StandIn line ∧
      (∀ field ∈ f.numbers, ∃ n?, HoldsNumber field n?) ∧
        ∀ n, Text.IsSignedNumeral f.expiry n → 0 < n →
          ∃ d, Date.epoch.later? n.toNat = some d) ∧
      ∀ r, ofLine line = .ok r → ∀ f : ShadowFields, f.StandIn line →
        ∀ today, f.Report today (r.status today) := by
  refine ⟨exists_ofLine_iff, fun r hr f hf today => ?_⟩
  exact report_status ((ofLine_eq_ok_iff hf).mp hr) today

/-- A locked account that ends with the year 2023. -/
def endingFields : ShadowFields :=
  ⟨"svc1", "!$6$abc", "19000", "0", "99999", "7", "", "+19723", ""⟩

theorem standIn_ending : endingFields.StandIn " svc1:!$6$abc:19000:0:99999:7::+19723: " :=
  ⟨List.cons_ne_nil _ _, by decide +kernel, by decide⟩

/-- The account is enabled up to the last day of the year, and has its end on the day after. -/
theorem status_is_read_ending :
    ∃ r, ofLine " svc1:!$6$abc:19000:0:99999:7::+19723: " = .ok r ∧
      (r.status ⟨2023, 12, 31, by decide⟩).enabled = true ∧
      (r.status ⟨2024, 1, 1, by decide⟩).enabled = false ∧
      (r.status ⟨2024, 1, 1, by decide⟩).disableDate = some ⟨2024, 1, 1, by decide⟩ := by
  obtain ⟨hrecord, hstatus⟩ := status_is_read " svc1:!$6$abc:19000:0:99999:7::+19723: "
  have hnumbers : ∀ field ∈ endingFields.numbers, ∃ n?, HoldsNumber field n? := by
    have hnumber : ∀ {field : String} (n : Int), Text.readInt64? field = some n →
        ∃ n?, HoldsNumber field n? := fun n h => ⟨some n, Text.readInt64?_eq_some_iff.mp h⟩
    simp only [ShadowFields.numbers, List.forall_mem_cons]
    exact ⟨hnumber 19000 (by decide +kernel), hnumber 0 (by decide +kernel),
      hnumber 99999 (by decide +kernel), hnumber 7 (by decide +kernel), ⟨none, rfl⟩,
      hnumber 19723 (by decide +kernel), nofun⟩
  have hend : HoldsNumber "+19723" (some 19723) :=
    Text.readInt64?_eq_some_iff.mp (by decide +kernel)
  have hlater : Date.epoch.later? 19723 = some ⟨2024, 1, 1, by decide⟩ := by
    rw [← Date.ofDayNumber?_natCast]
    decide +kernel
  obtain ⟨r, hr⟩ : ∃ r, ofLine " svc1:!$6$abc:19000:0:99999:7::+19723: " = .ok r := by
    refine hrecord.mpr ⟨endingFields, standIn_ending, hnumbers, fun n hn _ => ?_⟩
    obtain rfl := Option.some.inj (hend.isSignedNumeral_iff.mp hn)
    exact ⟨_, hlater⟩
  have hreport := hstatus r hr endingFields standIn_ending
  have hdate := ((hreport ⟨2024, 1, 1, by decide⟩).date ⟨2024, 1, 1, by decide⟩).mpr
    ⟨19723, hend.1, by decide, hlater⟩
  refine ⟨r, hr, ?_, ?_, hdate⟩
  · exact (hreport _).enabled.mpr (.inr ⟨19723, hend.1, .inr (by decide)⟩)
  · refine Bool.eq_false_iff.mpr fun henabled => ?_
    exact Date.not_isBefore_self _ ((hreport _).inTime.mp henabled _ hdate)

end ShadowRow

end HostAccounts.Database
