import HostAccounts.Proofs.Calendar.Expiry

/-!
# Day counts

A date on which an account is to end can be given by its day number instead. No such number reads
like a date, so the two notations do not get in each other's way; but a host takes a number for an
end only from one on, and dates are accepted whenever they are. Main statements:
`Date.ofWritten?_of_isCount`, `Date.ofRequest_toString_iff`, `Expiry.ofDays_days_iff`.
-/

set_option autoImplicit false

namespace HostAccounts

/-! ## Numerals -/

namespace Text

/-- The text is a row of digits, with or without a sign in front of it. -/
def IsCount (s : String) : Prop :=
  ∃ sign digits, s.toList = sign ++ digits ∧ sign ∈ [[], ['+'], ['-']] ∧ digits ≠ [] ∧
    ∀ c ∈ digits, c.isDigit = true

theorem IsSignedNumeral.isCount {s : String} {n : Int} (h : IsSignedNumeral s n) : IsCount s := by
  obtain ⟨sign, digits, hs, hne, hdigits, ⟨hsign, -⟩ | ⟨rfl, -⟩⟩ := h
  · exact ⟨sign, digits, hs, List.mem_append_left [['-']] hsign, hne, hdigits⟩
  · exact ⟨['-'], digits, hs, by simp, hne, hdigits⟩

/-- No blank stands in front of a count or behind it. -/
theorem trim_of_isCount {s : String} (h : IsCount s) : trim s = s := by
  obtain ⟨sign, digits, hs, hsign, hne, hdigits⟩ := h
  have hplain : ∀ c ∈ s.toList, isBlank c = false := by
    intro c hc
    rw [hs, List.mem_append] at hc
    rcases hc with hc | hc
    · simp only [List.mem_cons, List.not_mem_nil, or_false] at hsign
      rcases hsign with rfl | rfl | rfl
      · cases hc
      · rw [List.mem_singleton.mp hc]
        rfl
      · rw [List.mem_singleton.mp hc]
        rfl
    · exact isBlank_of_isDigit (hdigits c hc)
  exact trim_eq_self (fun c hc => hplain c (List.mem_of_mem_head? hc))
    fun c hc => hplain c (List.mem_of_getLast? hc)

end Text

/-! ## Counts and dates -/

namespace Date

/-- What follows a number that is taken from digits is digits again. -/
theorem isDigit_of_takeNumber? {width : Option Nat} {cs rest : List Char} {n : Nat}
    (hcs : ∀ c ∈ cs, c.isDigit = true) (h : takeNumber? width cs = some (n, rest)) :
    ∀ c ∈ rest, c.isDigit = true := by
  obtain ⟨m, -, hm⟩ := Option.map_eq_some_iff.mp h
  obtain ⟨-, rfl⟩ := Prod.mk.inj hm
  exact fun c hc => hcs c (List.mem_of_mem_drop hc)

/-- Where digits follow, no part of a date does. -/
theorem takePart?_digits {cs : List Char} (h : ∀ c ∈ cs, c.isDigit = true) :
    takePart? cs = none := by
  unfold takePart?
  split
  · next rest =>
    have hhyphen : '-'.isDigit = true := h '-' (List.mem_cons_self ..)
    cases hhyphen
  · rfl

/-- The year is taken from the digits of a count, which may be more than belong to it. -/
theorem exists_takeYear?_of_count {sign digits : List Char} (hsign : sign ∈ [[], ['+'], ['-']])
    (hne : digits ≠ []) (hdigits : ∀ c ∈ digits, c.isDigit = true) :
    ∃ (width : Option Nat) (f : Nat → Int), takeYear? (sign ++ digits) =
      (takeNumber? width digits).map fun (n, rest) => (f n, rest) := by
  simp only [List.mem_cons, List.not_mem_nil, or_false] at hsign
  rcases hsign with rfl | rfl | rfl
  · obtain ⟨c, cs, rfl⟩ := List.exists_cons_of_ne_nil hne
    have hc : c.isDigit = true := hdigits c (List.mem_cons_self ..)
    have hskip : Text.dropLeading Text.isBlank (c :: cs) = c :: cs := by
      simp [Text.dropLeading, Text.isBlank_of_isDigit hc]
    refine ⟨some 4, Int.ofNat, ?_⟩
    unfold takeYear?
    rw [List.nil_append, hskip]
    split
    · next heq =>
      rw [List.head_eq_of_cons_eq heq] at hc
      cases hc
    · next heq =>
      rw [List.head_eq_of_cons_eq heq] at hc
      cases hc
    · rfl
  · exact ⟨none, Int.ofNat, rfl⟩
  · exact ⟨none, fun n => -Int.ofNat n, rfl⟩

/-- No count reads like a date. -/
theorem ofWritten?_of_isCount {s : String} (h : Text.IsCount s) : ofWritten? s = none := by
  obtain ⟨sign, digits, hs, hsign, hne, hdigits⟩ := h
  obtain ⟨width, f, hyear⟩ := exists_takeYear?_of_count hsign hne hdigits
  unfold ofWritten?
  rw [hs, hyear]
  cases htake : takeNumber? width digits with
  | none => rfl
  | some found =>
    have hnone : takePart? found.2 = none :=
      takePart?_digits (isDigit_of_takeNumber? (n := found.1) hdigits htake)
    simp [hnone]

/-- The day numbers of all dates can be stored. -/
theorem inInt64_dayNumber (d : Date) : Text.inInt64 d.dayNumber = true := by
  have hbounds := d.dayNumber_bounds
  rw [Text.inInt64, Bool.and_eq_true, decide_eq_true_eq, decide_eq_true_eq]
  omega

end Date

/-! ## Accepted dates -/

/-- A day number is that of an end from one on, if there is a date for it. -/
theorem Expiry.ofDays_eq_on_iff {n : Int} {d : Date} :
    ofDays n = .ok (.on d) ↔ 0 < n ∧ Date.ofDayNumber? n = some d := by
  unfold ofDays
  split
  · next hn =>
    constructor
    · intro h
      cases h
    · rintro ⟨hpositive, -⟩
      omega
  · next hn =>
    have hpositive : 0 < n := by omega
    cases Date.ofDayNumber? n with
    | none => simp
    | some found => simp [hpositive]

/-- A day number is read back from a date as that of an end, or means that there is none. -/
theorem Expiry.ofDays_days (d : Date) :
    ofDays (on d).days = .ok (if d.IsAfterEpoch then .on d else .never) := by
  have hdays : (on d).days = d.dayNumber := rfl
  rw [hdays]
  split
  · next hafter =>
    exact ofDays_eq_on_iff.mpr ⟨d.dayNumber_pos_iff.mpr hafter, d.ofDayNumber?_dayNumber⟩
  · next hafter =>
    have hn : d.dayNumber ≤ 0 := by
      have hnot := mt d.dayNumber_pos_iff.mp hafter
      omega
    rw [ofDays, if_pos hn]

/-- A text asks for the date that it reads like, or for the one with the day number that it is. -/
theorem Date.ofRequest_eq_ok_iff {v : String} {d : Date} :
    ofRequest v = .ok d ↔ ofWritten? (Text.trim v) = some d ∨
      ∃ n, Text.readInt64? (Text.trim v) = some n ∧ Expiry.ofDays n = .ok (.on d) := by
  unfold ofRequest
  cases hwritten : ofWritten? (Text.trim v) with
  | some found =>
    -- What reads like a date is no count.
    have hcount : Text.readInt64? (Text.trim v) = none := by
      refine Option.eq_none_iff_forall_ne_some.mpr fun n hn => ?_
      rw [ofWritten?_of_isCount (Text.readInt64?_eq_some_iff.mp hn).1.isCount] at hwritten
      cases hwritten
    simp [hwritten, hcount]
  | none =>
    cases hcount : Text.readInt64? (Text.trim v) with
    | none => simp [hwritten, hcount]
    | some n => cases hdays : Expiry.ofDays n with
      | error defect => simp [hwritten, hcount, hdays]
      | ok e => cases e <;> simp [hwritten, hcount, hdays]

/-- To ask for a date by its day number is to ask for it, if the number is that of an end. -/
theorem Date.ofRequest_of_isSignedNumeral {s : String} {n : Int} (h : Text.IsSignedNumeral s n)
    {d : Date} : ofRequest s = .ok d ↔ 0 < n ∧ ofDayNumber? n = some d := by
  rw [ofRequest_eq_ok_iff, Text.trim_of_isCount h.isCount, ofWritten?_of_isCount h.isCount,
    Text.readInt64?_of_isSignedNumeral h]
  constructor
  · rintro (hnone | ⟨m, hm, hdays⟩)
    · cases hnone
    · obtain rfl := Option.some.inj (Option.filter_eq_some_iff.mp hm).1
      exact Expiry.ofDays_eq_on_iff.mp hdays
  · rintro ⟨hpositive, hfound⟩
    have hrange : Text.inInt64 n = true := dayNumber_of_ofDayNumber? hfound ▸ d.inInt64_dayNumber
    exact .inr ⟨n, Option.filter_eq_some_iff.mpr ⟨rfl, hrange⟩,
      Expiry.ofDays_eq_on_iff.mpr ⟨hpositive, hfound⟩⟩

theorem Date.ofRequest_toString_iff {n : Int} {d : Date} :
    ofRequest (toString n) = .ok d ↔ 0 < n ∧ ofDayNumber? n = some d :=
  ofRequest_of_isSignedNumeral (Text.isSignedNumeral_toString n)

namespace Expiry

/-- An accepted date is read back from what the host stores for it exactly if it comes after the
first of January 1970. It is accepted whichever day it is, but by its day number exactly from then
on; so only what reads like a date can be accepted and not be read back. -/
theorem ofDays_days_iff {v : String} {d : Date} (h : Date.ofRequest v = .ok d) :
    (ofDays (on d).days = .ok (.on d) ↔ d.IsAfterEpoch) ∧
      ((∃ d', Date.ofRequest (toString d.dayNumber) = .ok d') ↔ d.IsAfterEpoch) ∧
      (Text.IsCount (Text.trim v) → d.IsAfterEpoch) := by
  refine ⟨?_, ?_, fun hcount => ?_⟩
  · rw [ofDays_days]
    split <;> simp_all
  · rw [← Date.dayNumber_pos_iff]
    constructor
    · rintro ⟨d', hd'⟩
      exact (Date.ofRequest_toString_iff.mp hd').1
    · exact fun hpositive => ⟨d, Date.ofRequest_toString_iff.mpr
        ⟨hpositive, d.ofDayNumber?_dayNumber⟩⟩
  · rcases Date.ofRequest_eq_ok_iff.mp h with hwritten | ⟨n, -, hdays⟩
    · rw [Date.ofWritten?_of_isCount hcount] at hwritten
      cases hwritten
    · obtain ⟨hpositive, hfound⟩ := ofDays_eq_on_iff.mp hdays
      rw [← Date.dayNumber_pos_iff, Date.dayNumber_of_ofDayNumber? hfound]
      exact hpositive

/-- The leap day of 2024 is accepted, and read back. -/
theorem ofDays_days_iff_leapDay :
    Date.ofRequest " 2024-2-29 " = .ok ⟨2024, 2, 29, by decide⟩ ∧
      ofDays (on ⟨2024, 2, 29, by decide⟩).days = .ok (.on ⟨2024, 2, 29, by decide⟩) := by
  have hrequest : Date.ofRequest " 2024-2-29 " = .ok ⟨2024, 2, 29, by decide⟩ :=
    Date.ofRequest_eq_ok_iff.mpr (.inl (by decide +kernel))
  exact ⟨hrequest, (ofDays_days_iff hrequest).1.mpr (by decide)⟩

/-- The first day that is counted from is accepted, but for a host its number is no end. -/
theorem not_ofDays_days :
    ¬ ∀ (v : String) (d : Date), Date.ofRequest v = .ok d → ofDays (on d).days = .ok (.on d) := by
  intro h
  have hread := h "1970-01-01" ⟨1970, 1, 1, by decide⟩
    (Date.ofRequest_eq_ok_iff.mpr (.inl (by decide +kernel)))
  rw [ofDays_days, if_neg (by decide)] at hread
  cases hread

end Expiry

end HostAccounts
