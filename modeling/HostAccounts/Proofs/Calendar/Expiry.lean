import HostAccounts.Calendar.Expiry
import HostAccounts.Proofs.Calendar.Date
import HostAccounts.Proofs.Text.Blank
import HostAccounts.Proofs.Text.Numeral

/-!
# Written dates and expiries

A date is read back from the way it is written, whatever its year; and so is the expiry that a host
stores for it, by its day number. Main statements: `Date.ofRequest_written`,
`Expiry.ofField_toString`.
-/

set_option autoImplicit false

namespace HostAccounts

/-! ## Written dates -/

namespace Date

/-- A number is over where this begins. -/
def EndsNumber (rest : List Char) : Prop :=
  ∀ c ∈ rest.head?, c.isDigit = false

theorem endsNumber_nil : EndsNumber [] :=
  nofun

theorem endsNumber_hyphen (rest : List Char) : EndsNumber ('-' :: rest) := by
  intro c hc
  obtain rfl : '-' = c := by simpa using hc
  rfl

/-- Digits are taken as a number, if they are not too many. -/
theorem takeNumber?_append {width : Option Nat} {digits rest : List Char}
    (hdigits : ∀ c ∈ digits, c.isDigit = true) (hwidth : ∀ w ∈ width, digits.length ≤ w)
    (hrest : EndsNumber rest) :
    takeNumber? width (digits ++ rest) = (Text.digits? 10 digits).map fun n => (n, rest) := by
  have hrun : (digits ++ rest).takeWhile Char.isDigit = digits := by
    rw [List.takeWhile_append_of_pos hdigits]
    cases rest with
    | nil => simp
    | cons c cs =>
      have hc : c.isDigit = false := hrest c rfl
      simp [hc]
  unfold takeNumber?
  rw [hrun]
  cases width with
  | none => simp
  | some w =>
    have htake : digits.take w = digits := List.take_of_length_le (hwidth w rfl)
    simp [htake]

theorem takeNumber?_padded {width : Option Nat} {w n : Nat} {rest : List Char}
    (hwidth : ∀ k ∈ width, (Text.padded w n).toList.length ≤ k) (hrest : EndsNumber rest) :
    takeNumber? width ((Text.padded w n).toList ++ rest) = some (n, rest) := by
  rw [takeNumber?_append (fun c => Text.isDigit_of_mem_padded) hwidth hrest, Text.digits?_padded]
  rfl

/-- A number that is padded to its place is taken from it. -/
theorem takeNumber?_padded_self {w n : Nat} (h : (Nat.toDigits 10 n).length ≤ w)
    {rest : List Char} (hrest : EndsNumber rest) :
    takeNumber? (some w) ((Text.padded w n).toList ++ rest) = some (n, rest) := by
  apply takeNumber?_padded _ hrest
  intro k hk
  cases hk
  exact Nat.le_of_eq (Text.length_padded h)

/-- A digit stands at the beginning of a padded number. -/
theorem exists_padded_append (w n : Nat) (rest : List Char) :
    ∃ c cs, (Text.padded w n).toList ++ rest = c :: cs ∧ c.isDigit = true := by
  cases hdigits : (Text.padded w n).toList with
  | nil =>
    have hread := Text.digits?_padded w n
    rw [hdigits] at hread
    cases hread
  | cons c cs =>
    have hmem : c ∈ (Text.padded w n).toList := by simp [hdigits]
    exact ⟨c, cs ++ rest, rfl, Text.isDigit_of_mem_padded hmem⟩

/-- No blank stands in front of a padded number. -/
theorem dropLeading_padded_append (w n : Nat) (rest : List Char) :
    Text.dropLeading Text.isBlank ((Text.padded w n).toList ++ rest) =
      (Text.padded w n).toList ++ rest := by
  obtain ⟨c, cs, hcs, hc⟩ := exists_padded_append w n rest
  rw [hcs]
  simp [Text.dropLeading, Text.isBlank_of_isDigit hc]

/-- A year without a sign is read back. -/
theorem takeYear?_padded {n : Nat} (h : n < 10000) {rest : List Char} (hrest : EndsNumber rest) :
    takeYear? ((Text.padded 4 n).toList ++ rest) = some ((n : Int), rest) := by
  obtain ⟨c, cs, hcs, hc⟩ := exists_padded_append 4 n rest
  have hdigits : (Nat.toDigits 10 n).length ≤ 4 :=
    (Nat.length_toDigits_le_iff (by decide) (by decide)).mpr h
  unfold takeYear?
  rw [dropLeading_padded_append]
  split
  · next hsign =>
    rw [hcs] at hsign
    cases hsign
    cases hc
  · next hsign =>
    rw [hcs] at hsign
    cases hsign
    cases hc
  · rw [takeNumber?_padded_self hdigits hrest]
    rfl

/-- A year is read back, with its sign if it has one. -/
theorem takeYear?_yearText (year : Int) {rest : List Char} (hrest : EndsNumber rest) :
    takeYear? ((yearText year).toList ++ rest) = some (year, rest) := by
  have hread : takeNumber? none ((Text.padded 4 year.natAbs).toList ++ rest) =
      some (year.natAbs, rest) := takeNumber?_padded nofun hrest
  unfold yearText
  split
  · next hplain =>
    rw [takeYear?_padded (by omega) hrest, Int.toNat_of_nonneg hplain.1]
  · split
    · have hminus : ("-" ++ Text.padded 4 year.natAbs).toList ++ rest =
          '-' :: ((Text.padded 4 year.natAbs).toList ++ rest) := by simp
      have hyear : -Int.ofNat year.natAbs = year := by
        rw [Int.ofNat_eq_natCast]
        omega
      have hskip : ∀ cs, Text.dropLeading Text.isBlank ('-' :: cs) = '-' :: cs := fun _ => rfl
      simp only [takeYear?, hminus, hskip, hread, Option.map_some, hyear]
    · have hplus : ("+" ++ Text.padded 4 year.natAbs).toList ++ rest =
          '+' :: ((Text.padded 4 year.natAbs).toList ++ rest) := by simp
      have hyear : Int.ofNat year.natAbs = year := by
        rw [Int.ofNat_eq_natCast]
        omega
      have hskip : ∀ cs, Text.dropLeading Text.isBlank ('+' :: cs) = '+' :: cs := fun _ => rfl
      simp only [takeYear?, hplus, hskip, hread, Option.map_some, hyear]

/-- A month or a day is read back. -/
theorem takePart?_padded {n : Nat} (h : n < 100) {rest : List Char} (hrest : EndsNumber rest) :
    takePart? ('-' :: ((Text.padded 2 n).toList ++ rest)) = some (n, rest) := by
  have hdigits : (Nat.toDigits 10 n).length ≤ 2 :=
    (Nat.length_toDigits_le_iff (by decide) (by decide)).mpr h
  rw [takePart?, dropLeading_padded_append, takeNumber?_padded_self hdigits hrest]

/-- Two digits are enough for a month and for a day. -/
theorem lt_of_isDate {year : Int} {month day : Nat} (h : IsDate year month day) :
    month < 100 ∧ day < 100 := by
  obtain ⟨-, -, hday, hlast⟩ := h
  have hmonth : month ≤ 12 ∧ daysInMonth year month ≤ 31 := by
    unfold daysInMonth at hlast ⊢
    split at hlast <;> first | omega | (split <;> omega)
  omega

theorem toList_written (d : Date) :
    d.written.toList = (yearText d.year).toList ++
      '-' :: ((Text.padded 2 d.month).toList ++ '-' :: ((Text.padded 2 d.day).toList ++ [])) := by
  simp [written]

/-- Every date is read back from the way it is written. -/
theorem ofWritten?_written (d : Date) : ofWritten? d.written = some d := by
  obtain ⟨hmonth, hday⟩ := lt_of_isDate d.isDate
  have hyear := takeYear?_yearText d.year (endsNumber_hyphen
    ((Text.padded 2 d.month).toList ++ '-' :: ((Text.padded 2 d.day).toList ++ [])))
  have hparts := takePart?_padded hmonth (endsNumber_hyphen ((Text.padded 2 d.day).toList ++ []))
  rw [ofWritten?, toList_written, hyear]
  simp only [Option.bind_eq_bind, Option.bind_some, hparts, takePart?_padded hday endsNumber_nil]
  exact ofParts?_parts d

/-- A written date has no blanks around it. -/
theorem trim_written (d : Date) : Text.trim d.written = d.written := by
  refine Text.trim_eq_self ?_ ?_
  · rw [toList_written]
    unfold yearText
    split
    · obtain ⟨c, cs, hcs, hc⟩ := exists_padded_append 4 d.year.toNat
        ('-' :: ((Text.padded 2 d.month).toList ++ '-' :: ((Text.padded 2 d.day).toList ++ [])))
      rw [hcs]
      intro c' hc'
      obtain rfl : c = c' := by simpa using hc'
      exact Text.isBlank_of_isDigit hc
    · intro c hc
      split at hc
      · obtain rfl : '-' = c := by simpa using hc
        rfl
      · obtain rfl : '+' = c := by simpa using hc
        rfl
  · intro c hc
    obtain ⟨first, more, hday, -⟩ := exists_padded_append 2 d.day []
    have hend : d.written.toList = ((yearText d.year).toList ++
        '-' :: ((Text.padded 2 d.month).toList ++ ['-'])) ++ first :: more := by
      rw [toList_written, hday]
      simp
    have hlast : (first :: more).getLast? = some c := by
      rw [hend, List.getLast?_append] at hc
      simpa [List.getLast?_cons] using hc
    have hmem : c ∈ (Text.padded 2 d.day).toList ++ [] := hday ▸ List.mem_of_getLast? hlast
    rw [List.append_nil] at hmem
    exact Text.isBlank_of_isDigit (Text.isDigit_of_mem_padded hmem)

/-- The date is what is asked for when it is written. -/
theorem ofRequest_written (d : Date) : ofRequest d.written = .ok d := by
  simp only [ofRequest, trim_written, ofWritten?_written]

end Date

/-! ## Stored expiries -/

namespace Expiry

/-- An end has a day number that the host can store, and by which it is found. -/
theorem ofField_eq_on {field : String} {d : Date} (h : ofField field = .ok (.on d)) :
    0 < d.dayNumber ∧ Text.inInt64 d.dayNumber = true ∧
      Date.ofDayNumber? d.dayNumber = some d := by
  unfold ofField at h
  split at h
  · cases h
  split at h
  · next days hread =>
    have hrange : Text.inInt64 days = true := (Option.filter_eq_some_iff.mp hread).2
    unfold ofDays at h
    split at h
    · cases h
    · next hpositive =>
      split at h
      · next found hfound =>
        cases h
        rw [Date.dayNumber_of_ofDayNumber? hfound]
        exact ⟨by omega, hrange, hfound⟩
      · cases h
  · cases h

/-- The end is read back from its day number. -/
theorem ofField_toString {field : String} {d : Date} (h : ofField field = .ok (.on d)) :
    ofField (toString d.dayNumber) = .ok (.on d) := by
  obtain ⟨hpositive, hrange, hfound⟩ := ofField_eq_on h
  obtain ⟨n, hn⟩ := Int.eq_ofNat_of_zero_le (Int.le_of_lt hpositive)
  rw [hn] at hpositive hrange hfound ⊢
  have htext : toString (n : Int) = toString n := rfl
  have hwritten : (toString n).isEmpty = false := by
    rw [Nat.toString_eq_ofList_toDigits]
    simp [Nat.toDigits_ne_nil]
  have hday : ¬ (n : Int) ≤ 0 := by omega
  have hread : Text.readInt64? (toString (n : Int)) = some (n : Int) :=
    Text.readInt64?_eq_some_iff.mpr ⟨Text.isSignedNumeral_toString n, hrange⟩
  rw [ofField, hread, htext, hwritten, if_neg Bool.false_ne_true]
  simp only [ofDays, if_neg hday, hfound]

end Expiry

end HostAccounts
