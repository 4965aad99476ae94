import HostAccounts.Text.Numeral

/-!
# Numbers and their numerals

A numeral is a row of digits, with a plus sign in front of it or none. That, and a value below the
bound, is all that is read as a number; zeros in front do not count, and the digits that a number is
written with are read as the number. Main statements: `digits?_ten_eq_some_iff`,
`readNat?_eq_some_iff`, `readInt64?_eq_some_iff`.
-/

set_option autoImplicit false

namespace HostAccounts.Text

/-! ## Digits -/

theorem digitValueIn?_ten {c : Char} (h : c.isDigit = true) :
    digitValueIn? 10 c = some (c.toNat - '0'.toNat) := by
  have hvalue : c.toNat - 48 < 10 := by
    have hrange : 48 ≤ c.toNat ∧ c.toNat ≤ 57 := Char.isDigit_iff_toNat.mp h
    omega
  simp [digitValueIn?, h, hvalue]

theorem digitsFrom?_ten {cs : List Char} (h : ∀ c ∈ cs, c.isDigit = true) (n : Nat) :
    digitsFrom? 10 n cs = some (Nat.ofDigitChars 10 cs n) := by
  induction cs generalizing n with
  | nil => rfl
  | cons c cs ih =>
    rw [digitsFrom?, digitValueIn?_ten (h c (List.mem_cons_self ..)), Nat.ofDigitChars_cons]
    exact ih (fun c hc => h c (List.mem_cons_of_mem _ hc)) _

theorem isDigit_of_digitValueIn?_ten {c : Char} {d : Nat} (h : digitValueIn? 10 c = some d) :
    c.isDigit = true := by
  refine Decidable.byContradiction fun hc => ?_
  rw [digitValueIn?, if_neg hc] at h
  obtain ⟨hvalue, hsmall⟩ := Option.filter_eq_some_iff.mp h
  have hlarge : 10 ≤ d := by
    split at hvalue
    · obtain rfl := Option.some.inj hvalue
      exact Nat.le_add_left _ _
    · split at hvalue
      · obtain rfl := Option.some.inj hvalue
        exact Nat.le_add_left _ _
      · cases hvalue
  have hless : d < 10 := of_decide_eq_true hsmall
  omega

theorem isDigit_of_digitsFrom?_ten {cs : List Char} {n m : Nat}
    (h : digitsFrom? 10 n cs = some m) : ∀ c ∈ cs, c.isDigit = true := by
  induction cs generalizing n with
  | nil => exact fun c hc => absurd hc List.not_mem_nil
  | cons c cs ih =>
    rw [digitsFrom?] at h
    split at h
    · next d hd => exact List.forall_mem_cons.mpr ⟨isDigit_of_digitValueIn?_ten hd, ih h⟩
    · cases h

/-- Only rows of digits are read as numbers, and each has the value of its digits. -/
theorem digits?_ten_eq_some_iff {cs : List Char} {n : Nat} :
    digits? 10 cs = some n ↔
      cs ≠ [] ∧ (∀ c ∈ cs, c.isDigit = true) ∧ Nat.ofDigitChars 10 cs 0 = n := by
  rw [digits?]
  split
  · next hempty => simp [List.isEmpty_iff.mp hempty]
  · next hne =>
    have hnil : cs ≠ [] := fun hcs => hne (by rw [hcs]; rfl)
    constructor
    · intro h
      have hdigits := isDigit_of_digitsFrom?_ten h
      exact ⟨hnil, hdigits, Option.some.inj ((digitsFrom?_ten hdigits 0).symm.trans h)⟩
    · rintro ⟨-, hdigits, rfl⟩
      exact digitsFrom?_ten hdigits 0

theorem isDigit_of_digits?_ten {cs : List Char} {n : Nat} (h : digits? 10 cs = some n) :
    cs ≠ [] ∧ ∀ c ∈ cs, c.isDigit = true := by
  obtain ⟨hne, hdigits, -⟩ := digits?_ten_eq_some_iff.mp h
  exact ⟨hne, hdigits⟩

/-! ## Written numbers -/

theorem toList_padded (width n : Nat) :
    (padded width n).toList =
      List.replicate (width - (Nat.toDigits 10 n).length) '0' ++ Nat.toDigits 10 n := by
  simp only [padded, Nat.toString_eq_ofList_toDigits, String.toList_append, String.toList_ofList,
    String.length_ofList]

theorem isDigit_of_mem_padded {width n : Nat} {c : Char} (h : c ∈ (padded width n).toList) :
    c.isDigit = true := by
  rw [toList_padded, List.mem_append] at h
  rcases h with hzero | hdigit
  · rw [(List.mem_replicate.mp hzero).2]
    rfl
  · exact Nat.isDigit_of_mem_toDigits (by decide) (by decide) hdigit

/-- Zeros in front of a number do not count. -/
theorem digits?_padded (width n : Nat) : digits? 10 (padded width n).toList = some n := by
  refine digits?_ten_eq_some_iff.mpr ⟨?_, fun c => isDigit_of_mem_padded, ?_⟩
  · rw [toList_padded]
    simp [Nat.toDigits_ne_nil]
  · rw [toList_padded, Nat.ofDigitChars_append, Nat.ofDigitChars_replicate_zero, Nat.mul_zero,
      Nat.ofDigitChars_ten_toDigits]

/-- A number that is not too long is padded to the width. -/
theorem length_padded {width n : Nat} (h : (Nat.toDigits 10 n).length ≤ width) :
    (padded width n).toList.length = width := by
  rw [toList_padded, List.length_append, List.length_replicate]
  omega

theorem digits?_toString (n : Nat) : digits? 10 (toString n).toList = some n := by
  have hpadded : (toString n).toList = (padded 0 n).toList := by
    rw [toList_padded, Nat.toString_eq_ofList_toDigits, String.toList_ofList]
    simp
  rw [hpadded, digits?_padded]

theorem not_mem_toString {c : Char} (h : c.isDigit = false) (n : Nat) :
    c ∉ (toString n).toList := by
  intro hc
  rw [(digits?_ten_eq_some_iff.mp (digits?_toString n)).2.1 c hc] at h
  cases h

/-! ## Numerals -/

/-- The text is the number in digits, with a plus sign in front of them or none. -/
def IsNumeral (s : String) (n : Nat) : Prop :=
  ∃ sign digits, s.toList = sign ++ digits ∧ sign ∈ [[], ['+']] ∧ digits ≠ [] ∧
    (∀ c ∈ digits, c.isDigit = true) ∧ Nat.ofDigitChars 10 digits 0 = n

theorem isNumeral_toString (n : Nat) : IsNumeral (toString n) n :=
  ⟨[], (toString n).toList, rfl, by simp, digits?_ten_eq_some_iff.mp (digits?_toString n)⟩

/-- Numerals are read as numbers, and nothing else is. -/
theorem readNat?_eq_some_iff {bound n : Nat} {s : String} :
    readNat? bound s = some n ↔ IsNumeral s n ∧ n < bound := by
  unfold readNat?
  rw [Option.filter_eq_some_iff, decide_eq_true_eq]
  refine and_congr_left fun _ => ?_
  split
  · next cs hs =>
    rw [digits?_ten_eq_some_iff]
    constructor
    · exact fun h => ⟨['+'], cs, hs, by simp, h⟩
    · rintro ⟨sign, digits, hsplit, hsign, hne, hdigits, hvalue⟩
      rw [hs] at hsplit
      simp only [List.mem_cons, List.not_mem_nil, or_false] at hsign
      rcases hsign with rfl | rfl
      · -- The sign is no digit.
        rw [List.nil_append] at hsplit
        subst hsplit
        have hplus := hdigits '+' (List.mem_cons_self ..)
        cases hplus
      · cases hsplit
        exact ⟨hne, hdigits, hvalue⟩
  · next hplain =>
    rw [digits?_ten_eq_some_iff]
    constructor
    · exact fun h => ⟨[], s.toList, rfl, by simp, h⟩
    · rintro ⟨sign, digits, hsplit, hsign, h⟩
      simp only [List.mem_cons, List.not_mem_nil, or_false] at hsign
      rcases hsign with rfl | rfl
      · rw [hsplit]
        exact h
      · exact absurd hsplit (hplain digits)

/-! ## Numerals with a sign -/

/-- The text is the number in digits, with a sign in front of them or none. -/
def IsSignedNumeral (s : String) (n : Int) : Prop :=
  ∃ sign digits, s.toList = sign ++ digits ∧ digits ≠ [] ∧ (∀ c ∈ digits, c.isDigit = true) ∧
    (sign ∈ [[], ['+']] ∧ n = Nat.ofDigitChars 10 digits 0 ∨
      sign = ['-'] ∧ n = -Nat.ofDigitChars 10 digits 0)

theorem isSignedNumeral_iff {s : String} {n : Int} :
    IsSignedNumeral s n ↔ ∃ sign digits m, s.toList = sign ++ digits ∧ digits? 10 digits = some m ∧
      (sign ∈ [[], ['+']] ∧ n = Int.ofNat m ∨ sign = ['-'] ∧ n = -Int.ofNat m) := by
  simp only [digits?_ten_eq_some_iff]
  constructor
  · rintro ⟨sign, digits, hs, hne, hdigits, hvalue⟩
    exact ⟨sign, digits, _, hs, ⟨hne, hdigits, rfl⟩, hvalue⟩
  · rintro ⟨sign, digits, -, hs, ⟨hne, hdigits, rfl⟩, hvalue⟩
    exact ⟨sign, digits, hs, hne, hdigits, hvalue⟩

theorem isSignedNumeral_toString (n : Int) : IsSignedNumeral (toString n) n := by
  rw [isSignedNumeral_iff]
  cases n with
  | ofNat m => exact ⟨[], (toString m).toList, m, rfl, digits?_toString m, .inl ⟨by simp, rfl⟩⟩
  | negSucc m =>
    refine ⟨['-'], (toString (m + 1)).toList, m + 1, ?_, digits?_toString (m + 1), .inr ⟨rfl, rfl⟩⟩
    rw [show toString (Int.negSucc m) = "-" ++ toString (m + 1) from rfl, String.toList_append]
    rfl

/-- A numeral is read as its number, if that is in the signed range. -/
theorem readInt64?_of_isSignedNumeral {s : String} {n : Int} (h : IsSignedNumeral s n) :
    readInt64? s = (some n).filter inInt64 := by
  obtain ⟨sign, digits, m, hs, hm, ⟨hsign, rfl⟩ | ⟨rfl, rfl⟩⟩ := isSignedNumeral_iff.mp h
  · simp only [List.mem_cons, List.not_mem_nil, or_false] at hsign
    rcases hsign with rfl | rfl
    · have hdigits := (isDigit_of_digits?_ten hm).2
      unfold readInt64?
      rw [hs, List.nil_append]
      -- A sign is no digit.
      split
      · have hplus := hdigits '+' (List.mem_cons_self ..)
        cases hplus
      · have hminus := hdigits '-' (List.mem_cons_self ..)
        cases hminus
      · rw [hm, Option.map_some]
    · simp only [readInt64?, hs, List.singleton_append, hm, Option.map_some]
  · simp only [readInt64?, hs, List.singleton_append, hm, Option.map_some]

/-- Numerals in the signed range are read as numbers, and nothing else is. -/
theorem readInt64?_eq_some_iff {s : String} {n : Int} :
    readInt64? s = some n ↔ IsSignedNumeral s n ∧ inInt64 n = true := by
  constructor
  · intro h
    obtain ⟨hvalue, hrange⟩ := Option.filter_eq_some_iff.mp h
    refine ⟨isSignedNumeral_iff.mpr ?_, hrange⟩
    split at hvalue
    · next cs hs =>
      obtain ⟨m, hm, rfl⟩ := Option.map_eq_some_iff.mp hvalue
      exact ⟨['+'], cs, m, hs, hm, .inl ⟨by simp, rfl⟩⟩
    · next cs hs =>
      obtain ⟨m, hm, rfl⟩ := Option.map_eq_some_iff.mp hvalue
      exact ⟨['-'], cs, m, hs, hm, .inr ⟨rfl, rfl⟩⟩
    · obtain ⟨m, hm, rfl⟩ := Option.map_eq_some_iff.mp hvalue
      exact ⟨[], s.toList, m, rfl, hm, .inl ⟨by simp, rfl⟩⟩
  · rintro ⟨hs, hrange⟩
    rw [readInt64?_of_isSignedNumeral hs, Option.filter_some, hrange, if_pos rfl]

end HostAccounts.Text
