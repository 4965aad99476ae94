import HostAccounts.Text.Blank

/-!
# Texts and their blanks

A text is blanks, what is left of it without them, and blanks again. What is left is told by its
first and its last character (`IsTrimmed`), so that a text that is put together of such parts is
trimmed by reading them off (`trim_eq`, `trimStart_eq`), and every text is put together so
(`exists_trimmed`).
-/

set_option autoImplicit false

namespace HostAccounts.Text

theorem isBlank_of_isDigit {c : Char} (h : c.isDigit = true) : isBlank c = false := by
  have hrange : 48 ≤ c.toNat ∧ c.toNat ≤ 57 := Char.isDigit_iff_toNat.mp h
  simp only [isBlank, Bool.or_eq_false_iff, Bool.and_eq_false_iff, decide_eq_false_iff_not,
    beq_eq_false_iff_ne]
  omega

theorem dropLeading_eq_self {p : Char → Bool} {cs : List Char} (h : ∀ c ∈ cs.head?, p c = false) :
    dropLeading p cs = cs := by
  cases cs with
  | nil => rfl
  | cons c cs =>
    have hc : p c = false := h c rfl
    simp [dropLeading, hc]

theorem dropTrailing_eq_self {p : Char → Bool} {cs : List Char}
    (h : ∀ c ∈ cs.getLast?, p c = false) : dropTrailing p cs = cs := by
  have hreversed : dropLeading p cs.reverse = cs.reverse :=
    dropLeading_eq_self (by rwa [List.head?_reverse])
  rw [dropTrailing, ← dropLeading, hreversed, List.reverse_reverse]

/-- A text that neither begins nor ends with a blank is left as it is. -/
theorem trim_eq_self {s : String} (hfirst : ∀ c ∈ s.toList.head?, isBlank c = false)
    (hlast : ∀ c ∈ s.toList.getLast?, isBlank c = false) : trim s = s := by
  rw [trim, dropLeading_eq_self hfirst, dropTrailing_eq_self hlast, String.ofList_toList]

theorem dropLeading_append {front : String} (hfront : isBlankText front = true) (cs : List Char) :
    dropLeading isBlank (front.toList ++ cs) = dropLeading isBlank cs :=
  List.dropWhile_append_of_pos (List.all_eq_true.mp hfront)

/-- Blanks around a text do not count. -/
theorem trim_append_append {front back : String} (hfront : isBlankText front = true)
    (hback : isBlankText back = true) (s : String) : trim (front ++ s ++ back) = trim s := by
  have hend : ∀ cs, dropTrailing isBlank (cs ++ back.toList) = dropTrailing isBlank cs := by
    intro cs
    rw [dropTrailing, List.reverse_append, List.dropWhile_append_of_pos, dropTrailing]
    exact fun c hc => List.all_eq_true.mp hback c (List.mem_reverse.mp hc)
  rw [trim, trim, String.toList_append, String.toList_append, List.append_assoc,
    dropLeading_append hfront]
  by_cases hs : dropLeading isBlank s.toList = []
  · -- Nothing but blanks is left of the whole text then.
    have hall : ∀ c ∈ s.toList ++ back.toList, isBlank c = true := fun c hc =>
      (List.mem_append.mp hc).elim (dropLeading_eq_nil_iff.mp hs c) (List.all_eq_true.mp hback c)
    rw [hs, dropLeading_eq_nil_iff.mpr hall]
  · have hkeep : dropLeading isBlank (s.toList ++ back.toList) =
        dropLeading isBlank s.toList ++ back.toList := by
      unfold dropLeading at hs ⊢
      rw [List.dropWhile_append, if_neg (mt List.isEmpty_iff.mp hs)]
    rw [hkeep, hend]

theorem trim_append_back {back : String} (hback : isBlankText back = true) (s : String) :
    trim (s ++ back) = trim s := by
  have hfront : isBlankText "" = true := rfl
  have h := trim_append_append hfront hback s
  rwa [String.empty_append] at h

/-! ## What is left without the blanks -/

/-- No blank stands at the beginning of the text. -/
def BeginsPlain (s : String) : Prop :=
  ∀ c ∈ s.toList.head?, isBlank c = false

/-- No blank stands at the end of the text. -/
def EndsPlain (s : String) : Prop :=
  ∀ c ∈ s.toList.getLast?, isBlank c = false

/-- No blank stands at either end of the text. -/
structure IsTrimmed (s : String) : Prop where
  begins : BeginsPlain s
  ends : EndsPlain s

variable {s t front back : String}

theorem beginsPlain_append (hs : BeginsPlain s) (ht : s = "" → BeginsPlain t) :
    BeginsPlain (s ++ t) := by
  by_cases h : s = ""
  · rw [h, String.empty_append]
    exact ht h
  · intro c hc
    obtain ⟨d, cs, hcs⟩ := List.exists_cons_of_ne_nil (mt String.toList_eq_nil_iff.mp h)
    refine hs c ?_
    rw [String.toList_append, hcs] at hc
    rw [hcs]
    exact hc

theorem BeginsPlain.of_append (h : BeginsPlain (s ++ t)) : BeginsPlain s := by
  intro c hc
  refine h c ?_
  rw [String.toList_append, List.head?_append, Option.mem_def.mp hc]
  rfl

theorem EndsPlain.of_append (h : EndsPlain (s ++ t)) : EndsPlain t := by
  intro c hc
  refine h c ?_
  rw [String.toList_append, List.getLast?_append, Option.mem_def.mp hc]
  rfl

theorem endsPlain_append (ht : EndsPlain t) (hs : t = "" → EndsPlain s) : EndsPlain (s ++ t) := by
  by_cases h : t = ""
  · rw [h, String.append_empty]
    exact hs h
  · intro c hc
    have hne : t.toList ≠ [] := mt String.toList_eq_nil_iff.mp h
    refine ht c ?_
    rw [String.toList_append, List.getLast?_append, List.getLast?_eq_some_getLast hne] at hc
    rwa [List.getLast?_eq_some_getLast hne]

theorem not_mem_of_isBlankText {c : Char} (hc : isBlank c = false) (hs : isBlankText s = true) :
    c ∉ s.toList := by
  intro hmem
  rw [List.all_eq_true.mp hs c hmem] at hc
  cases hc

theorem isTrimmed_singleton_append {c : Char} (hc : isBlank c = false) (hs : EndsPlain s) :
    IsTrimmed (String.singleton c ++ s) where
  begins := by
    intro d hd
    obtain rfl : c = d := by simpa using hd
    exact hc
  ends := endsPlain_append hs fun _ => by
    intro d hd
    obtain rfl : c = d := by simpa using hd
    exact hc

/-- A text of blanks that does not begin with one is empty. -/
theorem BeginsPlain.eq_empty (hs : BeginsPlain s) (hblank : isBlankText s = true) : s = "" := by
  rw [← String.toList_eq_nil_iff, ← List.head?_eq_none_iff, Option.eq_none_iff_forall_ne_some]
  intro c hc
  exact not_mem_of_isBlankText (hs c hc) hblank (List.mem_of_mem_head? hc)

/-- A text of blanks that does not end with one is empty. -/
theorem EndsPlain.eq_empty (hs : EndsPlain s) (hblank : isBlankText s = true) : s = "" := by
  rw [← String.toList_eq_nil_iff, ← List.getLast?_eq_none_iff, Option.eq_none_iff_forall_ne_some]
  intro c hc
  exact not_mem_of_isBlankText (hs c hc) hblank (List.mem_of_getLast? hc)

@[simp] theorem isBlankText_append : isBlankText (s ++ t) = (isBlankText s && isBlankText t) := by
  rw [isBlankText, String.toList_append, List.all_append]
  rfl

/-! ## Trimming a text that is put together -/

theorem trim_eq (hfront : isBlankText front = true) (hs : IsTrimmed s)
    (hback : isBlankText back = true) : trim (front ++ s ++ back) = s := by
  rw [trim_append_append hfront hback, trim_eq_self hs.begins hs.ends]

theorem trimStart_eq (hfront : isBlankText front = true) (hs : BeginsPlain s) :
    trimStart (front ++ s) = s := by
  rw [trimStart, String.toList_append, dropLeading_append hfront, dropLeading_eq_self hs,
    String.ofList_toList]

/-- Blanks and a text that does not begin with one make up every text. -/
theorem exists_beginsPlain (s : String) :
    ∃ front rest, isBlankText front = true ∧ BeginsPlain rest ∧ s = front ++ rest := by
  refine ⟨String.ofList (s.toList.takeWhile isBlank), String.ofList (s.toList.dropWhile isBlank),
    ?_, ?_, ?_⟩
  · rw [isBlankText, String.toList_ofList]
    exact List.all_takeWhile
  · intro c hc
    rw [String.toList_ofList] at hc
    simpa [Option.mem_def.mp hc] using List.head?_dropWhile_not isBlank s.toList
  · rw [← String.ofList_append, List.takeWhile_append_dropWhile, String.ofList_toList]

/-- A text that does not end with a blank and blanks make up every text. -/
theorem exists_endsPlain (s : String) :
    ∃ rest back, isBlankText back = true ∧ EndsPlain rest ∧ s = rest ++ back := by
  obtain ⟨run, rest, hrun, hrest, hs⟩ := exists_beginsPlain (String.ofList s.toList.reverse)
  refine ⟨String.ofList rest.toList.reverse, String.ofList run.toList.reverse, ?_, ?_, ?_⟩
  · rwa [isBlankText, String.toList_ofList, List.all_reverse]
  · intro c hc
    rw [String.toList_ofList, List.getLast?_reverse] at hc
    exact hrest c hc
  · have hcs : s.toList.reverse = run.toList ++ rest.toList := by
      rw [← String.toList_append, ← hs, String.toList_ofList]
    rw [← String.ofList_append, ← List.reverse_append, ← hcs, List.reverse_reverse,
      String.ofList_toList]

/-- Every text is a trimmed one between blanks. -/
theorem exists_trimmed (s : String) : ∃ front body back,
    isBlankText front = true ∧ IsTrimmed body ∧ isBlankText back = true ∧
      s = front ++ body ++ back := by
  obtain ⟨front, rest, hfront, hrest, rfl⟩ := exists_beginsPlain s
  obtain ⟨body, back, hback, hbody, rfl⟩ := exists_endsPlain rest
  exact ⟨front, body, back, hfront, ⟨hrest.of_append, hbody⟩, hback, (String.append_assoc ..).symm⟩

end HostAccounts.Text
