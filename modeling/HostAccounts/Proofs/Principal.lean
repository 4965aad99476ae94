import HostAccounts.Principal
import HostAccounts.Proofs.Text.Pieces
import HostAccounts.Shell.Quoting

/-!
# Checked names and paths

Which texts pass the checks on names and paths, as two grammars, and what can be relied on where
such a text is put: it is no option, it divides no record and no list, and nothing in it is blank.
Main statements: `checkName_eq_ok_iff`, `checkPath_eq_ok_iff`, `IsPrincipalName.isInert`,
`IsRemotePath.isInert`.
-/

set_option autoImplicit false

namespace HostAccounts

/-! ## The grammars -/

/-- The character is a letter or a digit of the ASCII range. -/
def IsLetterOrDigit (c : Char) : Prop :=
  ('a' ≤ c ∧ c ≤ 'z') ∨ ('A' ≤ c ∧ c ≤ 'Z') ∨ ('0' ≤ c ∧ c ≤ '9')

/-- The text is a name: letters, digits and three signs, and possibly one dollar sign behind them.
It does not begin with a hyphen. -/
structure IsPrincipalName (name : String) : Prop where
  short : name.utf8ByteSize ≤ 32
  written : ∃ body ending : List Char, body ≠ [] ∧
    (∀ c ∈ body, IsLetterOrDigit c ∨ c ∈ ['_', '-', '.']) ∧ (ending = [] ∨ ending = ['$']) ∧
      name.toList = body ++ ending
  start : name.toList.head? ≠ some '-'

/-- The text is an absolute path of letters, digits and a few signs, with no step upwards. -/
structure IsRemotePath (path : String) : Prop where
  short : path.utf8ByteSize ≤ 4096
  start : path.toList.head? = some '/'
  letters : ∀ c ∈ path.toList, IsLetterOrDigit c ∨ c ∈ ['/', '.', '-', '_', '@', '+']
  level : ∀ segments, Text.IsMadeOf '/' path segments → ".." ∉ segments

/-- The text stands for itself wherever it is put: it is read as no option, it holds none of the
separators of the account and group databases, and no blank. -/
structure IsInert (text : String) : Prop where
  ne_empty : text ≠ ""
  operand : text.toList.head? ≠ some '-'
  field : ':' ∉ text.toList
  item : ',' ∉ text.toList
  solid : ∀ c ∈ text.toList, Text.isBlank c = false

/-! ## Characters -/

theorem isAsciiAlphanumeric_iff {c : Char} : isAsciiAlphanumeric c = true ↔ IsLetterOrDigit c := by
  have hclass : isAsciiAlphanumeric c = ((decide ('A'.val ≤ c.val ∧ c.val ≤ 'Z'.val) ||
      (decide ('a'.val ≤ c.val) && decide (c.val ≤ 'z'.val))) ||
        (decide ('0'.val ≤ c.val) && decide (c.val ≤ '9'.val))) := rfl
  rw [hclass]
  simp only [Bool.or_eq_true, Bool.and_eq_true, decide_eq_true_eq]
  rw [or_comm (a := 'A'.val ≤ c.val ∧ _), or_assoc]
  rfl

theorem isNameChar_iff {c : Char} :
    isNameChar c = true ↔ IsLetterOrDigit c ∨ c ∈ ['_', '-', '.'] := by
  simp [isNameChar, isAsciiAlphanumeric_iff, or_assoc]

theorem isPathChar_iff {c : Char} :
    isPathChar c = true ↔ IsLetterOrDigit c ∨ c ∈ ['/', '.', '-', '_', '@', '+'] := by
  simp [isPathChar, isAsciiAlphanumeric_iff]

theorem IsLetterOrDigit.isBlank_eq_false {c : Char} (h : IsLetterOrDigit c) :
    Text.isBlank c = false := by
  have hrange : 48 ≤ c.toNat ∧ c.toNat ≤ 122 := by
    have h' : (97 ≤ c.toNat ∧ c.toNat ≤ 122) ∨ (65 ≤ c.toNat ∧ c.toNat ≤ 90) ∨
        (48 ≤ c.toNat ∧ c.toNat ≤ 57) := h
    omega
  simp only [Text.isBlank, Bool.or_eq_false_iff, Bool.and_eq_false_iff, decide_eq_false_iff_not,
    beq_eq_false_iff_ne]
  omega

theorem isBlank_eq_false {signs : List Char} (hsigns : (signs.any Text.isBlank) = false)
    {c : Char} (h : IsLetterOrDigit c ∨ c ∈ signs) : Text.isBlank c = false := by
  rcases h with hletter | hsign
  · exact hletter.isBlank_eq_false
  · exact Bool.eq_false_iff.mpr (List.any_eq_false.mp hsigns c hsign)

/-- A text without blanks that is not empty is no blank text. -/
theorem isBlankText_eq_false {text : String} (hne : text ≠ "")
    (hsolid : ∀ c ∈ text.toList, Text.isBlank c = false) : Text.isBlankText text = false := by
  obtain ⟨c, rest, htext⟩ := List.exists_cons_of_ne_nil (mt String.toList_eq_nil_iff.mp hne)
  have hc : Text.isBlank c = false := hsolid c (htext ▸ List.mem_cons_self ..)
  rw [Text.isBlankText, htext, List.all_cons, hc, Bool.false_and]

/-! ## Names -/

namespace IsPrincipalName

variable {name : String}

/-- The characters of a name, the one at its end among them. -/
theorem of_mem (h : IsPrincipalName name) {c : Char} (hc : c ∈ name.toList) :
    IsLetterOrDigit c ∨ c ∈ ['_', '-', '.', '$'] := by
  obtain ⟨body, ending, -, hbody, hending, hname⟩ := h.written
  rw [hname] at hc
  rcases List.mem_append.mp hc with hc | hc
  · exact (hbody c hc).imp_right fun hsign => List.mem_append_left ['$'] hsign
  · rcases hending with rfl | rfl
    · cases hc
    · exact .inr (List.mem_append_right ['_', '-', '.'] hc)

/-- A name begins with one of the characters of its body. -/
theorem exists_start (h : IsPrincipalName name) :
    ∃ c rest, name.toList = c :: rest ∧ isNameChar c = true := by
  obtain ⟨body, ending, hne, hbody, -, hname⟩ := h.written
  obtain ⟨c, rest, rfl⟩ := List.exists_cons_of_ne_nil hne
  exact ⟨c, rest ++ ending, hname, isNameChar_iff.mpr (hbody c (List.mem_cons_self ..))⟩

/-- No other character stands in a name. -/
theorem not_mem (h : IsPrincipalName name) {c : Char} (hc : isNameChar c = false)
    (hdollar : c ≠ '$') : c ∉ name.toList := by
  intro hmem
  refine Bool.eq_false_iff.mp hc (isNameChar_iff.mpr ((h.of_mem hmem).imp_right fun hsign => ?_))
  exact (List.mem_append.mp hsign : c ∈ ['_', '-', '.'] ∨ c ∈ ['$']).resolve_right fun hend =>
    hdollar (List.mem_singleton.mp hend)

theorem slash_not_mem (h : IsPrincipalName name) : '/' ∉ name.toList :=
  h.not_mem rfl (by decide)

theorem isInert (h : IsPrincipalName name) : IsInert name where
  ne_empty := by
    obtain ⟨c, rest, hname, -⟩ := h.exists_start
    rintro rfl
    cases hname
  operand := h.start
  field := h.not_mem rfl (by decide)
  item := h.not_mem rfl (by decide)
  solid _ hc := isBlank_eq_false rfl (h.of_mem hc)

end IsPrincipalName

section

variable {field name : String}

theorem nameBody_append {body ending : List Char} (hbody : ∀ c ∈ body, isNameChar c = true)
    (hending : ending = [] ∨ ending = ['$']) : nameBody (body ++ ending) = body := by
  rcases hending with rfl | rfl
  · have hlast : body.getLast? ≠ some '$' := by
      intro hdollar
      have hchar := hbody _ (List.mem_of_getLast? hdollar)
      cases hchar
    rw [List.append_nil, nameBody, if_neg hlast]
  · rw [nameBody, if_pos List.getLast?_concat, List.dropLast_concat]

/-- Behind the body of a name there is one dollar sign or nothing. -/
theorem exists_ending (cs : List Char) :
    ∃ ending, (ending = [] ∨ ending = ['$']) ∧ cs = nameBody cs ++ ending := by
  unfold nameBody
  split
  · next hdollar =>
    obtain ⟨front, rfl⟩ := List.getLast?_eq_some_iff.mp hdollar
    exact ⟨['$'], .inr rfl, by rw [List.dropLast_concat]⟩
  · exact ⟨[], .inl rfl, (List.append_nil cs).symm⟩

/-- What a name is checked for, one after the other. -/
theorem checkName_eq_ok_iff_and : checkName field name = .ok () ↔
    Text.isBlankText name = false ∧ name.utf8ByteSize ≤ nameLimit ∧
      (nameBody name.toList ≠ [] ∧ ∀ c ∈ nameBody name.toList, isNameChar c = true) ∧
        name.toList.head? ≠ some '-' := by
  have hbody : (nameBody name.toList ≠ [] ∧ ∀ c ∈ nameBody name.toList, isNameChar c = true) ↔
      ((nameBody name.toList).isEmpty || !(nameBody name.toList).all isNameChar) = false := by
    rw [Bool.or_eq_false_iff, List.isEmpty_eq_false_iff, Bool.not_eq_false', List.all_eq_true]
  rw [hbody, ← Nat.not_lt, checkName]
  grind

/-- The check of a name accepts what is written like one, and nothing else. -/
theorem checkName_eq_ok_iff : checkName field name = .ok () ↔ IsPrincipalName name := by
  rw [checkName_eq_ok_iff_and]
  constructor
  · rintro ⟨-, hshort, ⟨hne, hbody⟩, hstart⟩
    obtain ⟨ending, hending, hname⟩ := exists_ending name.toList
    have hletters : ∀ c ∈ nameBody name.toList, IsLetterOrDigit c ∨ c ∈ ['_', '-', '.'] :=
      fun c hc => isNameChar_iff.mp (hbody c hc)
    exact ⟨hshort, ⟨_, ending, hne, hletters, hending, hname⟩, hstart⟩
  · intro h
    obtain ⟨body, ending, hne, hletters, hending, hname⟩ := h.written
    have hbody : ∀ c ∈ body, isNameChar c = true := fun c hc => isNameChar_iff.mpr (hletters c hc)
    refine ⟨isBlankText_eq_false h.isInert.ne_empty h.isInert.solid, h.short, ?_, h.start⟩
    rw [hname, nameBody_append hbody hending]
    exact ⟨hne, hbody⟩

theorem isBlankText_of_checkName (h : checkName field name = .ok ()) :
    Text.isBlankText name = false :=
  (checkName_eq_ok_iff_and.mp h).1

/-- A checked name has a body, which is made of the characters of a name. -/
theorem nameBody_of_checkName (h : checkName field name = .ok ()) :
    nameBody name.toList ≠ [] ∧ ∀ c ∈ nameBody name.toList, isNameChar c = true :=
  (checkName_eq_ok_iff_and.mp h).2.2.1

/-- A checked name holds none of the signs that divide records. -/
theorem not_mem_of_checkName (h : checkName field name = .ok ()) {c : Char}
    (hc : isNameChar c = false) (hdollar : c ≠ '$') : c ∉ name.toList :=
  (checkName_eq_ok_iff.mp h).not_mem hc hdollar

end

/-! ## Paths -/

namespace IsRemotePath

variable {path : String}

theorem not_mem (h : IsRemotePath path) {c : Char} (hc : isPathChar c = false) :
    c ∉ path.toList := by
  intro hmem
  exact Bool.eq_false_iff.mp hc (isPathChar_iff.mpr (h.letters c hmem))

theorem ne_empty (h : IsRemotePath path) : path ≠ "" := by
  rintro rfl
  cases h.start

theorem isInert (h : IsRemotePath path) : IsInert path where
  ne_empty := h.ne_empty
  operand := by simp [h.start]
  field := h.not_mem (by decide)
  item := h.not_mem (by decide)
  solid c hc := isBlank_eq_false rfl (h.letters c hc)

/-- A path is written as it is, without quotes. -/
theorem quote_eq (h : IsRemotePath path) : Shell.quote path = path := by
  have hspecial : ∀ c ∈ path.toList, Shell.isSpecial c = false := by
    intro c hc
    refine Bool.eq_false_iff.mpr fun hbad => ?_
    have hnone : Shell.specialChars.all fun c => !isPathChar c := by decide
    have hpath := List.all_eq_true.mp hnone c (List.contains_iff_mem.mp hbad)
    exact h.not_mem (by simpa using hpath) hc
  refine Shell.quote_of_isPlainWord ?_
  simpa [Shell.isPlainWord, h.ne_empty] using hspecial

end IsRemotePath

/-- The check of a path accepts what is written like one, and nothing else. -/
theorem checkPath_eq_ok_iff {field path : String} :
    checkPath field path = .ok () ↔ IsRemotePath path := by
  have hlevel : (Text.splitOn '/' path).contains ".." = false ↔
      ∀ segments, Text.IsMadeOf '/' path segments → ".." ∉ segments := by
    rw [Bool.eq_false_iff, ne_eq, List.contains_iff_mem]
    simp only [← Text.splitOn_eq_iff, forall_eq']
  have hletters : path.toList.all isPathChar = true ↔
      ∀ c ∈ path.toList, IsLetterOrDigit c ∨ c ∈ ['/', '.', '-', '_', '@', '+'] := by
    simp only [List.all_eq_true, isPathChar_iff]
  have hand : checkPath field path = .ok () ↔ path.utf8ByteSize ≤ pathLimit ∧
      path.toList.head? = some '/' ∧ path.toList.all isPathChar = true ∧
        (Text.splitOn '/' path).contains ".." = false := by
    rw [← Nat.not_lt, checkPath]
    grind
  rw [hand, hlevel, hletters]
  exact ⟨fun ⟨hshort, hstart, hall, hlevel⟩ => ⟨hshort, hstart, hall, hlevel⟩,
    fun h => ⟨h.short, h.start, h.letters, h.level⟩⟩

end HostAccounts
