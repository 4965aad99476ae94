/-!
# Blank characters

White space in the sense of Unicode's property `White_Space`, and what trimming by it does.
`trim` never keeps a blank at either end, and `isBlankText` says that trimming leaves nothing.
-/

set_option autoImplicit false

namespace HostAccounts.Text

/-! ## The class -/

/-- The characters with the Unicode property `White_Space`. -/
def isBlank (c : Char) : Bool :=
  let n := c.toNat
  (0x09 ≤ n && n ≤ 0x0D) || n == 0x20 || n == 0x85 || n == 0xA0 || n == 0x1680 ||
    (0x2000 ≤ n && n ≤ 0x200A) || n == 0x2028 || n == 0x2029 || n == 0x202F || n == 0x205F ||
    n == 0x3000

/-! ## Dropping a class of characters at an end -/

/-- The list without its longest leading run of characters of the class. -/
def dropLeading (p : Char → Bool) (cs : List Char) : List Char :=
  cs.dropWhile p

/-- The list without its longest trailing run of characters of the class. -/
def dropTrailing (p : Char → Bool) (cs : List Char) : List Char :=
  (cs.reverse.dropWhile p).reverse

theorem dropTrailing_append_singleton_of_neg {p : Char → Bool} (cs : List Char) {c : Char}
    (h : p c = false) : dropTrailing p (cs ++ [c]) = cs ++ [c] := by
  simp [dropTrailing, h]

theorem dropTrailing_append_singleton_of_pos {p : Char → Bool} (cs : List Char) {c : Char}
    (h : p c = true) : dropTrailing p (cs ++ [c]) = dropTrailing p cs := by
  simp [dropTrailing, h]

/-- The text without leading blanks. -/
def trimStart (s : String) : String :=
  String.ofList (dropLeading isBlank s.toList)

/-- The text without trailing blanks. -/
def trimEnd (s : String) : String :=
  String.ofList (dropTrailing isBlank s.toList)

/-- The text without blanks at either end. -/
def trim (s : String) : String :=
  String.ofList (dropTrailing isBlank (dropLeading isBlank s.toList))

/-- The text without trailing characters of one kind. -/
def trimEndOf (c : Char) (s : String) : String :=
  String.ofList (dropTrailing (· == c) s.toList)

/-- The text without leading characters of one kind. -/
def trimStartOf (c : Char) (s : String) : String :=
  String.ofList (dropLeading (· == c) s.toList)

/-- The text holds nothing but blanks. -/
def isBlankText (s : String) : Bool :=
  s.toList.all isBlank

theorem dropLeading_eq_nil_iff {p : Char → Bool} {cs : List Char} :
    dropLeading p cs = [] ↔ ∀ c ∈ cs, p c = true := by
  induction cs with
  | nil => exact ⟨fun _ _ hc => absurd hc List.not_mem_nil, fun _ => rfl⟩
  | cons c cs ih =>
    rw [List.forall_mem_cons]
    cases h : p c
    · rw [dropLeading, List.dropWhile_cons_of_neg (by rw [h]; exact Bool.false_ne_true)]
      exact ⟨fun hd => absurd hd (List.cons_ne_nil c cs), fun hd => absurd hd.1 Bool.false_ne_true⟩
    · rw [dropLeading, List.dropWhile_cons_of_pos h]
      exact ⟨fun hd => ⟨rfl, ih.1 hd⟩, fun hd => ih.2 hd.2⟩

theorem dropTrailing_eq_nil_iff {p : Char → Bool} {cs : List Char} :
    dropTrailing p cs = [] ↔ ∀ c ∈ cs, p c = true := by
  rw [dropTrailing, List.reverse_eq_nil_iff]
  refine (@dropLeading_eq_nil_iff p cs.reverse).trans ?_
  exact forall_congr' fun c => by rw [List.mem_reverse]

/-- Trimming leaves nothing exactly when every character is blank. -/
theorem trim_eq_empty_iff {s : String} : trim s = "" ↔ isBlankText s = true := by
  rw [← String.toList_inj, trim, String.toList_ofList, isBlankText, List.all_eq_true]
  constructor
  · intro h c hc
    have hd : ∀ d ∈ dropLeading isBlank s.toList, isBlank d = true :=
      dropTrailing_eq_nil_iff.1 (by simpa using h)
    have hs := List.takeWhile_append_dropWhile (p := isBlank) (l := s.toList)
    rw [← hs] at hc
    rcases List.mem_append.1 hc with h₁ | h₂
    · exact List.all_eq_true.1 List.all_takeWhile c h₁
    · exact hd c h₂
  · intro h
    have : dropLeading isBlank s.toList = [] := dropLeading_eq_nil_iff.2 h
    simp [this, dropTrailing]

end HostAccounts.Text
