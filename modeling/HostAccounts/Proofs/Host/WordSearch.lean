import HostAccounts.Proofs.Recipe.PasswordRecord
import Mathlib.Data.List.Forall2

/-!
# Searches for words

What `grep -w` prints: the lines of its input in which a pattern stands as a word. Patterns are
basic regular expressions without stars, brackets, backslashes and carets. A letter stands for
itself, a dot for any character, and a dollar sign at the end for the end of the line. Main
statements: `LinePattern.finds_iff`, which says where a pattern is found, and
`LinePattern.read?_append`, which says what a name is as a pattern.
-/

set_option autoImplicit false

namespace HostAccounts

/-! ## Words -/

/-- What a host takes for letters. Of the ASCII characters these are the ASCII letters. -/
structure Alphabet where
  isLetter : Char → Bool
  isLetter_ascii : ∀ c : Char, c.toNat < 128 → isLetter c = c.isAlpha

namespace Alphabet

/-- The alphabet of a host without a language. -/
def ascii : Alphabet :=
  ⟨Char.isAlpha, fun _ _ => rfl⟩

/-- The characters of words. -/
def isWordChar (A : Alphabet) (c : Char) : Bool :=
  A.isLetter c || c.isDigit || c == '_'

/-- The signs that divide a group row, and what may end it, belong to no word. -/
theorem isWordChar_eq_false (A : Alphabet) {c : Char} (h : c ∈ [':', ',', '\r']) :
    A.isWordChar c = false := by
  have hascii : c.toNat < 128 ∧ c.isAlpha = false ∧ c.isDigit = false ∧ c ≠ '_' := by
    simp only [List.mem_cons, List.not_mem_nil, or_false] at h
    rcases h with rfl | rfl | rfl <;> decide
  simp [isWordChar, A.isLetter_ascii c hascii.1, hascii.2]

end Alphabet

/-! ## Patterns -/

/-- What one character of a pattern stands for. -/
inductive Atom where
  | char (c : Char)
  | any
  deriving DecidableEq, Repr

namespace Atom

/-- The atom stands for the character. -/
def fits : Atom → Char → Bool
  | char d, c => d == c
  | any, _ => true

/-- What a character stands for that has no other meaning in a pattern than a dot has. -/
def ofChar (c : Char) : Atom :=
  if c = '.' then any else char c

theorem fits_ofChar_iff {c d : Char} : (ofChar c).fits d = true ↔ c = '.' ∨ c = d := by
  unfold ofChar
  split
  · next hdot => simp [fits, hdot]
  · next hdot => simp [fits, hdot]

end Atom

/-- What is looked for in a line, and whether the line must end behind it. -/
structure LinePattern where
  atoms : List Atom
  atEnd : Bool
  deriving DecidableEq, Repr

namespace LinePattern

/-- The characters that make more of a pattern than is read here, or divide it. -/
def foreignChars : List Char :=
  "*[\\^\n".toList

/-- A character that makes more of a pattern than is read here, or divides it. -/
def isForeign (c : Char) : Bool :=
  foreignChars.contains c

/-- Reads a pattern. -/
def read? : List Char → Option LinePattern
  | [] => some ⟨[], false⟩
  | ['$'] => some ⟨[], true⟩
  | c :: cs =>
    if isForeign c then none else (read? cs).map fun p => ⟨.ofChar c :: p.atoms, p.atEnd⟩

/-- Characters that mean nothing else are read one by one, and the dollar sign behind them as the
end of the line. -/
theorem read?_append {cs : List Char} (h : ∀ c ∈ cs, isForeign c = false ∧ c ≠ '$')
    (dollar : Bool) :
    read? (cs ++ if dollar then ['$'] else []) = some ⟨cs.map .ofChar, dollar⟩ := by
  induction cs with
  | nil => cases dollar <;> rfl
  | cons c cs ih =>
    obtain ⟨⟨hforeign, hdollar⟩, hrest⟩ := List.forall_mem_cons.mp h
    rw [List.cons_append, read?, ih hrest]
    · simp [hforeign]
    · intro hc
      exact absurd hc hdollar

/-- What stands behind the front of a text that fits the atoms. -/
def behind? : List Atom → List Char → Option (List Char)
  | [], cs => some cs
  | _ :: _, [] => none
  | a :: as, c :: cs => if a.fits c then behind? as cs else none

theorem behind?_eq_some_iff {as : List Atom} {cs back : List Char} :
    behind? as cs = some back ↔
      ∃ part, cs = part ++ back ∧ List.Forall₂ (fun a c => a.fits c = true) as part := by
  induction as generalizing cs with
  | nil => simp [behind?, List.forall₂_nil_left_iff]
  | cons a as ih =>
    cases cs with
    | nil =>
      constructor
      · intro h
        cases h
      · rintro ⟨part, hpart, hfits⟩
        obtain ⟨rfl, -⟩ := List.append_eq_nil_iff.mp hpart.symm
        cases hfits
    | cons c cs =>
      rw [behind?]
      constructor
      · intro h
        split at h
        · next hc =>
          obtain ⟨part, rfl, hfits⟩ := ih.mp h
          exact ⟨c :: part, rfl, .cons hc hfits⟩
        · cases h
      · rintro ⟨part, hpart, hfits⟩
        cases hfits with
        | cons hc hrest =>
          obtain ⟨rfl, rfl⟩ := List.cons.inj hpart
          rw [if_pos hc]
          exact ih.mpr ⟨_, rfl, hrest⟩

variable (A : Alphabet) (p : LinePattern)

/-- The part fits the pattern, and is a word between what stands in front of it and behind. -/
structure Stands (front part back : List Char) : Prop where
  fits : List.Forall₂ (fun a c => a.fits c = true) p.atoms part
  ends : p.atEnd = true → back = []
  opened : ∀ c ∈ front.getLast?, A.isWordChar c = false
  closed : ∀ c ∈ back.head?, A.isWordChar c = false

/-- A word that fits the pattern begins behind the front. -/
def begins (front rest : List Char) : Bool :=
  match behind? p.atoms rest with
  | some back =>
    (!p.atEnd || back.isEmpty) && front.getLast?.all (fun c => !A.isWordChar c) &&
      back.head?.all fun c => !A.isWordChar c
  | none => false

/-- The pattern is found in the line. -/
def finds (line : List Char) : Bool :=
  (List.range (line.length + 1)).any fun n => p.begins A (line.take n) (line.drop n)

variable {A p}

theorem begins_iff {front rest : List Char} :
    p.begins A front rest = true ↔
      ∃ part back, rest = part ++ back ∧ p.Stands A front part back := by
  unfold begins
  constructor
  · intro h
    split at h
    · next back hback =>
      obtain ⟨part, hrest, hfits⟩ := behind?_eq_some_iff.mp hback
      simp only [Bool.and_eq_true, Bool.or_eq_true, Bool.not_eq_true', List.isEmpty_iff,
        Option.all_eq_true] at h
      refine ⟨part, back, hrest, hfits, ?_, h.1.2, h.2⟩
      intro hend
      exact h.1.1.resolve_left (by simp [hend])
    · cases h
  · rintro ⟨part, back, hrest, hstands⟩
    rw [behind?_eq_some_iff.mpr ⟨part, hrest, hstands.fits⟩]
    simp only [Bool.and_eq_true, Bool.or_eq_true, Bool.not_eq_true', List.isEmpty_iff,
      Option.all_eq_true]
    refine ⟨⟨?_, hstands.opened⟩, hstands.closed⟩
    cases hend : p.atEnd with
    | false => exact .inl rfl
    | true => exact .inr (hstands.ends hend)

/-- A pattern is found exactly in the lines in which a word fits it. -/
theorem finds_iff {line : List Char} :
    p.finds A line = true ↔
      ∃ front part back, line = front ++ (part ++ back) ∧ p.Stands A front part back := by
  simp only [finds, List.any_eq_true, List.mem_range, begins_iff]
  constructor
  · rintro ⟨n, -, part, back, hdrop, hstands⟩
    refine ⟨line.take n, part, back, ?_, hstands⟩
    rw [← hdrop, List.take_append_drop]
  · rintro ⟨front, part, back, rfl, hstands⟩
    refine ⟨front.length, ?_, part, back, ?_, ?_⟩
    · simp only [List.length_append]
      omega
    · exact List.drop_left
    · rw [List.take_left]
      exact hstands

variable (A p)

/-- What is printed of an input: each line in which the pattern is found, ended by a line feed. -/
def select (input : String) : String :=
  Text.unlines ((inputLines input).filter fun line => p.finds A line.toList)

end LinePattern

end HostAccounts
