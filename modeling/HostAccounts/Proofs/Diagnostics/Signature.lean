import HostAccounts.Diagnostics.Verdict
import HostAccounts.Proofs.Text.Pieces
import Mathlib.Data.List.Infix

/-!
# What a signature describes

A signature describes a line if the pieces between its asterisks stand there in their order, with
any texts around them. The pieces are looked for from left to right, each where it first occurs, and
no choice is ever taken back; that is enough, because a piece that is found early leaves the more of
the line to the others. Main statements: `contains_iff`, `occurInOrder_iff`,
`matchesSignature_iff`, `firstMatch?_eq_some_iff`.
-/

set_option autoImplicit false

namespace HostAccounts

/-! ## Where a part is found -/

namespace Text

variable {part cs rest : List Char}

theorem eq_append_of_after? (h : after? part cs = some rest) :
    ∃ front, cs = front ++ part ++ rest := by
  induction cs with
  | nil =>
    unfold after? at h
    split at h
    · next hempty =>
      cases h
      exact ⟨[], by simp [List.isEmpty_iff.mp hempty]⟩
    · cases h
  | cons c cs ih =>
    unfold after? at h
    split at h
    · next hfront =>
      obtain ⟨back, hback⟩ := List.isPrefixOf_iff_prefix.mp hfront
      rw [← hback, List.drop_left] at h
      cases h
      exact ⟨[], hback.symm⟩
    · obtain ⟨front, rfl⟩ := ih h
      exact ⟨c :: front, rfl⟩

theorem after?_append_self (part back : List Char) : after? part (part ++ back) = some back := by
  cases part with
  | nil => cases back <;> rfl
  | cons c part =>
    have hfront : (c :: part).isPrefixOf (c :: (part ++ back)) = true :=
      List.isPrefixOf_iff_prefix.mpr (List.prefix_append (c :: part) back)
    rw [List.cons_append, after?, if_pos hfront, ← List.cons_append, List.drop_left]

/-- Wherever the part stands, it is found there or before, so what follows it is left over. -/
theorem exists_after?_append (front part back : List Char) :
    ∃ rest, after? part (front ++ part ++ back) = some rest ∧ back <:+ rest := by
  induction front with
  | nil => exact ⟨back, after?_append_self part back, List.suffix_rfl⟩
  | cons c front ih =>
    by_cases hfront : part.isPrefixOf (c :: (front ++ part ++ back)) = true
    · obtain ⟨rest, hrest⟩ := List.isPrefixOf_iff_prefix.mp hfront
      refine ⟨rest, ?_, ?_⟩
      · rw [List.cons_append, List.cons_append, ← hrest]
        exact after?_append_self part rest
      · have hlength : back.length ≤ rest.length := by
          have := congrArg List.length hrest
          simp only [List.length_append, List.length_cons] at this
          omega
        have hback : back <:+ part ++ rest := hrest ▸ List.suffix_append (c :: (front ++ part)) back
        exact List.suffix_of_suffix_length_le hback (List.suffix_append part rest) hlength
    · obtain ⟨rest, hrest, hback⟩ := ih
      refine ⟨rest, ?_, hback⟩
      rw [List.cons_append, List.cons_append, after?, if_neg hfront, hrest]

theorem occursIn_iff : occursIn part cs = true ↔ part <:+: cs := by
  rw [occursIn, Option.isSome_iff_exists]
  constructor
  · rintro ⟨rest, hrest⟩
    obtain ⟨front, rfl⟩ := eq_append_of_after? hrest
    exact ⟨front, rest, rfl⟩
  · rintro ⟨front, back, rfl⟩
    obtain ⟨rest, hrest, -⟩ := exists_after?_append front part back
    exact ⟨rest, hrest⟩

theorem contains_iff {s part : String} :
    contains s part = true ↔ part.toList <:+: s.toList :=
  occursIn_iff

end Text

namespace Diagnostics

/-! ## Parts in their order -/

/-- The line is made of the parts in their order, of a text in front of them and of one behind
each. -/
def StandIn (parts : List (List Char)) (line : List Char) : Prop :=
  ∃ (front : List Char) (gaps : List (List Char)), gaps.length = parts.length ∧
    line = front ++ (List.zipWith (· ++ ·) parts gaps).flatten

theorem standIn_nil (line : List Char) : StandIn [] line :=
  ⟨line, [], rfl, by simp⟩

theorem standIn_cons_iff {part : List Char} {parts : List (List Char)} {line : List Char} :
    StandIn (part :: parts) line ↔
      ∃ front back, line = front ++ part ++ back ∧ StandIn parts back := by
  constructor
  · rintro ⟨front, gaps, hlength, rfl⟩
    obtain ⟨gap, gaps, rfl⟩ := List.exists_cons_of_length_eq_add_one hlength
    refine ⟨front, gap ++ (List.zipWith (· ++ ·) parts gaps).flatten, by simp, gap, gaps, ?_, rfl⟩
    simpa using hlength
  · rintro ⟨front, back, rfl, gap, gaps, hlength, rfl⟩
    exact ⟨front, gap :: gaps, by simp [hlength], by simp⟩

theorem StandIn.isInfix {parts : List (List Char)} {line : List Char} (h : StandIn parts line)
    {part : List Char} (hpart : part ∈ parts) : part <:+: line := by
  induction parts generalizing line with
  | nil => cases hpart
  | cons first parts ih =>
    obtain ⟨front, back, rfl, hback⟩ := standIn_cons_iff.mp h
    rcases List.mem_cons.mp hpart with rfl | hpart
    · exact ⟨front, back, rfl⟩
    · exact (ih hback hpart).trans (List.suffix_append (front ++ first) back).isInfix

/-- More text in front does not matter. -/
theorem StandIn.append_left {parts : List (List Char)} {line : List Char} (h : StandIn parts line)
    (more : List Char) : StandIn parts (more ++ line) := by
  obtain ⟨front, gaps, hlength, rfl⟩ := h
  exact ⟨more ++ front, gaps, hlength, (List.append_assoc ..).symm⟩

/-- The search from left to right finds the parts exactly if they stand in the line. -/
theorem occurInOrder_iff {parts : List (List Char)} {line : List Char} :
    occurInOrder parts line = true ↔ StandIn parts line := by
  induction parts generalizing line with
  | nil => simp [occurInOrder, standIn_nil]
  | cons part parts ih =>
    rw [standIn_cons_iff, occurInOrder]
    constructor
    · intro h
      split at h
      · next rest hrest =>
        obtain ⟨front, rfl⟩ := Text.eq_append_of_after? hrest
        exact ⟨front, rest, rfl, ih.mp h⟩
      · cases h
    · rintro ⟨front, back, rfl, hback⟩
      -- The part may be found before `front` ends; then more than `back` is left to the others.
      obtain ⟨rest, hrest, more, rfl⟩ := Text.exists_after?_append front part back
      rw [hrest]
      exact ih.mpr (hback.append_left more)

/-! ## Signatures -/

/-- The signature has a character that is no asterisk, and what stands between its asterisks, where
anything does, stands in the line. -/
def Describes (signature line : List Char) : Prop :=
  (∃ c ∈ signature, c ≠ '*') ∧ StandIn ((signature.splitOn '*').filter fun p => p ≠ []) line

theorem matchesSignature_iff {line signature : List Char} :
    matchesSignature line signature = true ↔ Describes signature line := by
  have hpieces : signaturePieces signature = (signature.splitOn '*').filter fun p => p ≠ [] := by
    rw [signaturePieces, Text.pieces_eq_splitOn]
    exact List.filter_congr fun p _ => by cases p <;> rfl
  rw [matchesSignature, Bool.and_eq_true, occurInOrder_iff, hpieces, List.any_eq_true, Describes]
  simp

/-- No signature describes an empty line. -/
theorem not_describes_nil (signature : List Char) : ¬ Describes signature [] := by
  rintro ⟨⟨c, hc, hstar⟩, hstand⟩
  obtain ⟨part, hpart, hmem⟩ := Text.exists_mem_pieces hc hstar
  have hne : part ≠ [] := List.ne_nil_of_mem hmem
  have hlooked : part ∈ (signature.splitOn '*').filter fun p => p ≠ [] := by
    rw [← Text.pieces_eq_splitOn]
    exact List.mem_filter.mpr ⟨hpart, decide_eq_true hne⟩
  exact hne (List.infix_nil.mp (hstand.isInfix hlooked))

/-- The signature describes the line once both are in lower case. -/
def Fits (signature line : String) : Prop :=
  Describes (Text.lower signature).toList (Text.lower line).toList

instance (signature line : String) : Decidable (Fits signature line) :=
  decidable_of_iff _ matchesSignature_iff

/-- The signature is the first of the list that fits the line. -/
def IsFirstFit (signatures : List String) (line signature : String) : Prop :=
  ∃ front back, signatures = front ++ signature :: back ∧ (∀ s ∈ front, ¬ Fits s line) ∧
    Fits signature line

theorem firstMatch?_eq_some_iff {signatures : List String} {line signature : String} :
    firstMatch? (Text.lower line) signatures = some signature ↔
      IsFirstFit signatures line signature := by
  simp only [firstMatch?, List.find?_eq_some_iff_append, Bool.not_eq_true', Bool.eq_false_iff,
    ne_eq, matchesSignature_iff]
  constructor
  · rintro ⟨hfits, front, back, rfl, hfront⟩
    exact ⟨front, back, rfl, hfront, hfits⟩
  · rintro ⟨front, back, rfl, hfront, hfits⟩
    exact ⟨hfits, front, back, rfl, hfront⟩

theorem firstMatch?_eq_none_iff {signatures : List String} {line : String} :
    firstMatch? (Text.lower line) signatures = none ↔ ∀ s ∈ signatures, ¬ Fits s line := by
  simp only [firstMatch?, List.find?_eq_none, matchesSignature_iff]
  rfl

end Diagnostics

end HostAccounts
