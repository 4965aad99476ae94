import HostAccounts.Text.Pieces
import Mathlib.Data.List.Infix
import Mathlib.Tactic.ByContra

/-!
# Replacing a part of a text

Occurrences are found from left to right and do not overlap. So a list is either free of the part at
its front, or the part stands there and is passed over as a whole; `occurrence_induction` follows
that. Main statements: where nothing occurs nothing changes (`replaced_of_absent`), and a
replacement that leaves a list with an occurrence as it was puts the part in its own place
(`eq_of_replaced_eq_self`).
-/

set_option autoImplicit false

namespace HostAccounts.Text

/-- The list with every occurrence of the part replaced. -/
def replaced (part new cs : List Char) : List Char :=
  replaceFrom part new 0 cs

section

variable {part new : List Char}

theorem toList_replaceAll (part new s : String) :
    (replaceAll part new s).toList = replaced part.toList new.toList s.toList :=
  String.toList_ofList

/-! ## The two ways to go on -/

theorem replaceFrom_skip (front back : List Char) :
    replaceFrom part new front.length (front ++ back) = replaced part new back := by
  induction front with
  | nil => rfl
  | cons c front ih => simpa [replaceFrom] using ih

theorem replaced_nil (h : part ≠ []) : replaced part new [] = [] := by
  simp [replaced, replaceFrom, h]

/-- An occurrence at the front is replaced, and passed over. -/
theorem replaced_part_append (h : part ≠ []) (back : List Char) :
    replaced part new (part ++ back) = new ++ replaced part new back := by
  cases part with
  | nil => exact absurd rfl h
  | cons c rest =>
    have hskip : replaceFrom (c :: rest) new rest.length (rest ++ back) =
        replaced (c :: rest) new back := replaceFrom_skip rest back
    have hfront : (c :: rest).isPrefixOf (c :: (rest ++ back)) = true :=
      List.isPrefixOf_iff_prefix.mpr (List.prefix_append (c :: rest) back)
    rw [List.cons_append, replaced, replaceFrom, if_neg (by simp), if_pos hfront]
    simpa using hskip

/-- A character at which the part does not begin stays. -/
theorem replaced_cons {c : Char} {cs : List Char} (h : ¬ part <+: c :: cs) :
    replaced part new (c :: cs) = c :: replaced part new cs := by
  have hne : part.isEmpty = false := by
    rw [List.isEmpty_eq_false_iff]
    rintro rfl
    exact h List.nil_prefix
  have hfront : ¬ part.isPrefixOf (c :: cs) = true := fun hp =>
    h (List.isPrefixOf_iff_prefix.mp hp)
  rw [replaced, replaceFrom, hne, if_neg Bool.false_ne_true, if_neg hfront]
  rfl

/-- Induction along the occurrences of a part. -/
theorem occurrence_induction {P : List Char → Prop} (hne : part ≠ []) (hnil : P [])
    (hpart : ∀ back, P back → P (part ++ back))
    (hcons : ∀ c cs, ¬ part <+: c :: cs → P cs → P (c :: cs)) (cs : List Char) : P cs := by
  induction hn : cs.length using Nat.strong_induction_on generalizing cs with
  | _ n ih =>
    cases cs with
    | nil => exact hnil
    | cons c rest =>
      by_cases hfront : part <+: c :: rest
      · obtain ⟨back, hback⟩ := hfront
        have hpos : 0 < part.length := List.length_pos_iff.mpr hne
        have hlength := congrArg List.length hback
        rw [List.length_append, hn] at hlength
        rw [← hback]
        exact hpart back (ih back.length (by omega) back rfl)
      · have hlt : rest.length < n := by
          rw [List.length_cons] at hn
          omega
        exact hcons c rest hfront (ih rest.length hlt rest rfl)

/-! ## Where nothing changes -/

theorem replaced_of_absent {cs : List Char} (h : ¬ part <:+: cs) :
    replaced part new cs = cs := by
  have hne : part ≠ [] := by
    rintro rfl
    exact h List.nil_infix
  induction cs with
  | nil => exact replaced_nil hne
  | cons c cs ih =>
    have hfront : ¬ part <+: c :: cs := fun hp => h hp.isInfix
    rw [replaced_cons hfront, ih fun hi => h (List.infix_cons hi)]

/-- What does not hold the first character of the part is passed over. -/
theorem replaced_append_of_not_mem {c : Char} {rest front : List Char} (hpart : part = c :: rest)
    (h : c ∉ front) (back : List Char) :
    replaced part new (front ++ back) = front ++ replaced part new back := by
  induction front with
  | nil => rfl
  | cons d front ih =>
    have hdc : c ≠ d := fun heq => h (heq ▸ List.mem_cons_self ..)
    have hfront : ¬ part <+: d :: (front ++ back) := by
      rw [hpart]
      intro hp
      exact hdc (List.cons_prefix_cons.mp hp).1
    rw [List.cons_append, replaced_cons hfront, ih fun hm => h (List.mem_cons_of_mem _ hm)]
    rfl

/-- An occurrence lies in front of what does not hold its last character. -/
theorem prefix_of_prefix_append {c : Char} {start cs tail : List Char} (hpart : part = start ++ [c])
    (h : c ∉ tail) (hp : part <+: cs ++ tail) : part <+: cs := by
  obtain ⟨more, hmore⟩ := hp
  rcases List.append_eq_append_iff.mp hmore with ⟨front, hcs, -⟩ | ⟨front, heq, htail⟩
  · exact ⟨front, hcs.symm⟩
  · rcases List.eq_nil_or_concat front with rfl | ⟨front', d, rfl⟩
    · rw [heq, List.append_nil]
    · rw [hpart, List.concat_eq_append, ← List.append_assoc] at heq
      have hd : c = d := by simpa using (List.append_inj' heq rfl).2
      have hmem : d ∈ tail := by
        rw [htail]
        simp
      exact absurd (hd ▸ hmem) h

/-- What does not hold the last character of the part is left alone at the end. -/
theorem replaced_append_tail {c : Char} {start tail : List Char} (hpart : part = start ++ [c])
    (h : c ∉ tail) (cs : List Char) :
    replaced part new (cs ++ tail) = replaced part new cs ++ tail := by
  have hne : part ≠ [] := by simp [hpart]
  induction cs using occurrence_induction hne with
  | hnil =>
    have hnot : ¬ part <:+: tail := by
      intro hi
      have hmem : c ∈ part := by simp [hpart]
      exact h (hi.subset hmem)
    rw [List.nil_append, replaced_of_absent hnot, replaced_nil hne, List.nil_append]
  | hpart back ih =>
    rw [List.append_assoc, replaced_part_append hne, replaced_part_append hne, ih,
      List.append_assoc]
  | hcons d cs hfront ih =>
    have hfront' : ¬ part <+: d :: (cs ++ tail) := by
      intro hp
      rw [← List.cons_append] at hp
      exact hfront (prefix_of_prefix_append hpart h hp)
    rw [List.cons_append, replaced_cons hfront', replaced_cons hfront, ih, List.cons_append]

theorem replaced_self (hne : part ≠ []) (cs : List Char) : replaced part part cs = cs := by
  induction cs using occurrence_induction hne with
  | hnil => exact replaced_nil hne
  | hpart back ih => rw [replaced_part_append hne, ih]
  | hcons c cs hfront ih => rw [replaced_cons hfront, ih]

/-! ## The last character -/

/-- The back of a list ends as the list does, unless nothing is left of it. -/
theorem suffix_back {c : Char} {front back : List Char} (h : [c] <:+ front ++ back)
    (hback : back ≠ []) : [c] <:+ back :=
  List.suffix_of_suffix_length_le h (List.suffix_append front back) (List.length_pos_iff.mpr hback)

/-- Where the new text ends with a character, a list that does still does. -/
theorem suffix_replaced (hne : part ≠ []) {c : Char} (hnew : [c] <:+ new) {cs : List Char}
    (h : [c] <:+ cs) : [c] <:+ replaced part new cs := by
  induction cs using occurrence_induction hne with
  | hnil => simp at h
  | hpart back ih =>
    rw [replaced_part_append hne]
    by_cases hback : back = []
    · rw [hback, replaced_nil hne, List.append_nil]
      exact hnew
    · exact (ih (suffix_back h hback)).trans (List.suffix_append new _)
  | hcons d cs hfront ih =>
    rw [replaced_cons hfront]
    by_cases hcs : cs = []
    · rw [hcs] at h
      rw [hcs, replaced_nil hne]
      exact h
    · have hback : [c] <:+ [d] ++ cs := h
      exact (ih (suffix_back hback hcs)).trans (List.suffix_cons d _)

/-! ## The first occurrence -/

/-- Up to its first occurrence a list stays as it is. -/
theorem exists_first_occurrence (new : List Char) (hne : part ≠ []) {cs : List Char}
    (h : part <:+: cs) :
    ∃ front back, cs = front ++ part ++ back ∧
      replaced part new cs = front ++ new ++ replaced part new back := by
  induction cs with
  | nil => exact absurd (List.infix_nil.mp h) hne
  | cons c cs ih =>
    by_cases hfront : part <+: c :: cs
    · obtain ⟨back, hback⟩ := hfront
      refine ⟨[], back, by rw [List.nil_append, hback], ?_⟩
      rw [← hback, replaced_part_append hne, List.nil_append]
    · have hcs : part <:+: cs := (List.infix_cons_iff.mp h).resolve_left hfront
      obtain ⟨front, back, heq, hrep⟩ := ih hcs
      refine ⟨c :: front, back, by rw [heq]; rfl, ?_⟩
      rw [replaced_cons hfront, hrep]
      rfl

/-! ## Counting -/

/-- Every replacement takes the characters of the part away and adds those of the new text. -/
theorem exists_countP_replaced (new : List Char) (hne : part ≠ []) (p : Char → Bool)
    (cs : List Char) :
    ∃ n, (replaced part new cs).countP p + n * part.countP p =
      cs.countP p + n * new.countP p := by
  induction cs using occurrence_induction hne with
  | hnil => exact ⟨0, by simp [replaced_nil hne]⟩
  | hpart back ih =>
    obtain ⟨n, hn⟩ := ih
    refine ⟨n + 1, ?_⟩
    rw [replaced_part_append hne, List.countP_append, List.countP_append, Nat.add_mul, Nat.add_mul]
    omega
  | hcons c cs hfront ih =>
    obtain ⟨n, hn⟩ := ih
    refine ⟨n, ?_⟩
    rw [replaced_cons hfront, List.countP_cons, List.countP_cons]
    omega

/-- A replacement that changes nothing where there is something to replace replaces a part by
itself. -/
theorem eq_of_replaced_eq_self (hne : part ≠ []) {cs : List Char} (h : part <:+: cs)
    (heq : replaced part new cs = cs) : new = part := by
  obtain ⟨front, back, hsplit, hrep⟩ := exists_first_occurrence new hne h
  rw [heq, hsplit, List.append_assoc, List.append_assoc, List.append_cancel_left_eq] at hrep
  obtain ⟨n, hn⟩ := exists_countP_replaced new hne (fun _ => true) back
  simp only [List.countP_true] at hn
  have hlength := congrArg List.length hrep
  rw [List.length_append, List.length_append] at hlength
  have hsame : new.length = part.length := by
    rcases Nat.lt_trichotomy new.length part.length with hlt | hlt | hlt
    · have := Nat.mul_le_mul_left n (Nat.le_of_lt hlt)
      omega
    · exact hlt
    · have := Nat.mul_le_mul_left n (Nat.le_of_lt hlt)
      omega
  exact (List.append_inj hrep hsame.symm).1.symm

end

end HostAccounts.Text
