import HostAccounts.Proofs.Text.Blank
import HostAccounts.Text.Pieces

/-!
# Texts put together and cut again

What a text of known parts is cut into: at a separator that none of the parts holds, and line by
line.
-/

set_option autoImplicit false

namespace HostAccounts.Text

/-! ## Pieces -/

theorem pieces_of_not_mem {sep : Char} {cs : List Char} (h : sep ∉ cs) : pieces sep cs = [cs] := by
  induction cs with
  | nil => rfl
  | cons c cs ih =>
    rw [List.mem_cons, not_or] at h
    rw [pieces, if_neg (Ne.symm h.1), ih h.2]

/-- A text of one piece does not hold the separator. -/
theorem not_mem_of_pieces_eq_singleton {sep : Char} {cs p : List Char} (h : pieces sep cs = [p]) :
    sep ∉ cs := by
  have hjoined := intercalate_pieces sep cs
  rw [h, List.intercalate_singleton] at hjoined
  have hp : sep ∉ p := not_mem_of_mem_pieces (by rw [h]; exact List.mem_singleton_self p)
  rwa [hjoined] at hp

/-- No piece reaches over a separator. -/
theorem pieces_append_cons (sep : Char) (front back : List Char) :
    pieces sep (front ++ sep :: back) = pieces sep front ++ pieces sep back := by
  induction front with
  | nil => simp [pieces]
  | cons c front ih =>
    rw [List.cons_append, pieces, pieces, ih]
    split
    · rfl
    · cases hp : pieces sep front with
      | nil => exact absurd hp (pieces_ne_nil sep front)
      | cons p ps => rfl

theorem pieces_append_separator (sep : Char) (cs : List Char) :
    pieces sep (cs ++ [sep]) = pieces sep cs ++ [[]] :=
  pieces_append_cons sep cs []

/-- Separators at the end stand before empty pieces. -/
theorem pieces_append_replicate (sep : Char) (cs : List Char) (n : Nat) :
    pieces sep (cs ++ List.replicate n sep) = pieces sep cs ++ List.replicate n [] := by
  induction n with
  | zero => simp
  | succ n ih =>
    rw [List.replicate_succ', ← List.append_assoc, pieces_append_separator, ih, List.append_assoc,
      ← List.replicate_succ']

/-- What is no separator stands in one of the pieces. -/
theorem exists_mem_pieces {sep c : Char} {cs : List Char} (hc : c ∈ cs) (hne : c ≠ sep) :
    ∃ p ∈ pieces sep cs, c ∈ p := by
  induction cs with
  | nil => cases hc
  | cons d cs ih =>
    rw [pieces]
    split
    · next hd =>
      obtain ⟨p, hp, hmem⟩ := ih (List.mem_of_ne_of_mem (hd ▸ hne) hc)
      exact ⟨p, List.mem_cons_of_mem _ hp, hmem⟩
    · cases hps : pieces sep cs with
      | nil => exact absurd hps (pieces_ne_nil sep cs)
      | cons p ps =>
        rcases List.mem_cons.mp hc with rfl | hc
        · exact ⟨_, List.mem_cons_self .., List.mem_cons_self ..⟩
        · obtain ⟨q, hq, hmem⟩ := ih hc
          rw [hps] at hq
          rcases List.mem_cons.mp hq with rfl | hq
          · exact ⟨_, List.mem_cons_self .., List.mem_cons_of_mem _ hmem⟩
          · exact ⟨q, List.mem_cons_of_mem _ hq, hmem⟩

/-- The first piece reaches up to the first separator. -/
theorem exists_pieces_eq_takeWhile (sep : Char) (cs : List Char) :
    ∃ ps, pieces sep cs = cs.takeWhile (· != sep) :: ps := by
  induction cs with
  | nil => exact ⟨[], rfl⟩
  | cons c cs ih =>
    obtain ⟨ps, hps⟩ := ih
    rw [pieces]
    by_cases hc : c = sep
    · exact ⟨pieces sep cs, by simp [hc]⟩
    · exact ⟨ps, by simp [hc, hps]⟩

/-- What does not hold the separator stands in front of the first piece. -/
theorem pieces_append_of_not_mem {sep : Char} {front : List Char} (h : sep ∉ front)
    (cs : List Char) {p : List Char} {ps : List (List Char)} (hcs : pieces sep cs = p :: ps) :
    pieces sep (front ++ cs) = (front ++ p) :: ps := by
  induction front with
  | nil => exact hcs
  | cons c front ih =>
    rw [List.mem_cons, not_or] at h
    rw [List.cons_append, pieces, if_neg (Ne.symm h.1), ih h.2]
    rfl

/-- The first separator is the one that is cut at. -/
theorem cutAt?_append {p : Char → Bool} {front : List Char} (hfront : ∀ c ∈ front, p c = false)
    {c : Char} (hc : p c = true) (back : List Char) :
    cutAt? p (front ++ c :: back) = some (front, back) := by
  induction front with
  | nil => rw [List.nil_append, cutAt?, if_pos hc]
  | cons d front ih =>
    have hd : p d = false := hfront d (List.mem_cons_self ..)
    have hrest := ih fun e he => hfront e (List.mem_cons_of_mem _ he)
    rw [List.cons_append, cutAt?, hd, if_neg Bool.false_ne_true, hrest]
    rfl

/-- What a list is cut into stands around the first character of the class. -/
theorem eq_append_of_cutAt? {p : Char → Bool} {cs front back : List Char}
    (h : cutAt? p cs = some (front, back)) :
    (∀ c ∈ front, p c = false) ∧ ∃ c, p c = true ∧ cs = front ++ c :: back := by
  induction cs generalizing front with
  | nil => cases h
  | cons d cs ih =>
    rw [cutAt?] at h
    split at h
    · next hd =>
      cases h
      exact ⟨nofun, d, hd, rfl⟩
    · next hd =>
      obtain ⟨⟨more, rest⟩, hcut, heq⟩ := Option.map_eq_some_iff.mp h
      cases heq
      obtain ⟨hmore, c, hc, rfl⟩ := ih hcut
      exact ⟨List.forall_mem_cons.mpr ⟨Bool.eq_false_iff.mpr hd, hmore⟩, c, hc, rfl⟩

theorem cutAt?_eq_none_iff {p : Char → Bool} {cs : List Char} :
    cutAt? p cs = none ↔ ∀ c ∈ cs, p c = false := by
  induction cs with
  | nil => simp [cutAt?]
  | cons d cs ih =>
    rw [cutAt?, List.forall_mem_cons]
    cases p d
    · rw [if_neg Bool.false_ne_true, Option.map_eq_none_iff, ih]
      exact ⟨fun h => ⟨rfl, h⟩, fun h => h.2⟩
    · rw [if_pos rfl]
      exact ⟨nofun, fun h => nomatch h.1⟩

theorem forall_beq_eq_false_iff {sep : Char} {cs : List Char} :
    (∀ c ∈ cs, (c == sep) = false) ↔ sep ∉ cs := by
  constructor
  · intro h hsep
    exact absurd (h sep hsep) (by simp)
  · rintro h c hc
    refine beq_false_of_ne ?_
    rintro rfl
    exact h hc

/-- A text is cut in two at its first separator. -/
theorem splitFirst?_eq_some_iff {sep : Char} {s front back : String} :
    splitFirst? sep s = some (front, back) ↔
      s = front ++ String.singleton sep ++ back ∧ sep ∉ front.toList := by
  have htext : s = front ++ String.singleton sep ++ back ↔
      s.toList = front.toList ++ sep :: back.toList := by
    rw [← String.toList_inj]
    simp
  rw [splitFirst?, htext]
  constructor
  · intro h
    obtain ⟨⟨cs, ds⟩, hcut, hparts⟩ := Option.map_eq_some_iff.mp h
    cases hparts
    obtain ⟨hfront, c, hc, hcs⟩ := eq_append_of_cutAt? hcut
    rw [String.toList_ofList, String.toList_ofList, hcs, beq_iff_eq.mp hc]
    exact ⟨rfl, forall_beq_eq_false_iff.mp hfront⟩
  · rintro ⟨hs, hfront⟩
    rw [hs, cutAt?_append (forall_beq_eq_false_iff.mpr hfront) (beq_self_eq_true sep)]
    simp

theorem splitFirst?_eq_none_iff {sep : Char} {s : String} :
    splitFirst? sep s = none ↔ sep ∉ s.toList := by
  rw [splitFirst?, Option.map_eq_none_iff, cutAt?_eq_none_iff, forall_beq_eq_false_iff]

theorem dropFirst?_eq_some_iff {c : Char} {s rest : String} :
    dropFirst? c s = some rest ↔ s = String.singleton c ++ rest := by
  have htext : s = String.singleton c ++ rest ↔ s.toList = c :: rest.toList := by
    rw [← String.toList_inj]
    simp
  rw [dropFirst?, htext]
  cases s.toList with
  | nil => simp
  | cons d cs =>
    have hrest : String.ofList cs = rest ↔ cs = rest.toList := by
      rw [← String.toList_inj, String.toList_ofList]
    by_cases hd : d = c <;> simp [hd, hrest]

theorem dropFirst?_eq_none_iff {c : Char} {s : String} :
    dropFirst? c s = none ↔ s.toList.head? ≠ some c := by
  rw [dropFirst?]
  cases s.toList with
  | nil => simp
  | cons d cs => by_cases hd : d = c <;> simp [hd]

theorem dropLast?_eq_some_iff {c : Char} {s rest : String} :
    dropLast? c s = some rest ↔ s = rest ++ String.singleton c := by
  have htext : s = rest ++ String.singleton c ↔ s.toList = rest.toList ++ [c] := by
    rw [← String.toList_inj]
    simp
  rw [dropLast?, htext]
  constructor
  · intro h
    split at h
    · next hlast =>
      cases h
      obtain ⟨cs, hcs⟩ := List.getLast?_eq_some_iff.mp hlast
      simp [hcs]
    · cases h
  · intro hs
    simp [hs]

/-- The pieces are those that the standard library cuts. -/
theorem pieces_eq_splitOn (sep : Char) (cs : List Char) : pieces sep cs = cs.splitOn sep := by
  have h := List.splitOn_intercalate sep (fun _ hp => not_mem_of_mem_pieces hp)
    (pieces_ne_nil sep cs)
  rw [intercalate_pieces] at h
  exact h.symm

/-- Parts without the separator are what their text is cut into. -/
theorem splitOn_intercalate {sep : Char} {parts : List String} (hne : parts ≠ [])
    (h : ∀ p ∈ parts, sep ∉ p.toList) :
    splitOn sep ((String.singleton sep).intercalate parts) = parts := by
  have hparts : ∀ cs ∈ parts.map String.toList, sep ∉ cs := by
    intro cs hcs
    obtain ⟨p, hp, rfl⟩ := List.mem_map.mp hcs
    exact h p hp
  rw [splitOn, pieces_eq_splitOn, String.toList_intercalate, String.toList_singleton,
    List.splitOn_intercalate sep hparts (by simpa using hne), List.map_map]
  exact (List.map_congr_left fun p _ => String.ofList_toList).trans (List.map_id parts)

theorem splitOn_of_not_mem {sep : Char} {s : String} (h : sep ∉ s.toList) :
    splitOn sep s = [s] := by
  rw [splitOn, pieces_of_not_mem h, List.map_singleton, String.ofList_toList]

/-- Two texts with a separator between them are cut into the pieces of each. -/
theorem splitOn_append_singleton_append (sep : Char) (front back : String) :
    splitOn sep (front ++ String.singleton sep ++ back) =
      splitOn sep front ++ splitOn sep back := by
  rw [splitOn, String.toList_append, String.toList_append, String.toList_singleton,
    List.append_assoc, List.singleton_append, pieces_append_cons, List.map_append]
  rfl

/-- The text is made of the parts, with a separator between each two and none in them. -/
structure IsMadeOf (sep : Char) (s : String) (parts : List String) : Prop where
  nonempty : parts ≠ []
  joined : s = (String.singleton sep).intercalate parts
  plain : ∀ p ∈ parts, sep ∉ p.toList

theorem not_mem_intercalate {c : Char} {sep : String} {parts : List String}
    (hsep : c ∉ sep.toList) (h : ∀ part ∈ parts, c ∉ part.toList) :
    c ∉ (sep.intercalate parts).toList := by
  induction parts with
  | nil => simp
  | cons part rest ih =>
    obtain ⟨hpart, hrest⟩ := List.forall_mem_cons.mp h
    cases rest with
    | nil => simpa using hpart
    | cons next rest =>
      have htail := ih hrest
      simp only [String.intercalate_cons_cons, String.toList_append, List.mem_append, not_or]
      exact ⟨⟨hpart, hsep⟩, htail⟩

theorem mem_intercalate {c : Char} {sep part : String} {parts : List String} (hpart : part ∈ parts)
    (hc : c ∈ part.toList) : c ∈ (sep.intercalate parts).toList := by
  induction parts with
  | nil => cases hpart
  | cons first rest ih =>
    cases rest with
    | nil =>
      rw [List.mem_singleton.mp hpart] at hc
      simpa using hc
    | cons next rest =>
      rw [String.intercalate_cons_cons, String.toList_append, String.toList_append, List.mem_append,
        List.mem_append]
      rcases List.mem_cons.mp hpart with rfl | hpart
      · exact .inl (.inl hc)
      · exact .inr (ih hpart)

/-- What stands in a part stands in the text. -/
theorem IsMadeOf.mem_of_mem {sep c : Char} {s part : String} {parts : List String}
    (h : IsMadeOf sep s parts) (hpart : part ∈ parts) (hc : c ∈ part.toList) : c ∈ s.toList := by
  rw [h.joined]
  exact mem_intercalate hpart hc

/-- A text is cut into the parts that it is made of. -/
theorem splitOn_eq_iff {sep : Char} {s : String} {parts : List String} :
    splitOn sep s = parts ↔ IsMadeOf sep s parts := by
  constructor
  · rintro rfl
    refine ⟨by simp [splitOn, pieces_ne_nil], ?_, fun p hp => ?_⟩
    · rw [← String.toList_inj, String.toList_intercalate, String.toList_singleton, splitOn,
        List.map_map]
      have hpieces : (pieces sep s.toList).map (String.toList ∘ String.ofList) =
          pieces sep s.toList :=
        (List.map_congr_left fun p _ => String.toList_ofList).trans (List.map_id _)
      rw [hpieces, intercalate_pieces]
    · obtain ⟨cs, hcs, rfl⟩ := List.mem_map.mp hp
      rw [String.toList_ofList]
      exact not_mem_of_mem_pieces hcs
  · rintro ⟨hne, rfl, hplain⟩
    exact splitOn_intercalate hne hplain

/-! ## Lines -/

/-- The text is a line by itself, and is read as it is. -/
def IsLine (s : String) : Prop :=
  '\n' ∉ s.toList ∧ s.toList.getLast? ≠ some '\r'

/-- The text of lines that each end with a line feed. -/
def unlines (ls : List String) : String :=
  String.join (ls.map fun l => l ++ "\n")

theorem pieces_unlines {ls : List String} (h : ∀ l ∈ ls, IsLine l) :
    pieces '\n' (unlines ls).toList = ls.map String.toList ++ [[]] := by
  induction ls with
  | nil => rfl
  | cons l rest ih =>
    have hl := h l (List.mem_cons_self ..)
    have hrest := ih fun l hl => h l (List.mem_cons_of_mem _ hl)
    have htext : (unlines (l :: rest)).toList = l.toList ++ '\n' :: (unlines rest).toList := by
      simp [unlines]
    have hfeed : pieces '\n' ('\n' :: (unlines rest).toList) =
        [] :: (rest.map String.toList ++ [[]]) := by
      rw [pieces, if_pos rfl, hrest]
    rw [htext, pieces_append_of_not_mem hl.1 _ hfeed, List.append_nil]
    rfl

/-- The lines of such a text are the ones it was made of. -/
theorem lines_unlines {ls : List String} (h : ∀ l ∈ ls, IsLine l) : lines (unlines ls) = ls := by
  have hkept : ∀ l ∈ ls, String.ofList (dropReturn l.toList) = l := by
    intro l hl
    rw [dropReturn, if_neg (h l hl).2, String.ofList_toList]
  calc lines (unlines ls) = ls.map fun l => String.ofList (dropReturn l.toList) := by
        simp [lines, lineList, pieces_unlines h, Function.comp_def]
    _ = ls.map fun l => l := List.map_congr_left hkept
    _ = ls := List.map_id' ls

/-- What stands in a line stands in the text. -/
theorem mem_of_mem_lines {s line : String} (h : line ∈ lines s) {c : Char}
    (hc : c ∈ line.toList) : c ∈ s.toList := by
  have hpiece : ∀ p ∈ pieces '\n' s.toList, c ∈ p → c ∈ s.toList := by
    intro p hp hmem
    have hmade : IsMadeOf '\n' s (splitOn '\n' s) := splitOn_eq_iff.mp rfl
    exact hmade.mem_of_mem (List.mem_map_of_mem hp) (by rwa [String.toList_ofList])
  obtain ⟨cs, hcs, rfl⟩ := List.mem_map.mp h
  rw [String.toList_ofList] at hc
  rcases List.mem_append.mp hcs with hended | hlast
  · obtain ⟨p, hp, rfl⟩ := List.mem_map.mp hended
    refine hpiece p (List.dropLast_subset _ hp) ?_
    unfold dropReturn at hc
    split at hc
    · exact List.dropLast_subset _ hc
    · exact hc
  · split at hlast
    · cases hlast
    · obtain rfl := List.mem_singleton.mp hlast
      refine hpiece _ ?_ hc
      rw [List.getLastD_eq_getLast?, List.getLast?_eq_some_getLast (pieces_ne_nil _ _),
        Option.getD_some]
      exact List.getLast_mem _

theorem trimEndOf_eq_self {c : Char} {s : String} (h : s.toList.getLast? ≠ some c) :
    trimEndOf c s = s := by
  have hkept : dropTrailing (· == c) s.toList = s.toList := by
    refine dropTrailing_eq_self fun d hd => beq_false_of_ne ?_
    rintro rfl
    exact h hd
  rw [trimEndOf, hkept, String.ofList_toList]

/-- What is trimmed off the end of a text is a run of the one character. -/
theorem exists_toList_eq_trimEndOf (c : Char) (s : String) :
    ∃ n, s.toList = (trimEndOf c s).toList ++ List.replicate n c := by
  have hrun : s.toList.reverse.takeWhile (· == c) =
      List.replicate (s.toList.reverse.takeWhile (· == c)).length c :=
    List.eq_replicate_iff.mpr ⟨rfl, fun d hd =>
      beq_iff_eq.mp (List.all_eq_true.mp List.all_takeWhile d hd)⟩
  refine ⟨(s.toList.reverse.takeWhile (· == c)).length, ?_⟩
  calc s.toList
      = (s.toList.reverse.takeWhile (· == c) ++ s.toList.reverse.dropWhile (· == c)).reverse := by
        rw [List.takeWhile_append_dropWhile, List.reverse_reverse]
    _ = dropTrailing (· == c) s.toList ++ (s.toList.reverse.takeWhile (· == c)).reverse := by
        rw [List.reverse_append, dropTrailing]
    _ = (trimEndOf c s).toList ++
          List.replicate (s.toList.reverse.takeWhile (· == c)).length c := by
        rw [trimEndOf, String.toList_ofList, ← List.reverse_replicate, ← hrun]

/-- Trimming separators off the end of a text takes empty pieces away from it. -/
theorem exists_splitOn_eq_trimEndOf (sep : Char) (s : String) :
    ∃ n, splitOn sep s = splitOn sep (trimEndOf sep s) ++ List.replicate n "" := by
  obtain ⟨n, hs⟩ := exists_toList_eq_trimEndOf sep s
  refine ⟨n, ?_⟩
  rw [splitOn, hs, pieces_append_replicate, List.map_append, List.map_replicate]
  rfl

end HostAccounts.Text
