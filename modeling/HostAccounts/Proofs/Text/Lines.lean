import HostAccounts.Proofs.Text.Pieces
import Mathlib.Data.List.DropRight

/-!
# Lines of texts put together

A text that ends where a line ends, or is empty, keeps its lines whatever is put behind it. Any
text is one of that kind and behind it the beginning of a line, which goes on where the next text
begins. Main statements: `lines_append_of_isClosed`, `tail_lines_append`, `lines_append`, and for
the first line alone `exists_map_trim_lines`.
-/

set_option autoImplicit false

namespace HostAccounts.Text

/-! ## Texts of whole lines -/

/-- The text is empty, or it ends where a line ends. -/
def IsClosed (s : String) : Prop :=
  ∀ c ∈ s.toList.getLast?, c = '\n'

instance : DecidablePred IsClosed := fun s => Option.decidableForallMem s.toList.getLast?

theorem lineList_append_feed (front back : List Char) :
    lineList (front ++ '\n' :: back) = (pieces '\n' front).map dropReturn ++ lineList back := by
  have hne := pieces_ne_nil '\n' back
  have hlast : (pieces '\n' front ++ pieces '\n' back).getLastD [] =
      (pieces '\n' back).getLastD [] := by
    simp [List.getLast?_append, List.getLast?_eq_some_getLast hne]
  simp only [lineList, pieces_append_cons, hlast, List.dropLast_append_of_ne_nil hne,
    List.map_append, List.append_assoc]

/-- Behind whole lines the next text begins with a line of its own. -/
theorem lines_append_of_isClosed {s : String} (h : IsClosed s) (t : String) :
    lines (s ++ t) = lines s ++ lines t := by
  rcases List.eq_nil_or_concat s.toList with hs | ⟨front, last, hs⟩
  · simp [lines, lineList, pieces, hs]
  · rw [List.concat_eq_append] at hs
    obtain rfl : last = '\n' := h last (by simp [hs])
    have hwhole : lineList (front ++ ['\n']) = (pieces '\n' front).map dropReturn :=
      (lineList_append_feed front []).trans (List.append_nil _)
    have happend : (s ++ t).toList = front ++ '\n' :: t.toList := by simp [hs]
    rw [lines, lines, lines, happend, lineList_append_feed, hs, hwhole, List.map_append]

/-! ## The line that is not ended -/

/-- The text up to the end of the last line that is ended. -/
def finished (s : String) : String :=
  String.ofList (s.toList.rdropWhile (· != '\n'))

/-- What stands behind the last end of a line. -/
def unfinished (s : String) : String :=
  String.ofList (s.toList.rtakeWhile (· != '\n'))

theorem finished_append_unfinished (s : String) : finished s ++ unfinished s = s := by
  have hreversed := List.takeWhile_append_dropWhile (p := (· != '\n')) (l := s.toList.reverse)
  have hlist : s.toList.rdropWhile (· != '\n') ++ s.toList.rtakeWhile (· != '\n') = s.toList := by
    rw [List.rdropWhile, List.rtakeWhile, ← List.reverse_append, hreversed, List.reverse_reverse]
  rw [finished, unfinished, ← String.ofList_append, hlist, String.ofList_toList]

theorem isClosed_finished (s : String) : IsClosed (finished s) := by
  intro c hc
  rw [finished, String.toList_ofList] at hc
  obtain ⟨hne, rfl⟩ := List.mem_getLast?_eq_getLast hc
  simpa using List.rdropWhile_last_not (· != '\n') s.toList hne

theorem not_mem_unfinished (s : String) : '\n' ∉ (unfinished s).toList := by
  intro hmem
  rw [unfinished, String.toList_ofList] at hmem
  have hkept := List.mem_rtakeWhile_imp hmem
  cases hkept

/-- Of whole lines nothing is left unfinished. -/
theorem unfinished_of_isClosed {s : String} (h : IsClosed s) : unfinished s = "" := by
  have hnone : s.toList.rtakeWhile (· != '\n') = [] := by
    rw [List.rtakeWhile_eq_nil_iff]
    intro hne
    have hlast := h _ (List.getLast?_eq_some_getLast hne)
    simp [hlast]
  rw [unfinished, hnone, String.ofList_nil]

theorem lines_of_not_mem {s : String} (h : '\n' ∉ s.toList) :
    lines s = if s = "" then [] else [s] := by
  rw [lines, lineList, pieces_of_not_mem h]
  by_cases hempty : s = ""
  · rw [hempty]
    rfl
  · simp [hempty]

/-- The beginning of a line only changes the line that it is the beginning of. -/
theorem tail_lines_append {front : String} (h : '\n' ∉ front.toList) (s : String) :
    (lines (front ++ s)).tail = (lines s).tail := by
  -- All lines but the first are cut out of what stands behind the first line feed.
  have htail : ∀ {cs p : List Char} {ps : List (List Char)}, pieces '\n' cs = p :: ps →
      (lineList cs).tail =
        ps.dropLast.map dropReturn ++
          if (ps.getLastD []).isEmpty then [] else [ps.getLastD []] := by
    intro cs p ps hcs
    rw [lineList, hcs]
    cases ps with
    | nil => cases p <;> rfl
    | cons q ps => rfl
  obtain ⟨p, ps, hs⟩ := List.exists_cons_of_ne_nil (pieces_ne_nil '\n' s.toList)
  have hfront : pieces '\n' (front ++ s).toList = (front.toList ++ p) :: ps := by
    rw [String.toList_append, pieces_append_of_not_mem h _ hs]
  rw [lines, lines, ← List.map_tail, ← List.map_tail, htail hfront, htail hs]

/-- The lines of any text, in two parts. -/
theorem lines_append (s t : String) :
    lines (s ++ t) = lines (finished s) ++ lines (unfinished s ++ t) := by
  rw [← lines_append_of_isClosed (isClosed_finished s), ← String.append_assoc,
    finished_append_unfinished]

/-! ## The first line -/

/-- What stands in front of the first end of a line. -/
def firstLine (s : String) : String :=
  String.ofList (s.toList.takeWhile (· != '\n'))

theorem firstLine_append {front : String} (h : '\n' ∉ front.toList) (s : String) :
    firstLine (front ++ s) = front ++ firstLine s := by
  have hfront : ∀ c ∈ front.toList, (c != '\n') = true := by
    intro c hc
    refine bne_iff_ne.mpr ?_
    rintro rfl
    exact h hc
  rw [firstLine, String.toList_append, List.takeWhile_append_of_pos hfront, String.ofList_append,
    String.ofList_toList, firstLine]

theorem firstLine_of_not_mem {s : String} (h : '\n' ∉ s.toList) : firstLine s = s := by
  have hend := firstLine_append h ""
  rwa [String.append_empty, show firstLine "" = "" from rfl, String.append_empty] at hend

/-- The carriage return that a line loses is blank. -/
theorem trim_dropReturn (cs : List Char) :
    trim (String.ofList (dropReturn cs)) = trim (String.ofList cs) := by
  unfold dropReturn
  split
  · next hlast =>
    obtain ⟨front, rfl⟩ := List.getLast?_eq_some_iff.mp hlast
    have hreturn : isBlankText "\r" = true := rfl
    rw [List.dropLast_concat, ← trim_append_back hreturn, String.ofList_append]
  · rfl

/-- The lines of a text that ends where a line ends begin with its first line. -/
theorem exists_map_trim_lines (s : String) :
    ∃ rest, (lines (s ++ "\n")).map trim = trim (firstLine s) :: rest := by
  obtain ⟨ps, hps⟩ := exists_pieces_eq_takeWhile '\n' s.toList
  have hlines : lineList (s ++ "\n").toList = (pieces '\n' s.toList).map dropReturn := by
    rw [String.toList_append]
    exact (lineList_append_feed s.toList []).trans (List.append_nil _)
  rw [lines, hlines, hps, List.map_cons, List.map_cons, List.map_cons, trim_dropReturn]
  exact ⟨_, rfl⟩

end HostAccounts.Text
