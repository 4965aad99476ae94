import HostAccounts.Proofs.Database.Grammar
import Mathlib.Data.List.Forall2

/-!
# Written account rows

A row is read back from its line as it was, if no text in it holds a colon or a line feed; and so a
database is read back from its lines, row by row. Main statements: `ofLine_line`, `dump_printed`.
-/

set_option autoImplicit false

namespace HostAccounts.Database

theorem readLines_of_forall₂ {α : Type} {read : String → Except RowDefect α} {as : List α}
    {lines : List String}
    (h : List.Forall₂ (fun a line => Text.isBlankText line = false ∧
      read (Text.trimEndOf '\r' line) = .ok a) as lines) (n : Nat) :
    readLines read n lines = ⟨as, []⟩ := by
  induction h generalizing n with
  | nil => rfl
  | cons hread _ ih => simp [readLines, ih, hread.1, hread.2]

theorem readLines_map {α : Type} {read : String → Except RowDefect α} {write : α → String}
    {as : List α}
    (h : ∀ a ∈ as, Text.isBlankText (write a) = false ∧
      read (Text.trimEndOf '\r' (write a)) = .ok a) (n : Nat) :
    readLines read n (as.map write) = ⟨as, []⟩ :=
  readLines_of_forall₂ (List.forall₂_map_right_iff.mpr (List.forall₂_same.mpr h)) n

namespace AccountRow

/-- The row can be written as a line of its own. -/
structure IsWritable (r : AccountRow) : Prop where
  named : r.username ≠ ""
  plain : ∀ text ∈ [r.username, r.comment, r.homeDirectory, r.shell],
    ':' ∉ text.toList ∧ '\n' ∉ text.toList
  closed : r.shell.toList.getLast? ≠ some '\r'

instance : DecidablePred IsWritable := fun r =>
  decidable_of_iff (r.username ≠ "" ∧
      (∀ text ∈ [r.username, r.comment, r.homeDirectory, r.shell],
        ':' ∉ text.toList ∧ '\n' ∉ text.toList) ∧
      r.shell.toList.getLast? ≠ some '\r')
    ⟨fun h => ⟨h.1, h.2.1, h.2.2⟩, fun h => ⟨h.named, h.plain, h.closed⟩⟩

theorem IsWritable.isEncodable {r : AccountRow} (h : r.IsWritable) : r.IsEncodable :=
  ⟨h.named, fun text htext => (h.plain text htext).1⟩

/-- The row is read back from its line. -/
theorem ofLine_line {r : AccountRow} (h : r.IsWritable) : ofLine r.line = .ok r :=
  ofLine_line_of_isEncodable h.isEncodable

/-- The shell stands at the end of the line, behind a colon. -/
theorem exists_toList_line {r : AccountRow} (h : r.IsWritable) :
    ∃ front, '\n' ∉ front ∧ r.line.toList = front ++ ':' :: r.shell.toList := by
  have hnumber := Text.not_mem_toString (c := '\n') rfl
  have htexts := h.plain
  simp only [List.forall_mem_cons] at htexts
  refine ⟨(":".intercalate [r.username, "x", toString r.uid.toNat, toString r.gid.toNat, r.comment,
    r.homeDirectory]).toList, ?_, ?_⟩
  · simp only [String.intercalate_cons_cons, String.intercalate_singleton, String.toList_append,
      List.mem_append, not_or]
    simp [htexts.1.2, htexts.2.1.2, htexts.2.2.1.2, hnumber, - Nat.toString_eq_repr]
  · simp [line, String.intercalate_cons_cons]

theorem isLine_line {r : AccountRow} (h : r.IsWritable) : Text.IsLine r.line := by
  obtain ⟨front, hfront, hline⟩ := exists_toList_line h
  have hshell : '\n' ∉ r.shell.toList := (h.plain r.shell (by simp)).2
  refine ⟨?_, ?_⟩
  · simp [hline, hfront, hshell]
  · rw [hline, List.getLast?_append]
    cases hlast : r.shell.toList.getLast? with
    | none => simp [List.getLast?_cons, hlast]
    | some c =>
      have hc : c ≠ '\r' := fun hc => h.closed (hc ▸ hlast)
      simp [List.getLast?_cons, hlast, hc]

theorem isBlankText_line {r : AccountRow} (h : r.IsWritable) : Text.isBlankText r.line = false := by
  obtain ⟨front, -, hline⟩ := exists_toList_line h
  have hcolon : Text.isBlank ':' = false := by decide
  simp [Text.isBlankText, hline, hcolon]

/-- What a host prints that has these accounts. -/
def printed (rows : List AccountRow) : String :=
  Text.unlines (rows.map line)

theorem lines_printed {rows : List AccountRow} (h : ∀ r ∈ rows, r.IsWritable) :
    Text.lines (printed rows) = rows.map line := by
  refine Text.lines_unlines fun l hl => ?_
  obtain ⟨r, hr, rfl⟩ := List.mem_map.mp hl
  exact isLine_line (h r hr)

/-- The database is read back, and no line of it is faulty. -/
theorem dump_printed {rows : List AccountRow} (h : ∀ r ∈ rows, r.IsWritable) :
    dump (printed rows) = ⟨rows, []⟩ := by
  unfold dump readDump
  rw [lines_printed h]
  refine readLines_map (fun r hr => ⟨isBlankText_line (h r hr), ?_⟩) 1
  rw [Text.trimEndOf_eq_self (isLine_line (h r hr)).2]
  exact ofLine_line (h r hr)

end AccountRow

end HostAccounts.Database
