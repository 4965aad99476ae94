import HostAccounts.Proofs.Database.AccountRow
import Mathlib.Data.List.Nodup
import Mathlib.Data.List.Perm.Subperm

/-!
# Written group rows

A group row is read back from its line with the members as they were, if none of them is empty or
holds a separator, whatever stands in the place of the password; and so is every part of a database.
Which groups list an account can be read off any part that holds all the rows that do. Main
statements: `ofLine_line`, `dump_of_forall₂`, `groupsOf_of_sublist`.
-/

set_option autoImplicit false

namespace HostAccounts

namespace Database.GroupRow

variable {r : GroupRow} {rows listed : List GroupRow} {line user : String}

/-! ## Lines -/

/-- The members as they are written. -/
def memberText (r : GroupRow) : String :=
  ",".intercalate r.members

/-- The row can be written as a line of its own, with members that can be told apart. -/
structure IsWritable (r : GroupRow) : Prop where
  named : r.groupname ≠ ""
  plain : ':' ∉ r.groupname.toList
  members : ∀ m ∈ r.members, m ≠ "" ∧ ',' ∉ m.toList ∧ ':' ∉ m.toList
  closed : r.memberText.toList.getLast? ≠ some '\r'

instance : DecidablePred IsWritable := fun r =>
  decidable_of_iff (r.groupname ≠ "" ∧ ':' ∉ r.groupname.toList ∧
      (∀ m ∈ r.members, m ≠ "" ∧ ',' ∉ m.toList ∧ ':' ∉ m.toList) ∧
      r.memberText.toList.getLast? ≠ some '\r')
    ⟨fun h => ⟨h.1, h.2.1, h.2.2.1, h.2.2.2⟩, fun h => ⟨h.named, h.plain, h.members, h.closed⟩⟩

/-- The line is one of the row. A password may stand in it, or anything in its place. -/
def IsLineOf (r : GroupRow) (line : String) : Prop :=
  ∃ password : String, ':' ∉ password.toList ∧
    line = ":".intercalate [r.groupname, password, toString r.gid.toNat, r.memberText]

theorem isLineOf_line (r : GroupRow) : r.IsLineOf r.line :=
  ⟨"x", by decide, rfl⟩

theorem IsWritable.isEncodable (h : r.IsWritable) : r.IsEncodable :=
  ⟨h.named, h.plain, h.members⟩

theorem ofLine_of_isLineOf (h : r.IsWritable) (hline : r.IsLineOf line) : ofLine line = .ok r := by
  obtain ⟨password, hpassword, rfl⟩ := hline
  exact ofLine_eq_ok_iff.mpr (standsOn_of_password h.isEncodable hpassword)

/-- The row is read back from the line that is written of it. -/
theorem ofLine_line (h : r.IsWritable) : ofLine r.line = .ok r :=
  ofLine_of_isLineOf h (isLineOf_line r)

/-- The members stand at the end of the line, behind a colon. -/
theorem exists_toList_of_isLineOf (hline : r.IsLineOf line) :
    ∃ front, line.toList = front ++ ':' :: r.memberText.toList := by
  obtain ⟨password, -, rfl⟩ := hline
  exact ⟨(":".intercalate [r.groupname, password, toString r.gid.toNat]).toList,
    by simp [String.intercalate_cons_cons]⟩

theorem getLast?_ne_of_isLineOf (h : r.IsWritable) (hline : r.IsLineOf line) :
    line.toList.getLast? ≠ some '\r' := by
  obtain ⟨front, hfront⟩ := exists_toList_of_isLineOf hline
  rw [hfront, List.getLast?_append, List.getLast?_cons]
  cases hlast : r.memberText.toList.getLast? with
  | none => simp
  | some c =>
    have hc : c ≠ '\r' := fun hc => h.closed (hc ▸ hlast)
    simp [hc]

theorem trimEndOf_of_isLineOf (h : r.IsWritable) (hline : r.IsLineOf line) :
    Text.trimEndOf '\r' line = line :=
  Text.trimEndOf_eq_self (getLast?_ne_of_isLineOf h hline)

theorem isBlankText_of_isLineOf (hline : r.IsLineOf line) : Text.isBlankText line = false := by
  obtain ⟨front, hfront⟩ := exists_toList_of_isLineOf hline
  have hcolon : Text.isBlank ':' = false := by decide
  simp [Text.isBlankText, hfront, hcolon]

/-- Rows are read back from what is printed of them. -/
theorem dump_of_forall₂ {output : String} (h : ∀ r ∈ listed, r.IsWritable)
    (hlines : List.Forall₂ IsLineOf listed (Text.lines output)) : dump output = ⟨listed, []⟩ := by
  refine readLines_of_forall₂ (((List.forall₂_and_left _ _).mpr ⟨h, hlines⟩).imp ?_) 1
  rintro r line ⟨hr, hline⟩
  refine ⟨isBlankText_of_isLineOf hline, ?_⟩
  rw [trimEndOf_of_isLineOf hr hline]
  exact ofLine_of_isLineOf hr hline

/-! ## Memberships -/

theorem nodup_groupsOf (h : (rows.map groupname).Nodup) (user : String) :
    (groupsOf rows user).Nodup :=
  ((List.filter_sublist (p := fun r : GroupRow => r.hasMember user)).map groupname).nodup h

/-- The rows that list an account do for the whole database. -/
theorem groupsOf_of_sublist (hdistinct : (rows.map groupname).Nodup) (h : listed.Sublist rows)
    (hall : ∀ r ∈ rows, r.hasMember user = true → r ∈ listed) :
    groupsOf listed user = groupsOf rows user := by
  have hpart : (listed.filter fun r => r.hasMember user).Sublist
      (rows.filter fun r => r.hasMember user) := h.filter _
  have hsubset : (rows.filter fun r => r.hasMember user) ⊆
      listed.filter fun r => r.hasMember user := by
    intro r hr
    obtain ⟨hmem, hmember⟩ := List.mem_filter.mp hr
    exact List.mem_filter.mpr ⟨hall r hmem hmember, hmember⟩
  have hnodup : (rows.filter fun r => r.hasMember user).Nodup :=
    (List.Nodup.of_map _ hdistinct).filter _
  exact congrArg (List.map groupname)
    (hpart.eq_of_length_le (hnodup.subperm hsubset).length_le)

end Database.GroupRow

end HostAccounts
