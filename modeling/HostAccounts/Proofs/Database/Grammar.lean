import HostAccounts.Database.Row
import HostAccounts.Proofs.Failure
import HostAccounts.Proofs.Text.Numeral
import HostAccounts.Proofs.Text.Pieces

/-!
# The grammar of rows

Which lines are rows, and which row each of them is. A line has a fixed number of fields between
colons; the first is not empty, and those that are numbers are numerals below 2 to the 32. What is
in the place of the password does not matter, nor how a number is spelled, nor empty members of a
group; a row that is read and written is therefore another line, but the same row. Main statements:
`AccountRow.ofLine_eq_ok_iff`, `GroupRow.ofLine_eq_ok_iff`, `rows_are_read_exactly`.
-/

set_option autoImplicit false

namespace HostAccounts.Database

variable {line : String}

/-! ## Fields -/

theorem fields_eq_ok_iff {count : Nat} {fs : List String} :
    fields count line = .ok fs ↔ fs.length = count ∧ Text.IsMadeOf ':' line fs := by
  rw [← Text.splitOn_eq_iff, fields]
  constructor
  · intro h
    split at h
    · next hcount =>
      cases h
      exact ⟨hcount, rfl⟩
    · cases h
  · rintro ⟨hcount, rfl⟩
    exact if_pos hcount

theorem readId_eq_ok_iff {field value : String} {n : UInt32} :
    readId field value = .ok n ↔ Text.IsNumeral value n.toNat := by
  have hread : Text.readNat? UInt32.size value = some n.toNat ↔ Text.IsNumeral value n.toNat :=
    Text.readNat?_eq_some_iff.trans (and_iff_left n.toNat_lt)
  rw [← hread, readId]
  cases hvalue : Text.readNat? UInt32.size value with
  | none => simp
  | some m =>
    have hm : m < UInt32.size := (Text.readNat?_eq_some_iff.mp hvalue).2
    simp only [Except.ok.injEq, Option.some.injEq]
    constructor
    · rintro rfl
      exact (UInt32.toNat_ofNat_of_lt' hm).symm
    · rintro rfl
      exact UInt32.ofNat_toNat

/-- The line has so many fields, the first is not empty, and those in the given places are the
numbers of users or groups. -/
def IsRowLine (count : Nat) (ids : List Nat) (line : String) : Prop :=
  ∃ fs : List String, fs.length = count ∧ Text.IsMadeOf ':' line fs ∧ fs.head? ≠ some "" ∧
    ∀ i ∈ ids, ∃ f n, fs[i]? = some f ∧ Text.IsNumeral f n ∧ n < UInt32.size

/-! ## Account rows -/

namespace AccountRow

variable {r : AccountRow}

/-- The line is the row, with anything in the place of the password. -/
def StandsOn (r : AccountRow) (line : String) : Prop :=
  ∃ password uid gid, Text.IsMadeOf ':' line
      [r.username, password, uid, gid, r.comment, r.homeDirectory, r.shell] ∧
    r.username ≠ "" ∧ Text.IsNumeral uid r.uid.toNat ∧ Text.IsNumeral gid r.gid.toNat

theorem ofLine_eq_ok_iff : ofLine line = .ok r ↔ r.StandsOn line := by
  constructor
  · intro h
    unfold ofLine at h
    split at h
    · cases h
    · next username password uid gid comment home shell hfields =>
      split at h
      · cases h
      · next hnamed =>
        obtain ⟨u, huid, h⟩ := exists_of_bind_eq_ok h
        obtain ⟨g, hgid, h⟩ := exists_of_bind_eq_ok h
        cases h
        exact ⟨password, uid, gid, (fields_eq_ok_iff.mp hfields).2, by simpa using hnamed,
          readId_eq_ok_iff.mp huid, readId_eq_ok_iff.mp hgid⟩
    · cases h
  · rintro ⟨password, uid, gid, hmade, hnamed, huid, hgid⟩
    have hfields := fields_eq_ok_iff.mpr ⟨rfl, hmade⟩
    have hempty : r.username.isEmpty = false := by simpa using hnamed
    unfold ofLine
    simp only [List.length_cons, List.length_nil] at hfields
    simp only [hfields, hempty, readId_eq_ok_iff.mpr huid, readId_eq_ok_iff.mpr hgid]
    rfl

/-- The row has a name, and no colon in a text. -/
structure IsEncodable (r : AccountRow) : Prop where
  named : r.username ≠ ""
  plain : ∀ text ∈ [r.username, r.comment, r.homeDirectory, r.shell], ':' ∉ text.toList

theorem standsOn_line (h : r.IsEncodable) : r.StandsOn r.line := by
  have hplain := h.plain
  have hnumber := Text.not_mem_toString (c := ':') rfl
  simp only [List.forall_mem_cons] at hplain
  refine ⟨"x", toString r.uid.toNat, toString r.gid.toNat, ⟨List.cons_ne_nil _ _, rfl, ?_⟩, h.named,
    Text.isNumeral_toString _, Text.isNumeral_toString _⟩
  simp only [List.forall_mem_cons]
  exact ⟨hplain.1, by decide, hnumber _, hnumber _, hplain.2⟩

theorem StandsOn.isEncodable (h : r.StandsOn line) : r.IsEncodable := by
  obtain ⟨password, uid, gid, hmade, hnamed, -, -⟩ := h
  have hplain := hmade.plain
  simp only [List.forall_mem_cons] at hplain
  refine ⟨hnamed, ?_⟩
  simp only [List.forall_mem_cons]
  exact ⟨hplain.1, hplain.2.2.2.2⟩

/-- The row is read back from the line that is written of it. -/
theorem ofLine_line_of_isEncodable (h : r.IsEncodable) : ofLine r.line = .ok r :=
  ofLine_eq_ok_iff.mpr (standsOn_line h)

theorem exists_standsOn_iff : (∃ r : AccountRow, r.StandsOn line) ↔ IsRowLine 7 [2, 3] line := by
  constructor
  · rintro ⟨r, password, uid, gid, hmade, hnamed, huid, hgid⟩
    refine ⟨_, rfl, hmade, by simpa using hnamed, ?_⟩
    simp only [List.forall_mem_cons]
    exact ⟨⟨uid, _, rfl, huid, r.uid.toNat_lt⟩, ⟨gid, _, rfl, hgid, r.gid.toNat_lt⟩, nofun⟩
  · rintro ⟨fs, hcount, hmade, hnamed, hids⟩
    match fs, hcount with
    | [username, password, uid, gid, comment, home, shell], _ =>
      simp only [List.forall_mem_cons] at hids
      obtain ⟨⟨_, u, ⟨⟩, huid, hu⟩, ⟨_, g, ⟨⟩, hgid, hg⟩, -⟩ := hids
      refine ⟨⟨username, UInt32.ofNat u, UInt32.ofNat g, comment, home, shell⟩, password, uid, gid,
        hmade, by simpa using hnamed, ?_, ?_⟩
      · rwa [UInt32.toNat_ofNat_of_lt' hu]
      · rwa [UInt32.toNat_ofNat_of_lt' hg]

end AccountRow

/-! ## Group rows -/

namespace GroupRow

variable {r : GroupRow}

/-- The line is the row, with anything in the place of the password, and perhaps with empty members
between its own. -/
def StandsOn (r : GroupRow) (line : String) : Prop :=
  ∃ password gid members parts, Text.IsMadeOf ':' line [r.groupname, password, gid, members] ∧
    r.groupname ≠ "" ∧ Text.IsNumeral gid r.gid.toNat ∧ Text.IsMadeOf ',' members parts ∧
    r.members = parts.filter fun m => m ≠ ""

theorem ofLine_eq_ok_iff : ofLine line = .ok r ↔ r.StandsOn line := by
  have hfilter : ∀ parts : List String,
      parts.filter (fun m => !m.isEmpty) = parts.filter fun m => m ≠ "" := by
    intro parts
    refine List.filter_congr fun m _ => ?_
    rw [Bool.eq_iff_iff]
    simp
  constructor
  · intro h
    unfold ofLine at h
    split at h
    · cases h
    · next groupname password gid members hfields =>
      split at h
      · cases h
      · next hnamed =>
        obtain ⟨g, hgid, h⟩ := exists_of_bind_eq_ok h
        cases h
        exact ⟨password, gid, members, _, (fields_eq_ok_iff.mp hfields).2, by simpa using hnamed,
          readId_eq_ok_iff.mp hgid, Text.splitOn_eq_iff.mp rfl, hfilter _⟩
    · cases h
  · rintro ⟨password, gid, members, parts, hmade, hnamed, hgid, hmembers, hkept⟩
    have hfields := fields_eq_ok_iff.mpr ⟨rfl, hmade⟩
    have hempty : r.groupname.isEmpty = false := by simpa using hnamed
    unfold ofLine
    simp only [List.length_cons, List.length_nil] at hfields
    simp only [hfields, hempty, readId_eq_ok_iff.mpr hgid, Text.splitOn_eq_iff.mpr hmembers,
      hfilter, ← hkept]
    rfl

/-- The row has a name, no member of it is empty, and no text in it holds a separator. -/
structure IsEncodable (r : GroupRow) : Prop where
  named : r.groupname ≠ ""
  plain : ':' ∉ r.groupname.toList
  members : ∀ m ∈ r.members, m ≠ "" ∧ ',' ∉ m.toList ∧ ':' ∉ m.toList

theorem StandsOn.isEncodable (h : r.StandsOn line) : r.IsEncodable := by
  obtain ⟨password, gid, members, parts, hmade, hnamed, -, hmembers, hkept⟩ := h
  have hplain := hmade.plain
  simp only [List.forall_mem_cons] at hplain
  refine ⟨hnamed, hplain.1, fun m hm => ?_⟩
  rw [hkept] at hm
  obtain ⟨hpart, hne⟩ := List.mem_filter.mp hm
  refine ⟨by simpa using hne, hmembers.plain m hpart, fun hcolon => ?_⟩
  exact hplain.2.2.2.1 (hmembers.mem_of_mem hpart hcolon)

/-- Members that can be told apart are read back from the text of them. -/
theorem exists_isMadeOf_members {members : List String}
    (h : ∀ m ∈ members, m ≠ "" ∧ ',' ∉ m.toList) :
    ∃ parts, Text.IsMadeOf ',' (",".intercalate members) parts ∧
      members = parts.filter fun m => m ≠ "" := by
  have hkept : members = members.filter fun m => m ≠ "" :=
    (List.filter_eq_self.mpr fun m hm => decide_eq_true (h m hm).1).symm
  cases members with
  | nil => exact ⟨[""], ⟨List.cons_ne_nil _ _, rfl, by simp⟩, by simp⟩
  | cons first rest =>
    exact ⟨first :: rest, ⟨List.cons_ne_nil _ _, rfl, fun m hm => (h m hm).2⟩, hkept⟩

/-- A password may stand in the line, or anything in its place. -/
theorem standsOn_of_password (h : r.IsEncodable) {password : String}
    (hpassword : ':' ∉ password.toList) : r.StandsOn (":".intercalate
      [r.groupname, password, toString r.gid.toNat, ",".intercalate r.members]) := by
  obtain ⟨parts, hparts, hkept⟩ :=
    exists_isMadeOf_members fun m hm => ⟨(h.members m hm).1, (h.members m hm).2.1⟩
  have hmembers : ':' ∉ (",".intercalate r.members).toList :=
    Text.not_mem_intercalate (by decide) fun m hm => (h.members m hm).2.2
  refine ⟨password, _, _, parts, ⟨List.cons_ne_nil _ _, rfl, ?_⟩, h.named,
    Text.isNumeral_toString _, hparts, hkept⟩
  simp only [List.forall_mem_cons]
  exact ⟨h.plain, hpassword, Text.not_mem_toString rfl _, hmembers, nofun⟩

/-- The row is read back from the line that is written of it. -/
theorem ofLine_line_of_isEncodable (h : r.IsEncodable) : ofLine r.line = .ok r :=
  ofLine_eq_ok_iff.mpr (standsOn_of_password h (by decide))

theorem exists_standsOn_iff : (∃ r : GroupRow, r.StandsOn line) ↔ IsRowLine 4 [2] line := by
  constructor
  · rintro ⟨r, password, gid, members, parts, hmade, hnamed, hgid, -⟩
    refine ⟨_, rfl, hmade, by simpa using hnamed, ?_⟩
    simp only [List.forall_mem_cons]
    exact ⟨⟨gid, _, rfl, hgid, r.gid.toNat_lt⟩, nofun⟩
  · rintro ⟨fs, hcount, hmade, hnamed, hids⟩
    match fs, hcount with
    | [groupname, password, gid, members], _ =>
      simp only [List.forall_mem_cons] at hids
      obtain ⟨⟨_, g, ⟨⟩, hgid, hg⟩, -⟩ := hids
      refine ⟨⟨groupname, UInt32.ofNat g, _⟩, password, gid, members, Text.splitOn ',' members,
        hmade, by simpa using hnamed, ?_, Text.splitOn_eq_iff.mp rfl, rfl⟩
      rwa [UInt32.toNat_ofNat_of_lt' hg]

end GroupRow

/-! ## Codecs -/

/-- Reading and writing of rows fit together: a line is read exactly if it has the form of a row,
and as the row that stands on it; a row that can be encoded is read back from its line; and so is
every row that was read from any line. -/
structure IsCodec {α : Type} (read : String → Except RowDefect α) (write : α → String)
    (IsLine : String → Prop) (StandsOn : α → String → Prop) (IsEncodable : α → Prop) : Prop where
  accepts : ∀ line, (∃ a, read line = .ok a) ↔ IsLine line
  reads : ∀ line a, read line = .ok a ↔ StandsOn a line
  read_write : ∀ a, IsEncodable a → read (write a) = .ok a
  rereads : ∀ line a, read line = .ok a → read (write a) = .ok a

/-- Account rows have seven fields with two numbers in them, group rows four with one. -/
theorem rows_are_read_exactly :
    IsCodec AccountRow.ofLine AccountRow.line (IsRowLine 7 [2, 3]) AccountRow.StandsOn
        AccountRow.IsEncodable ∧
      IsCodec GroupRow.ofLine GroupRow.line (IsRowLine 4 [2]) GroupRow.StandsOn
        GroupRow.IsEncodable := by
  constructor
  · refine ⟨fun line => ?_, fun line r => AccountRow.ofLine_eq_ok_iff,
      fun r => AccountRow.ofLine_line_of_isEncodable, fun line r hread => ?_⟩
    · simp only [AccountRow.ofLine_eq_ok_iff]
      exact AccountRow.exists_standsOn_iff
    · exact AccountRow.ofLine_line_of_isEncodable (AccountRow.ofLine_eq_ok_iff.mp hread).isEncodable
  · refine ⟨fun line => ?_, fun line r => GroupRow.ofLine_eq_ok_iff,
      fun r => GroupRow.ofLine_line_of_isEncodable, fun line r hread => ?_⟩
    · simp only [GroupRow.ofLine_eq_ok_iff]
      exact GroupRow.exists_standsOn_iff
    · exact GroupRow.ofLine_line_of_isEncodable (GroupRow.ofLine_eq_ok_iff.mp hread).isEncodable

/-- A group whose number is spelled oddly, with an empty member, is read, and read back from another
line. -/
theorem rows_are_read_exactly_odd :
    GroupRow.ofLine "ops:!:+0010:svc1,,bob" = .ok ⟨"ops", 10, ["svc1", "bob"]⟩ ∧
      IsRowLine 4 [2] "ops:!:+0010:svc1,,bob" ∧
      GroupRow.ofLine (GroupRow.line ⟨"ops", 10, ["svc1", "bob"]⟩) =
        .ok ⟨"ops", 10, ["svc1", "bob"]⟩ := by
  have hread : GroupRow.ofLine "ops:!:+0010:svc1,,bob" = .ok ⟨"ops", 10, ["svc1", "bob"]⟩ :=
    rfl
  exact ⟨hread, (rows_are_read_exactly.2.accepts _).mp ⟨_, hread⟩,
    rows_are_read_exactly.2.rereads _ _ hread⟩

end HostAccounts.Database
