import HostAccounts.Proofs.Database.Listing
import HostAccounts.Proofs.Host.WordSearch
import Mathlib.Data.List.TakeWhile

/-!
# The search for memberships

The groups of an account are read off the group rows in which its name stands as a word, so that the
host need not print all rows. A row that lists the account holds its name between the signs that
divide rows, and so no such row is lost; but a dollar sign that ends the name asks for the end of
the line instead, and most rows that list such an account are. Main statement:
`groupsOf_searched_iff`.
-/

set_option autoImplicit false

namespace HostAccounts

/-! ## Between signs -/

namespace Text

/-- The part stands in the text, on either side next to one of the signs or to nothing. -/
def Delimited (signs part text : List Char) : Prop :=
  ∃ front back, text = front ++ (part ++ back) ∧ (∀ c ∈ front.getLast?, c ∈ signs) ∧
    ∀ c ∈ back.head?, c ∈ signs

variable {signs part mid text : List Char} {sep : Char}

theorem Delimited.trans (hpart : Delimited signs part mid) (hmid : Delimited signs mid text) :
    Delimited signs part text := by
  obtain ⟨front, back, rfl, hfront, hback⟩ := hpart
  obtain ⟨front', back', rfl, hfront', hback'⟩ := hmid
  refine ⟨front' ++ front, back ++ back', by simp, ?_, ?_⟩
  · rw [List.getLast?_append]
    cases hlast : front.getLast? with
    | none => exact hfront'
    | some c => simpa using hfront c hlast
  · rw [List.head?_append]
    cases hhead : back.head? with
    | none => exact hback'
    | some c => simpa using hback c hhead

theorem delimited_intercalate (hsep : sep ∈ signs) (before after : List (List Char)) :
    Delimited signs part ([sep].intercalate (before ++ part :: after)) := by
  induction before with
  | nil =>
    cases after with
    | nil => exact ⟨[], [], by simp, nofun, nofun⟩
    | cons next rest =>
      refine ⟨[], sep :: [sep].intercalate (next :: rest), ?_, nofun, ?_⟩
      · simp [List.intercalate_cons_cons]
      · simpa using hsep
  | cons first rest ih =>
    obtain ⟨front, back, htext, hfront, hback⟩ := ih
    obtain ⟨next, others, hne⟩ := List.exists_cons_of_ne_nil
      (List.append_ne_nil_of_right_ne_nil rest (List.cons_ne_nil part after))
    refine ⟨first ++ sep :: front, back, ?_, ?_, hback⟩
    · rw [hne] at htext
      rw [List.cons_append, hne, List.intercalate_cons_cons, htext]
      simp
    · rw [List.getLast?_append, List.getLast?_cons]
      cases hlast : front.getLast? with
      | none => simpa using hsep
      | some c => simpa using hfront c hlast

/-- A piece stands between separators. -/
theorem delimited_of_mem_splitOn {piece s : String} (hsep : sep ∈ signs)
    (h : piece ∈ splitOn sep s) : Delimited signs piece.toList s.toList := by
  obtain ⟨p, hp, rfl⟩ := List.mem_map.mp h
  obtain ⟨before, after, hpieces⟩ := List.append_of_mem hp
  have hdelimited : Delimited signs p ([sep].intercalate (before ++ p :: after)) :=
    delimited_intercalate hsep before after
  rwa [← hpieces, intercalate_pieces, ← String.toList_ofList (l := p)] at hdelimited

/-- What is left of a text without the characters at its end stands in front of them. -/
theorem delimited_trimEndOf (hsep : sep ∈ signs) (s : String) :
    Delimited signs (trimEndOf sep s).toList s.toList := by
  refine ⟨[], (s.toList.reverse.takeWhile (· == sep)).reverse, ?_, nofun, ?_⟩
  · rw [trimEndOf, String.toList_ofList, dropTrailing, List.nil_append, ← List.reverse_append,
      List.takeWhile_append_dropWhile, List.reverse_reverse]
  · intro c hc
    have hmem := List.mem_reverse.mp (List.mem_of_mem_head? hc)
    have heq : c = sep := by simpa using List.mem_takeWhile_imp hmem
    exact heq ▸ hsep

end Text

/-! ## Rows of a text -/

namespace Database

variable {α : Type} {read : String → Except RowDefect α}

theorem not_mem_of_mem_inputLines {text line : String} (h : line ∈ inputLines text) :
    '\n' ∉ line.toList := by
  have hline : line ∈ Text.splitOn '\n' text := by
    rcases List.mem_append.mp h with hfront | hlast
    · exact List.mem_of_mem_dropLast hfront
    · rw [Option.mem_toList, Option.filter_eq_some_iff] at hlast
      exact List.mem_of_getLast? hlast.1
  obtain ⟨cs, hcs, rfl⟩ := List.mem_map.mp hline
  rw [String.toList_ofList]
  exact Text.not_mem_of_mem_pieces hcs

/-- A text is read line by line, however the lines are taken that a program is fed. -/
theorem readDump_eq_readLines (text : String) :
    readDump read text = readLines read 1 (inputLines text) := by
  have hreturn : ∀ cs : List Char, Text.trimEndOf '\r' (String.ofList (Text.dropReturn cs)) =
      Text.trimEndOf '\r' (String.ofList cs) := by
    intro cs
    rw [Text.trimEndOf, Text.trimEndOf, String.toList_ofList, String.toList_ofList,
      Text.dropTrailing_dropReturn]
  obtain ⟨front, last, hpieces⟩ : ∃ front last, Text.pieces '\n' text.toList = front ++ [last] :=
    ⟨_, _, (List.dropLast_append_getLast (Text.pieces_ne_nil _ _)).symm⟩
  have hlines : Text.lines text = front.map (fun cs => String.ofList (Text.dropReturn cs)) ++
      ([last].filter fun cs => !cs.isEmpty).map String.ofList := by
    rw [Text.lines, Text.lineList, hpieces]
    cases last <;> simp [Function.comp_def]
  have hinput : inputLines text = front.map String.ofList ++
      ([last].filter fun cs => !cs.isEmpty).map String.ofList := by
    rw [inputLines, Text.splitOn, hpieces]
    cases last <;> simp
  rw [readDump, hlines, hinput]
  refine readLines_congr (List.rel_append ?_ (List.forall₂_same.mpr fun _ _ => rfl)) 1
  rw [List.forall₂_map_left_iff, List.forall₂_map_right_iff]
  exact List.forall₂_same.mpr fun cs _ => hreturn cs

theorem readDump_unlines {ls : List String} (h : ∀ l ∈ ls, '\n' ∉ l.toList) :
    readDump read (Text.unlines ls) = readLines read 1 ls := by
  have hended : Text.unlines ls = Text.ended (ls.map fun l => (l, .feed)) "" := by
    simp [Text.unlines, Text.ended, Text.LineEnd.text, Text.LineEnd.front, Function.comp_def]
  rw [hended, readDump_ended (by simpa using h) List.not_mem_nil, readLines_append_empty,
    List.map_map]
  simp [Function.comp_def]

/-- The row that stands in the line, if it is one. -/
def rowIn? (read : String → Except RowDefect α) (line : String) : Option α :=
  if Text.isBlankText line then none else (read (Text.trimEndOf '\r' line)).toOption

theorem rows_readLines (n : Nat) (ls : List String) :
    (readLines read n ls).rows = ls.filterMap (rowIn? read) := by
  induction ls generalizing n with
  | nil => rfl
  | cons line rest ih =>
    rw [readLines, List.filterMap_cons, ← ih (n + 1), rowIn?]
    split
    · rfl
    · cases read (Text.trimEndOf '\r' line) <;> rfl

namespace GroupRow

/-- The group whose row stands in the line, if the row lists the account. -/
def listing? (user line : String) : Option String :=
  ((rowIn? ofLine line).filter fun r => r.hasMember user).map groupname

theorem groupsOf_readLines (user : String) (n : Nat) (ls : List String) :
    groupsOf (readLines ofLine n ls).rows user = ls.filterMap (listing? user) := by
  rw [groupsOf, rows_readLines, List.filter_filterMap, List.map_filterMap]
  rfl

/-- The members of a row that is read are among the parts of the last field. -/
theorem exists_of_ofLine {line : String} {r : GroupRow} (h : ofLine line = .ok r) :
    ∃ members ∈ Text.splitOn ':' line, ∀ m ∈ r.members, m ∈ Text.splitOn ',' members := by
  obtain ⟨password, gid, members, parts, hmade, -, -, hparts, hkept⟩ := ofLine_eq_ok_iff.mp h
  rw [Text.splitOn_eq_iff.mpr hmade]
  refine ⟨members, by simp, fun m hm => ?_⟩
  rw [hkept] at hm
  rw [Text.splitOn_eq_iff.mpr hparts]
  exact List.mem_of_mem_filter hm

/-- The name of an account that a line lists stands between signs in it. -/
theorem delimited_of_hasMember {line user : String} {r : GroupRow}
    (h : rowIn? ofLine line = some r) (hmember : r.hasMember user = true) :
    Text.Delimited [':', ',', '\r'] user.toList line.toList := by
  unfold rowIn? at h
  split at h
  · cases h
  cases hread : ofLine (Text.trimEndOf '\r' line) with
  | error _ =>
    rw [hread] at h
    cases h
  | ok r' =>
    rw [hread] at h
    cases h
    obtain ⟨members, hcut, hlist⟩ := exists_of_ofLine hread
    have huser : user ∈ Text.splitOn ',' members := hlist user (by simpa [hasMember] using hmember)
    have hmembers : Text.Delimited [':', ',', '\r'] user.toList members.toList :=
      Text.delimited_of_mem_splitOn (by simp) huser
    have hfield : Text.Delimited [':', ',', '\r'] members.toList
        (Text.trimEndOf '\r' line).toList := Text.delimited_of_mem_splitOn (by simp) hcut
    exact (hmembers.trans hfield).trans (Text.delimited_trimEndOf (by simp) line)

end GroupRow

end Database

/-! ## Lines that are left out -/

theorem filterMap_filter_eq_iff {α β : Type} (f : α → Option β) (keep : α → Bool) (xs : List α) :
    (xs.filter keep).filterMap f = xs.filterMap f ↔
      ∀ x ∈ xs, (f x).isSome = true → keep x = true := by
  induction xs with
  | nil => simp
  | cons x rest ih =>
    have hshort : ((rest.filter keep).filterMap f).length ≤ (rest.filterMap f).length :=
      (List.filter_sublist.filterMap f).length_le
    rw [List.forall_mem_cons, ← ih]
    cases hkeep : keep x with
    | true =>
      rw [List.filter_cons_of_pos hkeep, List.filterMap_cons, List.filterMap_cons]
      cases f x <;> simp
    | false =>
      rw [List.filter_cons_of_neg (by simp [hkeep]), List.filterMap_cons]
      cases f x with
      | none => simp
      | some y =>
        -- The part without the line is too short to be the whole.
        have hne : (rest.filter keep).filterMap f ≠ y :: rest.filterMap f := by
          intro heq
          rw [heq, List.length_cons] at hshort
          omega
        simp [hne]

open Database Database.GroupRow in
/-- A search loses no group of an account exactly if it finds every line that lists the account. -/
theorem groupsOf_select_iff (A : Alphabet) (p : LinePattern) (user groups : String) :
    groupsOf (dump (p.select A groups)).rows user = groupsOf (dump groups).rows user ↔
      ∀ line ∈ inputLines groups, ∀ r, rowIn? ofLine line = some r → r.hasMember user = true →
        p.finds A line.toList = true := by
  have hfree : ∀ line ∈ (inputLines groups).filter fun line => p.finds A line.toList,
      '\n' ∉ line.toList := by
    intro line hline
    exact not_mem_of_mem_inputLines (List.mem_of_mem_filter hline)
  rw [dump, dump, LinePattern.select, readDump_unlines hfree, readDump_eq_readLines,
    groupsOf_readLines, groupsOf_readLines, filterMap_filter_eq_iff]
  refine forall₂_congr fun line _ => ?_
  rw [listing?]
  cases rowIn? ofLine line <;> simp [Option.filter]

/-! ## The search for an account -/

/-- What the search prints that a text asks for, given what all group rows of the host are. -/
def searched? (A : Alphabet) (text groups : String) : Option String :=
  match Shell.parse text with
  | some [[⟨["getent", "group"], []⟩, ⟨["grep", "-w", "--", pattern], []⟩]] =>
    (LinePattern.read? pattern.toList).map fun p => p.select A groups
  | _ => none

/-- The line ends in a word that reads like the name, a dot in which stands for any character. -/
def EndsLike (A : Alphabet) (name line : List Char) : Prop :=
  ∃ front part, line = front ++ part ∧ List.Forall₂ (fun c d => c = '.' ∨ c = d) name part ∧
    ∀ c ∈ front.getLast?, A.isWordChar c = false

theorem fits_map_ofChar_iff {name part : List Char} :
    List.Forall₂ (fun a c => Atom.fits a c = true) (name.map .ofChar) part ↔
      List.Forall₂ (fun c d => c = '.' ∨ c = d) name part := by
  rw [List.forall₂_map_left_iff]
  simp only [Atom.fits_ofChar_iff]

/-- A pattern that ends in a dollar sign is found where a line ends like it. -/
theorem finds_atEnd_iff {A : Alphabet} {name line : List Char} :
    LinePattern.finds A ⟨name.map .ofChar, true⟩ line = true ↔ EndsLike A name line := by
  rw [LinePattern.finds_iff]
  constructor
  · rintro ⟨front, part, back, hline, hstands⟩
    obtain rfl : back = [] := hstands.ends rfl
    rw [List.append_nil] at hline
    exact ⟨front, part, hline, fits_map_ofChar_iff.mp hstands.fits, hstands.opened⟩
  · rintro ⟨front, part, hline, hfits, hopened⟩
    exact ⟨front, part, [], by rw [List.append_nil, hline], fits_map_ofChar_iff.mpr hfits,
      fun _ => rfl, hopened, nofun⟩

/-- A name is found wherever it stands between signs. -/
theorem finds_of_delimited {A : Alphabet} {name line : List Char}
    (h : Text.Delimited [':', ',', '\r'] name line) :
    LinePattern.finds A ⟨name.map .ofChar, false⟩ line = true := by
  obtain ⟨front, back, hline, hfront, hback⟩ := h
  refine LinePattern.finds_iff.mpr ⟨front, name, back, hline, ?_⟩
  constructor
  · exact fits_map_ofChar_iff.mpr (List.forall₂_same.mpr fun _ _ => .inr rfl)
  · intro hend
    cases hend
  · exact fun c hc => A.isWordChar_eq_false (hfront c hc)
  · exact fun c hc => A.isWordChar_eq_false (hback c hc)

namespace Recipe

/-- A checked name as a pattern: its body, and whether the line must end behind it. -/
theorem read?_of_checkName {field user : String} (h : checkName field user = .ok ()) :
    LinePattern.read? user.toList =
      some ⟨(nameBody user.toList).map .ofChar, user.toList.getLast? = some '$'⟩ := by
  have hplain : ∀ c ∈ nameBody user.toList, LinePattern.isForeign c = false ∧ c ≠ '$' := by
    intro c hc
    have hname := (nameBody_of_checkName h).2 c hc
    constructor
    · refine Bool.eq_false_iff.mpr fun hforeign => ?_
      have hmem : c ∈ LinePattern.foreignChars := List.contains_iff_mem.mp hforeign
      have hnone : LinePattern.foreignChars.all fun c => !isNameChar c := by decide
      have hother := List.all_eq_true.mp hnone c hmem
      rw [hname] at hother
      cases hother
    · rintro rfl
      cases hname
  have hwhole : user.toList = nameBody user.toList ++
      if (user.toList.getLast? = some '$' : Bool) then ['$'] else [] := by
    unfold nameBody
    split
    · next hdollar =>
      simp only [hdollar, decide_true, if_true]
      exact (List.dropLast_append_getLast? _ hdollar).symm
    · next hdollar => simp [hdollar]
  conv => lhs; rw [hwhole]
  exact LinePattern.read?_append hplain _

theorem searched?_readMemberships (A : Alphabet) (user groups : String) :
    searched? A (readMemberships user).text groups =
      (LinePattern.read? user.toList).map fun p => p.select A groups := by
  have hmeaning : (Primitive.groupsMentioning user).meaning =
      [⟨["getent", "group"], []⟩, ⟨["grep", "-w", "--", user], []⟩] := by
    simp [Primitive.groupsMentioning, Shell.Pipeline.meaning, Shell.Invocation.meaning,
      Shell.Invocation.ofWords, Shell.Word.value]
  have hparse : Shell.parse (readMemberships user).text =
      some [[⟨["getent", "group"], []⟩, ⟨["grep", "-w", "--", user], []⟩]] := by
    rw [← hmeaning]
    exact Shell.parse_of_says (Shell.says_written (Primitive.isWritable_groupsMentioning user))
  rw [searched?, hparse]
  rfl

open Database GroupRow in
/-- The search loses no group of an account whose name does not end in a dollar sign. Of one whose
name does, it loses none exactly if every line that lists the account ends like the name. -/
theorem groupsOf_searched_iff (A : Alphabet) {field user : String}
    (h : checkName field user = .ok ()) (groups : String) :
    ∃ kept, searched? A (readMemberships user).text groups = some kept ∧
      (groupsOf (dump kept).rows user = groupsOf (dump groups).rows user ↔
        (user.toList.getLast? = some '$' →
          ∀ line ∈ inputLines groups, ∀ r, rowIn? ofLine line = some r →
            r.hasMember user = true → EndsLike A (nameBody user.toList) line.toList)) := by
  rw [searched?_readMemberships, read?_of_checkName h]
  refine ⟨_, rfl, ?_⟩
  rw [groupsOf_select_iff]
  by_cases hdollar : user.toList.getLast? = some '$'
  · simp only [hdollar, decide_true, finds_atEnd_iff, true_imp_iff]
  · have hbody : nameBody user.toList = user.toList := if_neg hdollar
    simp only [hdollar, decide_false, hbody, false_imp_iff, iff_true]
    intro line _ r hrow hmember
    exact finds_of_delimited (delimited_of_hasMember hrow hmember)

open Database GroupRow in
theorem groupsOf_searched_iff_machine :
    (∃ kept, searched? .ascii (readMemberships "svc1").text
        "ops:x:2000:alice,svc1\nsvc1:x:1001:\nstaff:x:3000:svc10\n" = some kept ∧
      groupsOf (dump kept).rows "svc1" = ["ops"]) ∧
    ∃ kept, searched? .ascii (readMemberships "host$").text "ops:x:2000:host$,host\n" = some kept ∧
      groupsOf (dump kept).rows "host$" = ["ops"] := by
  have hname : checkName "username" "svc1" = .ok () := rfl
  have hmachine : checkName "username" "host$" = .ok () := rfl
  obtain ⟨kept, hkept, hiff⟩ := groupsOf_searched_iff .ascii hname
    "ops:x:2000:alice,svc1\nsvc1:x:1001:\nstaff:x:3000:svc10\n"
  obtain ⟨kept', hkept', hiff'⟩ := groupsOf_searched_iff .ascii hmachine "ops:x:2000:host$,host\n"
  refine ⟨⟨kept, hkept, ?_⟩, kept', hkept', ?_⟩
  · refine (hiff.mpr fun hdollar => ?_).trans (by decide +kernel)
    exact absurd hdollar (by decide)
  · refine (hiff'.mpr fun _ line hline r _ _ => ?_).trans (by decide +kernel)
    have hlines : inputLines "ops:x:2000:host$,host\n" = ["ops:x:2000:host$,host"] := by
      decide +kernel
    rw [hlines, List.mem_singleton] at hline
    subst hline
    refine ⟨"ops:x:2000:host$,".toList, "host".toList, by decide, ?_, ?_⟩
    · exact List.forall₂_same.mpr fun _ _ => .inr rfl
    · intro c hc
      obtain rfl : ',' = c := by simpa using hc
      rfl

open Database GroupRow in
/-- The group of a machine account is lost when the account is the last member in its row. -/
theorem not_groupsOf_searched :
    ¬ ∀ (A : Alphabet) (field user groups : String), checkName field user = .ok () →
      (∃ rows : List GroupRow, (∀ r ∈ rows, r.IsPrintable) ∧
        groups = Text.unlines (rows.map GroupRow.line)) →
      ∃ kept, searched? A (readMemberships user).text groups = some kept ∧
        groupsOf (dump kept).rows user = groupsOf (dump groups).rows user := by
  intro h
  have hprinted : ∀ r ∈ [(⟨"ops", 2000, ["alice", "host$"]⟩ : GroupRow)], r.IsPrintable := by
    decide +kernel
  obtain ⟨kept, hkept, hgroups⟩ := h .ascii "username" "host$" "ops:x:2000:alice,host$\n" rfl
    ⟨_, hprinted, by decide +kernel⟩
  have hpattern : LinePattern.read? "host$".toList =
      some ⟨[.char 'h', .char 'o', .char 's', .char 't'], true⟩ := by decide
  rw [searched?_readMemberships, hpattern] at hkept
  have hnone : LinePattern.select .ascii ⟨[.char 'h', .char 'o', .char 's', .char 't'], true⟩
      "ops:x:2000:alice,host$\n" = "" := by
    decide +kernel
  obtain rfl : "" = kept := hnone.symm.trans (Option.some.inj hkept)
  have hlost : groupsOf (dump "").rows "host$" = [] := rfl
  have hlisted : groupsOf (dump "ops:x:2000:alice,host$\n").rows "host$" = ["ops"] := by
    decide +kernel
  rw [hlost, hlisted] at hgroups
  cases hgroups

end Recipe

end HostAccounts
