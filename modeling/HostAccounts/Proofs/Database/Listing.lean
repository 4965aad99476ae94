import HostAccounts.Proofs.Database.GroupRow
import HostAccounts.Proofs.Session.Errand
import HostAccounts.Proofs.Session.Events
import Mathlib.Data.List.Induction

/-!
# Listings

What a host prints of a database: rows, and between them blank lines and lines that are no rows,
each ended in the one way or the other. All rows are read back in their order, and each line that is
no row is told with its number. Neither shifts a row or its number, however a line ends. Main
statements: `readDump_ended`, `RowFormat.readDump_text`, `listings_are_read`.
-/

set_option autoImplicit false

namespace HostAccounts

/-! ## Lines with their ends -/

namespace Text

/-- How a line ends: with a line feed, and a carriage return in front of it or not. -/
inductive LineEnd where
  | feed
  | returnFeed
  deriving DecidableEq, Repr

/-- What stands in front of the line feed. -/
def LineEnd.front : LineEnd → List Char
  | feed => []
  | returnFeed => ['\r']

/-- The end as it is written. -/
def LineEnd.text (e : LineEnd) : String :=
  String.ofList (e.front ++ ['\n'])

/-- The text of lines with their ends, and of what stands behind the last end. -/
def ended (ls : List (String × LineEnd)) (last : String) : String :=
  String.join (ls.map fun (l, e) => l ++ e.text) ++ last

theorem toList_ended_cons (l : String) (e : LineEnd) (ls : List (String × LineEnd))
    (last : String) :
    (ended ((l, e) :: ls) last).toList =
      (l.toList ++ e.front) ++ '\n' :: (ended ls last).toList := by
  simp [ended, LineEnd.text]

theorem pieces_ended {ls : List (String × LineEnd)} {last : String}
    (hls : ∀ l ∈ ls, '\n' ∉ l.1.toList) (hlast : '\n' ∉ last.toList) :
    pieces '\n' (ended ls last).toList =
      ls.map (fun (l, e) => l.toList ++ e.front) ++ [last.toList] := by
  induction ls with
  | nil => simpa [ended] using pieces_of_not_mem hlast
  | cons l rest ih =>
    obtain ⟨hl, hrest⟩ := List.forall_mem_cons.mp hls
    obtain ⟨text, e⟩ := l
    have hfront : '\n' ∉ text.toList ++ e.front := by
      cases e <;> simpa [LineEnd.front] using hl
    have hfeed : pieces '\n' ('\n' :: (ended rest last).toList) =
        [] :: pieces '\n' (ended rest last).toList := by
      rw [pieces, if_pos rfl]
    rw [toList_ended_cons, pieces_append_of_not_mem hfront _ hfeed, ih hrest]
    simp

/-- What is read of a line keeps or loses the carriage returns at its end, and nothing else. -/
theorem dropTrailing_dropReturn (cs : List Char) :
    dropTrailing (· == '\r') (dropReturn cs) = dropTrailing (· == '\r') cs := by
  unfold dropReturn
  split
  · next hlast =>
    have hcs := List.dropLast_append_getLast? _ hlast
    conv => rhs; rw [← hcs]
    exact (dropTrailing_append_singleton_of_pos cs.dropLast rfl).symm
  · rfl

theorem dropTrailing_append_front (cs : List Char) (e : LineEnd) :
    dropTrailing (· == '\r') (cs ++ e.front) = dropTrailing (· == '\r') cs := by
  cases e with
  | feed => rw [LineEnd.front, List.append_nil]
  | returnFeed => exact dropTrailing_append_singleton_of_pos cs rfl

/-- A carriage return is blank, so it does not matter for whether a line is. -/
theorem isBlankText_trimEndOf_return (s : String) :
    isBlankText (trimEndOf '\r' s) = isBlankText s := by
  have hdrop : ∀ cs : List Char,
      (dropTrailing (· == '\r') cs).all isBlank = cs.all isBlank := by
    intro cs
    induction cs using List.reverseRecOn with
    | nil => rfl
    | append_singleton cs c ih =>
      by_cases hc : c = '\r'
      · have hreturn : isBlank '\r' = true := rfl
        subst hc
        rw [dropTrailing_append_singleton_of_pos cs (by simp), ih]
        simp [hreturn]
      · rw [dropTrailing_append_singleton_of_neg cs (by simpa using hc)]
  rw [isBlankText, trimEndOf, String.toList_ofList, hdrop, isBlankText]

/-- The lines that are read are the ones that were written, up to carriage returns at their ends; an
empty text behind the last end is no line. -/
theorem lines_ended {ls : List (String × LineEnd)} {last : String}
    (hls : ∀ l ∈ ls, '\n' ∉ l.1.toList) (hlast : '\n' ∉ last.toList) :
    lines (ended ls last) =
      ls.map (fun (l, e) => String.ofList (dropReturn (l.toList ++ e.front))) ++
        if last.isEmpty then [] else [last] := by
  have hempty : last.toList.isEmpty = last.isEmpty := by
    rw [Bool.eq_iff_iff]
    simp
  rw [lines, lineList, pieces_ended hls hlast]
  simp only [List.dropLast_concat, List.getLastD_concat, List.map_append, List.map_map, hempty]
  split <;> simp [Function.comp_def]

end Text

namespace Database

/-! ## Reading lines with their ends -/

section

variable {α : Type} {read : String → Except RowDefect α}

/-- Carriage returns at the ends of lines do not matter. -/
theorem readLines_congr {ls ls' : List String}
    (h : List.Forall₂ (fun l l' => Text.trimEndOf '\r' l = Text.trimEndOf '\r' l') ls ls')
    (n : Nat) : readLines read n ls = readLines read n ls' := by
  induction h generalizing n with
  | nil => rfl
  | @cons l l' _ _ hl _ ih =>
    have hblank : Text.isBlankText l = Text.isBlankText l' := by
      rw [← Text.isBlankText_trimEndOf_return l, hl, Text.isBlankText_trimEndOf_return]
    simp only [readLines, ih, hl, hblank]

theorem readLines_append_empty (ls : List String) (n : Nat) :
    readLines read n (ls ++ [""]) = readLines read n ls := by
  induction ls generalizing n with
  | nil => rfl
  | cons l rest ih => simp only [List.cons_append, readLines, ih]

/-- However its lines end, a text is read as the lines that it was made of. -/
theorem readDump_ended {ls : List (String × Text.LineEnd)} {last : String}
    (hls : ∀ l ∈ ls, '\n' ∉ l.1.toList) (hlast : '\n' ∉ last.toList) :
    readDump read (Text.ended ls last) = readLines read 1 (ls.map Prod.fst ++ [last]) := by
  have hcut : ∀ (l : String) (e : Text.LineEnd),
      Text.trimEndOf '\r' (String.ofList (Text.dropReturn (l.toList ++ e.front))) =
        Text.trimEndOf '\r' l := by
    intro l e
    rw [Text.trimEndOf, String.toList_ofList, Text.dropTrailing_dropReturn,
      Text.dropTrailing_append_front, Text.trimEndOf]
  have hsame : List.Forall₂ (fun l l' => Text.trimEndOf '\r' l = Text.trimEndOf '\r' l')
      (ls.map fun (l, e) => String.ofList (Text.dropReturn (l.toList ++ e.front)))
      (ls.map Prod.fst) := by
    rw [List.forall₂_map_left_iff, List.forall₂_map_right_iff]
    exact List.forall₂_same.mpr fun l _ => hcut l.1 l.2
  rw [readDump, Text.lines_ended hls hlast]
  split
  · next hempty =>
    rw [String.isEmpty_iff.mp hempty, readLines_append_empty, List.append_nil]
    exact readLines_congr hsame 1
  · exact readLines_congr (List.rel_append hsame (List.forall₂_same.mpr fun _ _ => rfl)) 1

end

/-! ## Formats of rows -/

/-- How the rows of a database are written and read. A row that can be written fills one line, which
is not blank, and is read back from it. -/
structure RowFormat (α : Type) where
  write : α → String
  read : String → Except RowDefect α
  IsWritable : α → Prop
  isLine : ∀ a, IsWritable a → Text.IsLine (write a)
  isBlank : ∀ a, IsWritable a → Text.isBlankText (write a) = false
  read_write : ∀ a, IsWritable a → read (write a) = .ok a

/-- Account rows. -/
def AccountRow.format : RowFormat AccountRow where
  write := line
  read := ofLine
  IsWritable := IsWritable
  isLine _ h := isLine_line h
  isBlank _ h := isBlankText_line h
  read_write _ h := ofLine_line h

/-- The row can be written as a line of a database that is read line by line. -/
structure GroupRow.IsPrintable (r : GroupRow) : Prop extends r.IsWritable where
  unbroken : '\n' ∉ r.groupname.toList ∧ ∀ m ∈ r.members, '\n' ∉ m.toList

instance : DecidablePred GroupRow.IsPrintable := fun r =>
  decidable_of_iff (r.IsWritable ∧ '\n' ∉ r.groupname.toList ∧ ∀ m ∈ r.members, '\n' ∉ m.toList)
    ⟨fun h => ⟨h.1, h.2⟩, fun h => ⟨h.toIsWritable, h.unbroken⟩⟩

theorem GroupRow.isLine_line {r : GroupRow} (h : r.IsPrintable) : Text.IsLine r.line := by
  have hmembers : '\n' ∉ r.memberText.toList :=
    Text.not_mem_intercalate (by decide) h.unbroken.2
  refine ⟨?_, getLast?_ne_of_isLineOf h.1 (isLineOf_line r)⟩
  refine Text.not_mem_intercalate (by decide) ?_
  simp only [List.forall_mem_cons]
  exact ⟨h.unbroken.1, by decide, Text.not_mem_toString rfl _, hmembers, nofun⟩

/-- Group rows. -/
def GroupRow.format : RowFormat GroupRow where
  write := line
  read := ofLine
  IsWritable := IsPrintable
  isLine _ h := isLine_line h
  isBlank r _ := isBlankText_of_isLineOf (isLineOf_line r)
  read_write _ h := ofLine_line h.toIsWritable

/-! ## Listings -/

/-- A line of a listing. -/
inductive ListingLine (α : Type) where
  | row (a : α)
  | blank (text : String)
  /-- A line that is no row, and why it is none. -/
  | faulty (text : String) (defect : RowDefect)
  deriving DecidableEq, Repr

namespace ListingLine

variable {α : Type}

/-- The line as it is written. -/
def text (f : RowFormat α) : ListingLine α → String
  | row a => f.write a
  | blank text | faulty text _ => text

/-- The line is what it is said to be, and nothing else stands in it. -/
def IsSound (f : RowFormat α) : ListingLine α → Prop
  | row a => f.IsWritable a
  | blank text => '\n' ∉ text.toList ∧ Text.isBlankText text = true
  | faulty text defect => '\n' ∉ text.toList ∧ Text.isBlankText text = false ∧
      f.read (Text.trimEndOf '\r' text) = .error defect

/-- The row in the line. -/
def row? : ListingLine α → Option α
  | row a => some a
  | _ => none

/-- Why the line is no row although it is not blank. -/
def defect? : ListingLine α → Option RowDefect
  | faulty _ defect => some defect
  | _ => none

/-- The rows in lines, in their order. -/
def rows (ls : List (ListingLine α)) : List α :=
  ls.filterMap row?

/-- The faults in lines that are counted from `n` on. -/
def faults (ls : List (ListingLine α)) (n : Nat) : List RowFault :=
  (ls.zipIdx n).filterMap fun (l, i) => l.defect?.map (RowFault.mk i)

theorem not_mem_text {f : RowFormat α} {l : ListingLine α} (h : l.IsSound f) :
    '\n' ∉ (l.text f).toList := by
  cases l with
  | row a => exact (f.isLine a h).1
  | blank text => exact h.1
  | faulty text defect => exact h.1

/-- No line shifts what is read of the next ones. -/
theorem readLines_text {f : RowFormat α} {ls : List (ListingLine α)} (h : ∀ l ∈ ls, l.IsSound f)
    (n : Nat) : readLines f.read n (ls.map (text f)) = ⟨rows ls, faults ls n⟩ := by
  induction ls generalizing n with
  | nil => rfl
  | cons l rest ih =>
    obtain ⟨hl, hrest⟩ := List.forall_mem_cons.mp h
    have hnext := ih hrest (n + 1)
    cases l with
    | row a =>
      have hread : f.read (Text.trimEndOf '\r' (f.write a)) = .ok a := by
        rw [Text.trimEndOf_eq_self (f.isLine a hl).2]
        exact f.read_write a hl
      simp [readLines, text, hnext, f.isBlank a hl, hread, rows, faults, row?, defect?]
    | blank _ =>
      simp [readLines, text, hnext, hl.2, rows, faults, row?, defect?, List.filterMap_cons]
    | faulty _ _ =>
      simp [readLines, text, hnext, hl.2.1, hl.2.2, rows, faults, row?, defect?,
        List.filterMap_cons]

end ListingLine

/-- The lines of a listing with their ends; the last line may stand without one. -/
structure Listing (α : Type) where
  ended : List (ListingLine α × Text.LineEnd)
  last : Option (ListingLine α)
  deriving DecidableEq, Repr

namespace Listing

variable {α : Type}

/-- All lines. -/
def lines (l : Listing α) : List (ListingLine α) :=
  l.ended.map Prod.fst ++ l.last.toList

/-- The listing as it is printed. -/
def text (f : RowFormat α) (l : Listing α) : String :=
  Text.ended (l.ended.map fun (line, e) => (line.text f, e)) ((l.last.map (·.text f)).getD "")

/-- What is told of the lines that are no rows: each with its number among all lines. -/
def warnings (l : Listing α) : List String :=
  (ListingLine.faults l.lines 1).map fun fault =>
    s!"WARN Skipping unparseable row: line {fault.line}: {fault.defect.message}"

end Listing

/-- A listing is read as the rows and the faults in it. -/
theorem RowFormat.readDump_text {α : Type} (f : RowFormat α) {l : Listing α}
    (h : ∀ line ∈ l.lines, line.IsSound f) :
    readDump f.read (l.text f) = ⟨ListingLine.rows l.lines, ListingLine.faults l.lines 1⟩ := by
  obtain ⟨ended, last⟩ := l
  have hended : ∀ line ∈ ended.map fun (line, e) => (line.text f, e), '\n' ∉ line.1.toList := by
    intro line hline
    obtain ⟨⟨line, e⟩, hmem, rfl⟩ := List.mem_map.mp hline
    refine ListingLine.not_mem_text (h line ?_)
    exact List.mem_append_left _ (List.mem_map_of_mem hmem)
  cases last with
  | none =>
    rw [Listing.text, Option.map_none, Option.getD_none, readDump_ended hended List.not_mem_nil,
      readLines_append_empty, ← ListingLine.readLines_text h]
    simp [Listing.lines, Function.comp_def]
  | some line =>
    have hline : '\n' ∉ (line.text f).toList :=
      ListingLine.not_mem_text (h line (by simp [Listing.lines]))
    rw [Listing.text, Option.map_some, Option.getD_some, readDump_ended hended hline,
      ← ListingLine.readLines_text h]
    simp [Listing.lines, Function.comp_def]

/-- Whatever host reads it, the dump gives the rows of the listing in their order, and of the lines
of the listing those that are no rows are told, each once and with its number. -/
structure IsReadAs {α : Type} (dump : Dump α) (l : Listing α) : Prop where
  rows : ∀ {σ : Type} (peer : Dialogue.Peer σ) (s : σ),
    ((Session.rows dump).run peer s).1 = .ok (ListingLine.rows l.lines)
  told : ∀ {σ : Type} (peer : Dialogue.Peer σ) (s : σ),
    ((Session.rows dump).told peer s).map Event.line = l.warnings

theorem RowFormat.isReadAs {α : Type} (f : RowFormat α) {l : Listing α}
    (h : ∀ line ∈ l.lines, line.IsSound f) : IsReadAs (readDump f.read (l.text f)) l := by
  have hdump := f.readDump_text h
  constructor
  · intro σ peer s
    rw [Session.run_rows, hdump]
  · intro σ peer s
    rw [Session.told_rows, hdump, List.map_map, Listing.warnings]
    rfl

/-- Both databases are read without loss: however the lines end, and whatever blank lines and lines
that are no rows stand between them. -/
theorem listings_are_read :
    (∀ l : Listing AccountRow, (∀ line ∈ l.lines, line.IsSound AccountRow.format) →
      IsReadAs (AccountRow.dump (l.text AccountRow.format)) l) ∧
    ∀ l : Listing GroupRow, (∀ line ∈ l.lines, line.IsSound GroupRow.format) →
      IsReadAs (GroupRow.dump (l.text GroupRow.format)) l :=
  ⟨fun _ h => AccountRow.format.isReadAs h, fun _ h => GroupRow.format.isReadAs h⟩

/-- Two accounts around a blank line and a line with too few fields. -/
def oddAccounts : Listing AccountRow where
  ended :=
    [(.row ⟨"root", 0, 0, "root", "/root", "/bin/bash"⟩, .returnFeed), (.blank " \t", .feed),
      (.faulty "broken:x:1002\r" (.fieldCount 7 3), .returnFeed)]
  last := some (.row ⟨"svc1", 1001, 1001, "Build Bot,,,", "/home/svc1", "/bin/sh"⟩)

/-- Two groups, one without members, around a line whose number is none. -/
def oddGroups : Listing GroupRow where
  ended :=
    [(.row ⟨"staff", 2000, []⟩, .feed), (.faulty "ops:x:many:" (.notANumber "gid" "many"), .feed),
      (.row ⟨"docker", 998, ["svc1", "alice"]⟩, .returnFeed)]
  last := none

theorem listings_are_read_odd :
    (oddAccounts.text AccountRow.format =
        "root:x:0:0:root:/root:/bin/bash\r\n \t\nbroken:x:1002\r\r\n" ++
          "svc1:x:1001:1001:Build Bot,,,:/home/svc1:/bin/sh" ∧
      oddAccounts.warnings =
        ["WARN Skipping unparseable row: line 3: expected 7 fields, found 3"] ∧
      IsReadAs (AccountRow.dump (oddAccounts.text AccountRow.format)) oddAccounts) ∧
    oddGroups.text GroupRow.format = "staff:x:2000:\nops:x:many:\ndocker:x:998:svc1,alice\r\n" ∧
    oddGroups.warnings = ["WARN Skipping unparseable row: line 2: gid 'many' is not a number"] ∧
    IsReadAs (GroupRow.dump (oddGroups.text GroupRow.format)) oddGroups := by
  have haccounts : ∀ line ∈ oddAccounts.lines, line.IsSound AccountRow.format := by
    have hroot : AccountRow.IsWritable ⟨"root", 0, 0, "root", "/root", "/bin/bash"⟩ := by
      decide +kernel
    have hsvc1 : AccountRow.IsWritable
        ⟨"svc1", 1001, 1001, "Build Bot,,,", "/home/svc1", "/bin/sh"⟩ := by
      decide +kernel
    simp only [Listing.lines, oddAccounts, List.map_cons, List.map_nil, Option.toList_some,
      List.cons_append, List.nil_append, List.forall_mem_cons]
    exact ⟨hroot, ⟨by decide, by decide⟩, ⟨by decide, by decide, by decide +kernel⟩, hsvc1, nofun⟩
  have hgroups : ∀ line ∈ oddGroups.lines, line.IsSound GroupRow.format := by
    have hstaff : GroupRow.IsPrintable ⟨"staff", 2000, []⟩ := by decide +kernel
    have hdocker : GroupRow.IsPrintable ⟨"docker", 998, ["svc1", "alice"]⟩ := by
      decide +kernel
    simp only [Listing.lines, oddGroups, List.map_cons, List.map_nil, Option.toList_none,
      List.append_nil, List.forall_mem_cons]
    exact ⟨hstaff, ⟨by decide, by decide, by decide +kernel⟩, hdocker, nofun⟩
  refine ⟨⟨by decide +kernel, by decide +kernel, ?_⟩, by decide +kernel, by decide +kernel, ?_⟩
  · exact listings_are_read.1 oddAccounts haccounts
  · exact listings_are_read.2 oddGroups hgroups

end Database

end HostAccounts
