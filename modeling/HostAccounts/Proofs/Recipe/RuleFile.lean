import HostAccounts.Database.RootOnly
import HostAccounts.Proofs.Principal
import HostAccounts.Proofs.Recipe.Deeds
import HostAccounts.Proofs.Recipe.PasswordRecord
import HostAccounts.Proofs.Text.Lines

/-!
# Rules that are read back

What the command that grants a rule writes to the rule file, and what is read in that. A file that
begins with the name of the principal and a blank gives the rest of its first line for the rule,
whatever stands there. Main statements: `sudoersRule?_of_heads`, `granted_rule_reads_back`.
-/

set_option autoImplicit false

namespace HostAccounts

/-! ## Reading a rule -/

namespace Database

open Text (BeginsPlain EndsPlain IsTrimmed firstLine)

/-- The word begins a rule line for the name: it is no comment, and without percent signs in front
it is the name. -/
structure Heads (word name : String) : Prop where
  ne_empty : word ≠ ""
  solid : ∀ c ∈ word.toList, Text.isBlank c = false
  rule : word.toList.head? ≠ some '#'
  named : Text.trimStartOf '%' word = name

theorem Heads.isTrimmed {word name : String} (h : Heads word name) : IsTrimmed word :=
  ⟨fun c hc => h.solid c (List.mem_of_mem_head? hc),
    fun c hc => h.solid c (List.mem_of_getLast? hc)⟩

/-- The name of an account, and that of a group behind a percent sign, begin rule lines for it. -/
theorem heads_principal (c : ObjectClass) {name : String} (h : IsPrincipalName name) :
    Heads (Recipe.principal c name) name := by
  obtain ⟨first, rest, hname, hfirst⟩ := h.exists_start
  have hpercent : first ≠ '%' := by
    rintro rfl
    cases hfirst
  have hhash : first ≠ '#' := by
    rintro rfl
    cases hfirst
  have hkept : Text.dropLeading (· == '%') name.toList = name.toList :=
    Text.dropLeading_eq_self fun d hd => by
      rw [hname] at hd
      obtain rfl := Option.mem_some.mp hd
      exact beq_false_of_ne hpercent
  unfold Recipe.principal
  split
  · refine ⟨by simp, ?_, by simp, ?_⟩
    · intro d hd
      rcases List.mem_cons.mp (by simpa using hd : d ∈ '%' :: name.toList) with rfl | hd
      · rfl
      · exact h.isInert.solid d hd
    · rw [Text.trimStartOf, String.toList_append]
      exact (congrArg String.ofList hkept).trans String.ofList_toList
  · refine ⟨h.isInert.ne_empty, h.isInert.solid, by simpa [hname] using hhash, ?_⟩
    rw [Text.trimStartOf, hkept, String.ofList_toList]

variable {output line word name : String}

/-- Of a line that the word begins, what stands behind its first blank is the rule. -/
theorem sudoersRule?_of_cut (h : Heads word name) (hline : firstRuleLine? output = some line)
    {rest : String} (hcut : (Text.cutAt? Text.isBlank line.toList).getD (line.toList, []) =
      (word.toList, rest.toList)) :
    sudoersRule? output name =
      if Text.isBlankText rest then none else some (Text.trim rest) := by
  have hempty : (Text.trim rest).isEmpty = Text.isBlankText rest := by
    rw [Bool.eq_iff_iff, String.isEmpty_iff, Text.trim_eq_empty_iff]
  rw [sudoersRule?, hline]
  simp only [Option.bind_eq_bind, Option.bind_some, hcut, String.ofList_toList, h.named, if_true,
    hempty]

/-- A line that the word begins is trimmed to the word if nothing stands behind it. -/
theorem trim_bare_line (h : Heads word name) {rest : String}
    (hrest : Text.isBlankText rest = true) : Text.trim (word ++ " " ++ rest) = word := by
  have hend : Text.isBlankText (" " ++ rest) = true := by
    rw [Text.isBlankText_append, hrest]
    rfl
  rw [String.append_assoc, Text.trim_append_back hend,
    Text.trim_eq_self h.isTrimmed.begins h.isTrimmed.ends]

/-- Otherwise it only loses the blanks at the end of what stands behind the word. -/
theorem exists_trim_rule_line (h : Heads word name) {rest : String}
    (hrest : Text.isBlankText rest = false) :
    ∃ kept, Text.trim (word ++ " " ++ rest) = word ++ " " ++ kept ∧
      Text.isBlankText kept = false ∧ Text.trim kept = Text.trim rest := by
  obtain ⟨kept, back, hback, hends, rfl⟩ := Text.exists_endsPlain rest
  rw [Text.isBlankText_append, hback, Bool.and_true] at hrest
  have hne : kept ≠ "" := by
    rintro rfl
    cases hrest
  have hbegins : BeginsPlain (word ++ (" " ++ kept)) :=
    Text.beginsPlain_append h.isTrimmed.begins fun hword => absurd hword h.ne_empty
  have hline : EndsPlain (word ++ " " ++ kept) :=
    Text.endsPlain_append hends fun hkept => absurd hkept hne
  rw [← String.append_assoc] at hbegins
  refine ⟨kept, ?_, hrest, (Text.trim_append_back hback kept).symm⟩
  rw [← String.append_assoc, Text.trim_append_back hback, Text.trim_eq_self hbegins hline]

/-- The first line of a file that the word begins is a rule line. -/
theorem firstRuleLine?_of_heads (h : Heads word name) (rule : String) :
    firstRuleLine? (word ++ " " ++ rule ++ "\n") =
      some (Text.trim (word ++ " " ++ firstLine rule)) := by
  have hfeed : '\n' ∉ (word ++ " ").toList := by
    intro hmem
    rw [String.toList_append, List.mem_append] at hmem
    rcases hmem with hmem | hmem
    · exact absurd (h.solid _ hmem) (by decide)
    · exact absurd hmem (by decide)
  obtain ⟨rest, hlines⟩ := Text.exists_map_trim_lines (word ++ " " ++ rule)
  rw [Text.firstLine_append hfeed] at hlines
  obtain ⟨kept, hline⟩ : ∃ kept, Text.trim (word ++ " " ++ firstLine rule) = word ++ kept := by
    cases hblank : Text.isBlankText (firstLine rule) with
    | true => exact ⟨"", by rw [trim_bare_line h hblank, String.append_empty]⟩
    | false =>
      obtain ⟨kept, htrim, -⟩ := exists_trim_rule_line h hblank
      exact ⟨" " ++ kept, by rw [htrim, String.append_assoc]⟩
  obtain ⟨c, cs, hword⟩ := List.exists_cons_of_ne_nil (mt String.toList_eq_nil_iff.mp h.ne_empty)
  have hhash : c ≠ '#' := by simpa [hword] using h.rule
  rw [firstRuleLine?, hlines, List.find?_cons_of_pos]
  simp [hline, hword, hhash, h.ne_empty]

/-- A file that the word begins gives the rest of its first line for the rule. -/
theorem sudoersRule?_of_heads (h : Heads word name) (rule : String) :
    sudoersRule? (word ++ " " ++ rule ++ "\n") name =
      if Text.isBlankText (firstLine rule) then none
      else some (Text.trim (firstLine rule)) := by
  have hline := firstRuleLine?_of_heads h rule
  cases hblank : Text.isBlankText (firstLine rule) with
  | true =>
    have hcut : (Text.cutAt? Text.isBlank word.toList).getD (word.toList, []) =
        (word.toList, "".toList) := by
      rw [Text.cutAt?_eq_none_iff.mpr h.solid]
      rfl
    have hnothing : Text.isBlankText "" = true := rfl
    rw [trim_bare_line h hblank] at hline
    rw [sudoersRule?_of_cut h hline hcut, if_pos hnothing, if_pos rfl]
  | false =>
    obtain ⟨kept, htrim, hkept, heq⟩ := exists_trim_rule_line h hblank
    have hcut : (Text.cutAt? Text.isBlank (word ++ " " ++ kept).toList).getD
        ((word ++ " " ++ kept).toList, []) = (word.toList, kept.toList) := by
      rw [String.toList_append, String.toList_append, List.append_assoc]
      exact congrArg (Option.getD · _) (Text.cutAt?_append h.solid rfl kept.toList)
    rw [htrim] at hline
    rw [sudoersRule?_of_cut h hline hcut, hkept, heq]

end Database

/-! ## Writing a rule -/

/-- The file that a pipeline writes, and what it writes there: what an `echo` prints into `tee`,
with `sudo` in front of that or not. -/
def fileWritten? : Shell.CommandLine → Option (String × String)
  | [⟨["echo", argument], []⟩, ⟨["tee", path], _⟩] => some (path, echoed argument)
  | [⟨["echo", argument], []⟩, ⟨["sudo", "tee", path], _⟩] => some (path, echoed argument)
  | _ => none

/-- The files that a text writes, one after the other. -/
def filesWritten? (text : String) : Option (List (String × String)) :=
  (Shell.parse text).map fun p => p.filterMap fileWritten?

namespace Recipe

variable {s : Settings} {c : ObjectClass} {name rule : String}

/-- A rule is granted by writing one file, which holds the principal, a blank and the rule. -/
theorem exists_filesWritten?_grant (s : Settings) (hc : c = .account ∨ c = .group)
    (name rule : String) :
    ∃ command path, grant s c name rule = .ok command ∧ ruleFile s c name = .ok path ∧
      filesWritten? command.text = some [(path, principal c name ++ " " ++ rule ++ "\n")] := by
  obtain ⟨path, hpath⟩ : ∃ path, ruleFile s c name = .ok path := by
    rcases hc with rfl | rfl <;> exact ⟨_, rfl⟩
  have hsteps : grantSteps s c name rule = .ok [.feed (principal c name ++ " " ++ rule)
      (Primitive.tee path), .run (Primitive.chmod "0440" path)] := by
    rw [grantSteps, hpath]
    rfl
  refine ⟨_, path, by rw [grant, hsteps]; rfl, hpath, ?_⟩
  rw [filesWritten?, Plan.parse_text_command (accompanying_grantSteps hsteps).isMade]
  cases s.elevationPolicy <;>
    simp [Plan.program, Plan.primedProgram, primingProgram, Intent.needsRoot, Intent.commandLine,
      Primitive.meaning_tee, Primitive.chmod, Shell.meaning_ofWords, Shell.CommandLine.ledBy,
      fileWritten?, echoed]

/-- A granted rule reads back. The command that grants it writes one file, the one that is read for
the rule of the account or the group. What is found there for the name is the first line of the
rule, without the blanks around it, or nothing if that line is blank. A rule of one line is read
back whole. -/
theorem granted_rule_reads_back (s : Settings) (hc : c = .account ∨ c = .group) {field : String}
    (hname : checkName field name = .ok ()) (rule : String) :
    ∃ command path content, grant s c name rule = .ok command ∧
      filesWritten? command.text = some [(path, content)] ∧
      readRule s c name = .ok (elevated s (Primitive.cat path)) ∧
      Database.sudoersRule? content name =
        (if Text.isBlankText (Text.firstLine rule) then none
        else some (Text.trim (Text.firstLine rule))) ∧
      ('\n' ∉ rule.toList → Text.isBlankText rule = false →
        Database.sudoersRule? content name = some (Text.trim rule)) := by
  obtain ⟨command, path, hgrant, hpath, hfiles⟩ := exists_filesWritten?_grant s hc name rule
  have hheads := Database.heads_principal c (checkName_eq_ok_iff.mp hname)
  have hread := Database.sudoersRule?_of_heads hheads rule
  refine ⟨command, path, _, hgrant, hfiles, by rw [readRule, hpath]; rfl, hread, ?_⟩
  intro hline hblank
  rw [hread, Text.firstLine_of_not_mem hline, hblank]
  rfl

/-- The rule names the group again, and goes on behind what looks like a comment. -/
theorem granted_rule_reads_back_group :
    ∃ command path content, grant {} .group "ops.$" " %ops.$ it's # \"ALL\"\t" = .ok command ∧
      filesWritten? command.text = some [(path, content)] ∧
      readRule {} .group "ops.$" = .ok (elevated {} (Primitive.cat path)) ∧
      Database.sudoersRule? content "ops.$" = some "%ops.$ it's # \"ALL\"" := by
  have hname : checkName "name" "ops.$" = .ok () := rfl
  obtain ⟨command, path, content, hgrant, hfiles, hreading, -, hread⟩ :=
    granted_rule_reads_back {} (.inr rfl) hname " %ops.$ it's # \"ALL\"\t"
  exact ⟨command, path, content, hgrant, hfiles, hreading, hread (by decide) (by decide)⟩

end Recipe

end HostAccounts
