import HostAccounts.Proofs.Failure
import HostAccounts.Proofs.Principal
import HostAccounts.Recipe.Keys
import HostAccounts.Recipe.Permissions
import HostAccounts.Settings.Basic

/-!
# Paths that stay in their directory

The paths that follow from a name: the home directory that is assumed for it, the keys in that, and
the rule file. Each is reached from a directory of the settings through a few entries, so that it is
the entries that decide whether it lies below the directory: none may lead upwards, and one has to
lead somewhere. Main statements: `liesBelow_enter_iff`, `staysInside_iff`.
-/

set_option autoImplicit false

namespace HostAccounts

open Text (splitOn)

/-! ## Paths step by step -/

/-- The steps of a path: what stands between its slashes, without what leads nowhere. -/
def steps (path : String) : List String :=
  (splitOn '/' path).filter fun part => !isIdlePart part

/-- The path goes down from the directory. It has no step upwards, and its steps are those of the
directory and at least one more. -/
structure LiesBelow (directory path : String) : Prop where
  level : ".." ∉ splitOn '/' path
  deeper : ∃ more, more ≠ [] ∧ steps path = steps directory ++ more

/-- The path that is reached from a directory through one entry after the other. -/
def enter (directory : String) (entries : List String) : String :=
  entries.foldl pathIn directory

variable {directory entry : String} {entries : List String}

/-- A path in a directory has the entry for its last part, whatever slashes end the directory. -/
theorem splitOn_pathIn (h : '/' ∉ entry.toList) :
    splitOn '/' (pathIn directory entry) =
      splitOn '/' (Text.trimEndOf '/' directory) ++ [entry] := by
  have hsplit := Text.splitOn_append_singleton_append '/' (Text.trimEndOf '/' directory) entry
  rwa [Text.splitOn_of_not_mem h] at hsplit

theorem steps_trimEndOf (directory : String) :
    steps (Text.trimEndOf '/' directory) = steps directory := by
  obtain ⟨n, hsplit⟩ := Text.exists_splitOn_eq_trimEndOf '/' directory
  have hidle : (List.replicate n "").filter (fun part => !isIdlePart part) = [] := by
    refine List.filter_eq_nil_iff.mpr fun part hpart => ?_
    rw [List.eq_of_mem_replicate hpart]
    decide
  rw [steps, steps, hsplit, List.filter_append, hidle, List.append_nil]

theorem climbs_trimEndOf (directory : String) :
    ".." ∈ splitOn '/' (Text.trimEndOf '/' directory) ↔ ".." ∈ splitOn '/' directory := by
  obtain ⟨n, hsplit⟩ := Text.exists_splitOn_eq_trimEndOf '/' directory
  rw [hsplit, List.mem_append, List.mem_replicate]
  simp

/-- Each entry is a step of the path, unless it leads nowhere. -/
theorem steps_enter (h : ∀ e ∈ entries, '/' ∉ e.toList) (directory : String) :
    steps (enter directory entries) =
      steps directory ++ entries.filter fun e => !isIdlePart e := by
  induction entries generalizing directory with
  | nil => rw [enter, List.foldl_nil, List.filter_nil, List.append_nil]
  | cons e rest ih =>
    obtain ⟨he, hrest⟩ := List.forall_mem_cons.mp h
    have hpath : steps (pathIn directory e) = steps directory ++ [e].filter (!isIdlePart ·) := by
      rw [steps, splitOn_pathIn he, List.filter_append, ← steps_trimEndOf directory, steps]
    have henter : enter directory (e :: rest) = enter (pathIn directory e) rest := rfl
    rw [henter, ih hrest, hpath, List.append_assoc, ← List.filter_append, List.singleton_append]

/-- The path leads upwards if the directory or one of the entries does. -/
theorem climbs_enter (h : ∀ e ∈ entries, '/' ∉ e.toList) (directory : String) :
    ".." ∈ splitOn '/' (enter directory entries) ↔
      ".." ∈ splitOn '/' directory ∨ ".." ∈ entries := by
  induction entries generalizing directory with
  | nil => simp [enter]
  | cons e rest ih =>
    obtain ⟨he, hrest⟩ := List.forall_mem_cons.mp h
    have hpath : ".." ∈ splitOn '/' (pathIn directory e) ↔
        ".." ∈ splitOn '/' directory ∨ ".." = e := by
      rw [splitOn_pathIn he, List.mem_append, climbs_trimEndOf, List.mem_singleton]
    rw [enter, List.foldl_cons, List.mem_cons, ← or_assoc, ← hpath]
    exact ih hrest _

/-- A path that is reached from a level directory lies below it exactly if no entry leads upwards
and one of them leads somewhere. -/
theorem liesBelow_enter_iff (hlevel : ".." ∉ splitOn '/' directory)
    (h : ∀ e ∈ entries, '/' ∉ e.toList) :
    LiesBelow directory (enter directory entries) ↔
      ".." ∉ entries ∧ ∃ e ∈ entries, isIdlePart e = false := by
  have hstep : (entries.filter fun e => !isIdlePart e) ≠ [] ↔
      ∃ e ∈ entries, isIdlePart e = false := by
    simp [List.filter_eq_nil_iff]
  have hclimb : ".." ∉ splitOn '/' (enter directory entries) ↔ ".." ∉ entries := by
    rw [climbs_enter h, not_or, and_iff_right hlevel]
  rw [← hstep, ← hclimb]
  constructor
  · rintro ⟨hpath, more, hmore, hsteps⟩
    rw [steps_enter h, List.append_cancel_left_eq] at hsteps
    exact ⟨hpath, hsteps ▸ hmore⟩
  · rintro ⟨hpath, hmore⟩
    exact ⟨hpath, _, hmore, steps_enter h directory⟩

/-! ## The derived paths -/

theorem IsRemotePath.not_climbs {path : String} (h : IsRemotePath path) :
    ".." ∉ splitOn '/' path :=
  h.level _ (Text.splitOn_eq_iff.mp rfl)

/-- Both directories of checked settings are paths that the check of a path accepts. -/
theorem Settings.isRemotePath_of_check {s : Settings} (h : s.check = .ok ()) :
    IsRemotePath s.accounts.baseHomeDirectory ∧ IsRemotePath s.accounts.sudoersDirectory := by
  have hpath : ∀ {field path : String}, checkPathSetting field path = .ok () →
      IsRemotePath path := by
    intro field path hchecked
    rw [checkPathSetting] at hchecked
    cases hcheck : checkPath field path with
    | error defect => rw [hcheck] at hchecked; cases hchecked
    | ok u => exact checkPath_eq_ok_iff.mp hcheck
  rw [check] at h
  cases helevation : s.hasElevation with
  | false => rw [helevation] at h; cases h
  | true =>
    rw [helevation] at h
    obtain ⟨_, hbase, h⟩ := exists_of_bind_eq_ok h
    obtain ⟨_, hsudoers, -⟩ := exists_of_bind_eq_ok h
    exact ⟨hpath hbase, hpath hsudoers⟩

namespace IsPrincipalName

variable {name : String}

/-- Of the names, only the single dot leads nowhere. -/
theorem isIdlePart_eq_false_iff (h : IsPrincipalName name) :
    isIdlePart name = false ↔ name ≠ "." := by
  have hempty : name.isEmpty = false :=
    Bool.eq_false_iff.mpr (mt String.isEmpty_iff.mp h.isInert.ne_empty)
  rw [isIdlePart, hempty, Bool.false_or, beq_eq_false_iff_ne]

/-- The entry of a name leads out of a directory if it is the double dot. The single dot needs a
further entry that leads somewhere. -/
theorem liesBelow_enter_cons_iff (h : IsPrincipalName name)
    (hlevel : ".." ∉ splitOn '/' directory) (hplain : ∀ e ∈ entries, '/' ∉ e.toList)
    (hup : ".." ∉ entries) :
    LiesBelow directory (enter directory (name :: entries)) ↔
      name ≠ ".." ∧ (name ≠ "." ∨ ∃ e ∈ entries, isIdlePart e = false) := by
  have hentries : ∀ e ∈ name :: entries, '/' ∉ e.toList :=
    List.forall_mem_cons.mpr ⟨h.slash_not_mem, hplain⟩
  rw [liesBelow_enter_iff hlevel hentries, List.mem_cons, not_or, and_iff_left hup,
    ← ne_eq, ne_comm]
  simp only [List.mem_cons, exists_eq_or_imp, h.isIdlePart_eq_false_iff]

end IsPrincipalName

namespace Recipe

variable {s : Settings} {field name : String}

/-- The file of the keys is an entry of their directory. -/
theorem keyFile_eq_pathIn (home : String) :
    keyFile home = pathIn (keyDirectory home) "authorized_keys" := by
  have hend : (keyDirectory home).toList.getLast? ≠ some '/' := by
    simp [keyDirectory, pathIn]
  rw [pathIn, Text.trimEndOf_eq_self hend, String.append_assoc]
  rfl

/-- The entry of a rule file leads down, whatever name it begins with: there is an underscore in
it. -/
theorem ruleFileEnding_leads_down {c : ObjectClass} {ending : String}
    (h : ruleFileEnding c = .ok ending) (name : String) :
    '/' ∉ ending.toList ∧ name ++ ending ≠ ".." ∧ isIdlePart (name ++ ending) = false := by
  have hentry : '/' ∉ ending.toList ∧ '_' ∈ ending.toList := by
    cases c with
    | account => cases h; decide
    | group => cases h; decide
    | other what => cases h
  have hne : ∀ entry : String, '_' ∉ entry.toList → name ++ ending ≠ entry := by
    rintro entry hentry' rfl
    exact hentry' (by simp [hentry.2])
  have hempty := mt String.isEmpty_iff.mp (hne "" (by decide))
  refine ⟨hentry.1, hne ".." (by decide), ?_⟩
  rw [isIdlePart, Bool.eq_false_iff.mpr hempty, Bool.false_or, beq_eq_false_iff_ne]
  exact hne "." (by decide)

/-- Every path that follows from the name lies below its directory. -/
structure StaysInside (s : Settings) (name : String) : Prop where
  home : LiesBelow s.accounts.baseHomeDirectory (s.defaultHome name)
  keyDirectory : LiesBelow s.accounts.baseHomeDirectory (keyDirectory (s.defaultHome name))
  keyFile : LiesBelow s.accounts.baseHomeDirectory (keyFile (s.defaultHome name))
  ruleFile : ∀ c path, ruleFile s c name = .ok path →
    LiesBelow s.accounts.sudoersDirectory path

theorem liesBelow_ruleFile (hs : s.check = .ok ()) (hname : checkName field name = .ok ())
    {c : ObjectClass} {path : String} (h : Recipe.ruleFile s c name = .ok path) :
    LiesBelow s.accounts.sudoersDirectory path := by
  obtain ⟨ending, hending, rfl⟩ := exists_of_map_eq_ok h
  obtain ⟨hslash, hup, hidle⟩ := ruleFileEnding_leads_down hending name
  have hentry : ∀ e ∈ [name ++ ending], '/' ∉ e.toList := by
    simpa [hslash] using (checkName_eq_ok_iff.mp hname).slash_not_mem
  refine (liesBelow_enter_iff (Settings.isRemotePath_of_check hs).2.not_climbs hentry).mpr ?_
  exact ⟨by simpa using hup.symm, _, List.mem_singleton_self _, hidle⟩

theorem keyDirectory_defaultHome (s : Settings) (name : String) :
    keyDirectory (s.defaultHome name) = enter s.accounts.baseHomeDirectory [name, ".ssh"] :=
  rfl

theorem keyFile_defaultHome (s : Settings) (name : String) :
    keyFile (s.defaultHome name) =
      enter s.accounts.baseHomeDirectory [name, ".ssh", "authorized_keys"] := by
  rw [keyFile_eq_pathIn, keyDirectory_defaultHome]
  rfl

/-- What is entered from a checked base of the home directories by way of a checked name. -/
theorem liesBelow_enter_home_iff (hs : s.check = .ok ()) (hname : checkName field name = .ok ())
    {entries : List String} (hplain : ∀ e ∈ entries, '/' ∉ e.toList) (hup : ".." ∉ entries) :
    LiesBelow s.accounts.baseHomeDirectory
        (enter s.accounts.baseHomeDirectory (name :: entries)) ↔
      name ≠ ".." ∧ (name ≠ "." ∨ ∃ e ∈ entries, isIdlePart e = false) :=
  (checkName_eq_ok_iff.mp hname).liesBelow_enter_cons_iff
    (Settings.isRemotePath_of_check hs).1.not_climbs hplain hup

theorem liesBelow_defaultHome_iff (hs : s.check = .ok ()) (hname : checkName field name = .ok ()) :
    LiesBelow s.accounts.baseHomeDirectory (s.defaultHome name) ↔ name ≠ "." ∧ name ≠ ".." := by
  have hplain : ∀ e ∈ ([] : List String), '/' ∉ e.toList := by simp
  exact (liesBelow_enter_home_iff hs hname hplain List.not_mem_nil).trans (by simp [and_comm])

/-- The paths that follow from a checked name under checked settings. A rule file always lies below
the directory of the rules. The home directory and what it holds for the keys lie below the base of
the home directories exactly if they are not those of two names that the check lets through: the
double dot leads out of that base, and the single dot is no step. -/
theorem staysInside_iff (hs : s.check = .ok ()) (hname : checkName field name = .ok ()) :
    (StaysInside s name ↔ name ≠ "." ∧ name ≠ "..") ∧
    (LiesBelow s.accounts.baseHomeDirectory (s.defaultHome name) ↔ name ≠ "." ∧ name ≠ "..") ∧
    (LiesBelow s.accounts.baseHomeDirectory (keyDirectory (s.defaultHome name)) ↔ name ≠ "..") ∧
    (LiesBelow s.accounts.baseHomeDirectory (keyFile (s.defaultHome name)) ↔ name ≠ "..") ∧
    ∀ c, c = .account ∨ c = .group →
      ∃ path, ruleFile s c name = .ok path ∧ LiesBelow s.accounts.sudoersDirectory path := by
  have hhome := liesBelow_defaultHome_iff hs hname
  have hkeys : ∀ entries : List String, (∀ e ∈ entries, '/' ∉ e.toList) → ".." ∉ entries →
      ".ssh" ∈ entries → (LiesBelow s.accounts.baseHomeDirectory
        (enter s.accounts.baseHomeDirectory (name :: entries)) ↔ name ≠ "..") :=
    fun entries hplain hup hssh => (liesBelow_enter_home_iff hs hname hplain hup).trans
      (and_iff_left (.inr ⟨_, hssh, by decide⟩))
  have hdirectory : LiesBelow s.accounts.baseHomeDirectory (keyDirectory (s.defaultHome name)) ↔
      name ≠ ".." := by
    rw [keyDirectory_defaultHome]
    exact hkeys [".ssh"] (by decide) (by decide) (by decide)
  have hfile : LiesBelow s.accounts.baseHomeDirectory (keyFile (s.defaultHome name)) ↔
      name ≠ ".." := by
    rw [keyFile_defaultHome]
    exact hkeys [".ssh", "authorized_keys"] (by decide) (by decide) (by decide)
  refine ⟨⟨fun h => hhome.mp h.home, fun h => ?_⟩, hhome, hdirectory, hfile, ?_⟩
  · exact ⟨hhome.mpr h, hdirectory.mpr h.2, hfile.mpr h.2, fun _ _ => liesBelow_ruleFile hs hname⟩
  · rintro c (rfl | rfl)
    · exact ⟨_, rfl, liesBelow_ruleFile (c := .account) hs hname rfl⟩
    · exact ⟨_, rfl, liesBelow_ruleFile (c := .group) hs hname rfl⟩

theorem staysInside_iff_dotted :
    StaysInside
      { elevation := { root := true }, accounts := { baseHomeDirectory := "/srv/./home//" } }
      "..svc$" := by
  have hs : Settings.check
      { elevation := { root := true }, accounts := { baseHomeDirectory := "/srv/./home//" } } =
        .ok () := rfl
  have hname : checkName "username" "..svc$" = .ok () := rfl
  exact (staysInside_iff hs hname).1.mpr (by decide)

/-- The home directory of the double dot is the directory above that of the others. -/
theorem not_staysInside :
    ¬ ∀ (s : Settings) (field name : String), s.check = .ok () → checkName field name = .ok () →
      StaysInside s name := by
  intro h
  have hs : Settings.check { elevation := { root := true } } = .ok () := rfl
  have hname : checkName "username" ".." = .ok () := rfl
  exact ((liesBelow_defaultHome_iff hs hname).mp (h _ _ _ hs hname).home).2 rfl

end Recipe

end HostAccounts
