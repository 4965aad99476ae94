import HostAccounts.Proofs.Provision.Refusal
import HostAccounts.Proofs.Recipe.Changes

/-!
# Rules that are taken back

A change that takes values away takes the rule of the object away if a rule is named. The file that
it removes goes by the name that comes with the change. So it is the file of the object itself as
long as no other name comes with it; otherwise the object keeps its rule, and whoever goes by the
other name loses one. Main statement: `removal_revokes_iff`.
-/

set_option autoImplicit false

namespace HostAccounts

open Database (AccountRow)
open Provision (IsBadDate)
open Recipe (grant keyFile ruleFile)

variable {s : Settings} {c c' : ObjectClass} {name name' path : String}

/-! ## Whose rule a file holds -/

/-- The file ends as those of its class do. -/
theorem getLast?_ruleFile (h : ruleFile s c name = .ok path) :
    c = .account ∧ path.toList.getLast? = some 'r' ∨
      c = .group ∧ path.toList.getLast? = some 'p' := by
  cases c with
  | account =>
    obtain rfl := Except.ok.inj h
    exact .inl ⟨rfl, by simp [pathIn, List.getLast?_cons]⟩
  | group =>
    obtain rfl := Except.ok.inj h
    exact .inr ⟨rfl, by simp [pathIn, List.getLast?_cons]⟩
  | other what => cases h

theorem ruleFile_ne_keyFile (h : ruleFile s c name = .ok path) (home : String) :
    path ≠ keyFile home := by
  rintro rfl
  rcases getLast?_ruleFile h with ⟨-, hlast⟩ | ⟨-, hlast⟩ <;>
    simp [keyFile, List.getLast?_cons] at hlast

/-- No two objects share a rule file, not even an account and a group of one name. -/
theorem ruleFile_injective (h : ruleFile s c name = .ok path)
    (h' : ruleFile s c' name' = .ok path) : c' = c ∧ name' = name := by
  have hclass : c' = c := by
    rcases getLast?_ruleFile h with ⟨rfl, hlast⟩ | ⟨rfl, hlast⟩ <;>
      rcases getLast?_ruleFile h' with ⟨rfl, hlast'⟩ | ⟨rfl, hlast'⟩
    · rfl
    · exact absurd (hlast.symm.trans hlast') (by decide)
    · exact absurd (hlast.symm.trans hlast') (by decide)
    · rfl
  subst hclass
  refine ⟨rfl, ?_⟩
  obtain ⟨ending, hending, hpath⟩ := exists_of_map_eq_ok h
  obtain ⟨ending', hending', hpath'⟩ := exists_of_map_eq_ok h'
  obtain rfl : ending' = ending := Except.ok.inj (hending'.symm.trans hending)
  have hsame := hpath'.trans hpath.symm
  simpa [pathIn, String.append_assoc] using hsame

/-- The file holds the rule of the object: this is what a grant for it writes. -/
def IsRuleFileOf (s : Settings) (c : ObjectClass) (name path : String) : Prop :=
  ∀ rule, ∃ command, grant s c name rule = .ok command ∧ changes command.text = [.write path]

theorem exists_grant (h : ruleFile s c name = .ok path) (rule : String) :
    ∃ command, grant s c name rule = .ok command ∧ changes command.text = [.write path] := by
  have hgrant : ∃ command, grant s c name rule = .ok command := by
    unfold grant Recipe.grantSteps
    rw [h]
    exact ⟨_, rfl⟩
  obtain ⟨command, hcommand⟩ := hgrant
  obtain ⟨p, hp, hchanges⟩ := Recipe.Call.exists_plan_changes (.grant c name rule)
    (congrArg (Except.map some) hcommand)
  obtain ⟨path', hpath', rfl⟩ := exists_of_map_eq_ok hp
  obtain rfl : path' = path := Except.ok.inj (hpath'.symm.trans h)
  exact ⟨command, hcommand, hchanges _
    ((Plan.makes_feed _ (Plan.makes_tee path')).append (Plan.makes_chmod "0440" path'))⟩

theorem isRuleFileOf_iff : IsRuleFileOf s c name path ↔ ruleFile s c name = .ok path := by
  constructor
  · intro h
    obtain ⟨command, hcommand, hchanges⟩ := h ""
    obtain ⟨p, hp, -⟩ := exists_of_map_eq_ok hcommand
    obtain ⟨path', hpath', -⟩ := exists_of_map_eq_ok hp
    obtain ⟨command', hcommand', hchanges'⟩ := exists_grant hpath' ""
    obtain rfl := Except.ok.inj (hcommand'.symm.trans hcommand)
    obtain rfl : path' = path := by simpa using hchanges'.symm.trans hchanges
    exact hpath'
  · exact exists_grant

/-! ## Which rule a text takes back -/

/-- The text removes the rule file of the object, once, and that of nobody else. -/
structure RevokesOnly (s : Settings) (c : ObjectClass) (name text : String) : Prop where
  once : ∃ path, IsRuleFileOf s c name path ∧ (changes text).count (.erase path) = 1
  others : ∀ c' name' path, IsRuleFileOf s c' name' path → .erase path ∈ changes text →
    c' = c ∧ name' = name

/-- A text revokes the rule of one object at most. -/
theorem RevokesOnly.name_eq {text : String} (h : RevokesOnly s c name text)
    (h' : RevokesOnly s c name' text) : name = name' := by
  obtain ⟨path, hpath, hcount⟩ := h.once
  have herased : .erase path ∈ changes text := List.one_le_count_iff.mp hcount.ge
  exact (h'.others c name path hpath herased).2

/-- Key files are no rule files, so besides one rule file they may be removed as well. -/
theorem revokesOnly_of_changes {text : String} {front : List Change}
    (hpath : ruleFile s c name = .ok path) (htext : changes text = front ++ [.erase path])
    (hfront : ∀ other, .erase other ∈ front → ∃ home, other = keyFile home) :
    RevokesOnly s c name text := by
  have hone : ∀ {c' name' path'}, ruleFile s c' name' = .ok path' → .erase path' ∉ front := by
    intro c' name' path' hpath' hmem
    obtain ⟨home, hhome⟩ := hfront path' hmem
    exact ruleFile_ne_keyFile hpath' home hhome
  refine ⟨⟨path, isRuleFileOf_iff.mpr hpath, ?_⟩, fun c' name' path' hpath' hmem => ?_⟩
  · rw [htext, List.count_append, List.count_eq_zero_of_not_mem (hone hpath)]
    simp
  · rw [isRuleFileOf_iff] at hpath'
    rw [htext, List.mem_append, List.mem_singleton] at hmem
    obtain rfl : path' = path := Change.erase.inj (hmem.resolve_left (hone hpath'))
    exact ruleFile_injective hpath hpath'

/-! ## Scripts that take values away -/

namespace Recipe

variable {attributes : AttributeSet}

/-- The script that takes values away from an object, with what the host was found to hold of it. -/
def removeValues? (s : Settings) (c : ObjectClass) (uid : String) (attributes : AttributeSet)
    (currentGroups : List String) (currentRow : Option AccountRow) :
    Except Fault (Option RemoteCommand) :=
  match c with
  | .account => updateAccount? s ⟨uid, attributes, .removeValues, currentGroups, currentRow⟩
  | .group => updateGroup? s ⟨uid, attributes, .removeValues⟩
  | .other what => .error (.unsupportedClass what)

theorem makes_keysWithdrawn (home : String) (attributes : AttributeSet) :
    ∃ cs, (keysWithdrawn home attributes).Makes cs ∧
      ∀ path, .erase path ∈ cs → path = keyFile home := by
  unfold keysWithdrawn
  split
  · exact ⟨_, Plan.makes_removeFile _, by simp⟩
  · exact ⟨[], Plan.makes_nil, by simp⟩

/-- A named rule is removed after everything else, under the new name. -/
theorem makes_updateAccountSteps_of_removeValues {u : AccountUpdate} {p : Plan}
    (h : updateAccountSteps s u = .ok p) (hmode : u.mode = .removeValues)
    (hrule : u.attributes.contains AttributeName.permissions = true) :
    ∃ front path, ruleFile s .account u.newName = .ok path ∧ p.Makes (front ++ [.erase path]) ∧
      ∀ other, .erase other ∈ front → ∃ home, other = keyFile home := by
  obtain ⟨grants, hgrants, hmakes⟩ := exists_grants_updateAccountSteps h
  unfold grantOrRevokeSteps revokeSupplied at hgrants
  rw [hmode, hrule] at hgrants
  obtain rfl := Except.ok.inj hgrants
  obtain ⟨cs, hcs, hkeys⟩ := makes_keysWithdrawn (finalHome s u) u.attributes
  have hall := hmakes _ (hcs.append (Plan.makes_removeFile (dropIn s u.newName)))
  rw [← List.append_assoc] at hall
  refine ⟨_, _, rfl, hall, fun other hother => ⟨finalHome s u, ?_⟩⟩
  rcases List.mem_append.mp hother with hrename | hkey
  · split at hrename <;> simp at hrename
  · exact hkeys other hkey

theorem makes_updateGroupSteps_of_removeValues {u : GroupUpdate} {p : Plan}
    (h : updateGroupSteps s u = .ok p) (hmode : u.mode = .removeValues)
    (hrule : u.attributes.contains AttributeName.permissions = true) :
    ∃ path, ruleFile s .group u.newName = .ok path ∧ p.Makes [.erase path] := by
  unfold updateGroupSteps revokeSupplied at h
  rw [hmode, hrule] at h
  obtain rfl := Except.ok.inj h
  exact ⟨_, rfl, Plan.makes_removeFile _⟩

/-- Taking values away from an account is turned down only for a bad date or a missing row. -/
theorem removeValues?_eq_error {uid : String} {currentGroups : List String}
    {currentRow : Option AccountRow} {fault : Fault} (hc : c.isSupported = true)
    (h : removeValues? s c uid attributes currentGroups currentRow = .error fault) :
    c = .account ∧ (IsBadDate fault ∨ currentRow = none ∧ fault = .unknownTarget uid) := by
  cases c with
  | account =>
    refine ⟨rfl, (Provision.isBadDate_or_rowless_of_updateAccount? h).imp_right ?_⟩
    rintro ⟨hrow, -, hfault⟩
    exact ⟨hrow, hfault⟩
  | group =>
    have hsteps : revokeSupplied s .group (GroupUpdate.newName ⟨uid, attributes, .removeValues⟩)
        attributes = .error fault := eq_error_of_map_eq_error h
    unfold revokeSupplied at hsteps
    split at hsteps <;> cases hsteps
  | other what => cases hc

/-- The file that is removed is the one of the name that comes with the change. -/
theorem revokesOnly_removeValues? {uid : String} {currentGroups : List String}
    {currentRow : Option AccountRow} {script : Option RemoteCommand}
    (hrule : attributes.contains AttributeName.permissions = true)
    (h : removeValues? s c uid attributes currentGroups currentRow = .ok script) :
    ∃ command, script = some command ∧
      RevokesOnly s c (attributes.name?.getD uid) command.text := by
  cases c with
  | account =>
    obtain ⟨p, hp, rfl⟩ := exists_of_map_eq_ok h
    obtain ⟨front, path, hpath, hmakes, hkeys⟩ :=
      makes_updateAccountSteps_of_removeValues hp rfl hrule
    obtain ⟨command, hcommand, hchanges⟩ := hmakes.exists_command?
      (isMade_updateAccountSteps hp) (by simp) s.elevationPolicy
    exact ⟨command, hcommand, revokesOnly_of_changes hpath hchanges hkeys⟩
  | group =>
    obtain ⟨p, hp, rfl⟩ := exists_of_map_eq_ok h
    obtain ⟨path, hpath, hmakes⟩ := makes_updateGroupSteps_of_removeValues hp rfl hrule
    obtain ⟨command, hcommand, hchanges⟩ := hmakes.exists_command?
      (isMade_updateGroupSteps hp) (by simp) s.elevationPolicy
    have htext : changes command.text = [] ++ [.erase path] := hchanges
    exact ⟨command, hcommand, revokesOnly_of_changes hpath htext (by simp)⟩
  | other what => cases h

end Recipe

/-- Where a rule is named among the values to be taken away, the script removes one rule file and
no other. It is that of the object itself exactly if no other name comes with the change. There is a
script unless the day on which the account ends is no day, or a row that is needed is missing. -/
theorem removal_revokes_iff (s : Settings) {c : ObjectClass} (hc : c.isSupported = true)
    (uid : String) {attributes : AttributeSet} (currentGroups : List String)
    (currentRow : Option AccountRow)
    (hrule : attributes.contains AttributeName.permissions = true) :
    (∀ fault, Recipe.removeValues? s c uid attributes currentGroups currentRow = .error fault →
      c = .account ∧ (IsBadDate fault ∨ currentRow = none ∧ fault = .unknownTarget uid)) ∧
    ∀ script, Recipe.removeValues? s c uid attributes currentGroups currentRow = .ok script →
      ∃ command, script = some command ∧
        RevokesOnly s c (attributes.name?.getD uid) command.text ∧
        (RevokesOnly s c uid command.text ↔ attributes.name?.getD uid = uid) := by
  refine ⟨fun fault h => Recipe.removeValues?_eq_error hc h, fun script h => ?_⟩
  obtain ⟨command, hscript, hrevokes⟩ := Recipe.revokesOnly_removeValues? hrule h
  exact ⟨command, hscript, hrevokes, fun hown => hrevokes.name_eq hown,
    fun hname => hname ▸ hrevokes⟩

/-- Everything is taken away from the account that its own name comes with. -/
def ownNameAttributes : AttributeSet :=
  .ofList [⟨AttributeName.name, [.text "svc1"]⟩, ⟨AttributeName.publicKey, []⟩,
    ⟨AttributeName.permissions, []⟩, ⟨AttributeName.groups, [.text "ops"]⟩]

theorem removal_revokes_iff_svc1 :
    ∃ command, Recipe.removeValues? {} .account "svc1" ownNameAttributes ["ops", "wheel"]
        (some ⟨"svc1", 1001, 1001, "", "/home/svc1", "/bin/sh"⟩) = .ok (some command) ∧
      RevokesOnly {} .account "svc1" command.text := by
  obtain ⟨script, hscript⟩ : ∃ script, Recipe.removeValues? {} .account "svc1" ownNameAttributes
      ["ops", "wheel"] (some ⟨"svc1", 1001, 1001, "", "/home/svc1", "/bin/sh"⟩) = .ok script :=
    ⟨_, rfl⟩
  obtain ⟨command, rfl, -, hown⟩ :=
    (removal_revokes_iff {} rfl "svc1" ["ops", "wheel"] _ rfl).2 script hscript
  exact ⟨command, hscript, hown.mpr rfl⟩

/-- Another name comes with the rule that is to be taken away. -/
def otherNameAttributes : AttributeSet :=
  .ofList [⟨AttributeName.name, [.text "crew"]⟩, ⟨AttributeName.permissions, [.text "ALL"]⟩]

/-- A group that keeps its name makes another one lose its rule. -/
theorem not_removal_revokes :
    ¬ ∀ (s : Settings) (c : ObjectClass) (uid : String) (attributes : AttributeSet)
      (currentGroups : List String) (currentRow : Option AccountRow) (command : RemoteCommand),
      s.check = .ok () → attributes.contains AttributeName.permissions = true →
      Recipe.removeValues? s c uid attributes currentGroups currentRow = .ok (some command) →
      RevokesOnly s c uid command.text := by
  intro h
  have hscript : Recipe.removeValues? { elevation := { root := true } } .group "staff"
      otherNameAttributes [] none =
        .ok (some (.ofText "rm -f /etc/sudoers.d/crew_group" .exec)) := by decide +kernel
  have hown := h { elevation := { root := true } } .group "staff" otherNameAttributes [] none _ rfl
    rfl hscript
  have hchanges : changes "rm -f /etc/sudoers.d/crew_group" =
      [.erase "/etc/sudoers.d/crew_group"] := by decide +kernel
  have hcrew := hown.others .group "crew" "/etc/sudoers.d/crew_group"
    (isRuleFileOf_iff.mpr (by decide +kernel)) (hchanges ▸ List.mem_singleton_self _)
  exact absurd hcrew.2 (by decide)

end HostAccounts
