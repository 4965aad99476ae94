import HostAccounts.Proofs.Provision.Sending
import HostAccounts.Proofs.Recipe.AccountUpdate

/-!
# New names

A change returns the name of the object after it. For an account that is the name that it was given
by a command that succeeded, or the one that it had. For a group it is so if values are replaced;
if values are removed, the new name is returned as well, but the group is not renamed. Main
statement: `update_renames_iff`.
-/

set_option autoImplicit false

namespace HostAccounts

open Diagnostics (Operation Overrides)

/-! ## Groups -/

namespace Recipe

variable {s : Settings} {u : GroupUpdate} {p : Plan}

/-- Where values are replaced, a group with a new name is renamed before all else. -/
theorem does_updateGroupSteps (h : updateGroupSteps s u = .ok p) (hmode : u.mode = .replace)
    (hname : u.newName ≠ u.groupname) :
    ∃ ds, p.Does (.renameGroup u.groupname u.newName :: ds) := by
  unfold updateGroupSteps at h
  rw [hmode] at h
  obtain ⟨rule, hrule, hp⟩ := exists_of_bind_eq_ok h
  obtain rfl := Except.ok.inj hp
  obtain ⟨ds, hds, -⟩ := doesOnly_grantSupplied hrule
  have hrename : Primitive.renameGroup? u.groupname (some u.newName) =
      some (Primitive.renameGroup u.groupname u.newName) := by
    simp [Primitive.renameGroup?, hname]
  rw [hrename]
  exact ⟨ds, (Plan.does_renameGroup _ _).cons hds⟩

/-- Where values are removed, nothing but the rule is touched. -/
theorem doesOnly_updateGroupSteps (h : updateGroupSteps s u = .ok p)
    (hmode : u.mode = .removeValues) : p.DoesOnly fun d => ∃ path, d = .file path := by
  unfold updateGroupSteps at h
  rw [hmode] at h
  obtain ⟨ds, hds, hkind⟩ := doesOnly_revokeSupplied h
  refine ⟨ds, hds, fun d hd => ?_⟩
  obtain ⟨path, -, rfl⟩ := hkind d hd
  exact ⟨path, rfl⟩

end Recipe

/-! ## Deeds that are sent -/

/-- The deed that gives an object of the class a new name. -/
def ObjectClass.renaming (c : ObjectClass) (name newName : String) : Deed :=
  match c with
  | .group => .renameGroup name newName
  | _ => .alter name (some newName)

/-- The command got through and succeeded, and it gave the object its new name. -/
def Exchange.Renames (d : Overrides) (c : ObjectClass) (name newName : String) (e : Exchange) :
    Prop :=
  e.Succeeds d ∧ ∃ ds, deeds? e.command.text = some ds ∧ c.renaming name newName ∈ ds

/-- What is read of the command of a plan that does something is what the plan does. -/
theorem Plan.Does.exists_command? {p : Plan} {ds : List Deed} (h : p.Does ds) (hmade : p.IsMade)
    (hne : ds ≠ []) (e : Elevation) :
    ∃ command, p.command? e = some command ∧ deeds? command.text = some ds := by
  have hp : p ≠ [] := by
    rintro rfl
    exact hne (Option.some.inj (h [] (.inl rfl))).symm
  exact ⟨_, Plan.command?_of_ne_nil hp, h.deeds?_command hmade e⟩

namespace Provision

variable {s : Settings} {uid : String} {attributes : AttributeSet} {mode : UpdateMode}

/-- The script of a renaming account update renames. -/
theorem exists_script_of_isRename {u : AccountUpdate} {script : Option RemoteCommand}
    (hrow : ∀ row, u.currentRow = some row → row.username = u.username)
    (h : Recipe.updateAccount? s u = .ok script) (hname : u.newName ≠ u.username) :
    ∃ command ds, script = some command ∧ deeds? command.text = some ds ∧
      .alter u.username (some u.newName) ∈ ds := by
  obtain ⟨p, hp, rfl⟩ := exists_of_map_eq_ok h
  obtain ⟨d, hdoes, hd⟩ := Recipe.does_updateAccountSteps hrow hp
  have hrename : u.isRename = true := by simpa [AccountUpdate.isRename] using hname
  have hmem : .alter u.username (some u.newName) ∈ d.inOrder := by
    rcases hd.modification with ⟨-, hnot⟩ | hmodification
    · rw [hrename] at hnot
      cases hnot
    · rw [hrename, if_pos rfl] at hmodification
      simp [UpdateDeeds.inOrder, hmodification]
  obtain ⟨command, hcommand, hdeeds⟩ := hdoes.exists_command?
    (Recipe.isMade_updateAccountSteps hp) (List.ne_nil_of_mem hmem) s.elevationPolicy
  exact ⟨command, d.inOrder, hcommand, hdeeds, hmem⟩

/-- The script of a group update that replaces values renames, if the name is new. -/
theorem exists_script_of_replace {u : GroupUpdate} {script : Option RemoteCommand}
    (h : Recipe.updateGroup? s u = .ok script) (hmode : u.mode = .replace)
    (hname : u.newName ≠ u.groupname) :
    ∃ command ds, script = some command ∧ deeds? command.text = some ds ∧
      .renameGroup u.groupname u.newName ∈ ds := by
  obtain ⟨p, hp, rfl⟩ := exists_of_map_eq_ok h
  obtain ⟨ds, hdoes⟩ := Recipe.does_updateGroupSteps hp hmode hname
  obtain ⟨command, hcommand, hdeeds⟩ := hdoes.exists_command?
    (Recipe.isMade_updateGroupSteps hp) (List.cons_ne_nil _ _) s.elevationPolicy
  exact ⟨command, _, hcommand, hdeeds, List.mem_cons_self ..⟩

/-- The script of a group update that removes values does nothing but to a file. -/
theorem deeds_of_removeValues {u : GroupUpdate} {command : RemoteCommand}
    (h : Recipe.updateGroup? s u = .ok (some command)) (hmode : u.mode = .removeValues) :
    ∃ ds, deeds? command.text = some ds ∧ ∀ d ∈ ds, ∃ path, d = .file path := by
  obtain ⟨p, hp, hcommand⟩ := exists_of_map_eq_ok h
  obtain ⟨ds, hdoes, hfiles⟩ := Recipe.doesOnly_updateGroupSteps hp hmode
  have htext := hdoes.deeds?_command (Recipe.isMade_updateGroupSteps hp) s.elevationPolicy
  rw [Plan.command_of_command?_eq_some hcommand] at htext
  exact ⟨ds, htext, hfiles⟩

/-! ## Names that are returned -/

section

variable {σ : Type} {peer : Dialogue.Peer σ} {start : σ} {u : String}

/-- Among the commands that were sent is the one that was composed. -/
theorem exists_exchange_of_errand {es : List Exchange} {errand : Errand}
    (h : errand ∈ es.map Exchange.errand) : ∃ e ∈ es, e.command = errand.1 := by
  obtain ⟨e, he, rfl⟩ := List.mem_map.mp h
  exact ⟨e, he, rfl⟩

/-- An account has the name that is returned: it had it before, or was given it. -/
theorem renames_of_updateAccount
    (h : ((update s .account uid attributes mode).run peer start).1 = .ok u) :
    u = uid ∨ ∃ e ∈ (update s .account uid attributes mode).exchanges peer start,
      e.Renames s.diagnostics .account uid u := by
  have hall := (proceeds_updateAccount s uid attributes mode).succeeds_of_run_eq_ok h
  rcases goes_updateAccount s uid attributes mode peer start hall with
    ⟨fault, hfault, -⟩ | ⟨account, script, ⟨rfl, -, -⟩, hrow, hscript, hok, hsent⟩
  · exact absurd (h.symm.trans hfault) nofun
  obtain rfl : u = account.newName := Except.ok.inj (h.symm.trans hok)
  by_cases hname : account.newName = account.username
  · exact .inl hname
  · obtain ⟨command, ds, rfl, hdeeds, hmem⟩ := exists_script_of_isRename hrow hscript hname
    have hscriptSent : (command, Operation.usermod) ∈
        ((update s .account account.username attributes mode).exchanges peer start).map
          Exchange.errand := hsent ▸ List.mem_append_right _ (List.mem_cons_self ..)
    obtain ⟨e, he, hcommand⟩ := exists_exchange_of_errand hscriptSent
    exact .inr ⟨e, he, hall e he, ds, by rw [hcommand, hdeeds], hmem⟩

/-- So does a group, if values are replaced. -/
theorem renames_of_updateGroup
    (h : ((update s .group uid attributes .replace).run peer start).1 = .ok u) :
    u = uid ∨ ∃ e ∈ (update s .group uid attributes .replace).exchanges peer start,
      e.Renames s.diagnostics .group uid u := by
  have hall := (orderly_updateGroup s uid attributes .replace).course.succeeds_of_run_eq_ok h
  rcases goes_updateGroup s uid attributes .replace peer start hall with
    ⟨fault, hfault, -⟩ | ⟨script, hscript, hok, hsent⟩
  · exact absurd (h.symm.trans hfault) nofun
  obtain rfl : u = GroupUpdate.newName ⟨uid, attributes, .replace⟩ :=
    Except.ok.inj (h.symm.trans hok)
  by_cases hname : GroupUpdate.newName ⟨uid, attributes, .replace⟩ = uid
  · exact .inl hname
  · obtain ⟨command, ds, rfl, hdeeds, hmem⟩ := exists_script_of_replace hscript rfl hname
    have hscriptSent : (command, Operation.groupmod) ∈
        ((update s .group uid attributes .replace).exchanges peer start).map Exchange.errand :=
      hsent ▸ List.mem_cons_self ..
    obtain ⟨e, he, hcommand⟩ := exists_exchange_of_errand hscriptSent
    exact .inr ⟨e, he, hall e he, ds, by rw [hcommand, hdeeds], hmem⟩

/-- No command renames a group while values are removed. -/
theorem not_renames_of_removeValues
    (hall : ∀ e ∈ (update s .group uid attributes .removeValues).exchanges peer start,
      e.Succeeds s.diagnostics)
    {e : Exchange} (he : e ∈ (update s .group uid attributes .removeValues).exchanges peer start) :
    ¬ e.Renames s.diagnostics .group uid u := by
  rintro ⟨-, ds, hdeeds, hmem⟩
  have hsent : e.errand ∈
      ((update s .group uid attributes .removeValues).exchanges peer start).map
        Exchange.errand := List.mem_map_of_mem he
  rcases goes_updateGroup s uid attributes .removeValues peer start hall with
    ⟨fault, -, hnone⟩ | ⟨script, hscript, -, hscriptSent⟩
  · rw [show ((update s .group uid attributes .removeValues).exchanges peer start).map
      Exchange.errand = [] from hnone] at hsent
    cases hsent
  · rw [show ((update s .group uid attributes .removeValues).exchanges peer start).map
      Exchange.errand = _ from hscriptSent] at hsent
    cases script with
    | none => cases hsent
    | some command =>
      have hcommand : e.command = command := congrArg Prod.fst (List.mem_singleton.mp hsent)
      obtain ⟨es, hes, hfiles⟩ := deeds_of_removeValues hscript rfl
      rw [hcommand, hes] at hdeeds
      obtain rfl := Option.some.inj hdeeds
      obtain ⟨path, hpath⟩ := hfiles _ hmem
      cases hpath

end

/-- The name that a change returns is the one that the object had, or one that a command gave it
which succeeded, unless values are removed from a group and a new name comes with them. Then the
name is returned although no command gives it. -/
theorem update_renames_iff (s : Settings) (c : ObjectClass) (uid : String)
    (attributes : AttributeSet) (mode : UpdateMode) {σ : Type} (peer : Dialogue.Peer σ) (start : σ)
    {u : String} (h : ((update s c uid attributes mode).run peer start).1 = .ok u) :
    (u = uid ∨ ∃ e ∈ (update s c uid attributes mode).exchanges peer start,
      e.Renames s.diagnostics c uid u) ↔
    ¬ (c = .group ∧ mode = .removeValues ∧ u ≠ uid) := by
  cases c with
  | other what => cases h
  | account => exact iff_of_true (renames_of_updateAccount h) nofun
  | group =>
    cases mode with
    | replace => exact iff_of_true (renames_of_updateGroup h) nofun
    | removeValues =>
      by_cases hname : u = uid
      · exact iff_of_true (.inl hname) fun hnot => hnot.2.2 hname
      · refine iff_of_false ?_ fun hnot => hnot ⟨rfl, rfl, hname⟩
        rintro (hsame | ⟨e, he, hrenames⟩)
        · exact hname hsame
        · have hcourse := (orderly_updateGroup s uid attributes .removeValues).course
          exact not_renames_of_removeValues (hcourse.succeeds_of_run_eq_ok h) he hrenames

/-- A new name, and nothing else. -/
def nameOnly (name : String) : AttributeSet :=
  .ofList [⟨AttributeName.name, [.text name]⟩]

/-- The account gets its new name from a command that succeeds. -/
theorem update_renames_iff_svc1 :
    ((update lenientSettings .account "svc1" (nameOnly "svc2") .replace).run Rehearsal.peer
        workingHost).1 = .ok "svc2" ∧
      ∃ e ∈ (update lenientSettings .account "svc1" (nameOnly "svc2") .replace).exchanges
          Rehearsal.peer workingHost,
        e.Renames lenientSettings.diagnostics .account "svc1" "svc2" := by
  have hok : ((update lenientSettings .account "svc1" (nameOnly "svc2") .replace).run
      Rehearsal.peer workingHost).1 = .ok "svc2" := rfl
  have hrenames := (update_renames_iff lenientSettings .account "svc1" (nameOnly "svc2") .replace
    Rehearsal.peer workingHost hok).mpr nofun
  exact ⟨hok, hrenames.resolve_left (by decide)⟩

/-- A group keeps its name while another one is returned. -/
theorem not_update_renames :
    ¬ ∀ u, ((update lenientSettings .group "staff" (nameOnly "crew") .removeValues).run
        Rehearsal.peer {}).1 = .ok u →
      u = "staff" ∨ ∃ e ∈ (update lenientSettings .group "staff" (nameOnly "crew")
        .removeValues).exchanges Rehearsal.peer {},
        e.Renames lenientSettings.diagnostics .group "staff" u := by
  intro h
  rcases h "crew" rfl with hname | ⟨e, he, -⟩
  · exact absurd hname (by decide)
  · cases he

end Provision

end HostAccounts
