import HostAccounts.Proofs.Failure
import HostAccounts.Proofs.Script.Priming
import HostAccounts.Recipe.Group

/-!
# Calls

Everything that can be asked of the recipes, as one type, so that a statement can speak of all
recipes at once. A call has a plan, and its command is that of the plan or, where root rights are
not needed, the written pipeline itself. Main statement: `command?_eq_plan`.
-/

set_option autoImplicit false

namespace HostAccounts

/-! ## Plans and their commands -/

namespace Plan

theorem script_eq_nil_iff {p : Plan} : p.script = [] ↔ p = [] :=
  List.map_eq_nil_iff

theorem command?_eq_none_iff {e : Elevation} {p : Plan} : p.command? e = none ↔ p = [] :=
  Script.command?_eq_none_iff.trans script_eq_nil_iff

/-- A plan with a step has a command. -/
theorem command?_of_ne_nil {e : Elevation} {p : Plan} (h : p ≠ []) :
    p.command? e = some (p.command e) := by
  have hscript : p.script ≠ [] := fun hnil => h (script_eq_nil_iff.mp hnil)
  rw [command, Script.command, command?, Script.command?_of_ne_nil hscript, Option.getD_some]

/-- A plan with a command is not empty. -/
theorem command_of_command?_eq_some {e : Elevation} {p : Plan} {c : RemoteCommand}
    (h : p.command? e = some c) : p.command e = c := by
  have hne : p ≠ [] := by
    rintro rfl
    cases h
  exact Option.some.inj ((command?_of_ne_nil hne).symm.trans h)

theorem text_command (e : Elevation) (p : Plan) :
    (p.command e).text = "; ".intercalate (p.script.segments e) :=
  Script.text_command e p.script

end Plan

namespace Recipe

/-! ## The calls -/

/-- What a command is asked for. -/
inductive Call where
  | findAccount (user : String)
  | findGroup (group : String)
  | listAccounts
  | listGroups
  | find (c : ObjectClass) (name : String)
  | list (c : ObjectClass)
  | readStatus (user : String)
  | readMemberships (user : String)
  | readRule (c : ObjectClass) (name : String)
  | testSession
  | createAccount (user : String) (attributes : AttributeSet)
  | updateAccount (u : AccountUpdate)
  | deleteAccount (user : String)
  | setPassword (user password : String)
  | resetPassword (user : String)
  | activation (user : String) (attributes : AttributeSet)
  | lock (user : String)
  | unlock (user : String)
  | enable (user : String)
  | disable (user : String) (date : Date)
  | makeKeyDirectory (user home : String)
  | removeKeyDirectory (home : String)
  | setKey (user home key : String)
  | removeKey (home : String)
  | grant (c : ObjectClass) (name rule : String)
  | revoke (c : ObjectClass) (name : String)
  | renamePrimaryGroup (oldName newName : String)
  | moveHome (oldHome newHome : String)
  | createGroup (group : String) (attributes : AttributeSet)
  | updateGroup (u : GroupUpdate)
  | deleteGroup (group : String)

namespace Call

/-- The command of the call; none if nothing is to be done. -/
def command? (s : Settings) : Call → Except Fault (Option RemoteCommand)
  | findAccount user => .ok (some (Recipe.findAccount user))
  | findGroup group => .ok (some (Recipe.findGroup group))
  | listAccounts => .ok (some Recipe.listAccounts)
  | listGroups => .ok (some Recipe.listGroups)
  | find c name => (Recipe.find c name).map some
  | list c => (Recipe.list c).map some
  | readStatus user => .ok (some (Recipe.readStatus s user))
  | readMemberships user => .ok (some (Recipe.readMemberships user))
  | readRule c name => (Recipe.readRule s c name).map some
  | testSession => .ok (some (Recipe.testSession s))
  | createAccount user attributes => (Recipe.createAccount s user attributes).map some
  | updateAccount u => Recipe.updateAccount? s u
  | deleteAccount user => (Recipe.deleteAccount s user).map some
  | setPassword user password => .ok (some (Recipe.setPassword s user password))
  | resetPassword user => .ok (some (Recipe.resetPassword s user))
  | activation user attributes => Recipe.activation? s user attributes
  | lock user => .ok (some (Recipe.lock s user))
  | unlock user => .ok (some (Recipe.unlock s user))
  | enable user => .ok (some (Recipe.enable s user))
  | disable user date => .ok (some (Recipe.disable s user date))
  | makeKeyDirectory user home => .ok (some (Recipe.makeKeyDirectory s user home))
  | removeKeyDirectory home => .ok (some (Recipe.removeKeyDirectory s home))
  | setKey user home key => .ok (some (Recipe.setKey s user home key))
  | removeKey home => .ok (some (Recipe.removeKey s home))
  | grant c name rule => (Recipe.grant s c name rule).map some
  | revoke c name => (Recipe.revoke s c name).map some
  | renamePrimaryGroup oldName newName => .ok (some (Recipe.renamePrimaryGroup s oldName newName))
  | moveHome oldHome newHome => .ok (some (Recipe.moveHome s oldHome newHome))
  | createGroup group attributes => (Recipe.createGroup s group attributes).map some
  | updateGroup u => Recipe.updateGroup? s u
  | deleteGroup group => (Recipe.deleteGroup s group).map some

/-- What the call is to do. -/
def plan (s : Settings) : Call → Except Fault Plan
  | findAccount user => .ok [.plain (Primitive.accountEntry user)]
  | findGroup group => .ok [.plain (Primitive.groupEntry group)]
  | listAccounts => .ok [.plain Primitive.accountDump]
  | listGroups => .ok [.plain Primitive.groupDump]
  | find .account name => .ok [.plain (Primitive.accountEntry name)]
  | find .group name => .ok [.plain (Primitive.groupEntry name)]
  | find (.other what) _ => .error (.unsupportedClass what)
  | list .account => .ok [.plain Primitive.accountDump]
  | list .group => .ok [.plain Primitive.groupDump]
  | list (.other what) => .error (.unsupportedClass what)
  | readStatus user => .ok [.run (Primitive.shadowEntry user)]
  | readMemberships user => .ok [.plain (Primitive.groupsMentioning user)]
  | readRule c name => (ruleFile s c name).map fun path => [.run (Primitive.cat path)]
  | testSession => .ok (testSessionSteps s)
  | createAccount user attributes => createAccountSteps s user attributes
  | updateAccount u => updateAccountSteps s u
  | deleteAccount user => deleteAccountSteps s user
  | setPassword user password => .ok (setPasswordSteps user password)
  | resetPassword user => .ok [.run (Primitive.resetPassword user)]
  | activation user attributes => activationSteps s user attributes
  | lock user => .ok [.run (Primitive.lock user)]
  | unlock user => .ok [.run (Primitive.unlock user)]
  | enable user => .ok [.run (Primitive.clearExpiry user)]
  | disable user date => .ok [.run (Primitive.expire user date.written)]
  | makeKeyDirectory user home => .ok (keyDirectorySteps s user home)
  | removeKeyDirectory home => .ok [.run (Primitive.removeDirectory (keyDirectory home))]
  | setKey user home key => .ok (keyFileSteps s user home key)
  | removeKey home => .ok [.run (Primitive.removeFile (keyFile home))]
  | grant c name rule => grantSteps s c name rule
  | revoke c name => revokeSteps s c name
  | renamePrimaryGroup oldName newName => .ok [.run (Primitive.renameGroup oldName newName)]
  | moveHome oldHome newHome => .ok [.run (Primitive.move oldHome newHome)]
  | createGroup group attributes => createGroupSteps s group attributes
  | updateGroup u => updateGroupSteps s u
  | deleteGroup group => deleteGroupSteps s group

end Call

/-! ## Plans with a step -/

theorem ne_nil_of_grantSteps {s : Settings} {c : ObjectClass} {name rule : String} {p : Plan}
    (h : grantSteps s c name rule = .ok p) : p ≠ [] := by
  obtain ⟨path, -, rfl⟩ := exists_of_map_eq_ok h
  exact List.cons_ne_nil _ _

theorem ne_nil_of_revokeSteps {s : Settings} {c : ObjectClass} {name : String} {p : Plan}
    (h : revokeSteps s c name = .ok p) : p ≠ [] := by
  obtain ⟨path, -, rfl⟩ := exists_of_map_eq_ok h
  exact List.cons_ne_nil _ _

theorem ne_nil_of_createAccountSteps {s : Settings} {user : String} {attributes : AttributeSet}
    {p : Plan} (h : createAccountSteps s user attributes = .ok p) : p ≠ [] := by
  obtain ⟨rule, -, hp⟩ := exists_of_bind_eq_ok h
  obtain rfl := Except.ok.inj hp
  simp

theorem ne_nil_of_deleteAccountSteps {s : Settings} {user : String} {p : Plan}
    (h : deleteAccountSteps s user = .ok p) : p ≠ [] := by
  obtain ⟨rule, -, hp⟩ := exists_of_bind_eq_ok h
  obtain rfl := Except.ok.inj hp
  exact List.cons_ne_nil _ _

theorem ne_nil_of_createGroupSteps {s : Settings} {group : String} {attributes : AttributeSet}
    {p : Plan} (h : createGroupSteps s group attributes = .ok p) : p ≠ [] := by
  obtain ⟨rule, -, hp⟩ := exists_of_bind_eq_ok h
  obtain rfl := Except.ok.inj hp
  exact List.cons_ne_nil _ _

theorem ne_nil_of_deleteGroupSteps {s : Settings} {group : String} {p : Plan}
    (h : deleteGroupSteps s group = .ok p) : p ≠ [] := by
  obtain ⟨rule, -, hp⟩ := exists_of_bind_eq_ok h
  obtain rfl := Except.ok.inj hp
  exact List.cons_ne_nil _ _

/-! ## The command of a call -/

section

variable (e : Elevation)

/-- What is sent for a plan, if anything. -/
def sent? (p : Plan) : Option String :=
  (p.command? e).map RemoteCommand.text

/-- A pipeline that needs no root rights is sent as it is written. -/
theorem sent?_plain (p : Shell.Pipeline) : sent? e [.plain p] = some (plain p).text := by
  have hne : ([.plain p] : Plan) ≠ [] := List.cons_ne_nil _ _
  rw [sent?, Plan.command?_of_ne_nil hne, Option.map_some, Plan.text_command]
  cases e <;> rfl

theorem sent?_of_ne_nil {p : Plan} (h : p ≠ []) : sent? e p = some (p.command e).text := by
  rw [sent?, Plan.command?_of_ne_nil h, Option.map_some]

theorem map_command {x : Except Fault Plan} (h : ∀ p, x = .ok p → p ≠ []) :
    ((x.map (Plan.command e)).map some).map (Option.map RemoteCommand.text) = x.map (sent? e) := by
  cases x with
  | error f => rfl
  | ok p =>
    have hp := sent?_of_ne_nil e (h p rfl)
    simp [Except.map, hp]

theorem map_command? (x : Except Fault Plan) :
    (x.map (Plan.command? e)).map (Option.map RemoteCommand.text) = x.map (sent? e) := by
  cases x <;> rfl

end

/-- What is sent for a call is the text of its plan; a call fails where its plan does. -/
theorem Call.command?_eq_plan (s : Settings) (call : Call) :
    (call.command? s).map (Option.map RemoteCommand.text) =
      (call.plan s).map (sent? s.elevationPolicy) := by
  have hplain : ∀ p, (Except.ok (some (Recipe.plain p)) : Except Fault _).map
      (Option.map RemoteCommand.text) =
        (Except.ok [.plain p] : Except Fault Plan).map (sent? s.elevationPolicy) := by
    intro p
    simp [Except.map, sent?_plain]
  have hrun : ∀ p : Plan, p ≠ [] → (Except.ok (some (p.command s.elevationPolicy)) :
      Except Fault _).map (Option.map RemoteCommand.text) =
        (Except.ok p : Except Fault Plan).map (sent? s.elevationPolicy) := by
    intro p hp
    simp [Except.map, sent?_of_ne_nil _ hp]
  cases call with
  | findAccount user => exact hplain _
  | findGroup group => exact hplain _
  | listAccounts => exact hplain _
  | listGroups => exact hplain _
  | find c name =>
    cases c with
    | account => exact hplain _
    | group => exact hplain _
    | other what => rfl
  | list c =>
    cases c with
    | account => exact hplain _
    | group => exact hplain _
    | other what => rfl
  | readMemberships user => exact hplain _
  | readRule c name =>
    simp only [command?, Call.plan, Recipe.readRule]
    cases ruleFile s c name with
    | error f => rfl
    | ok path => exact hrun _ (List.cons_ne_nil _ _)
  | testSession => exact hrun _ (by simp [testSessionSteps])
  | createAccount user attributes => exact map_command _ fun _ => ne_nil_of_createAccountSteps
  | updateAccount u => exact map_command? _ _
  | deleteAccount user => exact map_command _ fun _ => ne_nil_of_deleteAccountSteps
  | activation user attributes => exact map_command? _ _
  | grant c name rule => exact map_command _ fun _ => ne_nil_of_grantSteps
  | revoke c name => exact map_command _ fun _ => ne_nil_of_revokeSteps
  | createGroup group attributes => exact map_command _ fun _ => ne_nil_of_createGroupSteps
  | updateGroup u => exact map_command? _ _
  | deleteGroup group => exact map_command _ fun _ => ne_nil_of_deleteGroupSteps
  | _ => exact hrun _ (List.cons_ne_nil _ _)

/-- A command that is composed for a call has the text of the call's plan. -/
theorem Call.exists_plan {s : Settings} {call : Call} {c : RemoteCommand}
    (h : call.command? s = .ok (some c)) :
    ∃ p, call.plan s = .ok p ∧ p ≠ [] ∧ c.text = (p.command s.elevationPolicy).text := by
  have heq := command?_eq_plan s call
  rw [h] at heq
  obtain ⟨p, hp, hsent⟩ := exists_of_map_eq_ok heq.symm
  have hne : p ≠ [] := by
    rintro rfl
    cases hsent
  refine ⟨p, hp, hne, ?_⟩
  rw [sent?_of_ne_nil _ hne] at hsent
  exact (Option.some.inj hsent).symm

end Recipe

end HostAccounts
