import HostAccounts.Proofs.Host.Registry
import HostAccounts.Proofs.Recipe.AccountUpdate
import HostAccounts.Proofs.Session.Errand

/-!
# The changes of recipes

Which accounts the recipes for accounts create, rename and remove, and which files they write and
remove: the keys in some home directory, and the rule file of the name that the account has after
the operation. Main statements: `makes_createAccountSteps`, `makes_updateAccountSteps`,
`makes_deleteAccountSteps`.
-/

set_option autoImplicit false

namespace HostAccounts

open Recipe (keyFile)

/-! ## Files -/

/-- The rule file of an account. -/
def dropIn (s : Settings) (name : String) : String :=
  pathIn s.accounts.sudoersDirectory (name ++ "_user")

/-- The path is that of the rule of the account, or of keys. -/
def IsFileOf (s : Settings) (name path : String) : Prop :=
  path = dropIn s name ∨ ∃ home, path = keyFile home

/-- Each account has a rule file of its own. -/
theorem dropIn_injective (s : Settings) : Function.Injective (dropIn s) := by
  intro n m h
  simpa [dropIn, pathIn, String.append_assoc] using h

/-- Rule files and key files end differently. -/
theorem dropIn_ne_keyFile (s : Settings) (name home : String) : dropIn s name ≠ keyFile home := by
  intro h
  have hlast := congrArg (fun path => path.toList.getLast?) h
  simp [dropIn, pathIn, keyFile, List.getLast?_cons] at hlast

theorem not_isFileOf_dropIn {s : Settings} {name other : String} (h : other ≠ name) :
    ¬ IsFileOf s name (dropIn s other) := by
  rintro (hrule | ⟨home, hkeys⟩)
  · exact h (dropIn_injective s hrule)
  · exact dropIn_ne_keyFile s other home hkeys

/-! ## Primitive commands -/

namespace Plan

theorem makes_useradd (user : String) (fields : Primitive.AccountFields) (createHome : Bool) :
    Makes [.run (Primitive.useradd user fields createHome)] [.add user] := by
  refine makes_run (Shell.meaning_ofWords _) (by decide) ?_
  simp [Change.ofCommand]

theorem makes_userdel (user : String) (removeHome : Bool) :
    Makes [.run (Primitive.userdel user removeHome)] [.remove user] := by
  refine makes_run (Shell.meaning_ofWords _) (by decide) ?_
  simp [Change.ofCommand]

/-- A change of an account changes its name where a new one is given. -/
theorem makes_usermod {user : String} {fields : Primitive.AccountFields} {newName : Option String}
    {setGroups : Bool} {p : Shell.Pipeline}
    (h : Primitive.usermod? user fields newName setGroups = some p) :
    Makes [.run p] ((newName.filter (· ≠ user)).toList.map (Change.rename user)) := by
  rw [Primitive.eq_of_usermod?_eq_some h]
  refine makes_run (Shell.meaning_ofWords _) (by decide) ?_
  rw [Change.ofCommand, List.append_assoc, Deed.alteration?_flags]
  cases newName.filter (· ≠ user) <;> rfl

theorem makes_tee (path : String) : Makes [.run (Primitive.tee path)] [.write path] :=
  makes_run (Primitive.meaning_tee path) (by decide) rfl

theorem makes_removeFile (path : String) : Makes [.run (Primitive.removeFile path)] [.erase path] :=
  makes_run (Shell.meaning_ofWords _) (by decide) rfl

theorem makes_chmod (mode path : String) : Makes [.run (Primitive.chmod mode path)] [] :=
  makes_run_nil (Shell.meaning_ofWords _) (by decide)

theorem makes_chown (owner path : String) : Makes [.run (Primitive.chown owner path)] [] :=
  makes_run_nil (Primitive.meaning_chown owner path) (by decide)

theorem makes_expire (user date : String) : Makes [.run (Primitive.expire user date)] [] :=
  makes_run (Shell.meaning_ofWords _) (by decide) rfl

theorem makes_lock (user : String) : Makes [.run (Primitive.lock user)] [] :=
  makes_run (Shell.meaning_ofWords _) (by decide) rfl

theorem makes_unlock (user : String) : Makes [.run (Primitive.unlock user)] [] :=
  makes_run (Shell.meaning_ofWords _) (by decide) rfl

/-- The plan only writes and removes such files. -/
def Touches (p : Plan) (P : String → Prop) : Prop :=
  ∃ cs, p.Makes cs ∧ ∀ c ∈ cs, c.IsOnFile P

variable {p q : Plan} {P : String → Prop}

theorem Makes.touches (h : p.Makes []) (P : String → Prop) : p.Touches P :=
  ⟨[], h, fun _ hc => absurd hc List.not_mem_nil⟩

theorem Touches.append (hp : p.Touches P) (hq : q.Touches P) : Touches (p ++ q) P := by
  obtain ⟨cs, hcs, hP⟩ := hp
  obtain ⟨ds, hds, hP'⟩ := hq
  exact ⟨cs ++ ds, hcs.append hds, List.forall_mem_append.mpr ⟨hP, hP'⟩⟩

theorem touches_write {path : String} (payload : String) (h : P path) :
    Touches [.feed payload (Primitive.tee path)] P :=
  ⟨[.write path], makes_feed payload (makes_tee path), by simpa [Change.IsOnFile] using h⟩

theorem touches_erase {path : String} (h : P path) :
    Touches [.run (Primitive.removeFile path)] P :=
  ⟨[.erase path], makes_removeFile path, by simpa [Change.IsOnFile] using h⟩

end Plan

namespace Recipe

open Plan (Makes Touches makes_nil makes_nil_of_forall)

variable {s : Settings} {name home : String} {attributes : AttributeSet} {p : Plan}

/-! ## Keys and rules -/

theorem touches_keyFileSteps (s : Settings) (name home key : String) :
    (keyFileSteps s name home key).Touches (IsFileOf s name) := by
  have hmkdir : Makes [.run (Primitive.mkdir (keyDirectory home))] [] :=
    Plan.makes_run_nil (Shell.meaning_ofWords _) (by decide)
  have hback := (Plan.makes_chown name (keyDirectory home)).append
    ((Plan.makes_chmod s.accounts.keyDirectoryMode (keyDirectory home)).append
      (Plan.makes_chmod s.accounts.keyFileMode (keyFile home)))
  exact (hmkdir.touches _).append
    ((Plan.touches_write key (.inr ⟨home, rfl⟩)).append (hback.touches _))

theorem touches_keysSupplied (s : Settings) (name home : String) (attributes : AttributeSet) :
    (keysSupplied s name home attributes).Touches (IsFileOf s name) := by
  unfold keysSupplied
  split
  · exact makes_nil.touches _
  · exact touches_keyFileSteps s name home _

theorem touches_keysWithdrawn (s : Settings) (name home : String) (attributes : AttributeSet) :
    (keysWithdrawn home attributes).Touches (IsFileOf s name) := by
  unfold keysWithdrawn
  split
  · exact Plan.touches_erase (.inr ⟨home, rfl⟩)
  · exact makes_nil.touches _

theorem touches_grantSupplied (h : grantSupplied s .account name attributes = .ok p) :
    p.Touches (IsFileOf s name) := by
  unfold grantSupplied at h
  split at h
  · next rule =>
    obtain rfl := Except.ok.inj h
    exact (Plan.touches_write _ (.inl rfl)).append ((Plan.makes_chmod "0440" _).touches _)
  · obtain rfl := Except.ok.inj h
    exact makes_nil.touches _

theorem touches_revokeSupplied (h : revokeSupplied s .account name attributes = .ok p) :
    p.Touches (IsFileOf s name) := by
  unfold revokeSupplied at h
  split at h
  · obtain rfl := Except.ok.inj h
    exact Plan.touches_erase (.inl rfl)
  · obtain rfl := Except.ok.inj h
    exact makes_nil.touches _

/-! ## Accounts -/

theorem makes_createAccountSteps (h : createAccountSteps s name attributes = .ok p) :
    ∃ cs, p.Makes (.add name :: cs) ∧ ∀ c ∈ cs, c.IsOnFile (IsFileOf s name) := by
  obtain ⟨rule, hrule, hp⟩ := exists_of_bind_eq_ok h
  obtain rfl := Except.ok.inj hp
  obtain ⟨cs, hcs, hfiles⟩ :=
    (touches_keysSupplied s name _ attributes).append (touches_grantSupplied hrule)
  refine ⟨cs, ?_, hfiles⟩
  rw [List.append_assoc]
  exact (Plan.makes_useradd name _ _).append hcs

theorem makes_deleteAccountSteps (h : deleteAccountSteps s name = .ok p) :
    p.Makes [.remove name, .erase (dropIn s name)] := by
  obtain ⟨rule, hrule, hp⟩ := exists_of_bind_eq_ok h
  obtain rfl := Except.ok.inj hp
  obtain rfl := Except.ok.inj hrule
  exact (Plan.makes_userdel name _).append (Plan.makes_removeFile _)

theorem makes_leaveGroupSteps (u : AccountUpdate) : (leaveGroupSteps u).Makes [] := by
  unfold leaveGroupSteps
  split
  · refine makes_nil_of_forall fun i hi => ?_
    obtain ⟨group, -, rfl⟩ := List.mem_map.mp hi
    exact Plan.makes_run_nil (Shell.meaning_ofWords _) (by decide)
  · exact makes_nil

theorem makes_modifySteps (s : Settings) (u : AccountUpdate) :
    (modifySteps s u).Makes (if u.isRename then [.rename u.username u.newName] else []) := by
  unfold modifySteps
  cases hmod : Primitive.usermod? u.username (u.fields s.fieldNames) (some u.newName)
      (u.mode = .replace) with
  | none =>
    have hrename : u.isRename = false := by
      simp [AccountUpdate.isRename, eq_of_usermod?_eq_none hmod]
    rw [hrename]
    exact makes_nil
  | some q =>
    have hmakes := Plan.makes_usermod hmod
    rw [Option.filter_some] at hmakes
    by_cases hname : u.newName = u.username
    · have hrename : u.isRename = false := by simp [AccountUpdate.isRename, hname]
      rw [hrename]
      simpa [hname] using hmakes
    · have hrename : u.isRename = true := by simp [AccountUpdate.isRename, hname]
      rw [hrename]
      simpa [hname] using hmakes

theorem makes_expirySteps {steps : Plan} (h : expirySteps s name attributes = .ok steps) :
    steps.Makes [] := by
  unfold expirySteps at h
  simp only at h
  split at h
  · obtain rfl := Except.ok.inj h
    exact Plan.makes_expire name ""
  · obtain ⟨date, -, rfl⟩ := exists_of_map_eq_ok h
    exact Plan.makes_expire name date
  · split at h
    · obtain ⟨date, -, rfl⟩ := exists_of_map_eq_ok h
      exact Plan.makes_expire name date
    · obtain rfl := Except.ok.inj h
      exact makes_nil

theorem makes_lockSteps (name : String) (attributes : AttributeSet) :
    (lockSteps name attributes).Makes [] := by
  unfold lockSteps
  split
  · exact Plan.makes_lock name
  · exact Plan.makes_unlock name
  · exact makes_nil

theorem makes_activationSteps (h : activationSteps s name attributes = .ok p) : p.Makes [] := by
  unfold activationSteps at h
  split at h
  · next steps hsteps =>
    obtain rfl := Except.ok.inj h
    exact (makes_expirySteps hsteps).append (makes_lockSteps name attributes)
  · cases h

theorem makes_followUpSteps {u : AccountUpdate} (h : followUpSteps s u = .ok p) : p.Makes [] := by
  unfold followUpSteps at h
  simp only at h
  split at h
  · split at h
    · cases h
    · obtain rfl := Except.ok.inj h
      refine makes_nil_of_forall fun i hi => ?_
      rcases List.mem_append.mp hi with hmove | hgroup
      · obtain ⟨target, -, rfl⟩ := List.mem_map.mp hmove
        exact Plan.makes_run_nil (Shell.meaning_ofWords _) (by decide)
      · split at hgroup
        · obtain rfl := List.mem_singleton.mp hgroup
          exact Plan.makes_run_nil (Shell.meaning_ofWords _) (by decide)
        · cases hgroup
  · obtain rfl := Except.ok.inj h
    exact makes_nil

theorem touches_grantOrRevokeSteps {u : AccountUpdate} (h : grantOrRevokeSteps s u = .ok p) :
    p.Touches (IsFileOf s u.newName) := by
  unfold grantOrRevokeSteps at h
  split at h
  · obtain ⟨rule, hrule, hp⟩ := exists_of_bind_eq_ok h
    obtain rfl := Except.ok.inj hp
    exact (touches_keysSupplied s _ _ _).append (touches_grantSupplied hrule)
  · obtain ⟨rule, hrule, hp⟩ := exists_of_bind_eq_ok h
    obtain rfl := Except.ok.inj hp
    exact (touches_keysWithdrawn s _ _ _).append (touches_revokeSupplied hrule)

/-- What a change comes to is the renaming, and what it does to keys and rule. -/
theorem exists_grants_updateAccountSteps {u : AccountUpdate} (h : updateAccountSteps s u = .ok p) :
    ∃ grants, grantOrRevokeSteps s u = .ok grants ∧ ∀ cs, grants.Makes cs →
      p.Makes ((if u.isRename then [.rename u.username u.newName] else []) ++ cs) := by
  obtain ⟨activation, hactivation, h⟩ := exists_of_bind_eq_ok h
  obtain ⟨followUp, hfollowUp, h⟩ := exists_of_bind_eq_ok h
  obtain ⟨grants, hgrants, hp⟩ := exists_of_bind_eq_ok h
  obtain rfl := Except.ok.inj hp
  refine ⟨grants, hgrants, fun cs hcs => ?_⟩
  have hfront := (makes_leaveGroupSteps u).append (makes_modifySteps s u)
  have hmid := (makes_activationSteps hactivation).append (makes_followUpSteps hfollowUp)
  have hall := (hfront.append hmid).append hcs
  simpa only [List.append_assoc, List.nil_append, List.append_nil] using hall

/-- Only files of the new name are touched, also where the old name had some. -/
theorem makes_updateAccountSteps {u : AccountUpdate} (h : updateAccountSteps s u = .ok p) :
    ∃ cs, p.Makes ((if u.isRename then [.rename u.username u.newName] else []) ++ cs) ∧
      ∀ c ∈ cs, c.IsOnFile (IsFileOf s u.newName) := by
  obtain ⟨grants, hgrants, hmakes⟩ := exists_grants_updateAccountSteps h
  obtain ⟨cs, hcs, hfiles⟩ := touches_grantOrRevokeSteps hgrants
  exact ⟨cs, hmakes cs hcs, hfiles⟩

/-! ## Commands -/

section

variable {command : RemoteCommand} {user : String}

/-- What is read of the command of a call is what its plan makes. -/
theorem Call.exists_plan_changes (call : Call) (h : call.command? s = .ok (some command)) :
    ∃ p, call.plan s = .ok p ∧ ∀ cs, p.Makes cs → changes command.text = cs := by
  obtain ⟨p, hp, -, htext⟩ := exists_plan h
  exact ⟨p, hp, fun cs hcs => htext ▸ hcs.changes_command (isMade_plan hp) _⟩

theorem Call.changes_eq_nil (call : Call) (h : call.command? s = .ok (some command))
    (hmakes : ∀ p, call.plan s = .ok p → p.Makes []) : changes command.text = [] := by
  obtain ⟨p, hp, hchanges⟩ := call.exists_plan_changes h
  exact hchanges [] (hmakes p hp)

theorem changes_findAccount (user : String) : changes (findAccount user).text = [] := by
  refine Call.changes_eq_nil (s := {}) (.findAccount user) rfl fun p hp => ?_
  obtain rfl := Except.ok.inj hp
  exact Plan.makes_plain rfl

theorem changes_readMemberships (user : String) : changes (readMemberships user).text = [] := by
  refine Call.changes_eq_nil (s := {}) (.readMemberships user) rfl fun p hp => ?_
  obtain rfl := Except.ok.inj hp
  exact Plan.makes_plain rfl

theorem changes_setPassword (s : Settings) (user password : String) :
    changes (setPassword s user password).text = [] := by
  refine Call.changes_eq_nil (.setPassword user password) rfl fun p hp => ?_
  obtain rfl := Except.ok.inj hp
  exact Plan.makes_feedSecret _ (Plan.makes_run_nil (Shell.meaning_ofWords _) (by decide))

theorem changes_resetPassword (s : Settings) (user : String) :
    changes (resetPassword s user).text = [] := by
  refine Call.changes_eq_nil (.resetPassword user) rfl fun p hp => ?_
  obtain rfl := Except.ok.inj hp
  exact Plan.makes_run_nil (Shell.meaning_ofWords _) (by decide)

theorem changes_activation? (h : activation? s user attributes = .ok (some command)) :
    changes command.text = [] :=
  Call.changes_eq_nil (.activation user attributes) h fun _ hp => makes_activationSteps hp

theorem changes_createAccount (h : createAccount s user attributes = .ok command) :
    ∃ cs, changes command.text = .add user :: cs ∧ ∀ c ∈ cs, c.IsOnFile (IsFileOf s user) := by
  obtain ⟨p, hp, hchanges⟩ := Call.exists_plan_changes (.createAccount user attributes)
    (congrArg (Except.map some) h)
  obtain ⟨cs, hcs, hfiles⟩ := makes_createAccountSteps hp
  exact ⟨cs, hchanges _ hcs, hfiles⟩

theorem changes_deleteAccount (h : deleteAccount s user = .ok command) :
    changes command.text = [.remove user, .erase (dropIn s user)] := by
  obtain ⟨p, hp, hchanges⟩ := Call.exists_plan_changes (.deleteAccount user)
    (congrArg (Except.map some) h)
  exact hchanges _ (makes_deleteAccountSteps hp)

end

end Recipe

end HostAccounts
