import HostAccounts.Proofs.Recipe.AccountUpdate

/-!
# Changes that change nothing

A change of an account may come to nothing: its attributes say nothing, or only what holds already.
`AccountUpdate.IsIdle` tells so from the values of the attributes alone. Each group of steps is
empty under a condition of its own, and no command is composed exactly if all of them are. Main
statement: `updateAccount?_eq_none_iff`.
-/

set_option autoImplicit false

namespace HostAccounts

/-! ## Idle changes -/

/-- The change asks for nothing: it neither renames the account nor says anything on its use, and
what else it says comes to nothing in its mode. -/
structure AccountUpdate.IsIdle (s : Settings) (u : AccountUpdate) : Prop where
  name : u.newName = u.username
  enable : u.attributes.LacksFlag AttributeName.enable
  lockOut : u.attributes.LacksFlag AttributeName.lockOut
  disableDate : u.attributes.valuesOf AttributeName.disableDate = []
  replace : u.mode = .replace →
    u.attributes.LacksText s.fieldNames.homeDirectory ∧
      u.attributes.LacksText s.fieldNames.shell ∧
      u.attributes.LacksText s.fieldNames.comment ∧
      u.attributes.LacksText AttributeName.permissions ∧
      u.attributes.LacksTexts AttributeName.groups ∧
      u.attributes.LacksTexts AttributeName.publicKey
  removeValues : u.mode = .removeValues →
    (u.attributes.valuesOf AttributeName.groups = [] ∨ ∀ group ∈ u.currentGroups,
        Text.isBlankText group = false ∧
          .text group ∈ u.attributes.valuesOf AttributeName.groups) ∧
      u.attributes.contains AttributeName.publicKey = false ∧
      u.attributes.contains AttributeName.permissions = false

/-! ## Commands without flags -/

namespace Primitive

theorem AccountFields.flags_eq_nil_iff {fields : AccountFields} {withGroups : Bool} :
    fields.flags withGroups = [] ↔ fields.homeDirectory = none ∧ fields.shell = none ∧
      (withGroups = true → fields.groups = []) ∧ fields.comment = none := by
  have hflag : ∀ (flag : String) (value : Option String),
      (value.toList.flatMap fun v => [flag, v]) = [] ↔ value = none := by
    intro flag value
    cases value <;> simp
  have hgroups : (if withGroups && !fields.groups.isEmpty
      then ["-G", ",".intercalate fields.groups] else []) = [] ↔
        (withGroups = true → fields.groups = []) := by
    cases withGroups <;> cases fields.groups <;> simp
  rw [AccountFields.flags, List.append_eq_nil_iff, List.append_eq_nil_iff, List.append_eq_nil_iff,
    hflag, hflag, hflag, hgroups, and_assoc, and_assoc]

/-- An account is changed unless no field is supplied and its name stays. -/
theorem usermod?_eq_none_iff {user newName : String} {fields : AccountFields} {setGroups : Bool} :
    usermod? user fields (some newName) setGroups = none ↔
      fields.flags setGroups = [] ∧ newName = user := by
  constructor
  · intro h
    have hname := Recipe.eq_of_usermod?_eq_none h
    refine ⟨?_, hname⟩
    rw [usermod?, hname] at h
    simpa using h
  · rintro ⟨hflags, rfl⟩
    rw [usermod?, hflags]
    simp

end Primitive

/-! ## Steps that are left out -/

namespace AccountUpdate

variable {s : Settings} {u : AccountUpdate}

/-- The account leaves no group unless groups are named that leave one of its own out. -/
theorem leaving_eq_nil_iff : u.leaving = [] ↔ (u.mode = .removeValues →
    u.attributes.valuesOf AttributeName.groups = [] ∨ ∀ group ∈ u.currentGroups,
      Text.isBlankText group = false ∧
        .text group ∈ u.attributes.valuesOf AttributeName.groups) := by
  rw [List.eq_nil_iff_forall_not_mem]
  constructor
  · intro h hmode
    by_cases hgroups : u.attributes.valuesOf AttributeName.groups = []
    · exact .inl hgroups
    · have hpresent : u.attributes.isPresent AttributeName.groups = true := by
        rw [← Bool.not_eq_false, AttributeSet.isPresent_eq_false_iff]
        exact hgroups
      refine .inr fun group hcurrent => AttributeSet.mem_texts_iff.mp ?_
      by_contra hkept
      exact h group (mem_leaving_iff.mpr ⟨hmode, hpresent, hcurrent, hkept⟩)
  · intro h group hleaving
    obtain ⟨hmode, hpresent, hcurrent, hkept⟩ := mem_leaving_iff.mp hleaving
    rcases h hmode with hgroups | hall
    · rw [AttributeSet.isPresent_eq_false_iff.mpr hgroups] at hpresent
      cases hpresent
    · exact hkept (AttributeSet.mem_texts_iff.mpr (hall group hcurrent))

/-- Neither the fields nor the name of the account are set. -/
theorem usermod?_fields_eq_none_iff :
    Primitive.usermod? u.username (u.fields s.fieldNames) (some u.newName) (u.mode = .replace) =
        none ↔
      (u.mode = .replace → u.attributes.LacksText s.fieldNames.homeDirectory ∧
        u.attributes.LacksText s.fieldNames.shell ∧
        u.attributes.LacksTexts AttributeName.groups ∧
        u.attributes.LacksText s.fieldNames.comment) ∧ u.newName = u.username := by
  rw [Primitive.usermod?_eq_none_iff, Primitive.AccountFields.flags_eq_nil_iff, fields]
  cases u.mode with
  | replace =>
    simp [Primitive.AccountFields.ofAttributes, AttributeSet.text?_eq_none_iff,
      AttributeSet.texts_eq_nil_iff]
  | removeValues => simp

theorem IsIdle.suppliedHome?_eq_none (h : u.IsIdle s) : u.suppliedHome? s = none := by
  rw [suppliedHome?]
  cases hmode : u.mode with
  | replace => exact AttributeSet.text?_eq_none_iff.mpr (h.replace hmode).1
  | removeValues => rfl

end AccountUpdate

namespace Recipe

variable {s : Settings} {u : AccountUpdate} {p : Plan} {a : AttributeSet} {user home : String}

theorem leaveGroupSteps_eq_nil_iff : leaveGroupSteps u = [] ↔ u.leaving = [] := by
  rw [leaveGroupSteps_eq, List.map_eq_nil_iff]

theorem modifySteps_eq_nil_iff : modifySteps s u = [] ↔
    Primitive.usermod? u.username (u.fields s.fieldNames) (some u.newName) (u.mode = .replace) =
      none := by
  rw [modifySteps, List.map_eq_nil_iff, Option.toList_eq_nil_iff]

theorem expirySteps_eq_nil_iff (h : expirySteps s user a = .ok p) :
    p = [] ↔ a.flag? AttributeName.enable = none ∧
      a.isPresent AttributeName.disableDate = false := by
  have hexpire : ∀ {p : Plan}, ((disableDate s a).map fun date =>
      [Intent.run (Primitive.expire user date)]) = .ok p → p ≠ [] := by
    intro p hp
    obtain ⟨date, -, rfl⟩ := exists_of_map_eq_ok hp
    exact List.cons_ne_nil _ _
  unfold expirySteps at h
  cases henable : a.flag? AttributeName.enable with
  | some enabled =>
    refine iff_of_false ?_ fun hnone => nomatch hnone.1
    rw [henable] at h
    cases enabled with
    | true =>
      obtain rfl := Except.ok.inj h
      exact List.cons_ne_nil _ _
    | false => exact hexpire h
  | none =>
    rw [henable] at h
    cases hdate : a.isPresent AttributeName.disableDate with
    | true =>
      rw [hdate] at h
      exact iff_of_false (hexpire h) fun hnone => nomatch hnone.2
    | false =>
      rw [hdate] at h
      obtain rfl := Except.ok.inj h
      exact iff_of_true rfl ⟨rfl, rfl⟩

theorem lockSteps_eq_nil_iff : lockSteps user a = [] ↔ a.flag? AttributeName.lockOut = none := by
  unfold lockSteps
  cases a.flag? AttributeName.lockOut with
  | none => exact iff_of_true rfl rfl
  | some locked => cases locked <;> exact iff_of_false (List.cons_ne_nil _ _) nofun

/-- Nothing is said on the use of the account. -/
theorem activationSteps_eq_nil_iff (h : activationSteps s user a = .ok p) :
    p = [] ↔ a.LacksFlag AttributeName.enable ∧ a.valuesOf AttributeName.disableDate = [] ∧
      a.LacksFlag AttributeName.lockOut := by
  unfold activationSteps at h
  split at h
  · next steps hsteps =>
    obtain rfl := Except.ok.inj h
    rw [List.append_eq_nil_iff, expirySteps_eq_nil_iff hsteps, lockSteps_eq_nil_iff, and_assoc,
      AttributeSet.flag?_eq_none_iff, AttributeSet.isPresent_eq_false_iff,
      AttributeSet.flag?_eq_none_iff]
  · cases h

theorem keysSupplied_eq_nil_iff :
    keysSupplied s user home a = [] ↔ a.LacksTexts AttributeName.publicKey := by
  rw [← AttributeSet.texts_eq_nil_iff, keysSupplied]
  split
  · next hnone => exact iff_of_true rfl hnone
  · next hkeys => exact iff_of_false (List.cons_ne_nil _ _) hkeys

theorem keysWithdrawn_eq_nil_iff :
    keysWithdrawn home a = [] ↔ a.contains AttributeName.publicKey = false := by
  unfold keysWithdrawn
  cases a.contains AttributeName.publicKey <;> simp

theorem grantSupplied_eq_nil_iff {c : ObjectClass} (h : grantSupplied s c user a = .ok p) :
    p = [] ↔ a.LacksText AttributeName.permissions := by
  rw [← AttributeSet.text?_eq_none_iff]
  unfold grantSupplied at h
  cases hrule : a.text? AttributeName.permissions with
  | some rule =>
    rw [hrule] at h
    exact iff_of_false (ne_nil_of_grantSteps h) nofun
  | none =>
    rw [hrule] at h
    obtain rfl := Except.ok.inj h
    exact iff_of_true rfl rfl

theorem revokeSupplied_eq_nil_iff {c : ObjectClass} (h : revokeSupplied s c user a = .ok p) :
    p = [] ↔ a.contains AttributeName.permissions = false := by
  unfold revokeSupplied at h
  cases hrule : a.contains AttributeName.permissions with
  | true =>
    rw [hrule] at h
    exact iff_of_false (ne_nil_of_revokeSteps h) nofun
  | false =>
    rw [hrule] at h
    obtain rfl := Except.ok.inj h
    exact iff_of_true rfl rfl

/-- Neither keys nor a rule are written or removed. -/
theorem grantOrRevokeSteps_eq_nil_iff (h : grantOrRevokeSteps s u = .ok p) : p = [] ↔
    (u.mode = .replace → u.attributes.LacksTexts AttributeName.publicKey ∧
      u.attributes.LacksText AttributeName.permissions) ∧
    (u.mode = .removeValues → u.attributes.contains AttributeName.publicKey = false ∧
      u.attributes.contains AttributeName.permissions = false) := by
  unfold grantOrRevokeSteps at h
  cases hmode : u.mode with
  | replace =>
    rw [hmode] at h
    obtain ⟨rule, hrule, hp⟩ := exists_of_bind_eq_ok h
    obtain rfl := Except.ok.inj hp
    rw [List.append_eq_nil_iff, keysSupplied_eq_nil_iff, grantSupplied_eq_nil_iff hrule]
    simp
  | removeValues =>
    rw [hmode] at h
    obtain ⟨rule, hrule, hp⟩ := exists_of_bind_eq_ok h
    obtain rfl := Except.ok.inj hp
    rw [List.append_eq_nil_iff, keysWithdrawn_eq_nil_iff, revokeSupplied_eq_nil_iff hrule]
    simp

/-- Without a new name and a new home nothing follows the account. -/
theorem eq_nil_of_followUpSteps (h : followUpSteps s u = .ok p) (hname : u.newName = u.username)
    (hhome : u.suppliedHome? s = none) : p = [] := by
  have hrename : u.isRename = false := by simp [AccountUpdate.isRename, hname]
  unfold followUpSteps at h
  simp only [AccountUpdate.homeDirectory_fields, hrename, hhome] at h
  exact (Except.ok.inj h).symm

/-- A change has no steps exactly if it is idle. -/
theorem updateAccountSteps_eq_nil_iff (h : updateAccountSteps s u = .ok p) :
    p = [] ↔ u.IsIdle s := by
  obtain ⟨activation, hactivation, h⟩ := exists_of_bind_eq_ok h
  obtain ⟨followUp, hfollowUp, h⟩ := exists_of_bind_eq_ok h
  obtain ⟨grants, hgrants, hp⟩ := exists_of_bind_eq_ok h
  obtain rfl := Except.ok.inj hp
  simp only [List.append_eq_nil_iff, leaveGroupSteps_eq_nil_iff, modifySteps_eq_nil_iff,
    AccountUpdate.leaving_eq_nil_iff, AccountUpdate.usermod?_fields_eq_none_iff,
    activationSteps_eq_nil_iff hactivation, grantOrRevokeSteps_eq_nil_iff hgrants]
  constructor
  · rintro ⟨⟨⟨⟨hleaving, hfields, hname⟩, henable, hdate, hlock⟩, -⟩, hgranted, hrevoked⟩
    refine ⟨hname, henable, hlock, hdate, fun hmode => ?_, fun hmode =>
      ⟨hleaving hmode, hrevoked hmode⟩⟩
    obtain ⟨hhome, hshell, hgroups, hcomment⟩ := hfields hmode
    obtain ⟨hkeys, hrule⟩ := hgranted hmode
    exact ⟨hhome, hshell, hcomment, hrule, hgroups, hkeys⟩
  · intro hidle
    refine ⟨⟨⟨⟨fun hmode => (hidle.removeValues hmode).1, fun hmode => ?_, hidle.name⟩,
      hidle.enable, hidle.disableDate, hidle.lockOut⟩,
      eq_nil_of_followUpSteps hfollowUp hidle.name hidle.suppliedHome?_eq_none⟩, fun hmode => ?_,
      fun hmode => (hidle.removeValues hmode).2⟩
    · obtain ⟨hhome, hshell, hcomment, -, hgroups, -⟩ := hidle.replace hmode
      exact ⟨hhome, hshell, hgroups, hcomment⟩
    · obtain ⟨-, -, -, hrule, -, hkeys⟩ := hidle.replace hmode
      exact ⟨hkeys, hrule⟩

/-- A change that can be composed has no command exactly if it is idle. -/
theorem updateAccount?_eq_none_iff {script : Option RemoteCommand}
    (h : updateAccount? s u = .ok script) : script = none ↔ u.IsIdle s := by
  obtain ⟨p, hp, rfl⟩ := exists_of_map_eq_ok h
  rw [Plan.command?_eq_none_iff, updateAccountSteps_eq_nil_iff hp]

end Recipe

end HostAccounts
