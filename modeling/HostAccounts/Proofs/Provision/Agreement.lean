import HostAccounts.Proofs.CommandLine.Attributes
import HostAccounts.Provision.Create
import HostAccounts.Provision.Update

/-!
# Requests that agree

A set of attributes is only ever asked what it says under a name. So two sets that agree are the
same request: every recipe makes the same plan of them, and every operation is the same procedure,
that sends the same commands against every host and ends in the same way. Main statements:
`create_congr`, `update_congr`, `requests_of_reordered`.
-/

set_option autoImplicit false

namespace HostAccounts

variable {a b : AttributeSet}

/-! ## What is asked of a set -/

namespace AttributeSet.Agrees

theorem find?_congr (h : a.Agrees b) (name : String) : a.find? name = b.find? name := by
  rw [find?, find?, h name]

theorem contains_congr (h : a.Agrees b) (name : String) : a.contains name = b.contains name := by
  have hsome : ∀ c : AttributeSet, c.contains name = (c.entry? name).isSome := by
    intro c
    rw [Bool.eq_iff_iff, contains, entry?, List.any_eq_true, List.find?_isSome]
  rw [hsome, hsome, h name]

theorem isPresent_congr (h : a.Agrees b) (name : String) : a.isPresent name = b.isPresent name := by
  rw [isPresent, isPresent, h.find?_congr]

theorem text?_congr (h : a.Agrees b) (name : String) : a.text? name = b.text? name := by
  rw [text?, text?, h.find?_congr]

theorem texts_congr (h : a.Agrees b) (name : String) : a.texts name = b.texts name := by
  rw [texts, texts, h.find?_congr]

theorem flag?_congr (h : a.Agrees b) (name : String) : a.flag? name = b.flag? name := by
  rw [flag?, flag?, h.find?_congr]

theorem secret?_congr (h : a.Agrees b) (name : String) : a.secret? name = b.secret? name := by
  rw [secret?, secret?, h.find?_congr]

theorem name?_congr (h : a.Agrees b) : a.name? = b.name? :=
  h.text?_congr AttributeName.name

end AttributeSet.Agrees

open AttributeSet (Agrees)

/-! ## Plans -/

theorem Primitive.AccountFields.ofAttributes_congr (h : a.Agrees b) (names : FieldNames) :
    ofAttributes names a = ofAttributes names b := by
  simp only [ofAttributes, h.text?_congr, h.texts_congr]

namespace Recipe

variable (s : Settings)

theorem keysSupplied_congr (h : a.Agrees b) (user home : String) :
    keysSupplied s user home a = keysSupplied s user home b := by
  rw [keysSupplied, keysSupplied, h.texts_congr]

theorem keysWithdrawn_congr (h : a.Agrees b) (home : String) :
    keysWithdrawn home a = keysWithdrawn home b := by
  rw [keysWithdrawn, keysWithdrawn, h.contains_congr]

theorem grantSupplied_congr (h : a.Agrees b) (c : ObjectClass) (name : String) :
    grantSupplied s c name a = grantSupplied s c name b := by
  rw [grantSupplied, grantSupplied, h.text?_congr]

theorem revokeSupplied_congr (h : a.Agrees b) (c : ObjectClass) (name : String) :
    revokeSupplied s c name a = revokeSupplied s c name b := by
  rw [revokeSupplied, revokeSupplied, h.contains_congr]

theorem activationSteps_congr (h : a.Agrees b) (user : String) :
    activationSteps s user a = activationSteps s user b := by
  have hdate : disableDate s a = disableDate s b := by
    rw [disableDate, disableDate, h.text?_congr]
  have hexpiry : expirySteps s user a = expirySteps s user b := by
    rw [expirySteps, expirySteps, hdate, h.flag?_congr, h.isPresent_congr]
  have hlock : lockSteps user a = lockSteps user b := by
    rw [lockSteps, lockSteps, h.flag?_congr]
  rw [activationSteps, activationSteps, hexpiry, hlock]

theorem createAccountSteps_congr (h : a.Agrees b) (user : String) :
    createAccountSteps s user a = createAccountSteps s user b := by
  have hfields : newFields s a = newFields s b := by
    rw [newFields, newFields, Primitive.AccountFields.ofAttributes_congr h]
  simp only [createAccountSteps, hfields, grantSupplied_congr s h, keysSupplied_congr s h]

theorem createGroupSteps_congr (h : a.Agrees b) (group : String) :
    createGroupSteps s group a = createGroupSteps s group b := by
  rw [createGroupSteps, createGroupSteps, grantSupplied_congr s h]

theorem updateGroupSteps_congr (h : a.Agrees b) (group : String) (mode : UpdateMode) :
    updateGroupSteps s ⟨group, a, mode⟩ = updateGroupSteps s ⟨group, b, mode⟩ := by
  have hname : GroupUpdate.newName ⟨group, a, mode⟩ = GroupUpdate.newName ⟨group, b, mode⟩ := by
    rw [GroupUpdate.newName, GroupUpdate.newName, h.name?_congr]
  simp only [updateGroupSteps, hname, grantSupplied_congr s h, revokeSupplied_congr s h]

section

variable (u : AccountUpdate)

theorem newName_congr (h : a.Agrees b) :
    ({ u with attributes := a } : AccountUpdate).newName =
      ({ u with attributes := b } : AccountUpdate).newName := by
  rw [AccountUpdate.newName, AccountUpdate.newName, h.name?_congr]

theorem fields_congr (h : a.Agrees b) (names : FieldNames) :
    ({ u with attributes := a } : AccountUpdate).fields names =
      ({ u with attributes := b } : AccountUpdate).fields names := by
  simp only [AccountUpdate.fields, Primitive.AccountFields.ofAttributes_congr h]

theorem leaveGroupSteps_congr (h : a.Agrees b) :
    leaveGroupSteps { u with attributes := a } = leaveGroupSteps { u with attributes := b } := by
  simp only [leaveGroupSteps, h.isPresent_congr, h.texts_congr]

theorem modifySteps_congr (h : a.Agrees b) :
    modifySteps s { u with attributes := a } = modifySteps s { u with attributes := b } := by
  simp only [modifySteps, newName_congr u h, fields_congr u h]

theorem isRename_congr (h : a.Agrees b) :
    ({ u with attributes := a } : AccountUpdate).isRename =
      ({ u with attributes := b } : AccountUpdate).isRename := by
  unfold AccountUpdate.isRename
  rw [newName_congr u h]

theorem followUpSteps_congr (h : a.Agrees b) :
    followUpSteps s { u with attributes := a } = followUpSteps s { u with attributes := b } := by
  simp only [followUpSteps, isRename_congr u h, newName_congr u h, fields_congr u h]

theorem grantOrRevokeSteps_congr (h : a.Agrees b) :
    grantOrRevokeSteps s { u with attributes := a } =
      grantOrRevokeSteps s { u with attributes := b } := by
  simp only [grantOrRevokeSteps, finalHome, newName_congr u h, fields_congr u h,
    grantSupplied_congr s h, revokeSupplied_congr s h, keysSupplied_congr s h,
    keysWithdrawn_congr h]

theorem updateAccountSteps_congr (h : a.Agrees b) :
    updateAccountSteps s { u with attributes := a } =
      updateAccountSteps s { u with attributes := b } := by
  simp only [updateAccountSteps, newName_congr u h, activationSteps_congr s h,
    leaveGroupSteps_congr u h, modifySteps_congr s u h, followUpSteps_congr s u h,
    grantOrRevokeSteps_congr s u h]

end

end Recipe

/-! ## Operations -/

namespace Provision

variable (s : Settings)

theorem checkAttributes_congr (h : a.Agrees b) (c : ObjectClass) (names : FieldNames) :
    checkAttributes c names a = checkAttributes c names b := by
  simp only [checkAttributes, h.name?_congr, h.text?_congr, h.texts_congr]

theorem requireName_congr (h : a.Agrees b) : requireName a = requireName b := by
  rw [requireName, requireName, h.name?_congr]

theorem createAccount_congr (h : a.Agrees b) : createAccount s a = createAccount s b := by
  have hcompose : composeAccount s a = composeAccount s b := by
    simp only [composeAccount, requireName_congr h, checkAttributes_congr h, h.secret?_congr,
      Recipe.createAccount, Recipe.createAccountSteps_congr s h, Recipe.activation?,
      Recipe.activationSteps_congr s h]
  rw [createAccount, createAccount, hcompose]

theorem createGroup_congr (h : a.Agrees b) : createGroup s a = createGroup s b := by
  have hcompose : composeGroup s a = composeGroup s b := by
    simp only [composeGroup, requireName_congr h, checkAttributes_congr h, h.contains_congr,
      Recipe.createGroup, Recipe.createGroupSteps_congr s h]
  rw [createGroup, createGroup, hcompose]

/-- To create an object from sets that agree is the same. -/
theorem create_congr (h : a.Agrees b) (c : ObjectClass) : create s c a = create s c b := by
  cases c with
  | account => exact createAccount_congr s h
  | group => exact createGroup_congr s h
  | other what => rfl

theorem carryOut_congr (h : a.Agrees b) (u : AccountUpdate) :
    carryOut s { u with attributes := a } = carryOut s { u with attributes := b } := by
  funext script
  simp only [carryOut, passwordCommand?, Recipe.newName_congr u h, h.secret?_congr,
    h.contains_congr]

theorem updateAccount_congr (h : a.Agrees b) (uid : String) (mode : UpdateMode) :
    updateAccount s uid a mode = updateAccount s uid b mode := by
  have hrow : ∀ user, readRow s user a mode = readRow s user b mode := by
    intro user
    have hneeds : needsRow s user a mode = needsRow s user b mode := by
      rw [needsRow, needsRow, h.name?_congr, h.isPresent_congr, h.contains_congr]
    rw [readRow, readRow, hneeds]
  have hgroups : ∀ user, readGroups s user a mode = readGroups s user b mode := by
    intro user
    have hneeds : needsGroups a mode = needsGroups b mode := by
      rw [needsGroups, needsGroups, h.isPresent_congr]
    rw [readGroups, readGroups, hneeds]
  have hscript : ∀ user groups row,
      Recipe.updateAccount? s ⟨user, a, mode, groups, row⟩ =
        Recipe.updateAccount? s ⟨user, b, mode, groups, row⟩ := fun user groups row =>
    congrArg (Except.map _) (Recipe.updateAccountSteps_congr s ⟨user, a, mode, groups, row⟩ h)
  have hcarryOut : ∀ user groups row,
      carryOut s ⟨user, a, mode, groups, row⟩ = carryOut s ⟨user, b, mode, groups, row⟩ :=
    fun user groups row => carryOut_congr s h ⟨user, a, mode, groups, row⟩
  simp only [updateAccount, readAhead, bind_assoc, pure_bind, checkAttributes_congr h, hrow,
    hgroups, hscript, hcarryOut]

theorem updateGroup_congr (h : a.Agrees b) (uid : String) (mode : UpdateMode) :
    updateGroup s uid a mode = updateGroup s uid b mode := by
  have hname : ∀ group, GroupUpdate.newName ⟨group, a, mode⟩ =
      GroupUpdate.newName ⟨group, b, mode⟩ := by
    intro group
    rw [GroupUpdate.newName, GroupUpdate.newName, h.name?_congr]
  simp only [updateGroup, carryOutGroup, checkAttributes_congr h, hname, Recipe.updateGroup?,
    Recipe.updateGroupSteps_congr s h]

/-- To change an object by sets that agree is the same. -/
theorem update_congr (h : a.Agrees b) (c : ObjectClass) (uid : String) (mode : UpdateMode) :
    update s c uid a mode = update s c uid b mode := by
  cases c with
  | account => exact updateAccount_congr s h uid mode
  | group => exact updateGroup_congr s h uid mode
  | other what => rfl

/-! ## Requests of the command line -/

open CommandLine (Pair Reorders readAttributes reorders_swap)

/-- However pairs of different names are mixed, they make the same request: whatever the settings
and the class, to create an object from them is the same procedure, and so is each way to change
one, so that the same commands are sent against every host, and the end is the same. -/
theorem requests_of_reordered {ps qs : List Pair} (h : Reorders ps qs) :
    ∃ a b, readAttributes (ps.map Pair.written) = .ok a ∧
      readAttributes (qs.map Pair.written) = .ok b ∧
      ∀ (s : Settings) (c : ObjectClass), create s c a = create s c b ∧
        ∀ (uid : String) (mode : UpdateMode), update s c uid a mode = update s c uid b mode := by
  obtain ⟨a, b, ha, hb, hagrees⟩ := h.agrees
  exact ⟨a, b, ha, hb, fun s c => ⟨create_congr s hagrees c, update_congr s hagrees c⟩⟩

/-- Pairs for an account with two groups. -/
def mixedPairs : List Pair :=
  [⟨"groups", "dev", by decide, by decide⟩, ⟨" shell ", "/bin/sh", by decide, by decide⟩,
    ⟨"GROUPS", "ops", by decide, by decide⟩, ⟨"__NAME__", "svc1", by decide, by decide⟩]

/-- The same pairs, the groups next to each other. -/
def sortedPairs : List Pair :=
  [⟨"groups", "dev", by decide, by decide⟩, ⟨"GROUPS", "ops", by decide, by decide⟩,
    ⟨" shell ", "/bin/sh", by decide, by decide⟩, ⟨"__NAME__", "svc1", by decide, by decide⟩]

theorem requests_of_reordered_mixed :
    mixedPairs.map Pair.written = ["groups=dev", " shell =/bin/sh", "GROUPS=ops", "__NAME__=svc1"] ∧
    sortedPairs.map Pair.written =
      ["groups=dev", "GROUPS=ops", " shell =/bin/sh", "__NAME__=svc1"] ∧
    ∃ a b, readAttributes (mixedPairs.map Pair.written) = .ok a ∧
      readAttributes (sortedPairs.map Pair.written) = .ok b ∧
      ∀ (s : Settings) (c : ObjectClass), create s c a = create s c b ∧
        ∀ (uid : String) (mode : UpdateMode), update s c uid a mode = update s c uid b mode := by
  have hswapped : Reorders mixedPairs sortedPairs := by
    refine reorders_swap ?_ [⟨"groups", "dev", by decide, by decide⟩] _
    decide
  exact ⟨by decide, by decide, requests_of_reordered hswapped⟩

end Provision

end HostAccounts
