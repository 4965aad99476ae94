import HostAccounts.Proofs.Attribute
import HostAccounts.Proofs.Recipe.Deeds
import Mathlib.Tactic.ByContra

/-!
# Changes in order

A change of an account names the account, its group and its home as they are at each moment: what
comes before the renaming uses the old name, what comes after it the new one, and the keys are
written where the home then is. Main statement: `updateAccount_in_order`, for every change that a
command is composed for.
-/

set_option autoImplicit false

namespace HostAccounts

open Database (AccountRow)
open Recipe (keyDirectory keyFile ruleFile)

/-! ## What a change finds and leaves -/

namespace AccountUpdate

/-- The home directory that is supplied; a change that takes values away supplies none. -/
def suppliedHome? (s : Settings) (u : AccountUpdate) : Option String :=
  match u.mode with
  | .replace => u.attributes.text? s.fieldNames.homeDirectory
  | .removeValues => none

/-- The home directory that the change finds. -/
def homeBefore (s : Settings) (u : AccountUpdate) : String :=
  (u.currentRow.map AccountRow.homeDirectory).getD (s.defaultHome u.username)

/-- The home directory that the change leaves: the one supplied, or else that of the row, or else
the one that the settings give the new name. -/
def homeAfter (s : Settings) (u : AccountUpdate) : String :=
  ((u.suppliedHome? s).or (u.currentRow.map AccountRow.homeDirectory)).getD
    (s.defaultHome u.newName)

/-- The groups that the account is taken out of: those that list it and are not to be kept. -/
def leaving (u : AccountUpdate) : List String :=
  if u.mode = .removeValues && u.attributes.isPresent AttributeName.groups then
    u.currentGroups.filter fun g => !(u.attributes.texts AttributeName.groups).contains g
  else []

theorem mem_leaving_iff {u : AccountUpdate} {group : String} :
    group ∈ u.leaving ↔ u.mode = .removeValues ∧
      u.attributes.isPresent AttributeName.groups = true ∧ group ∈ u.currentGroups ∧
        group ∉ u.attributes.texts AttributeName.groups := by
  unfold leaving
  split
  · next h =>
    rw [Bool.and_eq_true, decide_eq_true_eq] at h
    simp [h.1, h.2]
  · next h =>
    rw [Bool.and_eq_true, decide_eq_true_eq] at h
    exact iff_of_false List.not_mem_nil fun hall => h ⟨hall.1, hall.2.1⟩

theorem suppliedHome?_eq_some_iff {s : Settings} {u : AccountUpdate} {home : String} :
    u.suppliedHome? s = some home ↔
      u.mode = .replace ∧ u.attributes.text? s.fieldNames.homeDirectory = some home := by
  unfold suppliedHome?
  cases u.mode <;> simp

theorem homeBefore_of_eq_some (s : Settings) {u : AccountUpdate} {row : AccountRow}
    (h : u.currentRow = some row) : u.homeBefore s = row.homeDirectory := by
  rw [homeBefore, h]
  rfl

theorem homeDirectory_fields (s : Settings) (u : AccountUpdate) :
    (u.fields s.fieldNames).homeDirectory = u.suppliedHome? s := by
  unfold fields suppliedHome?
  cases u.mode <;> rfl

theorem finalHome_eq (s : Settings) (u : AccountUpdate) :
    Recipe.finalHome s u = u.homeAfter s := by
  rw [Recipe.finalHome, homeDirectory_fields, homeAfter]

theorem newName_eq (u : AccountUpdate) (h : u.isRename = false) : u.newName = u.username := by
  simpa [isRename] using h

end AccountUpdate

/-! ## The deeds of a change -/

namespace Deed

/-- A deed on the keys of an account in a home directory. -/
def IsOnKeys (user home : String) (x : Deed) : Prop :=
  x = .own user (keyDirectory home) ∨ x = .file (keyDirectory home) ∨ x = .file (keyFile home)

/-- A deed on the rule of an account. -/
def IsOnRule (s : Settings) (user : String) (x : Deed) : Prop :=
  ∃ path, ruleFile s .account user = .ok path ∧ x = .file path

/-- The deed moves a directory or renames a group. -/
def isFollowUp : Deed → Bool
  | .move .. | .renameGroup .. => true
  | _ => false

end Deed

/-- The deeds of a change, in the groups in which they are done. -/
structure UpdateDeeds where
  departures : List Deed
  modification : List Deed
  activation : List Deed
  moves : List Deed
  groupRenames : List Deed
  keys : List Deed
  rule : List Deed

namespace UpdateDeeds

/-- The groups one after the other. -/
def inOrder (d : UpdateDeeds) : List Deed :=
  d.departures ++ d.modification ++ d.activation ++ (d.moves ++ d.groupRenames) ++
    (d.keys ++ d.rule)

/-- The deeds are those of the change: each group is about the name and the home that the change has
brought about by then. -/
structure AreOf (s : Settings) (u : AccountUpdate) (d : UpdateDeeds) : Prop where
  unknown : u.currentRow = none → u.isRename = false ∧ u.suppliedHome? s = none
  departures : ∀ x ∈ d.departures, ∃ group, x = .leave u.username group
  modification : d.modification = [] ∧ u.isRename = false ∨
    d.modification = [.alter u.username (if u.isRename then some u.newName else none)]
  activation : ∀ x ∈ d.activation, x = .alter u.newName none
  moves : d.moves = ((u.suppliedHome? s).filter (· ≠ u.homeBefore s)).toList.map
    (Deed.move (u.homeBefore s))
  groupRenames : d.groupRenames =
    if u.isRename then [.renameGroup u.username u.newName] else []
  keys : ∀ x ∈ d.keys, x.IsOnKeys u.newName (u.homeAfter s)
  rule : ∀ x ∈ d.rule, x.IsOnRule s u.newName

end UpdateDeeds

namespace Recipe

open Plan (Does does_nil does_map doesOnly_nil)

variable {s : Settings} {u : AccountUpdate} {p : Plan}

theorem leaveGroupSteps_eq (u : AccountUpdate) :
    leaveGroupSteps u = u.leaving.map fun g => .run (Primitive.removeFromGroup u.username g) := by
  unfold leaveGroupSteps AccountUpdate.leaving
  split <;> rfl

theorem does_leaveGroupSteps (u : AccountUpdate) :
    Does (leaveGroupSteps u) (u.leaving.map (Deed.leave u.username)) := by
  rw [leaveGroupSteps_eq]
  exact does_map (Plan.does_removeFromGroup u.username) _

theorem eq_of_usermod?_eq_none {user newName : String} {fields : Primitive.AccountFields}
    {setGroups : Bool} (h : Primitive.usermod? user fields (some newName) setGroups = none) :
    newName = user := by
  by_contra hne
  have hrename : (some newName).filter (· ≠ user) = some newName := by simp [hne]
  rw [Primitive.usermod?, hrename] at h
  simp at h

/-- A renaming is a change, so that the account is not left as it is where there is one. -/
theorem does_modifySteps (s : Settings) (u : AccountUpdate) :
    ∃ ds, Does (modifySteps s u) ds ∧ (ds = [] ∧ u.isRename = false ∨
      ds = [.alter u.username (if u.isRename then some u.newName else none)]) := by
  unfold modifySteps
  cases hmod : Primitive.usermod? u.username (u.fields s.fieldNames) (some u.newName)
      (u.mode = .replace) with
  | none =>
    refine ⟨[], does_nil, Or.inl ⟨rfl, ?_⟩⟩
    simp [AccountUpdate.isRename, eq_of_usermod?_eq_none hmod]
  | some q =>
    refine ⟨_, Plan.does_usermod hmod, Or.inr ?_⟩
    by_cases hname : u.newName = u.username <;> simp [AccountUpdate.isRename, hname]

theorem doesOnly_expirySteps {user : String} {attributes : AttributeSet}
    (h : expirySteps s user attributes = .ok p) : p.DoesOnly fun d => d = .alter user none := by
  unfold expirySteps at h
  simp only at h
  split at h
  · obtain rfl := Except.ok.inj h
    exact (Plan.does_expire user "").doesOnly rfl
  · obtain ⟨date, -, rfl⟩ := exists_of_map_eq_ok h
    exact (Plan.does_expire user date).doesOnly rfl
  · split at h
    · obtain ⟨date, -, rfl⟩ := exists_of_map_eq_ok h
      exact (Plan.does_expire user date).doesOnly rfl
    · obtain rfl := Except.ok.inj h
      exact doesOnly_nil _

theorem doesOnly_lockSteps (user : String) (attributes : AttributeSet) :
    (lockSteps user attributes).DoesOnly fun d => d = .alter user none := by
  unfold lockSteps
  split
  · exact (Plan.does_lock user).doesOnly rfl
  · exact (Plan.does_unlock user).doesOnly rfl
  · exact doesOnly_nil _

theorem doesOnly_activationSteps {user : String} {attributes : AttributeSet}
    (h : activationSteps s user attributes = .ok p) :
    p.DoesOnly fun d => d = .alter user none := by
  unfold activationSteps at h
  split at h
  · next steps hsteps =>
    obtain rfl := Except.ok.inj h
    exact (doesOnly_expirySteps hsteps).append (doesOnly_lockSteps user attributes)
  · cases h

/-- Without a row there is neither a renaming nor a home supplied. -/
theorem eq_none_of_followUpSteps (h : followUpSteps s u = .ok p) (hcurrent : u.currentRow = none) :
    u.isRename = false ∧ u.suppliedHome? s = none := by
  unfold followUpSteps at h
  simp only [AccountUpdate.homeDirectory_fields, hcurrent] at h
  split at h
  · cases h
  · next hnone =>
    rw [Bool.or_eq_true, not_or, Bool.not_eq_true, Option.not_isSome_iff_eq_none] at hnone
    exact hnone

/-- The directory moves from what the row says to what is supplied, if that is another one. -/
theorem does_followUpSteps (hrow : ∀ row, u.currentRow = some row → row.username = u.username)
    (h : followUpSteps s u = .ok p) :
    Does p (((u.suppliedHome? s).filter (· ≠ u.homeBefore s)).toList.map
        (Deed.move (u.homeBefore s)) ++
      if u.isRename then [.renameGroup u.username u.newName] else []) := by
  unfold followUpSteps at h
  simp only [AccountUpdate.homeDirectory_fields] at h
  split at h
  · cases hcurrent : u.currentRow with
    | none =>
      rw [hcurrent] at h
      cases h
    | some row =>
      rw [hcurrent] at h
      obtain rfl := Except.ok.inj h
      rw [AccountUpdate.homeBefore_of_eq_some s hcurrent, hrow row hcurrent]
      refine (does_map (Plan.does_move row.homeDirectory) _).append ?_
      split
      · exact Plan.does_renameGroup _ _
      · exact does_nil
  · next hnone =>
    obtain rfl := Except.ok.inj h
    rw [Bool.or_eq_true, not_or, Bool.not_eq_true, Option.not_isSome_iff_eq_none] at hnone
    rw [hnone.1, hnone.2]
    exact does_nil

theorem doesOnly_keyFileSteps (s : Settings) (user home key : String) :
    (keyFileSteps s user home key).DoesOnly (Deed.IsOnKeys user home) := by
  refine ⟨_, (Plan.does_mkdir _).cons ((Plan.does_feed key (Plan.does_tee _)).cons
    ((Plan.does_chown _ _).cons ((Plan.does_chmod _ _).cons (Plan.does_chmod _ _)))), ?_⟩
  intro d hd
  simp only [List.cons_append, List.nil_append, List.mem_cons, List.not_mem_nil, or_false] at hd
  rcases hd with rfl | rfl | rfl | rfl | rfl <;> simp [Deed.IsOnKeys]

/-- Keys are written only if they are named. -/
theorem doesOnly_keysSupplied (s : Settings) (user home : String) (attributes : AttributeSet) :
    (keysSupplied s user home attributes).DoesOnly fun d =>
      attributes.contains AttributeName.publicKey = true ∧ d.IsOnKeys user home := by
  unfold keysSupplied
  split
  · exact doesOnly_nil _
  · next hkeys =>
    have hnamed : attributes.contains AttributeName.publicKey = true :=
      AttributeSet.contains_of_texts_ne_nil hkeys
    exact (doesOnly_keyFileSteps _ _ _ _).imp fun _ hd => ⟨hnamed, hd⟩

theorem doesOnly_keysWithdrawn (user home : String) (attributes : AttributeSet) :
    (keysWithdrawn home attributes).DoesOnly fun d =>
      attributes.contains AttributeName.publicKey = true ∧ d.IsOnKeys user home := by
  unfold keysWithdrawn
  split
  · next hnamed => exact (Plan.does_removeFile _).doesOnly ⟨hnamed, Or.inr (Or.inr rfl)⟩
  · exact doesOnly_nil _

theorem doesOnly_grantSupplied {c : ObjectClass} {name : String} {attributes : AttributeSet}
    (h : grantSupplied s c name attributes = .ok p) :
    p.DoesOnly fun d => ∃ path, ruleFile s c name = .ok path ∧ d = .file path := by
  unfold grantSupplied at h
  split at h
  · obtain ⟨path, hpath, rfl⟩ := exists_of_map_eq_ok h
    exact ((Plan.does_feed _ (Plan.does_tee path)).doesOnly ⟨path, hpath, rfl⟩).append
      ((Plan.does_chmod _ path).doesOnly ⟨path, hpath, rfl⟩)
  · obtain rfl := Except.ok.inj h
    exact doesOnly_nil _

theorem doesOnly_revokeSupplied {c : ObjectClass} {name : String} {attributes : AttributeSet}
    (h : revokeSupplied s c name attributes = .ok p) :
    p.DoesOnly fun d => ∃ path, ruleFile s c name = .ok path ∧ d = .file path := by
  unfold revokeSupplied at h
  split at h
  · obtain ⟨path, hpath, rfl⟩ := exists_of_map_eq_ok h
    exact (Plan.does_removeFile path).doesOnly ⟨path, hpath, rfl⟩
  · obtain rfl := Except.ok.inj h
    exact doesOnly_nil _

/-- Keys and rule come after everything else, under the new name and in the home that is left. -/
theorem exists_grantOrRevokeSteps (h : grantOrRevokeSteps s u = .ok p) :
    ∃ keys rule, p = keys ++ rule ∧
      (keys.DoesOnly fun d => u.attributes.contains AttributeName.publicKey = true ∧
        d.IsOnKeys u.newName (u.homeAfter s)) ∧
      rule.DoesOnly (Deed.IsOnRule s u.newName) := by
  unfold grantOrRevokeSteps at h
  rw [AccountUpdate.finalHome_eq] at h
  cases hmode : u.mode with
  | replace =>
    rw [hmode] at h
    obtain ⟨rule, hrule, hp⟩ := exists_of_bind_eq_ok h
    obtain rfl := Except.ok.inj hp
    exact ⟨_, rule, rfl, doesOnly_keysSupplied _ _ _ _, doesOnly_grantSupplied hrule⟩
  | removeValues =>
    rw [hmode] at h
    obtain ⟨rule, hrule, hp⟩ := exists_of_bind_eq_ok h
    obtain rfl := Except.ok.inj hp
    exact ⟨_, rule, rfl, doesOnly_keysWithdrawn _ _ _, doesOnly_revokeSupplied hrule⟩

/-- The steps of a change come to deeds in that order. The account is taken out of the groups that
are not to be kept, and nothing is done to keys unless they are named. -/
theorem exists_deeds_updateAccountSteps
    (hrow : ∀ row, u.currentRow = some row → row.username = u.username)
    (h : updateAccountSteps s u = .ok p) :
    ∃ d : UpdateDeeds, Does p d.inOrder ∧ d.AreOf s u ∧
      d.departures = u.leaving.map (Deed.leave u.username) ∧
      (d.keys ≠ [] → u.attributes.contains AttributeName.publicKey = true) := by
  obtain ⟨activation, hactivation, h⟩ := exists_of_bind_eq_ok h
  obtain ⟨followUp, hfollowUp, h⟩ := exists_of_bind_eq_ok h
  obtain ⟨grants, hgrants, hp⟩ := exists_of_bind_eq_ok h
  obtain rfl := Except.ok.inj hp
  obtain ⟨keySteps, ruleSteps, rfl, hkeySteps, hruleSteps⟩ := exists_grantOrRevokeSteps hgrants
  obtain ⟨modification, hmodify, hmodification⟩ := does_modifySteps s u
  obtain ⟨alterations, hactivate, halterations⟩ := doesOnly_activationSteps hactivation
  obtain ⟨keys, hkeys, hkeys'⟩ := hkeySteps
  obtain ⟨rule, hrule, hrule'⟩ := hruleSteps
  refine ⟨⟨_, modification, alterations, _, _, keys, rule⟩,
    ((((does_leaveGroupSteps u).append hmodify).append hactivate).append
      (does_followUpSteps hrow hfollowUp)).append (hkeys.append hrule), ?_, rfl, ?_⟩
  · refine ⟨eq_none_of_followUpSteps hfollowUp, fun x hx => ?_, hmodification, halterations, rfl,
      rfl, fun x hx => (hkeys' x hx).2, hrule'⟩
    obtain ⟨group, -, rfl⟩ := List.mem_map.mp hx
    exact ⟨group, rfl⟩
  · intro hne
    obtain ⟨x, hx⟩ := List.exists_mem_of_ne_nil _ hne
    exact (hkeys' x hx).1

theorem does_updateAccountSteps
    (hrow : ∀ row, u.currentRow = some row → row.username = u.username)
    (h : updateAccountSteps s u = .ok p) :
    ∃ d : UpdateDeeds, Does p d.inOrder ∧ d.AreOf s u := by
  obtain ⟨d, hdoes, hd, -⟩ := exists_deeds_updateAccountSteps hrow h
  exact ⟨d, hdoes, hd⟩

end Recipe

/-! ## The run of a change -/

namespace UpdateDeeds

variable {s : Settings} {u : AccountUpdate} {d : UpdateDeeds}

/-- The home is the one supplied, or else the one that was found. -/
theorem AreOf.homeAfter_eq (h : d.AreOf s u) :
    u.homeAfter s = (u.suppliedHome? s).getD (u.homeBefore s) := by
  unfold AccountUpdate.homeAfter AccountUpdate.homeBefore
  cases hcurrent : u.currentRow with
  | some row => cases u.suppliedHome? s <;> rfl
  | none =>
    obtain ⟨hrename, hhome⟩ := h.unknown hcurrent
    rw [hhome, u.newName_eq hrename]
    rfl

theorem AreOf.run_departures (h : d.AreOf s u) (host : Host) (hname : host.account = u.username) :
    host.run s d.departures = some host := by
  apply Host.run_of_forall_step
  intro x hx
  obtain ⟨group, rfl⟩ := h.departures x hx
  exact if_pos hname.symm

/-- The account is renamed, if the change is a renaming. -/
theorem AreOf.run_modification (h : d.AreOf s u) (group home : String) :
    Host.run s ⟨u.username, group, home⟩ d.modification = some ⟨u.newName, group, home⟩ := by
  rcases h.modification with ⟨hnil, hrename⟩ | halter
  · rw [hnil, u.newName_eq hrename]
    rfl
  · rw [halter]
    cases hrename : u.isRename with
    | true => simp [Host.run, Host.step]
    | false => simp [Host.run, Host.step, u.newName_eq hrename]

theorem AreOf.run_activation (h : d.AreOf s u) (group home : String) :
    Host.run s ⟨u.newName, group, home⟩ d.activation = some ⟨u.newName, group, home⟩ := by
  apply Host.run_of_forall_step
  intro x hx
  rw [h.activation x hx]
  simp [Host.step]

/-- The home is moved, if another one is supplied. -/
theorem AreOf.run_moves (h : d.AreOf s u) (account group : String) :
    Host.run s ⟨account, group, u.homeBefore s⟩ d.moves =
      some ⟨account, group, u.homeAfter s⟩ := by
  rw [h.moves, h.homeAfter_eq]
  cases u.suppliedHome? s with
  | none => rfl
  | some home =>
    by_cases hsame : home = u.homeBefore s
    · simp [Option.filter_some, hsame, Host.run]
    · simp [Option.filter_some, hsame, Host.run, Host.step]

/-- The group follows the account. -/
theorem AreOf.run_groupRenames (h : d.AreOf s u) (account home : String) :
    Host.run s ⟨account, u.username, home⟩ d.groupRenames = some ⟨account, u.newName, home⟩ := by
  rw [h.groupRenames]
  cases hrename : u.isRename with
  | true => simp [Host.run, Host.step]
  | false => simp [Host.run, u.newName_eq hrename]

theorem AreOf.run_keys (h : d.AreOf s u) (group : String) :
    Host.run s ⟨u.newName, group, u.homeAfter s⟩ d.keys =
      some ⟨u.newName, group, u.homeAfter s⟩ := by
  apply Host.run_of_forall_step
  intro x hx
  rcases h.keys x hx with rfl | rfl | rfl <;> simp [Host.step]

theorem AreOf.run_rule (h : d.AreOf s u) (group home : String) :
    Host.run s ⟨u.newName, group, home⟩ d.rule = some ⟨u.newName, group, home⟩ := by
  apply Host.run_of_forall_step
  intro x hx
  obtain ⟨path, hpath, rfl⟩ := h.rule x hx
  simp [Host.step, hpath, Except.toOption]

/-- The deeds find the account, its group and its home under the names that they use, and leave
them under the new ones. -/
theorem AreOf.run (h : d.AreOf s u) :
    Host.run s ⟨u.username, u.username, u.homeBefore s⟩ d.inOrder =
      some ⟨u.newName, u.newName, u.homeAfter s⟩ := by
  have hdepartures := h.run_departures ⟨u.username, u.username, u.homeBefore s⟩ rfl
  simp only [inOrder, Host.run_append, hdepartures, h.run_modification, h.run_activation,
    h.run_moves, h.run_groupRenames, h.run_keys, h.run_rule, Option.bind_some]

/-- Each group holds deeds of its own kind. -/
theorem AreOf.mem_cases (h : d.AreOf s u) {x : Deed} (hx : x ∈ d.inOrder) :
    (x ∈ d.departures ∧ ∃ group, x = .leave u.username group) ∨
    (∃ account newName, x = .alter account newName) ∨
    (x ∈ d.moves ∧ ∃ source target, x = .move source target) ∨
    (x ∈ d.groupRenames ∧ ∃ group newName, x = .renameGroup group newName) ∨
    (x ∈ d.keys ∧ x.IsOnKeys u.newName (u.homeAfter s)) ∨ x.IsOnRule s u.newName := by
  simp only [inOrder, List.mem_append] at hx
  rcases hx with (((hx | hx) | hx) | (hx | hx)) | (hx | hx)
  · exact .inl ⟨hx, h.departures x hx⟩
  · rcases h.modification with ⟨hnil, -⟩ | halter
    · rw [hnil] at hx
      cases hx
    · rw [halter] at hx
      exact .inr (.inl ⟨_, _, List.mem_singleton.mp hx⟩)
  · exact .inr (.inl ⟨_, _, h.activation x hx⟩)
  · have hmove := hx
    rw [h.moves] at hmove
    obtain ⟨target, -, rfl⟩ := List.mem_map.mp hmove
    exact .inr (.inr (.inl ⟨hx, _, _, rfl⟩))
  · have hrename := hx
    rw [h.groupRenames] at hrename
    split at hrename
    · exact .inr (.inr (.inr (.inl ⟨hx, _, _, List.mem_singleton.mp hrename⟩)))
    · cases hrename
  · exact .inr (.inr (.inr (.inr (.inl ⟨hx, h.keys x hx⟩))))
  · exact .inr (.inr (.inr (.inr (.inr (h.rule x hx)))))

/-- Nothing outside of the two groups moves a directory or renames a group. -/
theorem AreOf.mem_inOrder_iff (h : d.AreOf s u) {x : Deed} (hx : x.isFollowUp = true) :
    x ∈ d.inOrder ↔ x ∈ d.moves ∨ x ∈ d.groupRenames := by
  constructor
  · intro hmem
    rcases h.mem_cases hmem with ⟨-, _, rfl⟩ | ⟨_, _, rfl⟩ | ⟨hmoves, -⟩ | ⟨hrenames, -⟩ |
      ⟨-, rfl | rfl | rfl⟩ | ⟨_, -, rfl⟩
    case inr.inr.inl => exact .inl hmoves
    case inr.inr.inr.inl => exact .inr hrenames
    all_goals cases hx
  · intro hmem
    have hfollowUp : x ∈ d.moves ++ d.groupRenames := List.mem_append.mpr hmem
    exact List.mem_append_left _ (List.mem_append_right _ hfollowUp)

theorem AreOf.move_mem_iff (h : d.AreOf s u) {source target : String} :
    .move source target ∈ d.inOrder ↔ u.suppliedHome? s = some target ∧
      target ≠ u.homeBefore s ∧ source = u.homeBefore s := by
  rw [h.mem_inOrder_iff rfl, h.moves, h.groupRenames]
  constructor
  · rintro (hmem | hmem)
    · obtain ⟨home, hhome, hmove⟩ := List.mem_map.mp hmem
      obtain ⟨hsupplied, hne⟩ := Option.filter_eq_some_iff.mp (Option.mem_toList.mp hhome)
      obtain ⟨rfl, rfl⟩ := Deed.move.inj hmove
      exact ⟨hsupplied, of_decide_eq_true hne, rfl⟩
    · split at hmem <;> simp at hmem
  · rintro ⟨hsupplied, hne, rfl⟩
    refine Or.inl (List.mem_map.mpr ⟨target, Option.mem_toList.mpr ?_, rfl⟩)
    rw [hsupplied, Option.filter_some, if_pos (decide_eq_true hne)]

theorem AreOf.renameGroup_mem_iff (h : d.AreOf s u) {group newName : String} :
    .renameGroup group newName ∈ d.inOrder ↔
      u.isRename = true ∧ group = u.username ∧ newName = u.newName := by
  rw [h.mem_inOrder_iff rfl, h.moves, h.groupRenames]
  cases u.isRename <;> simp

end UpdateDeeds

/-- A composed change names things as they are at that moment. Its text is read as deeds in seven
groups; done in that order, each finds the account, its group and its home under the name that it
uses. The home is moved exactly if another one than that of the row is supplied, and a group is
renamed exactly if the account is. -/
theorem updateAccount_in_order (s : Settings) (u : AccountUpdate) (c : RemoteCommand)
    (hrow : ∀ row, u.currentRow = some row → row.username = u.username)
    (h : Recipe.updateAccount? s u = .ok (some c)) :
    ∃ d : UpdateDeeds, deeds? c.text = some d.inOrder ∧ d.AreOf s u ∧
      Host.run s ⟨u.username, u.username, u.homeBefore s⟩ d.inOrder =
        some ⟨u.newName, u.newName, u.homeAfter s⟩ ∧
      (∀ source target, .move source target ∈ d.inOrder ↔ u.mode = .replace ∧
        ∃ row, u.currentRow = some row ∧
          u.attributes.text? s.fieldNames.homeDirectory = some target ∧
          target ≠ row.homeDirectory ∧ source = row.homeDirectory) ∧
      ∀ group newName, .renameGroup group newName ∈ d.inOrder ↔
        u.isRename = true ∧ group = u.username ∧ newName = u.newName := by
  obtain ⟨p, hp, hc⟩ := exists_of_map_eq_ok h
  obtain ⟨d, hdoes, hd⟩ := Recipe.does_updateAccountSteps hrow hp
  have htext := hdoes.deeds?_command (Recipe.isMade_updateAccountSteps hp) s.elevationPolicy
  rw [Plan.command_of_command?_eq_some hc] at htext
  refine ⟨d, htext, hd, hd.run, fun source target => ?_, fun _ _ => hd.renameGroup_mem_iff⟩
  rw [hd.move_mem_iff, AccountUpdate.suppliedHome?_eq_some_iff, and_assoc]
  cases hcurrent : u.currentRow with
  | none =>
    have hnone := (hd.unknown hcurrent).2
    constructor
    · rintro ⟨hmode, htarget, -⟩
      rw [AccountUpdate.suppliedHome?_eq_some_iff.mpr ⟨hmode, htarget⟩] at hnone
      cases hnone
    · rintro ⟨-, row, hrow', -⟩
      cases hrow'
  | some row => simp [AccountUpdate.homeBefore_of_eq_some s hcurrent]

/-- A renaming that also moves the home, writes a key and locks the account. -/
def sampleUpdate : AccountUpdate where
  username := "svc1"
  attributes := .ofList [⟨"__NAME__", [.text "svc2"]⟩, ⟨"homeDirectory", [.text "/srv/svc2"]⟩,
    ⟨"sshPublicKey", [.text "ssh-ed25519 AAAA"]⟩, ⟨"__LOCK_OUT__", [.flag true]⟩]
  mode := .replace
  currentGroups := ["ops"]
  currentRow := some ⟨"svc1", 1001, 1001, "", "/home/svc1", "/bin/sh"⟩

theorem updateAccount_in_order_sample :
    ∃ c, Recipe.updateAccount? {} sampleUpdate = .ok (some c) ∧
      ∃ ds, deeds? c.text = some ds ∧ .move "/home/svc1" "/srv/svc2" ∈ ds ∧
        .renameGroup "svc1" "svc2" ∈ ds ∧
        Host.run {} ⟨"svc1", "svc1", "/home/svc1"⟩ ds = some ⟨"svc2", "svc2", "/srv/svc2"⟩ := by
  obtain ⟨c, hc⟩ : ∃ c, Recipe.updateAccount? {} sampleUpdate = .ok (some c) := ⟨_, rfl⟩
  have hrow : ∀ row, sampleUpdate.currentRow = some row → row.username = sampleUpdate.username := by
    intro row hrow
    rw [← Option.some.inj hrow]
    rfl
  obtain ⟨d, hd, -, hrun, hmove, hgroup⟩ := updateAccount_in_order {} sampleUpdate c hrow hc
  refine ⟨c, hc, d.inOrder, hd, ?_, ?_, hrun⟩
  · exact (hmove _ _).mpr ⟨rfl, _, rfl, rfl, by decide, rfl⟩
  · exact (hgroup _ _).mpr ⟨rfl, rfl, rfl⟩

end HostAccounts
