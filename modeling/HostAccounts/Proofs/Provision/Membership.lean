import HostAccounts.Proofs.Host.Membership
import HostAccounts.Proofs.Principal
import HostAccounts.Proofs.Provision.Checks
import HostAccounts.Proofs.Provision.Lookahead

/-!
# Memberships to keep

Where the groups are supplied among the values to be taken away, they are those that the account is
to keep. It is taken out of the others that list it. Which those are is read from what the host
answers, so the answer must hold the row of every group that lists the account, but need not hold
any other. Main statement: `removal_keeps_memberships`.
-/

set_option autoImplicit false

namespace HostAccounts

open Database (GroupRow)
open Diagnostics (Operation)

/-! ## Attributes that name groups only -/

namespace AttributeSet

variable {keep : List String}

/-- The groups to keep, and nothing else. -/
def keepOnly (keep : List String) : AttributeSet :=
  .ofList [⟨AttributeName.groups, keep.map .text⟩]

theorem isSilentOn_keepOnly (keep : List String) (name : String)
    (h : Text.sameIgnoringCase AttributeName.groups name = false) :
    (keepOnly keep).IsSilentOn name :=
  isSilentOn_of_entry? (entry?_insert_of_ne empty _ h)

theorem find?_keepOnly (hkeep : keep ≠ []) :
    (keepOnly keep).find? AttributeName.groups = some ⟨AttributeName.groups, keep.map .text⟩ := by
  have hentry : entry? (keepOnly keep) AttributeName.groups =
      some ⟨AttributeName.groups, keep.map .text⟩ := entry?_insert_self empty _ _
  simp [find?, hentry, hkeep]

theorem isPresent_keepOnly (hkeep : keep ≠ []) :
    (keepOnly keep).isPresent AttributeName.groups = true := by
  rw [isPresent, find?_keepOnly hkeep]
  rfl

theorem texts_keepOnly (hkeep : keep ≠ []) (h : ∀ g ∈ keep, Text.isBlankText g = false) :
    (keepOnly keep).texts AttributeName.groups = keep := by
  have htexts : (keep.map Value.text).filterMap Value.text? = keep := by
    rw [List.filterMap_map]
    exact List.filterMap_some
  simp only [texts, find?_keepOnly hkeep, htexts]
  exact List.filter_eq_self.mpr fun g hg => by simp [h g hg]

end AttributeSet

/-! ## The script -/

namespace Recipe

open AttributeSet (isSilentOn_keepOnly keepOnly)

variable {s : Settings} {user : String} {keep current : List String}

/-- The change that takes an account out of the groups that are not to be kept. -/
def keeping (user : String) (keep current : List String) : AccountUpdate :=
  ⟨user, keepOnly keep, .removeValues, current, none⟩

theorem newName_keeping (user : String) (keep current : List String) :
    (keeping user keep current).newName = user := by
  have hname : (keepOnly keep).name? = none :=
    (isSilentOn_keepOnly keep AttributeName.name rfl).text
  exact congrArg (fun n => n.getD user) hname

theorem activationSteps_keepOnly (s : Settings) (user : String) (keep : List String) :
    activationSteps s user (keepOnly keep) = .ok [] := by
  have henable := (isSilentOn_keepOnly keep AttributeName.enable rfl).flag
  have hdate := (isSilentOn_keepOnly keep AttributeName.disableDate rfl).isPresent
  have hlock := (isSilentOn_keepOnly keep AttributeName.lockOut rfl).flag
  simp [activationSteps, expirySteps, lockSteps, henable, hdate, hlock]

theorem modifySteps_keeping (s : Settings) (user : String) (keep current : List String) :
    modifySteps s (keeping user keep current) = [] := by
  have hnone : Primitive.usermod? user {} (some user) false = none := by
    simp [Primitive.usermod?, Primitive.AccountFields.flags]
  rw [modifySteps, newName_keeping]
  exact congrArg (fun p => p.toList.map Intent.run) hnone

theorem followUpSteps_keeping (s : Settings) (user : String) (keep current : List String) :
    followUpSteps s (keeping user keep current) = .ok [] := by
  have hrename : (keeping user keep current).isRename = false := by
    rw [AccountUpdate.isRename, newName_keeping]
    simp [keeping]
  unfold followUpSteps
  rw [hrename]
  rfl

theorem grantOrRevokeSteps_keeping (s : Settings) (user : String) (keep current : List String) :
    grantOrRevokeSteps s (keeping user keep current) = .ok [] := by
  have hkeys := (isSilentOn_keepOnly keep AttributeName.publicKey rfl).contains
  have hrule := (isSilentOn_keepOnly keep AttributeName.permissions rfl).contains
  simp [grantOrRevokeSteps, keeping, keysWithdrawn, revokeSupplied, hkeys, hrule]

/-- Nothing is done but to leave groups. -/
theorem updateAccountSteps_keeping (s : Settings) (user : String) (keep current : List String) :
    updateAccountSteps s (keeping user keep current) =
      .ok (leaveGroupSteps (keeping user keep current)) := by
  have hactivation : activationSteps s (keeping user keep current).newName
      (keeping user keep current).attributes = .ok [] := by
    rw [newName_keeping]
    exact activationSteps_keepOnly s user keep
  unfold updateAccountSteps
  rw [hactivation, followUpSteps_keeping, grantOrRevokeSteps_keeping, modifySteps_keeping]
  simp [bind, Except.bind, pure, Except.pure]

theorem leaving_keeping (user : String) (hkeep : keep ≠ [])
    (hnames : ∀ g ∈ keep, Text.isBlankText g = false) (current : List String) :
    (keeping user keep current).leaving = current.filter fun g => !keep.contains g := by
  have hpresent := AttributeSet.isPresent_keepOnly hkeep
  have htexts := AttributeSet.texts_keepOnly hkeep hnames
  simp [AccountUpdate.leaving, keeping, hpresent, htexts]

/-- There is a script exactly if there is a group to leave, and it leaves those groups. -/
theorem exists_script_keeping (s : Settings) (user : String) (keep current : List String) :
    ∃ script, updateAccount? s (keeping user keep current) = .ok script ∧
      (script = none ↔ (keeping user keep current).leaving = []) ∧
      ∀ command, script = some command →
        deeds? command.text = some ((keeping user keep current).leaving.map (Deed.leave user)) := by
  refine ⟨Plan.command? s.elevationPolicy (leaveGroupSteps (keeping user keep current)), ?_, ?_, ?_⟩
  · rw [updateAccount?, updateAccountSteps_keeping]
    rfl
  · rw [leaveGroupSteps_eq]
    cases hleaving : (keeping user keep current).leaving with
    | nil => exact iff_of_true rfl rfl
    | cons g rest =>
      rw [List.map_cons, Plan.command?_of_ne_nil (List.cons_ne_nil _ _)]
      exact iff_of_false nofun (List.cons_ne_nil _ _)
  · intro command hcommand
    have htext := (does_leaveGroupSteps (keeping user keep current)).deeds?_command
      (accompanying_leaveGroupSteps _).isMade s.elevationPolicy
    rwa [Plan.command_of_command?_eq_some hcommand] at htext

end Recipe

/-! ## The run -/

namespace Provision

open AttributeSet (isSilentOn_keepOnly keepOnly)
open Recipe (keeping)

variable {s : Settings} {user : String} {keep : List String} {σ : Type}

/-- In want of a password the script is all that is sent. -/
theorem errands_carryOut {u : AccountUpdate}
    (h : passwordCommand? s u.newName u.attributes u.mode = none) (script : Option RemoteCommand)
    (peer : Dialogue.Peer σ) (start : σ) :
    ((carryOut s u script).exchanges peer start).map Exchange.errand =
      Errand.optional script .usermod := by
  have hpart := (sends_carryOut s u script peer start).1
  rw [h, show Errand.optional none Operation.passwd = [] from rfl, List.append_nil] at hpart
  cases script with
  | none => exact List.prefix_nil.mp hpart
  | some command =>
    -- What is sent is a part of the one errand, so it is the errand if it is anything.
    have hsent : (carryOut s u (some command)).exchanges peer start ≠ [] := by
      obtain ⟨answer, hexchanges, -⟩ := Session.exists_answer_discard peer s.diagnostics command
        .usermod "Could not modify user" u.username
        (peer (.tell (.updating "account" u.username)) start).2
      unfold carryOut
      rw [Option.isSome_some, if_pos rfl, Procedure.exchanges_bind, Procedure.exchanges_tell,
        Procedure.run_tell]
      simp only [Session.runOptional, Procedure.exchanges_bind, hexchanges]
      simp
    exact hpart.eq_of_length_le (List.length_pos_iff.mpr (by simpa using hsent))

theorem needsRow_keepOnly (s : Settings) (user : String) (keep : List String) :
    needsRow s user (keepOnly keep) .removeValues = false := by
  have hname : (keepOnly keep).name? = none :=
    (isSilentOn_keepOnly keep AttributeName.name rfl).text
  have hkeys := (isSilentOn_keepOnly keep AttributeName.publicKey rfl).contains
  simp [needsRow, hname, hkeys]

/-- Of the account only its groups are looked up. -/
theorem readAhead_keepOnly (s : Settings) (user : String) (hkeep : keep ≠ []) :
    readAhead s user (keepOnly keep) .removeValues = (do
      let current ← fetchGroups s user
      return keeping user keep current) := by
  have hneeded : needsGroups (keepOnly keep) .removeValues = true := by
    simp [needsGroups, AttributeSet.isPresent_keepOnly hkeep]
  unfold readAhead readRow readGroups
  simp only [needsRow_keepOnly, hneeded, if_true, Bool.false_eq_true, if_false, pure_bind]
  rfl

theorem checkAttributes_keepOnly
    (hhome : Text.sameIgnoringCase AttributeName.groups s.fieldNames.homeDirectory = false)
    (hshell : Text.sameIgnoringCase AttributeName.groups s.fieldNames.shell = false)
    (hkeep : keep ≠ []) (hnames : ∀ g ∈ keep, checkName AttributeName.groups g = .ok ()) :
    checkAttributes .account s.fieldNames (keepOnly keep) = .ok () := by
  have hname := (isSilentOn_keepOnly keep AttributeName.name rfl).text
  have hhome' := (isSilentOn_keepOnly keep _ hhome).text
  have hshell' := (isSilentOn_keepOnly keep _ hshell).text
  have htexts := AttributeSet.texts_keepOnly hkeep fun g hg =>
    isBlankText_of_checkName (hnames g hg)
  refine checkAttributes_account_eq_ok_iff.mpr ⟨fun _ h => ?_, fun _ h => ?_, fun _ h => ?_, ?_⟩
  · exact nomatch hname.symm.trans h
  · exact nomatch hhome'.symm.trans h
  · exact nomatch hshell'.symm.trans h
  · rwa [htexts]

/-- The groups are looked up, and then the script is sent that follows from what was answered. -/
theorem exchanges_keepOnly
    (hhome : Text.sameIgnoringCase AttributeName.groups s.fieldNames.homeDirectory = false)
    (hshell : Text.sameIgnoringCase AttributeName.groups s.fieldNames.shell = false)
    (huser : checkName AttributeName.uid user = .ok ()) (hkeep : keep ≠ [])
    (hnames : ∀ g ∈ keep, checkName AttributeName.groups g = .ok ()) (peer : Dialogue.Peer σ)
    (start : σ) :
    ∃ answer back, (update s .account user (keepOnly keep) .removeValues).exchanges peer start =
        ⟨Recipe.readMemberships user, .read, answer⟩ :: back ∧
      ∀ output, answer = .ok output → s.diagnostics.classify .read output = .success →
        ∀ script, Recipe.updateAccount? s
            (keeping user keep (GroupRow.groupsOf (GroupRow.dump output).rows user)) = .ok script →
          back.map Exchange.errand = Errand.optional script .usermod := by
  have hupdate : update s .account user (keepOnly keep) .removeValues =
      (fetchGroups s user >>= fun current =>
        Procedure.ofExcept id (Recipe.updateAccount? s (keeping user keep current)) >>=
          carryOut s (keeping user keep current)) := by
    refine (updateAccount_of_checked (requireUid_eq_ok_iff.mpr ⟨rfl, huser⟩)
      (checkAttributes_keepOnly hhome hshell hkeep hnames)).trans ?_
    rw [readAhead_keepOnly s user hkeep, bind_assoc]
    simp only [pure_bind]
  have hyields := yields_fetchGroups s user peer start
  rw [hupdate]
  rcases Procedure.cases_run_bind peer (fetchGroups s user) (fun current =>
      Procedure.ofExcept id (Recipe.updateAccount? s (keeping user keep current)) >>=
        carryOut s (keeping user keep current)) start with
    ⟨fault, hfault, -, hexchanges⟩ | ⟨current, hcurrent, -, hexchanges⟩
  · rw [hfault] at hyields
    obtain ⟨answer, hanswer, hfailed⟩ := hyields
    refine ⟨answer, [], hexchanges.trans hanswer, fun output houtput hsuccess => ?_⟩
    exact absurd ⟨output, houtput, hsuccess⟩ hfailed
  · rw [hcurrent] at hyields
    obtain ⟨-, output, houtput, rfl⟩ := hyields
    rw [houtput] at hexchanges
    refine ⟨.ok output, _, hexchanges, fun output' houtput' _ script hscript => ?_⟩
    obtain rfl := Except.ok.inj houtput'
    rw [hscript]
    have hpassword : passwordCommand? s (keeping user keep (GroupRow.groupsOf
        (GroupRow.dump output).rows user)).newName (keepOnly keep) .removeValues = none := by
      simp [passwordCommand?, (isSilentOn_keepOnly keep AttributeName.password rfl).contains]
    exact errands_carryOut hpassword script peer _

/-! ## The effect -/

/-- A script takes the account out of groups that list it, and of no others. The account then is in
those of its groups that it is to keep, and all other accounts are in theirs. There is no script if
there is nothing to leave. -/
structure IsWithdrawal (db : List GroupRow) (user : String) (keep : List String)
    (script : Option RemoteCommand) (ds : List Deed) (after : List GroupRow) : Prop where
  unsent : script = none ↔ ds = []
  read : ∀ command, script = some command → deeds? command.text = some ds
  listed : ∀ d ∈ ds, ∃ g ∈ GroupRow.groupsOf db user, d = .leave user g
  done : GroupRow.run? db ds = some after
  kept : GroupRow.groupsOf after user = (GroupRow.groupsOf db user).filter keep.contains
  others : ∀ other, other ≠ user → GroupRow.groupsOf after other = GroupRow.groupsOf db other

/-- To leave the groups that are not to be kept is such a withdrawal. -/
theorem isWithdrawal_leaving {db : List GroupRow} (hdistinct : (db.map GroupRow.groupname).Nodup)
    {script : Option RemoteCommand} {leaving : List String}
    (hleaving : leaving = (GroupRow.groupsOf db user).filter fun g => !keep.contains g)
    (hunsent : script = none ↔ leaving = [])
    (hread : ∀ command, script = some command →
      deeds? command.text = some (leaving.map (Deed.leave user))) :
    IsWithdrawal db user keep script (leaving.map (Deed.leave user))
      (GroupRow.withdraw db user leaving) := by
  have hlisted : ∀ g ∈ leaving, g ∈ GroupRow.groupsOf db user := by
    rw [hleaving]
    exact fun g hg => (List.mem_filter.mp hg).1
  have hnodup : leaving.Nodup := by
    rw [hleaving]
    exact (GroupRow.nodup_groupsOf hdistinct user).filter _
  refine ⟨by rw [List.map_eq_nil_iff, hunsent], hread, fun d hd => ?_,
    GroupRow.run?_leave hnodup hlisted, ?_, fun other hother =>
      GroupRow.groupsOf_withdraw_of_ne hother db leaving⟩
  · obtain ⟨g, hg, rfl⟩ := List.mem_map.mp hd
    exact ⟨g, hlisted g hg, rfl⟩
  · rw [GroupRow.groupsOf_withdraw_self]
    refine List.filter_congr fun g hg => ?_
    simp [hleaving, hg]

/-- Where the groups to keep are supplied and nothing else, the groups of the account are looked up.
From an answer that holds the row of every group that lists it, a script follows that takes it out
of the groups that are not to be kept, and of no others. -/
theorem removal_keeps_memberships (s : Settings)
    (hhome : Text.sameIgnoringCase AttributeName.groups s.fieldNames.homeDirectory = false)
    (hshell : Text.sameIgnoringCase AttributeName.groups s.fieldNames.shell = false)
    (huser : checkName AttributeName.uid user = .ok ()) (hkeep : keep ≠ [])
    (hnames : ∀ g ∈ keep, checkName AttributeName.groups g = .ok ()) {db : List GroupRow}
    (hrows : ∀ r ∈ db, r.IsWritable) (hdistinct : (db.map GroupRow.groupname).Nodup)
    (peer : Dialogue.Peer σ) (start : σ) :
    ∃ answer back, (update s .account user (keepOnly keep) .removeValues).exchanges peer start =
        ⟨Recipe.readMemberships user, .read, answer⟩ :: back ∧
      ∀ output listed, answer = .ok output → s.diagnostics.classify .read output = .success →
        List.Forall₂ GroupRow.IsLineOf listed (Text.lines output) → listed.Sublist db →
        (∀ r ∈ db, r.hasMember user = true → r ∈ listed) →
          ∃ script ds after, back.map Exchange.errand = Errand.optional script .usermod ∧
            IsWithdrawal db user keep script ds after := by
  obtain ⟨answer, back, hexchanges, hback⟩ :=
    exchanges_keepOnly hhome hshell huser hkeep hnames peer start
  refine ⟨answer, back, hexchanges, fun output listed hanswer hsuccess hlines hpart hall => ?_⟩
  -- The rows that were answered are not the database, but list the account as it does.
  have hdump : GroupRow.dump output = ⟨listed, []⟩ :=
    GroupRow.dump_of_forall₂ (fun r hr => hrows r (hpart.subset hr)) hlines
  have hcurrent : GroupRow.groupsOf (GroupRow.dump output).rows user =
      GroupRow.groupsOf db user := by
    rw [hdump]
    exact GroupRow.groupsOf_of_sublist hdistinct hpart hall
  have hsent := hback output hanswer hsuccess
  rw [hcurrent] at hsent
  obtain ⟨script, hscript, hunsent, hread⟩ :=
    Recipe.exists_script_keeping s user keep (GroupRow.groupsOf db user)
  have hleaving := Recipe.leaving_keeping user hkeep
    (fun g hg => isBlankText_of_checkName (hnames g hg)) (GroupRow.groupsOf db user)
  exact ⟨script, _, _, hsent script hscript, isWithdrawal_leaving hdistinct hleaving hunsent hread⟩

/-- Groups with the account `svc1`, and one with an account of a similar name. -/
def sampleGroups : List GroupRow :=
  [⟨"ops", 10, ["svc1", "bob"]⟩, ⟨"wheel", 11, ["svc1"]⟩, ⟨"svc1-team", 12, ["svc10"]⟩,
    ⟨"staff", 13, ["bob"]⟩]

/-- What is found of the groups by the name of the account. -/
def sampleOutput : String :=
  "ops:x:10:svc1,bob\nwheel:!:11:svc1\nsvc1-team:x:12:svc10\n"

/-- A host that answers with it. -/
def groupHost : Rehearsal where
  script := { replies := [("getent group", sampleOutput)] }

/-- The account keeps one of its two groups, and the other accounts keep theirs. -/
theorem removal_keeps_memberships_svc1 :
    ∃ back script ds after, (update lenientSettings .account "svc1" (keepOnly ["ops", "users"])
        .removeValues).exchanges Rehearsal.peer groupHost =
          ⟨Recipe.readMemberships "svc1", .read, .ok sampleOutput⟩ :: back ∧
      back.map Exchange.errand = Errand.optional script .usermod ∧
      IsWithdrawal sampleGroups "svc1" ["ops", "users"] script ds after ∧
      GroupRow.groupsOf after "svc1" = ["ops"] := by
  have huser : checkName AttributeName.uid "svc1" = .ok () := rfl
  have hnames : ∀ g ∈ ["ops", "users"], checkName AttributeName.groups g = .ok () := by
    decide +kernel
  have hrows : ∀ r ∈ sampleGroups, r.IsWritable := by decide +kernel
  obtain ⟨answer, back, hexchanges, hback⟩ := removal_keeps_memberships lenientSettings rfl rfl
    huser (List.cons_ne_nil _ _) hnames hrows (by decide +kernel) Rehearsal.peer groupHost
  have hfirst : ((update lenientSettings .account "svc1" (keepOnly ["ops", "users"])
      .removeValues).exchanges Rehearsal.peer groupHost).head?.map Exchange.answer =
        some (.ok sampleOutput) := rfl
  rw [hexchanges] at hfirst
  obtain rfl : answer = .ok sampleOutput := Option.some.inj hfirst
  have hlines : List.Forall₂ GroupRow.IsLineOf (sampleGroups.take 3) (Text.lines sampleOutput) :=
    .cons ⟨"x", by decide +kernel⟩ (.cons ⟨"!", by decide +kernel⟩
      (.cons ⟨"x", by decide +kernel⟩ .nil))
  obtain ⟨script, ds, after, hsent, hwithdrawal⟩ := hback sampleOutput _ rfl (by decide +kernel)
    hlines (List.take_sublist 3 sampleGroups) (by decide +kernel)
  exact ⟨back, script, ds, after, hexchanges, hsent, hwithdrawal,
    hwithdrawal.kept.trans (by decide +kernel)⟩

end Provision

end HostAccounts
