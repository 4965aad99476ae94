import HostAccounts.Proofs.Provision.Renaming
import HostAccounts.Proofs.Recipe.Changes

/-!
# Rules without an account

The rule that gives an account root rights is a file of its own, which goes by the name of the
account. It is written when the account is created or changed and removed with the account, each
time under the name that the account has then. So no rule is left without its account as long as
no account is renamed that has one; where that happens, the rule stays behind under the old name.
Main statement: `noOrphans_iff`.
-/

set_option autoImplicit false

namespace HostAccounts

open Diagnostics (Operation)

/-! ## Changes of what is sent -/

/-- The changes of all that is sent. -/
def changesOf (errands : List Errand) : List Change :=
  errands.flatMap fun e => changes e.1.text

theorem changesOf_append (front back : List Errand) :
    changesOf (front ++ back) = changesOf front ++ changesOf back :=
  List.flatMap_append

theorem changesOf_cons (e : Errand) (rest : List Errand) :
    changesOf (e :: rest) = changes e.1.text ++ changesOf rest :=
  List.flatMap_cons

theorem changesOf_eq_nil {errands : List Errand} (h : ∀ e ∈ errands, changes e.1.text = []) :
    changesOf errands = [] :=
  List.flatMap_eq_nil_iff.mpr h

theorem changesOf_optional_eq_nil {command : Option RemoteCommand} (operation : Operation)
    (h : ∀ c, command = some c → changes c.text = []) :
    changesOf (Errand.optional command operation) = [] := by
  refine changesOf_eq_nil fun e he => ?_
  obtain ⟨c, hc, rfl⟩ := List.mem_map.mp he
  exact h c (Option.mem_toList.mp hc)

/-- An empty plan is not sent, and changes nothing. -/
theorem Plan.Makes.changesOf_command? {p : Plan} {cs : List Change} (h : p.Makes cs)
    (hmade : p.IsMade) (e : Elevation) (operation : Operation) :
    changesOf (Errand.optional (p.command? e) operation) = cs := by
  by_cases hp : p = []
  · subst hp
    exact h [] (.inl rfl)
  · rw [command?_of_ne_nil hp]
    exact (List.append_nil _).trans (h.changes_command hmade e)

namespace Provision

variable {s : Settings}

theorem changesOf_password (s : Settings) (user : String) (attributes : AttributeSet)
    (mode : UpdateMode) :
    changesOf (Errand.optional (passwordCommand? s user attributes mode) .passwd) = [] := by
  refine changesOf_optional_eq_nil _ fun c hc => ?_
  unfold passwordCommand? at hc
  split at hc
  · obtain ⟨password, -, rfl⟩ := Option.map_eq_some_iff.mp hc
    exact Recipe.changes_setPassword s user password
  · split at hc
    · obtain rfl := Option.some.inj hc
      exact Recipe.changes_resetPassword s user
    · cases hc

/-- What a change of an account looks up leaves everything as it is. -/
theorem changesOf_lookupsAhead {uid : String} {attributes : AttributeSet} {mode : UpdateMode}
    {errands : List Errand}
    (h : errands <+: (lookupsAhead s uid attributes mode).map Errand.lookup) :
    changesOf errands = [] := by
  refine changesOf_eq_nil fun e he => ?_
  obtain ⟨command, hcommand, rfl⟩ := List.mem_map.mp (h.subset he)
  rcases List.mem_append.mp hcommand with hrow | hgroups
  · split at hrow
    · obtain rfl := List.mem_singleton.mp hrow
      exact Recipe.changes_findAccount uid
    · cases hrow
  · split at hgroups
    · obtain rfl := List.mem_singleton.mp hgroups
      exact Recipe.changes_readMemberships uid
    · cases hgroups

/-- What is composed for a creation adds the account and writes files of it. -/
theorem changesOf_creation {attributes : AttributeSet} {c : AccountCreation}
    (h : composeAccount s attributes = .ok c) :
    ∃ cs, changesOf ((c.create, .useradd) ::
        (Errand.optional c.password .passwd ++ Errand.optional c.activation .usermod)) =
          .add c.username :: cs ∧
      ∀ change ∈ cs, change.IsOnFile (IsFileOf s c.username) := by
  obtain ⟨username, -, h⟩ := exists_of_bind_eq_ok h
  obtain ⟨_, -, h⟩ := exists_of_bind_eq_ok h
  obtain ⟨create, hcreate, h⟩ := exists_of_bind_eq_ok h
  obtain ⟨activation, hactivation, h⟩ := exists_of_bind_eq_ok h
  obtain rfl := Except.ok.inj h
  obtain ⟨cs, hcs, hfiles⟩ := Recipe.changes_createAccount hcreate
  have hpassword : changesOf (Errand.optional
      (((attributes.secret? AttributeName.password).filter fun p => !p.isEmpty).map
        (Recipe.setPassword s username)) .passwd) = [] :=
    changesOf_password s username attributes .replace
  have hstatus : changesOf (Errand.optional activation .usermod) = [] :=
    changesOf_optional_eq_nil _ fun c hc => Recipe.changes_activation? (hc ▸ hactivation)
  refine ⟨cs, ?_, hfiles⟩
  rw [changesOf_cons, changesOf_append, hpassword, hstatus, hcs, List.append_nil, List.append_nil]

/-! ## Changes of operations -/

/-- A creation is turned down, or adds the account and writes files of it. -/
theorem goes_createAccount_changes (s : Settings) (attributes : AttributeSet) :
    (createAccount s attributes).Goes s.diagnostics fun errands _ =>
      changesOf errands = [] ∨
      ∃ name cs, changesOf errands = .add name :: cs ∧ ∀ c ∈ cs, c.IsOnFile (IsFileOf s name) := by
  intro σ peer start hall
  rcases goes_createAccount s attributes peer start hall with ⟨-, -, hsent⟩ | ⟨c, hc, -, hsent⟩
  · rw [hsent]
    exact .inl rfl
  · obtain ⟨cs, hcs, hfiles⟩ := changesOf_creation hc
    rw [hsent]
    exact .inr ⟨c.username, cs, hcs, hfiles⟩

/-- A removal fails and changes nothing, or it removes the account together with its rule. -/
theorem goes_deleteAccount_changes (s : Settings) (uid : String) :
    (delete s .account uid).Goes s.diagnostics fun errands result =>
      (∃ fault, result = .error fault) ∧ changesOf errands = [] ∨
      result = .ok () ∧ changesOf errands = [.remove uid, .erase (dropIn s uid)] := by
  intro σ peer start hall
  have hlookup := Recipe.changes_findAccount uid
  rcases goes_deleteAccount s uid peer start hall with
    ⟨fault, hfault, hlookups⟩ | ⟨command, hcommand, hok, hsent⟩
  · refine .inl ⟨⟨fault, hfault⟩, changesOf_eq_nil fun e he => ?_⟩
    rw [List.mem_singleton.mp (hlookups.subset he)]
    exact hlookup
  · refine .inr ⟨hok, ?_⟩
    rw [hsent, changesOf_cons, changesOf_cons, Recipe.changes_deleteAccount hcommand]
    exact congrArg (· ++ _) hlookup

/-- A change fails and changes nothing, or it renames the account, if it gets a new name, and
touches files of the name that it returns. -/
theorem goes_updateAccount_changes (s : Settings) (uid : String) (attributes : AttributeSet)
    (mode : UpdateMode) :
    (updateAccount s uid attributes mode).Goes s.diagnostics fun errands result =>
      (∃ fault, result = .error fault) ∧ changesOf errands = [] ∨
      ∃ name cs, result = .ok name ∧
        changesOf errands = (if name = uid then [] else [.rename uid name]) ++ cs ∧
        ∀ c ∈ cs, c.IsOnFile (IsFileOf s name) := by
  intro σ peer start hall
  rcases goes_updateAccount s uid attributes mode peer start hall with
    ⟨fault, hfault, hlookups⟩ | ⟨u, script, ⟨rfl, -, -⟩, -, hscript, hok, hsent⟩
  · exact .inl ⟨⟨fault, hfault⟩, changesOf_lookupsAhead hlookups⟩
  · obtain ⟨p, hp, rfl⟩ := exists_of_map_eq_ok hscript
    obtain ⟨cs, hcs, hfiles⟩ := Recipe.makes_updateAccountSteps hp
    refine .inr ⟨u.newName, cs, hok, ?_, hfiles⟩
    rw [hsent, changesOf_append, changesOf_append, changesOf_lookupsAhead List.prefix_rfl,
      changesOf_password, hcs.changesOf_command? (Recipe.isMade_updateAccountSteps hp)]
    simp [AccountUpdate.isRename]

end Provision

/-! ## Orphans -/

namespace Registry

variable {s : Settings} {r : Registry} {name : String}

/-- Every rule is that of an account that is there. -/
def NoOrphans (s : Settings) (r : Registry) : Prop :=
  ∀ name, dropIn s name ∈ r.files → name ∈ r.accounts

/-- Files of an account that is there may come and go. -/
theorem noOrphans_after_iff {cs : List Change} (hname : name ∈ r.accounts)
    (h : ∀ c ∈ cs, c.IsOnFile (IsFileOf s name)) : (r.after cs).NoOrphans s ↔ r.NoOrphans s := by
  obtain ⟨haccounts, hfiles⟩ := after_of_isOnFile h r
  unfold NoOrphans
  rw [haccounts]
  refine forall_congr' fun other => ?_
  by_cases hother : other = name
  · subst hother
    exact iff_of_true (fun _ => hname) fun _ => hname
  · rw [hfiles _ (not_isFileOf_dropIn hother)]

theorem NoOrphans.add (h : r.NoOrphans s) : (r.step (.add name)).NoOrphans s :=
  fun other hother => Finset.mem_insert_of_mem (h other hother)

/-- A renaming orphans the rule of the account, if it has one. -/
theorem NoOrphans.rename_iff {newName : String} (h : r.NoOrphans s) (hname : newName ≠ name) :
    (r.step (.rename name newName)).NoOrphans s ↔ dropIn s name ∉ r.files := by
  constructor
  · intro hnone hrule
    have hmem : name ∈ insert newName (r.accounts.erase name) := hnone name hrule
    rcases Finset.mem_insert.mp hmem with heq | herased
    · exact hname heq.symm
    · exact Finset.notMem_erase name r.accounts herased
  · intro hrule other hother
    have hne : other ≠ name := fun heq => hrule (heq ▸ hother)
    exact Finset.mem_insert_of_mem (Finset.mem_erase.mpr ⟨hne, h other hother⟩)

/-- A removal takes the rule of the account with it. -/
theorem NoOrphans.remove (h : r.NoOrphans s) :
    (r.after [.remove name, .erase (dropIn s name)]).NoOrphans s := by
  intro other hother
  obtain ⟨hpath, hrule⟩ := Finset.mem_erase.mp hother
  have hne : other ≠ name := fun heq => hpath (heq ▸ rfl)
  exact Finset.mem_erase.mpr ⟨hne, h other hrule⟩

end Registry

namespace Provision

open Registry (NoOrphans)

/-! ## Runs -/

/-- A host that answers, together with the accounts and files that are on it. -/
structure Stage (σ : Type) where
  state : σ
  registry : Registry

/-- The call is one on accounts. What it changes or removes is there, and the name that it gives is
not taken. -/
def Call.Suits (r : Registry) : Call → Prop
  | create .account attributes => ∀ name, attributes.name? = some name → name ∉ r.accounts
  | update .account uid attributes _ =>
    uid ∈ r.accounts ∧ ∀ name, attributes.name? = some name → name ≠ uid → name ∉ r.accounts
  | delete .account uid => uid ∈ r.accounts
  | _ => False

namespace Stage

variable {σ : Type} (s : Settings) (peer : Dialogue.Peer σ) (st : Stage σ)

/-- What the call changes at this stage. -/
def changes (call : Call) : List Change :=
  changesOf (((call.procedure s).exchanges peer st.state).map Exchange.errand)

/-- The stage after the call. -/
def after (call : Call) : Stage σ where
  state := ((call.procedure s).run peer st.state).2
  registry := st.registry.after (st.changes s peer call)

/-- The call suits the stage, and all of its commands succeed. -/
def IsOrdinary (call : Call) : Prop :=
  call.Suits st.registry ∧
    ∀ e ∈ (call.procedure s).exchanges peer st.state, e.Succeeds s.diagnostics

/-- The call gives a new name to an account that has a rule. -/
def RenamesHolder : Call → Prop
  | .update .account uid attributes mode =>
    dropIn s uid ∈ st.registry.files ∧
      ∃ name, ((update s .account uid attributes mode).run peer st.state).1 = .ok name ∧ name ≠ uid
  | _ => False

/-- The calls one after the other, each with the stage at which it is made. -/
def steps : Stage σ → List Call → List (Stage σ × Call)
  | _, [] => []
  | st, call :: rest => (st, call) :: steps (st.after s peer call) rest

variable {s peer st} {call : Call}

/-- The changes of a call say what the registry is after it. -/
theorem registry_after (call : Call) {cs : List Change} (h : st.changes s peer call = cs) :
    (st.after s peer call).registry = st.registry.after cs :=
  congrArg st.registry.after h

theorem noOrphans_after_of_nil (h : st.registry.NoOrphans s) (hnil : st.changes s peer call = []) :
    (st.after s peer call).registry.NoOrphans s :=
  (registry_after call hnil).symm ▸ h

/-- A change that gives a new name orphans the rule of the account, if it has one. -/
theorem noOrphans_after_update_iff {uid : String} {attributes : AttributeSet} {mode : UpdateMode}
    (h : st.registry.NoOrphans s)
    (hcall : st.IsOrdinary s peer (.update .account uid attributes mode)) :
    (st.after s peer (.update .account uid attributes mode)).registry.NoOrphans s ↔
      ¬ st.RenamesHolder s peer (.update .account uid attributes mode) := by
  obtain ⟨⟨huid, -⟩, hall⟩ := hcall
  rcases goes_updateAccount_changes s uid attributes mode peer st.state hall with
    ⟨⟨fault, hfault⟩, hnil⟩ | ⟨name, cs, hok, hcs, hfiles⟩
  · refine iff_of_true (noOrphans_after_of_nil h hnil) ?_
    rintro ⟨-, name, hname, -⟩
    exact absurd (hname.symm.trans hfault) nofun
  rw [registry_after (.update .account uid attributes mode) hcs]
  by_cases hname : name = uid
  · subst hname
    refine iff_of_true ?_ ?_
    · rw [if_pos rfl]
      exact (Registry.noOrphans_after_iff huid hfiles).mpr h
    · rintro ⟨-, other, hother, hne⟩
      exact hne (Except.ok.inj (hother.symm.trans hok))
  · have hholder : st.RenamesHolder s peer (.update .account uid attributes mode) ↔
        dropIn s uid ∈ st.registry.files := and_iff_left ⟨name, hok, hname⟩
    rw [if_neg hname, hholder, ← h.rename_iff hname]
    exact Registry.noOrphans_after_iff (Finset.mem_insert_self ..) hfiles

/-- Once a rule has its account, it loses it only where an account with a rule is renamed. -/
theorem noOrphans_after_iff (h : st.registry.NoOrphans s) (hcall : st.IsOrdinary s peer call) :
    (st.after s peer call).registry.NoOrphans s ↔ ¬ st.RenamesHolder s peer call := by
  have hsuits := hcall.1
  cases call with
  | create c attributes =>
    cases c with
    | account =>
      refine iff_of_true ?_ id
      rcases goes_createAccount_changes s attributes peer st.state hcall.2 with
        hnil | ⟨name, cs, hcs, hfiles⟩
      · exact noOrphans_after_of_nil h hnil
      · rw [registry_after (.create .account attributes) hcs]
        exact (Registry.noOrphans_after_iff (Finset.mem_insert_self ..) hfiles).mpr h.add
    | _ => exact hsuits.elim
  | update c uid attributes mode =>
    cases c with
    | account => exact noOrphans_after_update_iff h hcall
    | _ => exact hsuits.elim
  | delete c uid =>
    cases c with
    | account =>
      refine iff_of_true ?_ id
      rcases goes_deleteAccount_changes s uid peer st.state hcall.2 with ⟨-, hnil⟩ | ⟨-, hcs⟩
      · exact noOrphans_after_of_nil h hnil
      · rw [registry_after (.delete .account uid) hcs]
        exact h.remove
    | _ => exact hsuits.elim
  | _ => exact hsuits.elim

/-- A removal that returns leaves neither the account nor its rule. -/
theorem removed_after_delete {uid : String}
    (hok : ((delete s .account uid).run peer st.state).1 = .ok ()) :
    uid ∉ (st.after s peer (.delete .account uid)).registry.accounts ∧
      dropIn s uid ∉ (st.after s peer (.delete .account uid)).registry.files := by
  have hall := (orderly_delete s .account uid).course.succeeds_of_run_eq_ok hok
  rcases goes_deleteAccount_changes s uid peer st.state hall with ⟨⟨fault, hfault⟩, -⟩ | ⟨-, hcs⟩
  · exact absurd (hok.symm.trans hfault) nofun
  · rw [registry_after (.delete .account uid) hcs]
    exact ⟨Finset.notMem_erase _ _, Finset.notMem_erase _ _⟩

/-- In a run of calls that starts with every rule in its account's hands, this stays so throughout
exactly if no account is renamed that has a rule. -/
theorem noOrphans_steps_iff {calls : List Call} (h : st.registry.NoOrphans s)
    (hrun : ∀ x ∈ steps s peer st calls, x.1.IsOrdinary s peer x.2) :
    (∀ x ∈ steps s peer st calls, (x.1.after s peer x.2).registry.NoOrphans s) ↔
      ∀ x ∈ steps s peer st calls, ¬ x.1.RenamesHolder s peer x.2 := by
  induction calls generalizing st with
  | nil => exact iff_of_true (fun _ hx => nomatch hx) fun _ hx => nomatch hx
  | cons call rest ih =>
    obtain ⟨hcall, hrest⟩ := List.forall_mem_cons.mp hrun
    have hhead := noOrphans_after_iff h hcall
    rw [steps, List.forall_mem_cons, List.forall_mem_cons]
    constructor
    · rintro ⟨hnone, htail⟩
      exact ⟨hhead.mp hnone, (ih hnone hrest).mp htail⟩
    · rintro ⟨hnot, htail⟩
      have hnone := hhead.mpr hnot
      exact ⟨hnone, (ih hnone hrest).mpr htail⟩

end Stage

/-- Take a run of creations, changes and removals of accounts in which all commands succeed, on a
host that has no rules at first. After each of the calls every rule is that of an account that is
there, unless a call renames an account that has a rule; and after each removal that returns the
rule of the name is gone. -/
theorem noOrphans_iff (s : Settings) {σ : Type} (peer : Dialogue.Peer σ) (st : Stage σ)
    (calls : List Call) (hstart : ∀ name, dropIn s name ∉ st.registry.files)
    (hrun : ∀ x ∈ st.steps s peer calls, x.1.IsOrdinary s peer x.2) :
    ((∀ x ∈ st.steps s peer calls, (x.1.after s peer x.2).registry.NoOrphans s) ↔
        ∀ x ∈ st.steps s peer calls, ¬ x.1.RenamesHolder s peer x.2) ∧
      ∀ x ∈ st.steps s peer calls, ∀ uid, x.2 = .delete .account uid →
        ((delete s .account uid).run peer x.1.state).1 = .ok () →
        uid ∉ (x.1.after s peer x.2).registry.accounts ∧
          dropIn s uid ∉ (x.1.after s peer x.2).registry.files := by
  refine ⟨Stage.noOrphans_steps_iff (fun name hrule => absurd hrule (hstart name)) hrun, ?_⟩
  rintro x - uid hcall hok
  rw [hcall]
  exact Stage.removed_after_delete hok

/-! ## A rule that is left behind -/

/-- The account `svc1` with a rule. -/
def ruledAttributes : AttributeSet :=
  .ofList [⟨AttributeName.name, [.text "svc1"]⟩, ⟨AttributeName.permissions, [.text "ALL"]⟩]

/-- A host that knows an account by two names. -/
def twoNamedHost : Dialogue.Peer Unit :=
  steadyHost
    { script := { workingHost.script with
        replies := [("getent passwd svc1", "svc1:x:1:1::/:"),
                    ("getent passwd svc2", "svc2:x:1:1::/:")] } }

/-- At first there are no accounts and no files. -/
def bareStage : Stage Unit :=
  ⟨(), ⟨∅, ∅⟩⟩

/-- The account was created, and has its rule. -/
def ruledStage : Stage Unit :=
  bareStage.after lenientSettings twoNamedHost (.create .account ruledAttributes)

/-- The account was given a new name. -/
def renamedStage : Stage Unit :=
  ruledStage.after lenientSettings twoNamedHost
    (.update .account "svc1" (nameOnly "svc2") .replace)

theorem registry_ruledStage : ruledStage.registry = ⟨{"svc1"}, {"/etc/sudoers.d/svc1_user"}⟩ := by
  decide +kernel

theorem registry_renamedStage :
    renamedStage.registry = ⟨{"svc2"}, {"/etc/sudoers.d/svc1_user"}⟩ := by
  have hchanges : ruledStage.changes lenientSettings twoNamedHost
      (.update .account "svc1" (nameOnly "svc2") .replace) = [.rename "svc1" "svc2"] := by
    decide +kernel
  have hregistry := Stage.registry_after _ hchanges
  rw [registry_ruledStage] at hregistry
  exact hregistry.trans (by decide)

theorem isOrdinary_creation :
    bareStage.IsOrdinary lenientSettings twoNamedHost (.create .account ruledAttributes) := by
  have hok : ((create lenientSettings .account ruledAttributes).run twoNamedHost ()).1 =
      .ok "svc1" := by decide +kernel
  exact ⟨fun _ _ => Finset.notMem_empty _,
    (Call.proceeds lenientSettings (.create .account ruledAttributes)).succeeds_of_run_eq_ok hok⟩

theorem isOrdinary_renaming : ruledStage.IsOrdinary lenientSettings twoNamedHost
    (.update .account "svc1" (nameOnly "svc2") .replace) := by
  have hok : ((update lenientSettings .account "svc1" (nameOnly "svc2") .replace).run
      twoNamedHost ruledStage.state).1 = .ok "svc2" := by decide +kernel
  refine ⟨?_, (Call.proceeds lenientSettings
    (.update .account "svc1" (nameOnly "svc2") .replace)).succeeds_of_run_eq_ok hok⟩
  rw [registry_ruledStage]
  refine ⟨by decide, ?_⟩
  rintro name hname -
  obtain rfl := Option.some.inj hname
  decide

/-- The stage after an account with a rule was removed. -/
def removedStage : Stage Unit :=
  ruledStage.after lenientSettings twoNamedHost (.delete .account "svc1")

/-- An account is created with a rule and removed, and its rule with it. -/
theorem noOrphans_iff_svc1 :
    bareStage.IsOrdinary lenientSettings twoNamedHost (.create .account ruledAttributes) ∧
      ruledStage.IsOrdinary lenientSettings twoNamedHost (.delete .account "svc1") ∧
      removedStage.registry.NoOrphans lenientSettings ∧
      dropIn lenientSettings "svc1" ∉ removedStage.registry.files := by
  have hok : ((delete lenientSettings .account "svc1").run twoNamedHost
      ruledStage.state).1 = .ok () := by decide +kernel
  have hremoval : ruledStage.IsOrdinary lenientSettings twoNamedHost
      (.delete .account "svc1") := by
    refine ⟨?_, (Call.proceeds lenientSettings
      (.delete .account "svc1")).succeeds_of_run_eq_ok hok⟩
    rw [registry_ruledStage]
    exact Finset.mem_singleton_self _
  have hsteps : bareStage.steps lenientSettings twoNamedHost
      [.create .account ruledAttributes, .delete .account "svc1"] =
        [(bareStage, .create .account ruledAttributes), (ruledStage, .delete .account "svc1")] :=
    rfl
  have hrun := noOrphans_iff lenientSettings twoNamedHost bareStage
    [.create .account ruledAttributes, .delete .account "svc1"] (fun _ => Finset.notMem_empty _)
  have hlast : ruledStage.after lenientSettings twoNamedHost (.delete .account "svc1") =
      removedStage := rfl
  simp only [hsteps, List.forall_mem_cons, hlast] at hrun
  obtain ⟨hiff, -, hgone, -⟩ := hrun ⟨isOrdinary_creation, hremoval, List.forall_mem_nil _⟩
  obtain ⟨-, hnone, -⟩ := hiff.mpr ⟨id, id, List.forall_mem_nil _⟩
  refine ⟨isOrdinary_creation, hremoval, ?_, (hgone "svc1" rfl hok).2⟩
  assumption

/-- The account is created with a rule, renamed and removed, and the rule is still there. -/
theorem not_noOrphans :
    ¬ ∀ (s : Settings) {σ : Type} (peer : Dialogue.Peer σ) (st : Stage σ) (calls : List Call),
      s.check = .ok () → (∀ name, dropIn s name ∉ st.registry.files) →
      (∀ x ∈ st.steps s peer calls, x.1.IsOrdinary s peer x.2) →
      ∀ x ∈ st.steps s peer calls, (x.1.after s peer x.2).registry.NoOrphans s := by
  intro h
  have hok : ((delete lenientSettings .account "svc2").run twoNamedHost
      renamedStage.state).1 = .ok () := by decide +kernel
  have hremoval : renamedStage.IsOrdinary lenientSettings twoNamedHost
      (.delete .account "svc2") := by
    refine ⟨?_, (Call.proceeds lenientSettings
      (.delete .account "svc2")).succeeds_of_run_eq_ok hok⟩
    rw [registry_renamedStage]
    exact Finset.mem_singleton_self _
  have hsteps : bareStage.steps lenientSettings twoNamedHost
      [.create .account ruledAttributes, .update .account "svc1" (nameOnly "svc2") .replace,
        .delete .account "svc2"] =
      [(bareStage, .create .account ruledAttributes),
        (ruledStage, .update .account "svc1" (nameOnly "svc2") .replace),
        (renamedStage, .delete .account "svc2")] :=
    rfl
  have hrun := h lenientSettings twoNamedHost bareStage
    [.create .account ruledAttributes, .update .account "svc1" (nameOnly "svc2") .replace,
      .delete .account "svc2"] rfl (fun _ => Finset.notMem_empty _)
  simp only [hsteps, List.forall_mem_cons] at hrun
  obtain ⟨-, -, hnone, -⟩ := hrun ⟨isOrdinary_creation, isOrdinary_renaming, hremoval,
    List.forall_mem_nil _⟩
  -- The removal takes away the rule of the new name only.
  have hchanges : renamedStage.changes lenientSettings twoNamedHost (.delete .account "svc2") =
      [.remove "svc2", .erase "/etc/sudoers.d/svc2_user"] := by decide +kernel
  rw [Stage.registry_after _ hchanges, registry_renamedStage] at hnone
  exact absurd (hnone "svc1" (by decide)) (by decide)

end Provision

end HostAccounts
