import HostAccounts.Proofs.Provision.Call
import HostAccounts.Proofs.Recipe.Call
import HostAccounts.Rehearsal

/-!
# Failing and stopping

No operation goes on after a command that failed. Each operation first checks what it was called
with and composes what it can, and only then talks to the host; `Procedure.Orderly` is what both
halves come to. A change of an account is the exception, since what it composes depends on what it
has read. Main statement: `fail_stop`, for every call against every peer.
-/

set_option autoImplicit false

namespace HostAccounts

open Database (AccountRow GroupRow)
open Diagnostics (Operation Overrides)

/-! ## Operations that check first -/

/-- The fault does not blame the caller. -/
def Fault.IsBlameless (fault : Fault) : Prop :=
  fault.isCallersDoing = false

namespace Procedure

variable {α β : Type} {d : Overrides} {purpose : Operation → Purpose} {Q : α → Prop}

/-- The procedure stops at the first round trip that fails, and blames the caller only as long as
nothing was sent. -/
structure Orderly (d : Overrides) (purpose : Operation → Purpose) (t : Procedure α) : Prop where
  course : t.Proceeds d purpose (fun _ => True) fun _ => True
  early : ∀ ⦃σ : Type⦄ (peer : Dialogue.Peer σ) (s : σ) (fault : Fault),
    (t.run peer s).1 = .error fault → fault.isCallersDoing = true → t.exchanges peer s = []

theorem Proceeds.isCallersDoing_eq_false {σ : Type} {t : Procedure α}
    (h : t.Proceeds d purpose Q Fault.IsBlameless) {peer : Dialogue.Peer σ} {s : σ} {fault : Fault}
    (hresult : (t.run peer s).1 = .error fault) : fault.isCallersDoing = false := by
  have hcourse := h peer s
  rw [hresult] at hcourse
  cases hcourse with
  | refused _ hfault => exact hfault
  | stopped _ _ hlast => exact hlast.isCallersDoing_eq_false

/-- What never blames the caller does not do so too late. -/
theorem Proceeds.orderly {t : Procedure α} (h : t.Proceeds d purpose Q Fault.IsBlameless) :
    t.Orderly d purpose := by
  constructor
  · exact h.imp (fun _ _ => trivial) fun _ _ => trivial
  · intro σ peer s fault hresult hfault
    rw [h.isCallersDoing_eq_false hresult] at hfault
    cases hfault

theorem orderly_throw (fault : Fault) : (throw fault : Procedure α).Orderly d purpose where
  course := proceeds_throw trivial
  early := fun _ _ _ _ _ _ => rfl

/-- A check comes before everything else. -/
theorem orderly_bind_ofExcept {ε : Type} {toFault : ε → Fault} {x : Except ε α}
    {f : α → Procedure β} (h : ∀ a, x = .ok a → (f a).Orderly d purpose) :
    (ofExcept toFault x >>= f).Orderly d purpose := by
  cases x with
  | ok a => exact h a rfl
  | error e => exact orderly_throw (toFault e)

end Procedure

/-! ## Commands that may be missing -/

namespace Session

theorem proceeds_runOptional {d : Overrides} {purpose : Operation → Purpose} {E : Fault → Prop}
    {command : Option RemoteCommand} {operation : Operation} {failure target : String}
    (h : purpose operation = ⟨failure, target⟩) :
    (runOptional d command operation failure target).Proceeds d purpose (fun _ => True) E := by
  cases command with
  | none => exact Procedure.proceeds_pure trivial
  | some c => exact (proceeds_run h).discard

end Session

namespace Provision

open Procedure (Orderly orderly_bind_ofExcept orderly_throw proceeds_lift proceeds_ofExcept
  proceeds_pure proceeds_request proceeds_tell proceeds_throw)
open Session (proceeds_read proceeds_rows proceeds_run proceeds_runOptional)

variable {s : Settings} {purpose : Operation → Purpose} {E : Fault → Prop}

/-! ## Checks -/

theorem requireName_eq_ok {attributes : AttributeSet} {name : String}
    (h : requireName attributes = .ok name) : attributes.name? = some name := by
  unfold requireName at h
  cases hname : attributes.name? with
  | none =>
    rw [hname] at h
    cases h
  | some supplied =>
    rw [hname] at h
    obtain ⟨_, -, hsupplied⟩ := exists_of_bind_eq_ok h
    rw [Except.ok.inj hsupplied]

theorem requireUid_eq_ok {uid name : String} (h : requireUid uid = .ok name) : name = uid := by
  obtain ⟨_, -, huid⟩ := exists_of_bind_eq_ok h
  exact (Except.ok.inj huid).symm

theorem composeAccount_eq_ok {attributes : AttributeSet} {c : AccountCreation}
    (h : composeAccount s attributes = .ok c) : attributes.name? = some c.username := by
  obtain ⟨username, husername, h⟩ := exists_of_bind_eq_ok h
  obtain ⟨_, -, h⟩ := exists_of_bind_eq_ok h
  obtain ⟨create, -, h⟩ := exists_of_bind_eq_ok h
  obtain ⟨activation, -, h⟩ := exists_of_bind_eq_ok h
  obtain rfl := Except.ok.inj h
  exact requireName_eq_ok husername

theorem composeGroup_eq_ok {attributes : AttributeSet} {groupname : String}
    {command : RemoteCommand} (h : composeGroup s attributes = .ok (groupname, command)) :
    attributes.name? = some groupname := by
  obtain ⟨name, hname, h⟩ := exists_of_bind_eq_ok h
  obtain ⟨_, -, h⟩ := exists_of_bind_eq_ok h
  split at h
  · cases h
  · obtain ⟨create, -, h⟩ := exists_of_bind_eq_ok h
    cases h
    exact requireName_eq_ok hname

/-- A removal is of the kind, and reported as, what the class asks for. -/
theorem composeRemoval_eq_ok {c : ObjectClass} {name : String} {removal : Removal}
    (h : composeRemoval s c name = .ok removal) :
    (Call.delete c name).purpose removal.operation = ⟨removal.failure, name⟩ := by
  cases c with
  | other what => cases h
  | account =>
    obtain ⟨command, -, h⟩ := exists_of_bind_eq_ok h
    obtain rfl := Except.ok.inj h
    rfl
  | group =>
    obtain ⟨command, -, h⟩ := exists_of_bind_eq_ok h
    obtain rfl := Except.ok.inj h
    rfl

/-! ## Tests, creations and removals -/

theorem orderly_testSession (s : Settings) :
    (testSession s).Orderly s.diagnostics Call.test.purpose := by
  refine Procedure.Proceeds.orderly (Q := fun _ => True) ?_
  exact (proceeds_run rfl).discard.bind fun _ _ => proceeds_tell _

theorem orderly_createAccount (s : Settings) (attributes : AttributeSet) :
    (createAccount s attributes).Orderly s.diagnostics
      (Call.create .account attributes).purpose := by
  refine orderly_bind_ofExcept fun c hc => ?_
  have htarget : ∀ failure,
      Purpose.mk failure (attributes.name?.getD "") = ⟨failure, c.username⟩ := by
    intro failure
    rw [composeAccount_eq_ok hc, Option.getD_some]
  refine Procedure.Proceeds.orderly (Q := fun _ => True) ?_
  refine (proceeds_tell _).bind fun _ _ => ?_
  refine (proceeds_run (htarget _)).discard.bind fun _ _ => ?_
  refine (proceeds_runOptional (htarget _)).bind fun _ _ => ?_
  refine (proceeds_runOptional (htarget _)).bind fun _ _ => ?_
  exact proceeds_pure trivial

theorem orderly_createGroup (s : Settings) (attributes : AttributeSet) :
    (createGroup s attributes).Orderly s.diagnostics (Call.create .group attributes).purpose := by
  refine orderly_bind_ofExcept fun c hc => ?_
  obtain ⟨groupname, command⟩ := c
  have htarget : attributes.name?.getD "" = groupname := by
    rw [composeGroup_eq_ok hc, Option.getD_some]
  refine Procedure.Proceeds.orderly (Q := fun _ => True) ?_
  refine (proceeds_tell _).bind fun _ _ => ?_
  refine (proceeds_run (congrArg (Purpose.mk _) htarget)).discard.bind fun _ _ => ?_
  exact proceeds_pure trivial

theorem orderly_create (s : Settings) (c : ObjectClass) (attributes : AttributeSet) :
    (create s c attributes).Orderly s.diagnostics (Call.create c attributes).purpose := by
  cases c with
  | account => exact orderly_createAccount s attributes
  | group => exact orderly_createGroup s attributes
  | other what => exact orderly_throw _

theorem orderly_delete (s : Settings) (c : ObjectClass) (uid : String) :
    (delete s c uid).Orderly s.diagnostics (Call.delete c uid).purpose := by
  refine orderly_bind_ofExcept fun name hname => ?_
  obtain rfl := requireUid_eq_ok hname
  refine orderly_bind_ofExcept fun removal hremoval => ?_
  refine Procedure.Proceeds.orderly (Q := fun _ => True) ?_
  refine (proceeds_read (Call.purpose_read _)).bind fun found _ => ?_
  unfold carryOutRemoval
  split
  · refine (proceeds_tell _).bind fun _ _ => ?_
    refine Procedure.Proceeds.bind (P := fun _ => False) ?_ fun _ hnever => hnever.elim
    exact proceeds_throw rfl
  · refine (proceeds_tell _).bind fun _ _ => ?_
    exact (proceeds_run (composeRemoval_eq_ok hremoval)).discard

/-! ## Searches -/

/-- The second object is about the same account or group as the first. -/
def IsSame (o o' : ManagedObject) : Prop :=
  o'.objectClass = o.objectClass ∧ o'.uid = o.uid ∧ o'.name = o.name

/-- What is added to an object leaves it the same. -/
theorem isSame_insert (o : ManagedObject) (name : String) (values : List Value) :
    IsSame o (o.insert name values) :=
  ⟨rfl, rfl, rfl⟩

theorem isSame_refl (o : ManagedObject) : IsSame o o :=
  ⟨rfl, rfl, rfl⟩

theorem IsSame.trans {o o' o'' : ManagedObject} (h : IsSame o o') (h' : IsSame o' o'') :
    IsSame o o'' :=
  ⟨h'.1.trans h.1, h'.2.1.trans h.2.1, h'.2.2.trans h.2.2⟩

/-- The fault is that a single row cannot be read. -/
def IsBadRow (fault : Fault) : Prop :=
  ∃ rowFault, fault = .badRow rowFault

theorem IsBadRow.isBlameless {fault : Fault} (h : IsBadRow fault) : fault.IsBlameless := by
  obtain ⟨rowFault, rfl⟩ := h
  rfl

theorem proceeds_fetchGroups {user : String} (h : purpose .read = .reading) :
    (fetchGroups s user).Proceeds s.diagnostics purpose (fun _ => True) E := by
  refine (proceeds_read h).bind fun output _ => ?_
  exact (proceeds_rows _).bind fun rows _ => proceeds_pure trivial

theorem proceeds_addGroups (o : ManagedObject) (h : purpose .read = .reading) :
    (addGroups s o).Proceeds s.diagnostics purpose (IsSame o) E :=
  (proceeds_fetchGroups h).bind fun _ _ => proceeds_pure (isSame_insert o _ _)

theorem proceeds_addStatus (o : ManagedObject) (h : purpose .read = .reading) :
    (addStatus s o).Proceeds s.diagnostics purpose (IsSame o) IsBadRow := by
  refine (proceeds_read h).bind fun output _ => ?_
  split
  · exact proceeds_pure (isSame_refl o)
  · refine Procedure.Proceeds.bind (P := fun _ => True) ?_ fun row _ => ?_
    · exact proceeds_ofExcept (fun _ _ => trivial) fun _ _ => ⟨_, rfl⟩
    refine (proceeds_request fun _ => rfl).bind fun today _ => ?_
    simp only
    split
    · exact proceeds_pure ⟨rfl, rfl, rfl⟩
    · exact proceeds_pure ⟨rfl, rfl, rfl⟩

/-- Every class that is managed has rule files. -/
theorem exists_readRule {c : ObjectClass} (hc : c.isSupported = true) (name : String) :
    ∃ command, Recipe.readRule s c name = .ok command := by
  cases c with
  | account => exact ⟨_, rfl⟩
  | group => exact ⟨_, rfl⟩
  | other what => cases hc

theorem proceeds_addRule {o : ManagedObject} (ho : o.objectClass.isSupported = true)
    (h : purpose .read = .reading) :
    (addRule s o).Proceeds s.diagnostics purpose (IsSame o) E := by
  obtain ⟨command, hcommand⟩ := exists_readRule (s := s) ho o.name
  unfold addRule
  rw [hcommand]
  refine (proceeds_pure (a := command) trivial).bind (P := fun _ => True) fun _ _ => ?_
  refine (proceeds_read h).bind fun output _ => ?_
  split
  · exact proceeds_pure (isSame_insert o _ _)
  · exact proceeds_pure (isSame_refl o)

theorem proceeds_completeAccount {o : ManagedObject} (ho : o.objectClass = .account)
    (h : purpose .read = .reading) :
    (completeAccount s o).Proceeds s.diagnostics purpose (IsSame o) IsBadRow := by
  refine (proceeds_addGroups o h).bind fun o₁ h₁ => ?_
  refine (proceeds_addStatus o₁ h).bind fun o₂ h₂ => ?_
  have hsame : IsSame o o₂ := h₁.trans h₂
  have hclass : o₂.objectClass.isSupported = true := by rw [hsame.1, ho]; rfl
  exact (proceeds_addRule hclass h).imp (fun _ h₃ => hsame.trans h₃) fun _ hfault => hfault

/-- The objects are completed one by one, each after the one before it was handed over. -/
theorem proceeds_deliver {complete : ManagedObject → Procedure ManagedObject} {d : Overrides}
    (receiver : Receiver) {objects : List ManagedObject}
    (h : ∀ o ∈ objects, (complete o).Proceeds d purpose (fun _ => True) E) :
    (deliver complete receiver.handle objects).Proceeds d purpose (fun _ => True) E := by
  induction objects with
  | nil => exact proceeds_pure trivial
  | cons o rest ih =>
    refine (h o (List.mem_cons_self ..)).bind fun completed _ => ?_
    refine (proceeds_lift (receiver.sendsNothing completed)).bind fun more _ => ?_
    split
    · exact ih fun o ho => h o (List.mem_cons_of_mem _ ho)
    · exact proceeds_pure trivial

theorem isBlameless_of_requireFound {operand : Option Operand} {objects : List ManagedObject}
    {fault : Fault} (h : requireFound operand objects = .error fault) : fault.IsBlameless := by
  unfold requireFound at h
  split at h
  · split at h
    · obtain rfl := Except.error.inj h
      rfl
    · cases h
  · cases h

/-- A search goes in order, if the objects of its rows can be completed. -/
theorem Table.orderly_search {ρ : Type} (t : Table ρ) (operand : Option Operand)
    (receiver : Receiver) (h : purpose .read = .reading)
    (hcomplete : ∀ r, (t.complete (t.object r)).Proceeds s.diagnostics purpose (fun _ => True)
      Fault.IsBlameless) :
    (t.search s operand receiver.handle).Orderly s.diagnostics purpose := by
  refine orderly_bind_ofExcept fun test _ => ?_
  refine Procedure.Proceeds.orderly (Q := fun _ => True) ?_
  refine (proceeds_read h).bind fun output _ => ?_
  refine (proceeds_rows _).bind fun rows _ => ?_
  refine Procedure.Proceeds.bind (P := fun _ => True) ?_ fun _ _ => ?_
  · exact proceeds_ofExcept (fun _ _ => trivial) fun _ hfault => isBlameless_of_requireFound hfault
  refine (proceeds_tell _).bind fun _ _ => proceeds_deliver receiver fun o ho => ?_
  obtain ⟨row, -, rfl⟩ := List.mem_map.mp ho
  unfold Table.completion
  split
  · exact hcomplete row
  · exact proceeds_pure trivial

theorem orderly_search (s : Settings) (c : ObjectClass) (filter : Option Filter)
    (receiver : Receiver) :
    (search s c filter receiver.handle).Orderly s.diagnostics
      (Call.search c filter receiver).purpose := by
  refine orderly_bind_ofExcept fun _ _ => ?_
  refine orderly_bind_ofExcept fun operand _ => ?_
  cases c with
  | account =>
    refine (accountTable s).orderly_search operand receiver (Call.purpose_read _) fun row => ?_
    exact (proceeds_completeAccount rfl (Call.purpose_read _)).imp (fun _ _ => trivial)
      fun _ => IsBadRow.isBlameless
  | group =>
    refine (groupTable s).orderly_search operand receiver (Call.purpose_read _) fun row => ?_
    exact (proceeds_addRule rfl (Call.purpose_read _)).imp (fun _ _ => trivial)
      fun _ hfault => hfault
  | other what => exact orderly_throw _

/-! ## Changes -/

theorem orderly_updateGroup (s : Settings) (uid : String) (attributes : AttributeSet)
    (mode : UpdateMode) :
    (updateGroup s uid attributes mode).Orderly s.diagnostics
      (Call.update .group uid attributes mode).purpose := by
  refine orderly_bind_ofExcept fun groupname hgroupname => ?_
  obtain rfl := requireUid_eq_ok hgroupname
  refine orderly_bind_ofExcept fun _ _ => ?_
  refine orderly_bind_ofExcept fun script _ => ?_
  refine Procedure.Proceeds.orderly (Q := fun _ => True) ?_
  refine (proceeds_tell _).bind fun _ _ => ?_
  exact (proceeds_runOptional rfl).bind fun _ _ => proceeds_pure trivial

/-- The update is of the account, with the attributes and in the mode that it was asked for. -/
def IsAsked (username : String) (attributes : AttributeSet) (mode : UpdateMode)
    (u : AccountUpdate) : Prop :=
  u.username = username ∧ u.attributes = attributes ∧ u.mode = mode

/-- The row that is fetched is the one that was looked for. -/
theorem proceeds_fetchAccount {user : String} (h : purpose .read = .reading) :
    (fetchAccount s user).Proceeds s.diagnostics purpose (fun row => row.username = user)
      Fault.IsBlameless := by
  refine (proceeds_read h).bind fun output _ => ?_
  refine (proceeds_rows _).bind fun rows _ => ?_
  split
  · next row hrow => exact proceeds_pure (by simpa using List.find?_some hrow)
  · exact proceeds_throw rfl

theorem proceeds_readRow {user : String} {attributes : AttributeSet} {mode : UpdateMode}
    (h : purpose .read = .reading) :
    (readRow s user attributes mode).Proceeds s.diagnostics purpose
      (fun current => ∀ row, current = some row → row.username = user) Fault.IsBlameless := by
  unfold readRow
  split
  · rw [map_eq_pure_bind]
    refine (proceeds_fetchAccount h).bind fun row hrow => proceeds_pure fun row' hrow' => ?_
    rwa [← Option.some.inj hrow']
  · exact proceeds_pure nofun

theorem proceeds_readGroups {user : String} {attributes : AttributeSet} {mode : UpdateMode}
    (h : purpose .read = .reading) :
    (readGroups s user attributes mode).Proceeds s.diagnostics purpose (fun _ => True) E := by
  unfold readGroups
  split
  · exact proceeds_fetchGroups h
  · exact proceeds_pure trivial

theorem proceeds_readAhead {user : String} {attributes : AttributeSet} {mode : UpdateMode}
    (h : purpose .read = .reading) :
    (readAhead s user attributes mode).Proceeds s.diagnostics purpose
      (fun u => IsAsked user attributes mode u ∧
        ∀ row, u.currentRow = some row → row.username = u.username) Fault.IsBlameless := by
  refine (proceeds_readRow h).bind fun row hrow => ?_
  refine (proceeds_readGroups h).bind fun groups _ => ?_
  exact proceeds_pure ⟨⟨rfl, rfl, rfl⟩, hrow⟩

theorem proceeds_carryOut {uid : String} {attributes : AttributeSet} {mode : UpdateMode}
    {u : AccountUpdate} (hu : IsAsked uid attributes mode u) (script : Option RemoteCommand) :
    (carryOut s u script).Proceeds s.diagnostics (Call.update .account uid attributes mode).purpose
      (fun _ => True) E := by
  obtain ⟨rfl, rfl, rfl⟩ := hu
  refine (proceeds_tell _).bind fun _ _ => ?_
  refine (proceeds_runOptional rfl).bind fun _ _ => ?_
  exact (proceeds_runOptional rfl).bind fun _ _ => proceeds_pure trivial

/-- A change of an account stops as the others do, though it may blame the caller after it has
looked something up. -/
theorem proceeds_updateAccount (s : Settings) (uid : String) (attributes : AttributeSet)
    (mode : UpdateMode) :
    (updateAccount s uid attributes mode).Proceeds s.diagnostics
      (Call.update .account uid attributes mode).purpose (fun _ => True) fun _ => True := by
  refine Procedure.Proceeds.bind (P := fun name => name = uid) ?_ fun name hname => ?_
  · exact proceeds_ofExcept (fun _ => requireUid_eq_ok) fun _ _ => trivial
  obtain rfl := hname
  refine Procedure.Proceeds.bind (P := fun _ => True) ?_ fun _ _ => ?_
  · exact proceeds_ofExcept (fun _ _ => trivial) fun _ _ => trivial
  refine Procedure.Proceeds.bind (P := IsAsked name attributes mode) ?_ fun u hu => ?_
  · exact (proceeds_readAhead (Call.purpose_read _)).imp (fun _ hu => hu.1) fun _ _ => trivial
  refine Procedure.Proceeds.bind (P := fun _ => True) ?_ fun script _ => proceeds_carryOut hu script
  exact proceeds_ofExcept (fun _ _ => trivial) fun _ _ => trivial

/-! ## All operations -/

/-- Every call stops at the first round trip that fails. -/
theorem Call.proceeds (s : Settings) (call : Call) :
    (call.procedure s).Proceeds s.diagnostics call.purpose (fun _ => True) fun _ => True := by
  cases call with
  | create c attributes => exact (orderly_create s c attributes).course
  | update c uid attributes mode =>
    cases c with
    | account => exact proceeds_updateAccount s uid attributes mode
    | group => exact (orderly_updateGroup s uid attributes mode).course
    | other what => exact proceeds_throw trivial
  | delete c uid => exact (orderly_delete s c uid).course
  | search c filter receiver => exact (orderly_search s c filter receiver).course
  | test => exact (orderly_testSession s).course

/-- Whatever is asked for and however the host answers, a round trip that fails is the last one, and
the operation ends in the fault that it amounts to: a broken connection, a target that is missing,
or a command that failed, with what it printed. An operation that returns has seen every command of
it succeed. -/
theorem fail_stop (s : Settings) (call : Call) {σ : Type} (peer : Dialogue.Peer σ) (start : σ) :
    (∀ before e after, (call.procedure s).exchanges peer start = before ++ e :: after →
      ¬ e.Succeeds s.diagnostics →
        after = [] ∧ ∃ fault, e.EndsIn s.diagnostics call.purpose fault ∧
          ((call.procedure s).run peer start).1 = .error fault) ∧
    ∀ result, ((call.procedure s).run peer start).1 = .ok result →
      ∀ e ∈ (call.procedure s).exchanges peer start, e.Succeeds s.diagnostics := by
  have hcourse := call.proceeds s peer start
  refine ⟨fun before e after hexchanges he => ?_, fun result hresult => ?_⟩
  · rw [hexchanges] at hcourse
    exact hcourse.stops_at he
  · rw [hresult] at hcourse
    exact hcourse.succeeds_of_ok

/-- Settings for a session of root, by which no lookup and no test fails. -/
def lenientSettings : Settings where
  elevation := { root := true }
  diagnostics := ⟨[(.read, {}), (.test, {})]⟩

/-- A host with one account; the connection breaks down after the first command. -/
def failingHost : Rehearsal where
  script := { replies := [("getent passwd svc1", "svc1:x:1:1::/:")], outage := some ⟨.closed, 1⟩,
              today := ⟨2025, 3, 1, by decide⟩ }

def lookupBeforeRemoval : Exchange :=
  ⟨Recipe.findAccount "svc1", .read, .ok "svc1:x:1:1::/:"⟩

def brokenRemoval : Exchange :=
  ⟨.ofText "userdel svc1; rm -f /etc/sudoers.d/svc1_user" .exec, .userdel, .error .closed⟩

/-- The removal of the account sends both commands, of which the second fails, and ends in the fault
of that one; the test of the session returns. -/
theorem fail_stop_of_outage :
    ((Call.delete .account "svc1").procedure lenientSettings).exchanges Rehearsal.peer failingHost =
        [lookupBeforeRemoval, brokenRemoval] ∧
      (∃ fault, brokenRemoval.EndsIn lenientSettings.diagnostics
          (Call.delete .account "svc1").purpose fault ∧
        (((Call.delete .account "svc1").procedure lenientSettings).run Rehearsal.peer
          failingHost).1 = .error fault) ∧
      ∀ e ∈ (Call.test.procedure lenientSettings).exchanges Rehearsal.peer failingHost,
        e.Succeeds lenientSettings.diagnostics := by
  have hbroken : ¬ brokenRemoval.Succeeds lenientSettings.diagnostics := by
    rintro ⟨output, h, -⟩
    cases h
  have hexchanges : ((Call.delete .account "svc1").procedure lenientSettings).exchanges
      Rehearsal.peer failingHost = [lookupBeforeRemoval, brokenRemoval] := rfl
  have hdelete := (fail_stop lenientSettings (.delete .account "svc1") Rehearsal.peer
    failingHost).1 [lookupBeforeRemoval] brokenRemoval [] hexchanges hbroken
  exact ⟨hexchanges, hdelete.2,
    (fail_stop lenientSettings .test Rehearsal.peer failingHost).2 () rfl⟩

end Provision

end HostAccounts
