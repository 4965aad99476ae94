import HostAccounts.Proofs.Provision.Stream
import HostAccounts.Proofs.Recipe.IdleUpdate

/-!
# Commands that are worth sending

Whatever an operation sends was composed by a recipe, and a recipe composes a command only for a
plan with a step; so no command is empty. The change of an account has no step exactly if it is
idle, and then no command is composed for it. Main statements: `sendsOnly_composed`, for every call,
and `sent_unless_idle`.
-/

set_option autoImplicit false

namespace HostAccounts

open Diagnostics (Operation)

/-! ## Composed commands -/

/-- A recipe composed the command of the errand. -/
def Errand.IsComposed (s : Settings) (errand : Errand) : Prop :=
  ∃ call : Recipe.Call, call.command? s = .ok (some errand.1)

/-- A command that was composed has a step, so its text is not empty. -/
theorem Errand.IsComposed.text_ne_empty {s : Settings} {errand : Errand}
    (h : errand.IsComposed s) : errand.1.text ≠ "" := by
  obtain ⟨call, hcall⟩ := h
  obtain ⟨p, hp, hne, htext⟩ := call.exists_plan hcall
  have hmade := Recipe.Call.isMade_plan hp
  have hsays := Plan.says_command hne (fun i hi => (hmade i hi).isWritable) s.elevationPolicy
  rw [htext]
  exact hsays.text_ne_empty

namespace Provision

open Procedure (SendsOnly sendsNothing_lift sendsNothing_pure sendsNothing_tell sendsNothing_throw
  sendsOnly_bind_ofExcept)
open Session (sends_read sends_run sends_runOptional sendsNothing_rows)

variable {s : Settings} {operation : Operation} {command : RemoteCommand}

/-! ## What is composed for an operation -/

theorem isComposed_of_optional {command : Option RemoteCommand}
    (h : ∀ c, command = some c → Errand.IsComposed s (c, operation)) :
    ∀ errand ∈ Errand.optional command operation, Errand.IsComposed s errand := by
  intro errand herrand
  obtain ⟨c, hc, rfl⟩ := List.mem_map.mp herrand
  exact h c (Option.mem_toList.mp hc)

/-- The commands for the creation of an account. -/
theorem isComposed_composeAccount {attributes : AttributeSet} {c : AccountCreation}
    (h : composeAccount s attributes = .ok c) :
    ∀ errand ∈ ((c.create, .useradd) ::
      (Errand.optional c.password .passwd ++ Errand.optional c.activation .usermod)),
      Errand.IsComposed s errand := by
  obtain ⟨username, -, h⟩ := exists_of_bind_eq_ok h
  obtain ⟨_, -, h⟩ := exists_of_bind_eq_ok h
  obtain ⟨create, hcreate, h⟩ := exists_of_bind_eq_ok h
  obtain ⟨activation, hactivation, h⟩ := exists_of_bind_eq_ok h
  obtain rfl := Except.ok.inj h
  refine List.forall_mem_cons.mpr ⟨⟨.createAccount username attributes, ?_⟩,
    List.forall_mem_append.mpr ⟨isComposed_of_optional fun c hc => ?_,
      isComposed_of_optional fun c hc => ⟨.activation username attributes, ?_⟩⟩⟩
  · exact congrArg (Except.map some) hcreate
  · obtain ⟨password, -, rfl⟩ := Option.map_eq_some_iff.mp hc
    exact ⟨.setPassword username password, rfl⟩
  · exact hactivation.trans (congrArg Except.ok hc)

theorem isComposed_composeGroup {attributes : AttributeSet} {groupname : String}
    (h : composeGroup s attributes = .ok (groupname, command)) :
    Errand.IsComposed s (command, operation) := by
  obtain ⟨name, -, h⟩ := exists_of_bind_eq_ok h
  obtain ⟨_, -, h⟩ := exists_of_bind_eq_ok h
  split at h
  · cases h
  · obtain ⟨create, hcreate, h⟩ := exists_of_bind_eq_ok h
    cases h
    exact ⟨.createGroup groupname attributes, congrArg (Except.map some) hcreate⟩

/-- The removal of an object and the lookup before it. -/
theorem isComposed_composeRemoval {c : ObjectClass} {name : String} {removal : Removal}
    (h : composeRemoval s c name = .ok removal) :
    Errand.IsComposed s (removal.command, operation) ∧
      Errand.IsComposed s (.lookup removal.lookup) := by
  cases c with
  | other what => cases h
  | account =>
    obtain ⟨command, hcommand, h⟩ := exists_of_bind_eq_ok h
    obtain rfl := Except.ok.inj h
    exact ⟨⟨.deleteAccount name, congrArg (Except.map some) hcommand⟩, ⟨.findAccount name, rfl⟩⟩
  | group =>
    obtain ⟨command, hcommand, h⟩ := exists_of_bind_eq_ok h
    obtain rfl := Except.ok.inj h
    exact ⟨⟨.deleteGroup name, congrArg (Except.map some) hcommand⟩, ⟨.findGroup name, rfl⟩⟩

theorem isComposed_passwordCommand? {user : String} {attributes : AttributeSet}
    {mode : UpdateMode} (h : passwordCommand? s user attributes mode = some command) :
    Errand.IsComposed s (command, operation) := by
  cases mode with
  | replace =>
    obtain ⟨password, -, rfl⟩ := Option.map_eq_some_iff.mp h
    exact ⟨.setPassword user password, rfl⟩
  | removeValues =>
    rw [passwordCommand?] at h
    split at h
    · obtain rfl := Option.some.inj h
      exact ⟨.resetPassword user, rfl⟩
    · cases h

/-! ## Parts of operations -/

theorem sendsOnly_read (h : Errand.IsComposed s (.lookup command)) :
    (Session.read s.diagnostics command).SendsOnly (Errand.IsComposed s) :=
  (sends_read _ _).sendsOnly fun _ herrand => List.mem_singleton.mp herrand ▸ h

theorem sendsOnly_run {failure target : String}
    (h : Errand.IsComposed s (command, operation)) :
    (discard (Session.run s.diagnostics command operation failure target) :
      Procedure Unit).SendsOnly (Errand.IsComposed s) := by
  refine (sends_runOptional s.diagnostics (some command) operation failure target).sendsOnly ?_
  exact fun _ herrand => List.mem_singleton.mp herrand ▸ h

theorem sendsOnly_readAhead (s : Settings) (user : String) (attributes : AttributeSet)
    (mode : UpdateMode) :
    (readAhead s user attributes mode).SendsOnly (Errand.IsComposed s) := by
  refine (sends_readAhead s user attributes mode).sendsOnly fun errand herrand => ?_
  obtain ⟨lookup, hlookup, rfl⟩ := List.mem_map.mp herrand
  rcases List.mem_append.mp hlookup with hlookup | hlookup
  · obtain ⟨-, hrow⟩ := List.mem_ite_nil_right.mp hlookup
    rw [List.mem_singleton.mp hrow]
    exact ⟨.findAccount user, rfl⟩
  · obtain ⟨-, hgroups⟩ := List.mem_ite_nil_right.mp hlookup
    rw [List.mem_singleton.mp hgroups]
    exact ⟨.readMemberships user, rfl⟩

theorem sendsOnly_addRule (s : Settings) (o : ManagedObject) :
    (addRule s o).SendsOnly (Errand.IsComposed s) := by
  unfold addRule
  refine sendsOnly_bind_ofExcept fun command hcommand => ?_
  have hcomposed : Errand.IsComposed s (.lookup command) :=
    ⟨.readRule o.objectClass o.name, congrArg (Except.map some) hcommand⟩
  refine (sendsOnly_read hcomposed).bind fun output => ?_
  split
  · exact (sendsNothing_pure _).sendsOnly
  · exact (sendsNothing_pure _).sendsOnly

theorem sendsOnly_completeAccount (s : Settings) (o : ManagedObject) :
    (completeAccount s o).SendsOnly (Errand.IsComposed s) := by
  refine SendsOnly.bind ?_ fun o₁ => SendsOnly.bind ?_ fun o₂ => sendsOnly_addRule s o₂
  · refine (sends_addGroups s o).sendsOnly fun errand herrand => ?_
    rw [List.mem_singleton.mp herrand]
    exact ⟨.readMemberships o.name, rfl⟩
  · refine (sends_addStatus s o₁).sendsOnly fun errand herrand => ?_
    rw [List.mem_singleton.mp herrand]
    exact ⟨.readStatus o₁.name, rfl⟩

/-- Whoever takes the objects sends nothing, so all that is sent is for their completion. -/
theorem sendsOnly_deliver {complete : ManagedObject → Procedure ManagedObject}
    {kind : Errand → Prop} (receiver : Receiver) (h : ∀ o, (complete o).SendsOnly kind)
    (objects : List ManagedObject) :
    (deliver complete receiver.handle objects).SendsOnly kind := by
  induction objects with
  | nil => exact (sendsNothing_pure ()).sendsOnly
  | cons o rest ih =>
    refine (h o).bind fun completed => ?_
    refine (sendsNothing_lift (receiver.sendsNothing completed)).sendsOnly.bind fun more => ?_
    split
    · exact ih
    · exact (sendsNothing_pure ()).sendsOnly

/-! ## Operations -/

theorem sendsOnly_create (s : Settings) (c : ObjectClass) (attributes : AttributeSet) :
    (create s c attributes).SendsOnly (Errand.IsComposed s) := by
  cases c with
  | account =>
    refine sendsOnly_bind_ofExcept fun c hc => ?_
    exact (sends_carryOutCreation s c).sendsOnly (isComposed_composeAccount hc)
  | group =>
    refine sendsOnly_bind_ofExcept fun ⟨groupname, command⟩ hcommand => ?_
    refine (sendsNothing_tell _).sendsOnly.bind fun _ => ?_
    refine (sendsOnly_run (isComposed_composeGroup hcommand)).bind fun _ => ?_
    exact (sendsNothing_pure groupname).sendsOnly
  | other what => exact (sendsNothing_throw _).sendsOnly

theorem sendsOnly_updateAccount (s : Settings) (uid : String) (attributes : AttributeSet)
    (mode : UpdateMode) :
    (updateAccount s uid attributes mode).SendsOnly (Errand.IsComposed s) := by
  refine sendsOnly_bind_ofExcept fun user _ => sendsOnly_bind_ofExcept fun _ _ => ?_
  refine (sendsOnly_readAhead s user attributes mode).bind fun u => ?_
  refine sendsOnly_bind_ofExcept fun script hscript => ?_
  refine (sendsNothing_tell _).sendsOnly.bind fun _ => SendsOnly.bind ?_ fun _ =>
    SendsOnly.bind ?_ fun _ => (sendsNothing_pure _).sendsOnly
  · refine (sends_runOptional ..).sendsOnly (isComposed_of_optional fun command hcommand => ?_)
    exact ⟨.updateAccount u, hscript.trans (congrArg Except.ok hcommand)⟩
  · exact (sends_runOptional ..).sendsOnly (isComposed_of_optional fun _ =>
      isComposed_passwordCommand?)

theorem sendsOnly_updateGroup (s : Settings) (uid : String) (attributes : AttributeSet)
    (mode : UpdateMode) :
    (updateGroup s uid attributes mode).SendsOnly (Errand.IsComposed s) := by
  refine sendsOnly_bind_ofExcept fun group _ => sendsOnly_bind_ofExcept fun _ _ => ?_
  refine sendsOnly_bind_ofExcept fun script hscript => ?_
  refine (sendsNothing_tell _).sendsOnly.bind fun _ => SendsOnly.bind ?_ fun _ =>
    (sendsNothing_pure _).sendsOnly
  refine (sends_runOptional ..).sendsOnly (isComposed_of_optional fun command hcommand => ?_)
  exact ⟨.updateGroup ⟨group, attributes, mode⟩, hscript.trans (congrArg Except.ok hcommand)⟩

theorem sendsOnly_delete (s : Settings) (c : ObjectClass) (uid : String) :
    (delete s c uid).SendsOnly (Errand.IsComposed s) := by
  refine sendsOnly_bind_ofExcept fun name _ => ?_
  refine sendsOnly_bind_ofExcept fun removal hremoval => ?_
  obtain ⟨hcommand, hlookup⟩ := isComposed_composeRemoval hremoval
  refine (sendsOnly_read hlookup).bind fun found => ?_
  cases hblank : Text.isBlankText found with
  | true =>
    rw [carryOutRemoval_of_blank hblank]
    exact (sendsNothing_tell _).sendsOnly.bind fun _ => (sendsNothing_throw _).sendsOnly
  | false =>
    rw [carryOutRemoval_of_found hblank]
    exact (sendsNothing_tell _).sendsOnly.bind fun _ => sendsOnly_run hcommand

/-- A search sends only what it reads with and what completes the objects. -/
theorem Table.sendsOnly_search {ρ : Type} (t : Table ρ) (operand : Option Operand)
    (receiver : Receiver) (hfind : ∀ name, Errand.IsComposed s (.lookup (t.find name)))
    (hlist : Errand.IsComposed s (.lookup t.list))
    (hcomplete : ∀ o, (t.complete o).SendsOnly (Errand.IsComposed s)) :
    (t.search s operand receiver.handle).SendsOnly (Errand.IsComposed s) := by
  refine sendsOnly_bind_ofExcept fun test _ => ?_
  refine SendsOnly.bind ?_ fun output => ?_
  · unfold Table.reading
    cases keyOf? operand with
    | some name => exact sendsOnly_read (hfind name)
    | none => exact sendsOnly_read hlist
  refine (sendsNothing_rows _).sendsOnly.bind fun rows => ?_
  refine sendsOnly_bind_ofExcept fun _ _ => (sendsNothing_tell _).sendsOnly.bind fun _ => ?_
  refine sendsOnly_deliver receiver (fun o => ?_) _
  unfold Table.completion
  split
  · exact hcomplete o
  · exact (sendsNothing_pure o).sendsOnly

/-- Whatever is asked for, every command that is sent was composed by a recipe. -/
theorem sendsOnly_composed (s : Settings) (call : Call) :
    (call.procedure s).SendsOnly (Errand.IsComposed s) := by
  cases call with
  | create c attributes => exact sendsOnly_create s c attributes
  | update c uid attributes mode =>
    cases c with
    | account => exact sendsOnly_updateAccount s uid attributes mode
    | group => exact sendsOnly_updateGroup s uid attributes mode
    | other what => exact (sendsNothing_throw _).sendsOnly
  | delete c uid => exact sendsOnly_delete s c uid
  | search c filter receiver =>
    refine sendsOnly_bind_ofExcept fun _ _ => sendsOnly_bind_ofExcept fun operand _ => ?_
    cases c with
    | account =>
      exact (accountTable s).sendsOnly_search operand receiver
        (fun name => ⟨.findAccount name, rfl⟩) ⟨.listAccounts, rfl⟩ (sendsOnly_completeAccount s)
    | group =>
      exact (groupTable s).sendsOnly_search operand receiver
        (fun name => ⟨.findGroup name, rfl⟩) ⟨.listGroups, rfl⟩ (sendsOnly_addRule s)
    | other what => exact (sendsNothing_throw _).sendsOnly
  | test =>
    refine (sendsOnly_run ⟨.testSession, rfl⟩).bind fun _ => ?_
    exact (sendsNothing_tell _).sendsOnly

/-! ## Sessions that carry no commands -/

/-- A login is tried on a session of its own, on which nothing is run. -/
theorem sendsNothing_authenticate (c : ObjectClass) (user password : String) :
    (authenticate c user password).SendsNothing := by
  refine (Procedure.sendsNothing_ofExcept _ _).bind fun _ => ?_
  refine (Procedure.sendsNothing_request fun _ => rfl).bind fun answer => ?_
  split
  · exact (sendsNothing_tell _).bind fun _ => sendsNothing_throw _
  · exact sendsNothing_throw _
  · refine (Procedure.sendsNothing_request fun _ => rfl).bind fun ended => ?_
    split
    · exact (sendsNothing_tell _).bind fun _ => (sendsNothing_tell _).bind fun _ =>
        sendsNothing_pure user
    · exact (sendsNothing_tell _).bind fun _ => sendsNothing_pure user

theorem sendsNothing_disconnect : Session.disconnect.SendsNothing := by
  refine (Procedure.sendsNothing_request fun _ => rfl).bind fun answer => ?_
  split
  · exact sendsNothing_pure ()
  · exact sendsNothing_throw _

/-! ## Nothing to change -/

/-- A change of an account that can be composed comes to no command exactly if it is idle. No
operation sends an empty command, whatever it is answered; the trial of a password and the end of
the session send none at all. -/
theorem sent_unless_idle (s : Settings) :
    (∀ (u : AccountUpdate) (script : Option RemoteCommand),
      Recipe.updateAccount? s u = .ok script → (script = none ↔ u.IsIdle s)) ∧
    ∀ ⦃σ : Type⦄ (peer : Dialogue.Peer σ) (start : σ),
      (∀ call : Call, ∀ e ∈ (call.procedure s).exchanges peer start, e.command.text ≠ "") ∧
      (∀ c user password, (authenticate c user password).exchanges peer start = []) ∧
      Session.disconnect.exchanges peer start = [] := by
  refine ⟨fun u script => Recipe.updateAccount?_eq_none_iff, fun σ peer start => ⟨?_, ?_, ?_⟩⟩
  · intro call e he
    exact (sendsOnly_composed s call peer start e he).text_ne_empty
  · intro c user password
    exact (sendsNothing_authenticate c user password).exchanges_eq_nil peer start
  · exact sendsNothing_disconnect.exchanges_eq_nil peer start

/-- Takes an account out of all groups but the one that it is in. -/
def idleUpdate : AccountUpdate where
  username := "svc1"
  attributes := .ofList [⟨AttributeName.groups, [.text " ", .text "ops"]⟩,
    ⟨AttributeName.enable, [.text "perhaps"]⟩, ⟨AttributeName.disableDate, []⟩]
  mode := .removeValues
  currentGroups := ["ops"]
  currentRow := none

/-- The change comes to nothing, and one that renames, moves and locks does not; a removal sends two
commands, neither of them empty. -/
theorem sent_unless_idle_kept_group :
    idleUpdate.IsIdle {} ∧ ¬ sampleUpdate.IsIdle {} ∧
      (((Call.delete .account "svc1").procedure lenientSettings).exchanges Rehearsal.peer
        failingHost).length = 2 ∧
      ∀ e ∈ ((Call.delete .account "svc1").procedure lenientSettings).exchanges Rehearsal.peer
        failingHost, e.command.text ≠ "" := by
  obtain ⟨c, hc⟩ : ∃ c, Recipe.updateAccount? {} sampleUpdate = .ok (some c) := ⟨_, rfl⟩
  refine ⟨((sent_unless_idle {}).1 idleUpdate none rfl).mp rfl, fun hidle => ?_, rfl, ?_⟩
  · cases ((sent_unless_idle {}).1 sampleUpdate (some c) hc).mpr hidle
  · exact ((sent_unless_idle lenientSettings).2 Rehearsal.peer failingHost).1 _

end Provision

end HostAccounts
