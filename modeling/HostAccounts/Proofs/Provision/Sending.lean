import HostAccounts.Proofs.Provision.Refusal
import HostAccounts.Proofs.Session.Errand

/-!
# What operations send

An operation that changes something is turned down, or fails for want of its target, before it has
sent anything but lookups; or else it is composed, and then it fails only if one of its commands
does. So as long as all commands succeed there are two ways that it can go, which one statement for
each operation tells apart by what is sent. Main statements: `goes_createAccount`,
`goes_deleteAccount`, `goes_updateAccount`, `goes_updateGroup`.
-/

set_option autoImplicit false

namespace HostAccounts

open Diagnostics (Operation Overrides)

namespace Session

theorem carries_runOptional (d : Overrides) (command : Option RemoteCommand) (operation : Operation)
    (failure target : String) :
    (runOptional d command operation failure target).Carries d
      (Errand.optional command operation) () := by
  cases command with
  | none => exact Procedure.carries_pure ()
  | some c => exact carries_run d c operation failure target

theorem sends_runOptional (d : Overrides) (command : Option RemoteCommand) (operation : Operation)
    (failure target : String) :
    (runOptional d command operation failure target).Sends (Errand.optional command operation) := by
  cases command with
  | none => exact Procedure.sends_pure ()
  | some c => exact (sends_run d c operation failure target).bind_pure fun _ => ()

end Session

namespace Provision

open Procedure (Sends carries_tell goes_bind_ofExcept sends_pure sends_tell sends_throw)
open Session (carries_run carries_runOptional sends_read sends_rows sends_runOptional)

variable {s : Settings}

/-! ## Creations -/

theorem carries_carryOutCreation (s : Settings) (c : AccountCreation) :
    (carryOutCreation s c).Carries s.diagnostics
      ((c.create, .useradd) ::
        (Errand.optional c.password .passwd ++ Errand.optional c.activation .usermod))
      c.username := by
  exact (carries_tell _).bind <| (carries_run s.diagnostics c.create .useradd _ _).bind <|
    (carries_runOptional ..).bind <| (carries_runOptional ..).bind_pure fun _ => c.username

theorem sends_carryOutCreation (s : Settings) (c : AccountCreation) :
    (carryOutCreation s c).Sends ((c.create, .useradd) ::
      (Errand.optional c.password .passwd ++ Errand.optional c.activation .usermod)) := by
  have hcreate := sends_runOptional s.diagnostics (some c.create) .useradd "Could not create user"
    c.username
  exact (sends_tell _).bind fun _ => hcreate.bind fun _ =>
    (sends_runOptional ..).bind fun _ => (sends_runOptional ..).bind_pure fun _ => c.username

/-- A creation is turned down with nothing sent, or sends what was composed. -/
theorem goes_createAccount (s : Settings) (attributes : AttributeSet) :
    (createAccount s attributes).Goes s.diagnostics fun errands result =>
      (∃ fault, result = .error fault ∧ errands = []) ∨
      ∃ c, composeAccount s attributes = .ok c ∧ result = .ok c.username ∧
        errands = (c.create, .useradd) ::
          (Errand.optional c.password .passwd ++ Errand.optional c.activation .usermod) := by
  refine goes_bind_ofExcept (fun fault _ => .inl ⟨fault, rfl, rfl⟩) fun c hc => ?_
  exact (carries_carryOutCreation s c).goes (.inr ⟨c, hc, rfl, rfl⟩)

/-! ## Removals -/

theorem carryOutRemoval_of_blank {c : ObjectClass} {name found : String} {removal : Removal}
    (h : Text.isBlankText found = true) :
    carryOutRemoval s c name removal found = (do
      Procedure.tell (.nothingToDelete c name)
      throw (.unknownTarget name)) := by
  unfold carryOutRemoval
  rw [if_pos h]
  rfl

theorem carryOutRemoval_of_found {c : ObjectClass} {name found : String} {removal : Removal}
    (h : Text.isBlankText found = false) :
    carryOutRemoval s c name removal found = (do
      Procedure.tell (.deleting c name)
      discard <| Session.run s.diagnostics removal.command removal.operation removal.failure
        name) := by
  unfold carryOutRemoval
  rw [h]
  rfl

/-- A removal is turned down with nothing sent, looks its target up in vain, or removes it. -/
theorem goes_deleteAccount (s : Settings) (uid : String) :
    (delete s .account uid).Goes s.diagnostics fun errands result =>
      (∃ fault, result = .error fault ∧ errands <+: [Errand.lookup (Recipe.findAccount uid)]) ∨
      ∃ command, Recipe.deleteAccount s uid = .ok command ∧ result = .ok () ∧
        errands = [Errand.lookup (Recipe.findAccount uid), (command, .userdel)] := by
  refine goes_bind_ofExcept (fun fault _ => .inl ⟨fault, rfl, List.nil_prefix⟩) fun name hname => ?_
  obtain rfl := requireUid_eq_ok hname
  refine goes_bind_ofExcept (fun fault _ => .inl ⟨fault, rfl, List.nil_prefix⟩)
    fun removal hremoval => ?_
  obtain ⟨command, hcommand, hremoval⟩ := exists_of_bind_eq_ok hremoval
  obtain rfl := Except.ok.inj hremoval
  refine (sends_read _ _).goes_bind (fun _ fault hlookups => .inl ⟨fault, rfl, hlookups⟩)
    fun {_ _ _ found} _ => ?_
  cases hblank : Text.isBlankText found with
  | true =>
    rw [carryOutRemoval_of_blank hblank]
    exact fun _ _ _ _ => .inl ⟨.unknownTarget name, rfl, List.prefix_rfl⟩
  | false =>
    rw [carryOutRemoval_of_found hblank]
    exact ((carries_tell _).bind (carries_run ..)).goes (.inr ⟨command, hcommand, rfl, rfl⟩)

/-! ## Changes -/

/-- What a change of an account looks up. -/
def lookupsAhead (s : Settings) (user : String) (attributes : AttributeSet) (mode : UpdateMode) :
    List RemoteCommand :=
  (if needsRow s user attributes mode then [Recipe.findAccount user] else []) ++
    if needsGroups attributes mode then [Recipe.readMemberships user] else []

theorem sends_fetchAccount (s : Settings) (user : String) :
    (fetchAccount s user).Sends [.lookup (Recipe.findAccount user)] := by
  refine (sends_read _ _).bind fun _ => (sends_rows _).bind fun _ => ?_
  split
  · exact sends_pure _
  · exact sends_throw _

theorem sends_fetchGroups (s : Settings) (user : String) :
    (fetchGroups s user).Sends [.lookup (Recipe.readMemberships user)] :=
  (sends_read _ _).bind fun _ => (sends_rows _).bind fun _ => sends_pure _

theorem sends_readAhead (s : Settings) (user : String) (attributes : AttributeSet)
    (mode : UpdateMode) :
    (readAhead s user attributes mode).Sends
      ((lookupsAhead s user attributes mode).map Errand.lookup) := by
  unfold lookupsAhead
  rw [List.map_append,
    ← List.append_nil (List.map Errand.lookup (if needsGroups _ _ then _ else _))]
  refine Sends.bind ?_ fun _ => Sends.bind ?_ fun _ => sends_pure _
  · unfold readRow
    split
    · rw [map_eq_pure_bind]
      exact (sends_fetchAccount s user).bind fun _ => sends_pure _
    · exact sends_pure _
  · unfold readGroups
    split
    · exact sends_fetchGroups s user
    · exact sends_pure _

theorem carries_carryOut (s : Settings) (u : AccountUpdate) (script : Option RemoteCommand) :
    (carryOut s u script).Carries s.diagnostics
      (Errand.optional script .usermod ++
        Errand.optional (passwordCommand? s u.newName u.attributes u.mode) .passwd) u.newName := by
  exact (carries_tell _).bind <| (carries_runOptional ..).bind <|
    (carries_runOptional ..).bind_pure fun _ => u.newName

/-- The change of an account is turned down or fails while it looks things up, or sends what was
composed from what it found. -/
theorem goes_updateAccount (s : Settings) (uid : String) (attributes : AttributeSet)
    (mode : UpdateMode) :
    (updateAccount s uid attributes mode).Goes s.diagnostics fun errands result =>
      (∃ fault, result = .error fault ∧
        errands <+: (lookupsAhead s uid attributes mode).map Errand.lookup) ∨
      ∃ u script, IsAsked uid attributes mode u ∧
        (∀ row, u.currentRow = some row → row.username = u.username) ∧
        Recipe.updateAccount? s u = .ok script ∧ result = .ok u.newName ∧
        errands = (lookupsAhead s uid attributes mode).map Errand.lookup ++
          (Errand.optional script .usermod ++
            Errand.optional (passwordCommand? s u.newName u.attributes u.mode) .passwd) := by
  refine goes_bind_ofExcept (fun fault _ => .inl ⟨fault, rfl, List.nil_prefix⟩) fun name hname => ?_
  obtain rfl := requireUid_eq_ok hname
  refine goes_bind_ofExcept (fun fault _ => .inl ⟨fault, rfl, List.nil_prefix⟩) fun _ _ => ?_
  refine (sends_readAhead s name attributes mode).goes_bind
    (fun _ fault hlookups => .inl ⟨fault, rfl, hlookups⟩) fun {_ _ _ u} hu => ?_
  obtain ⟨hasked, hrow⟩ := (proceeds_readAhead
    (Call.purpose_read (.update .account name attributes mode))).of_run_eq_ok hu
  refine goes_bind_ofExcept (fun fault _ => .inl ⟨fault, rfl, ?_⟩) fun script hscript => ?_
  · simp
  · exact (carries_carryOut s u script).goes (.inr ⟨u, script, hasked, hrow, hscript, rfl, rfl⟩)

theorem carries_carryOutGroup (s : Settings) (u : GroupUpdate) (script : Option RemoteCommand) :
    (carryOutGroup s u script).Carries s.diagnostics (Errand.optional script .groupmod)
      u.newName := by
  exact (carries_tell _).bind <| (carries_runOptional ..).bind_pure fun _ => u.newName

/-- The change of a group is turned down with nothing sent, or sends what was composed. -/
theorem goes_updateGroup (s : Settings) (uid : String) (attributes : AttributeSet)
    (mode : UpdateMode) :
    (updateGroup s uid attributes mode).Goes s.diagnostics fun errands result =>
      (∃ fault, result = .error fault ∧ errands = []) ∨
      ∃ script, Recipe.updateGroup? s ⟨uid, attributes, mode⟩ = .ok script ∧
        result = .ok (GroupUpdate.newName ⟨uid, attributes, mode⟩) ∧
        errands = Errand.optional script .groupmod := by
  refine goes_bind_ofExcept (fun fault _ => .inl ⟨fault, rfl, rfl⟩) fun name hname => ?_
  obtain rfl := requireUid_eq_ok hname
  refine goes_bind_ofExcept (fun fault _ => .inl ⟨fault, rfl, rfl⟩) fun _ _ => ?_
  refine goes_bind_ofExcept (fun fault _ => .inl ⟨fault, rfl, rfl⟩) fun script hscript => ?_
  exact (carries_carryOutGroup s ⟨name, attributes, mode⟩ script).goes
    (.inr ⟨script, hscript, rfl, rfl⟩)

end Provision

end HostAccounts
