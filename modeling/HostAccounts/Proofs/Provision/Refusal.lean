import HostAccounts.Proofs.Provision.FailStop
import HostAccounts.Proofs.Session.Errand

/-!
# Refusals

A request that cannot be met because of what it says should be turned down before anything is sent.
Every operation but one does so. The change of an account checks the names and paths it is given
first, but reads the day on which the account ends only when it is composed, and by then what it
depends on may have been looked up. Main statement: `refusal_sends_nothing_iff`.
-/

set_option autoImplicit false

namespace HostAccounts

open Diagnostics (Operation Overrides)

/-! ## Procedures that only read -/

namespace Procedure

variable {α β σ : Type}

/-- However it is answered, the procedure sends commands that only read. -/
def OnlyReads (t : Procedure α) : Prop :=
  ∀ ⦃σ : Type⦄ (peer : Dialogue.Peer σ) (s : σ), ∀ e ∈ t.exchanges peer s, e.operation = .read

theorem onlyReads_iff {t : Procedure α} :
    t.OnlyReads ↔ t.SendsOnly fun errand => errand.2 = .read :=
  Iff.rfl

theorem SendsNothing.onlyReads {t : Procedure α} (h : t.SendsNothing) : t.OnlyReads :=
  onlyReads_iff.mpr h.sendsOnly

theorem onlyReads_pure (a : α) : OnlyReads (pure a) :=
  (sendsNothing_pure a).onlyReads

theorem OnlyReads.bind {t : Procedure α} {f : α → Procedure β} (ht : t.OnlyReads)
    (hf : ∀ a, (f a).OnlyReads) : OnlyReads (t >>= f) :=
  onlyReads_iff.mpr ((onlyReads_iff.mp ht).bind fun a => onlyReads_iff.mp (hf a))

/-! ## Refusals between two parts -/

variable {d : Overrides} {purpose : Operation → Purpose} {P : α → Prop} {R : β → Prop}

/-- Between two parts that do not blame the caller only the check can, and then nothing was sent but
by the first part. -/
theorem exists_of_refused {γ : Type} {t : Procedure α} {x : α → Except Fault γ}
    {f : α → γ → Procedure β} (ht : t.Proceeds d purpose P Fault.IsBlameless)
    (hf : ∀ a c, P a → (f a c).Proceeds d purpose R Fault.IsBlameless)
    {peer : Dialogue.Peer σ} {s : σ} {fault : Fault}
    (hresult : (Procedure.run peer (t >>= fun a => ofExcept id (x a) >>= f a) s).1 = .error fault)
    (hfault : fault.isCallersDoing = true) :
    (∃ a, x a = .error fault) ∧
      Procedure.exchanges peer (t >>= fun a => ofExcept id (x a) >>= f a) s =
        t.exchanges peer s := by
  rw [run_bind] at hresult
  rw [exchanges_bind]
  cases ha : (t.run peer s).1 with
  | error fault' =>
    rw [ha] at hresult
    obtain rfl := Except.error.inj hresult
    rw [ht.isCallersDoing_eq_false ha] at hfault
    cases hfault
  | ok a =>
    simp only [ha] at hresult ⊢
    cases hc : x a with
    | error fault' =>
      rw [hc] at hresult
      obtain rfl := Except.error.inj hresult
      exact ⟨⟨a, hc⟩, List.append_nil _⟩
    | ok c =>
      rw [hc] at hresult
      have hblameless := (hf a c (ht.of_run_eq_ok ha)).isCallersDoing_eq_false hresult
      rw [hblameless] at hfault
      cases hfault

end Procedure

namespace Session

theorem exchanges_read_ne_nil {σ : Type} (d : Overrides) (command : RemoteCommand)
    (peer : Dialogue.Peer σ) (s : σ) : (read d command).exchanges peer s ≠ [] := by
  obtain ⟨answer, hexchanges, -⟩ :=
    exists_answer_run peer d command .read "Could not read host database" "" s
  rw [read, hexchanges]
  exact List.cons_ne_nil _ _

theorem onlyReads_read (d : Overrides) (command : RemoteCommand) : (read d command).OnlyReads := by
  refine Procedure.onlyReads_iff.mpr ((sends_read d command).sendsOnly fun errand herrand => ?_)
  rw [List.mem_singleton.mp herrand]
  rfl

end Session

namespace Provision

open Procedure (exchanges_bind onlyReads_pure sendsNothing_pure sendsNothing_throw)
open Session (exchanges_read_ne_nil onlyReads_read sendsNothing_rows)

variable {s : Settings} {σ : Type} {peer : Dialogue.Peer σ} {start : σ} {username : String}
  {attributes : AttributeSet} {mode : UpdateMode}

/-! ## Reading ahead -/

theorem onlyReads_fetchAccount : (fetchAccount s username).OnlyReads := by
  refine (onlyReads_read _ _).bind fun output => ?_
  refine (sendsNothing_rows _).onlyReads.bind fun rows => ?_
  split
  · exact onlyReads_pure _
  · exact (sendsNothing_throw _).onlyReads

theorem onlyReads_fetchGroups : (fetchGroups s username).OnlyReads := by
  refine (onlyReads_read _ _).bind fun output => ?_
  exact (sendsNothing_rows _).onlyReads.bind fun rows => onlyReads_pure _

theorem onlyReads_readAhead : (readAhead s username attributes mode).OnlyReads := by
  refine Procedure.OnlyReads.bind ?_ fun row => Procedure.OnlyReads.bind ?_ fun groups =>
    onlyReads_pure _
  · unfold readRow
    split
    · rw [map_eq_pure_bind]
      exact onlyReads_fetchAccount.bind fun row => onlyReads_pure _
    · exact onlyReads_pure _
  · unfold readGroups
    split
    · exact onlyReads_fetchGroups
    · exact onlyReads_pure _

/-- Something is read ahead exactly if the change depends on it. -/
theorem exchanges_readAhead_eq_nil_iff :
    (readAhead s username attributes mode).exchanges peer start = [] ↔
      (needsRow s username attributes mode || needsGroups attributes mode) = false := by
  have hgroups : ∀ next, (readGroups s username attributes mode).exchanges peer next = [] ↔
      needsGroups attributes mode = false := by
    intro next
    unfold readGroups
    cases needsGroups attributes mode with
    | false => exact iff_of_true rfl rfl
    | true =>
      refine iff_of_false (fun hnil => ?_) (by simp)
      simp only [reduceIte, fetchGroups, exchanges_bind] at hnil
      exact exchanges_read_ne_nil _ _ _ _ (List.append_eq_nil_iff.mp hnil).1
  unfold readAhead readRow
  cases needsRow s username attributes mode with
  | true =>
    refine iff_of_false (fun hnil => ?_) (by simp)
    simp only [reduceIte, map_eq_pure_bind, fetchAccount, exchanges_bind,
      List.append_eq_nil_iff] at hnil
    exact exchanges_read_ne_nil _ _ _ _ hnil.1.1.1
  | false =>
    rw [Bool.false_or, ← hgroups start]
    simp only [Bool.false_eq_true, reduceIte, pure_bind, exchanges_bind]
    split <;> simp [(sendsNothing_pure _).exchanges_eq_nil]

/-! ## What is turned down when it is composed -/

/-- The fault is that the day on which the account ends is no day. -/
def IsBadDate (fault : Fault) : Prop :=
  ∃ defect, fault = .invalidArgument (.badDate AttributeName.disableDate defect)

theorem exists_of_disableDate_eq_error {defect : ArgumentDefect}
    (h : Recipe.disableDate s attributes = .error defect) :
    ∃ d, defect = .badDate AttributeName.disableDate d := by
  unfold Recipe.disableDate at h
  split at h
  · split at h
    · cases h
    · exact ⟨_, (Except.error.inj h).symm⟩
  · cases h

theorem exists_of_expirySteps_eq_error {user : String} {defect : ArgumentDefect}
    (h : Recipe.expirySteps s user attributes = .error defect) :
    ∃ d, defect = .badDate AttributeName.disableDate d := by
  unfold Recipe.expirySteps at h
  split at h
  · cases h
  · exact exists_of_disableDate_eq_error (eq_error_of_map_eq_error h)
  · split at h
    · exact exists_of_disableDate_eq_error (eq_error_of_map_eq_error h)
    · cases h

theorem isBadDate_of_activationSteps {user : String} {fault : Fault}
    (h : Recipe.activationSteps s user attributes = .error fault) : IsBadDate fault := by
  unfold Recipe.activationSteps at h
  split at h
  · cases h
  · next defect hdefect =>
    obtain ⟨d, rfl⟩ := exists_of_expirySteps_eq_error hdefect
    exact ⟨d, (Except.error.inj h).symm⟩

/-- Accounts have rule files, so there is nothing in their keys and rules to turn down. -/
theorem grantOrRevokeSteps_ne_error {u : AccountUpdate} {fault : Fault} :
    Recipe.grantOrRevokeSteps s u ≠ .error fault := by
  intro h
  unfold Recipe.grantOrRevokeSteps Recipe.grantSupplied Recipe.revokeSupplied at h
  split at h
  · split at h <;> cases h
  · split at h <;> cases h

/-- A change is composed unless its date is bad or the row that it depends on is missing. -/
theorem isBadDate_or_rowless_of_updateAccount? {u : AccountUpdate} {fault : Fault}
    (h : Recipe.updateAccount? s u = .error fault) :
    IsBadDate fault ∨ u.currentRow = none ∧
      (u.isRename || (u.fields s.fieldNames).homeDirectory.isSome) = true ∧
      fault = .unknownTarget u.username := by
  rcases eq_error_or_exists_of_bind_eq_error (eq_error_of_map_eq_error h) with h | ⟨_, -, h⟩
  · exact .inl (isBadDate_of_activationSteps h)
  rcases eq_error_or_exists_of_bind_eq_error h with h | ⟨_, -, h⟩
  · unfold Recipe.followUpSteps at h
    simp only at h
    split at h
    · next hneeded =>
      cases hrow : u.currentRow with
      | none =>
        rw [hrow] at h
        exact .inr ⟨rfl, hneeded, (Except.error.inj h).symm⟩
      | some row =>
        rw [hrow] at h
        cases h
    · cases h
  · rcases eq_error_or_exists_of_bind_eq_error h with h | ⟨_, -, h⟩
    · exact absurd h grantOrRevokeSteps_ne_error
    · cases h

theorem isBadDate_of_updateAccount? {u : AccountUpdate} {fault : Fault}
    (h : Recipe.updateAccount? s u = .error fault) (hfault : fault.isCallersDoing = true) :
    IsBadDate fault := by
  refine (isBadDate_or_rowless_of_updateAccount? h).resolve_right ?_
  -- A missing row is not the caller's doing.
  rintro ⟨-, -, rfl⟩
  cases hfault

/-! ## Refusals -/

/-- The call passes its checks, and then something is looked up before it is composed. -/
def Call.ReadsAhead (s : Settings) : Call → Prop
  | update .account uid attributes mode =>
    requireUid uid = .ok uid ∧ checkAttributes .account s.fieldNames attributes = .ok () ∧
      (needsRow s uid attributes mode || needsGroups attributes mode) = true
  | _ => False

theorem updateAccount_of_checked {uid : String} (huid : requireUid uid = .ok uid)
    (hattributes : checkAttributes .account s.fieldNames attributes = .ok ()) :
    updateAccount s uid attributes mode = (readAhead s uid attributes mode >>= fun u =>
      Procedure.ofExcept id (Recipe.updateAccount? s u) >>= carryOut s u) := by
  rw [updateAccount, huid, hattributes]
  rfl

/-- A change that does not pass the checks comes to nothing but a fault. -/
theorem exists_updateAccount_eq_throw {uid : String}
    (h : ¬ (requireUid uid = .ok uid ∧ checkAttributes .account s.fieldNames attributes = .ok ())) :
    ∃ fault, updateAccount s uid attributes mode = throw fault := by
  unfold updateAccount
  cases huid : requireUid uid with
  | error fault => exact ⟨fault, rfl⟩
  | ok name =>
    cases hattributes : checkAttributes .account s.fieldNames attributes with
    | error fault => exact ⟨fault, rfl⟩
    | ok u =>
      obtain rfl := requireUid_eq_ok huid
      exact absurd ⟨huid, hattributes⟩ h

/-- Before the checks have passed nothing is sent. -/
theorem exchanges_updateAccount_of_not_checked {uid : String}
    (h : ¬ (requireUid uid = .ok uid ∧ checkAttributes .account s.fieldNames attributes = .ok ())) :
    (updateAccount s uid attributes mode).exchanges peer start = [] := by
  obtain ⟨fault, hthrow⟩ : ∃ fault, updateAccount s uid attributes mode = throw fault :=
    exists_updateAccount_eq_throw h
  rw [hthrow]
  exact (sendsNothing_throw fault).exchanges_eq_nil peer start

/-- The change of an account that is turned down has sent nothing but what it reads ahead, and if it
reads ahead then it is turned down for its date. -/
theorem refused_updateAccount {uid : String} {fault : Fault}
    (hresult : ((updateAccount s uid attributes mode).run peer start).1 = .error fault)
    (hfault : fault.isCallersDoing = true) :
    ((updateAccount s uid attributes mode).exchanges peer start = [] ↔
        ¬ (Call.update .account uid attributes mode).ReadsAhead s) ∧
      ((Call.update .account uid attributes mode).ReadsAhead s → IsBadDate fault ∧
        ∀ e ∈ (updateAccount s uid attributes mode).exchanges peer start, e.operation = .read) := by
  by_cases hchecked : requireUid uid = .ok uid ∧
      checkAttributes .account s.fieldNames attributes = .ok ()
  · have hread := Call.purpose_read (.update .account uid attributes mode)
    rw [updateAccount_of_checked hchecked.1 hchecked.2] at hresult ⊢
    obtain ⟨⟨u, hu⟩, hexchanges⟩ := Procedure.exists_of_refused (proceeds_readAhead hread)
      (fun _ script hasked => proceeds_carryOut hasked.1 script) hresult hfault
    rw [hexchanges, exchanges_readAhead_eq_nil_iff]
    refine ⟨?_, fun _ => ⟨isBadDate_of_updateAccount? hu hfault, onlyReads_readAhead peer start⟩⟩
    rw [← Bool.not_eq_true]
    exact not_congr ⟨fun h => ⟨hchecked.1, hchecked.2, h⟩, fun h => h.2.2⟩
  · have hahead : ¬ (Call.update .account uid attributes mode).ReadsAhead s :=
      fun h => hchecked ⟨h.1, h.2.1⟩
    exact ⟨iff_of_true (exchanges_updateAccount_of_not_checked hchecked) hahead,
      fun h => absurd h hahead⟩

/-- An operation that ends in a fault of the caller has sent nothing, unless it is the change of an
account that depends on what the host says. Such a change is turned down for the day on which the
account ends, and has sent lookups only. -/
theorem refusal_sends_nothing_iff (s : Settings) (call : Call) {σ : Type} (peer : Dialogue.Peer σ)
    (start : σ) {fault : Fault}
    (hresult : ((call.procedure s).run peer start).1 = .error fault)
    (hfault : fault.isCallersDoing = true) :
    ((call.procedure s).exchanges peer start = [] ↔ ¬ call.ReadsAhead s) ∧
      (call.ReadsAhead s →
        (∃ defect, fault = .invalidArgument (.badDate AttributeName.disableDate defect)) ∧
          ∀ e ∈ (call.procedure s).exchanges peer start, e.operation = .read) := by
  have hearly : ¬ call.ReadsAhead s → (call.procedure s).exchanges peer start = [] →
      ((call.procedure s).exchanges peer start = [] ↔ ¬ call.ReadsAhead s) ∧
        (call.ReadsAhead s → IsBadDate fault ∧
          ∀ e ∈ (call.procedure s).exchanges peer start, e.operation = .read) :=
    fun hahead hnil => ⟨iff_of_true hnil hahead, fun h => absurd h hahead⟩
  cases call with
  | create c attributes =>
    exact hearly id ((orderly_create s c attributes).early peer start fault hresult hfault)
  | update c uid attributes mode =>
    cases c with
    | account => exact refused_updateAccount hresult hfault
    | group =>
      exact hearly id
        ((orderly_updateGroup s uid attributes mode).early peer start fault hresult hfault)
    | other what => exact hearly id rfl
  | delete c uid =>
    exact hearly id ((orderly_delete s c uid).early peer start fault hresult hfault)
  | search c filter receiver =>
    exact hearly id ((orderly_search s c filter receiver).early peer start fault hresult hfault)
  | test => exact hearly id ((orderly_testSession s).early peer start fault hresult hfault)

/-! ## A date that is no day -/

/-- A new name, and an end of the account that is no day. -/
def undatedAttributes : AttributeSet :=
  .ofList [⟨AttributeName.name, [.text "svc2"]⟩, ⟨AttributeName.disableDate, [.text "soon"]⟩]

/-- A host with one account, on which the connection holds. -/
def workingHost : Rehearsal where
  script := { failingHost.script with outage := none }

/-- A host that answers every request as it does the first. -/
def steadyHost (start : Rehearsal) : Dialogue.Peer Unit :=
  fun r _ => ((Rehearsal.peer r start).1, ())

/-- The same attributes are turned down before anything is sent if they are to create an account,
and after a lookup if they are to rename one. -/
theorem refusal_sends_nothing_iff_undated :
    ((Call.create .account undatedAttributes).procedure lenientSettings).exchanges Rehearsal.peer
        workingHost = [] ∧
      ((Call.update .account "svc1" undatedAttributes .replace).procedure
        lenientSettings).exchanges Rehearsal.peer workingHost ≠ [] := by
  have hcreate := refusal_sends_nothing_iff lenientSettings (.create .account undatedAttributes)
    Rehearsal.peer workingHost rfl rfl
  have hupdate := refusal_sends_nothing_iff lenientSettings
    (.update .account "svc1" undatedAttributes .replace) Rehearsal.peer workingHost rfl rfl
  refine ⟨hcreate.1.mpr id, fun hnil => hupdate.1.mp hnil ⟨rfl, rfl, rfl⟩⟩

/-- To be turned down is not to have sent nothing. -/
theorem not_refusal_sends_nothing :
    ¬ ∀ s : Settings, s.check = .ok () → ∀ (call : Call) {σ : Type} (peer : Dialogue.Peer σ)
      (start : σ) (fault : Fault), ((call.procedure s).run peer start).1 = .error fault →
        fault.isCallersDoing = true → (call.procedure s).exchanges peer start = [] := by
  intro h
  have hnil := h lenientSettings rfl (.update .account "svc1" undatedAttributes .replace)
    Rehearsal.peer workingHost _ rfl rfl
  cases hnil

end Provision

end HostAccounts
