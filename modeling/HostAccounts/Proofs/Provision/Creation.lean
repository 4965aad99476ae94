import HostAccounts.Proofs.Provision.Checks
import HostAccounts.Proofs.Provision.Sending

/-!
# Creation in order

An account is created by up to three commands: its script, its password, and what is said on its
use. Either all of them can be composed, and are sent in this order, each once the one before it has
succeeded; or nothing is sent. Main statement: `createAccount_dispatches`.
-/

set_option autoImplicit false

namespace HostAccounts

open Diagnostics (Operation)

/-! ## What a creation needs -/

/-- The day on which the account ends is asked for: the account is disabled, or a day is given for
an account of which it is not said whether it may be used. -/
def AttributeSet.AsksForDate (attributes : AttributeSet) : Prop :=
  attributes.flag? AttributeName.enable = some false ∨
    attributes.flag? AttributeName.enable = none ∧
      attributes.isPresent AttributeName.disableDate = true

/-- The day that is given is one, if it is asked for. -/
def AttributeSet.HasGoodDate (attributes : AttributeSet) : Prop :=
  attributes.AsksForDate → ∀ value, attributes.text? AttributeName.disableDate = some value →
    ∃ date, Date.ofRequest value = .ok date

/-- An account of this name can be created with the attributes: all that they name is named well. -/
structure AttributeSet.IsCreatable (names : FieldNames) (attributes : AttributeSet)
    (name : String) : Prop where
  named : attributes.name? = some name
  name : checkName AttributeName.name name = .ok ()
  home : ∀ home, attributes.text? names.homeDirectory = some home →
    checkPath names.homeDirectory home = .ok ()
  shell : ∀ shell, attributes.text? names.shell = some shell → checkPath names.shell shell = .ok ()
  groups : ∀ group ∈ attributes.texts AttributeName.groups,
    checkName AttributeName.groups group = .ok ()
  date : attributes.HasGoodDate

namespace Recipe

variable {s : Settings} {attributes : AttributeSet} {user : String}

theorem not_exists_error {ε α : Type} (e : ε) : ¬ ∃ a, (.error e : Except ε α) = .ok a :=
  fun ⟨_, h⟩ => nomatch h

theorem exists_disableDate_iff : (∃ date, disableDate s attributes = .ok date) ↔
    ∀ value, attributes.text? AttributeName.disableDate = some value →
      ∃ date, Date.ofRequest value = .ok date := by
  unfold disableDate
  cases attributes.text? AttributeName.disableDate with
  | none => exact iff_of_true ⟨_, rfl⟩ nofun
  | some value =>
    simp only [Option.some.injEq, forall_eq']
    cases Date.ofRequest value with
    | error defect => exact iff_of_false (not_exists_error _) (not_exists_error _)
    | ok date => exact iff_of_true ⟨_, rfl⟩ ⟨_, rfl⟩

theorem exists_expirySteps_iff :
    (∃ p, expirySteps s user attributes = .ok p) ↔ attributes.HasGoodDate := by
  have hexpire : (∃ p, ((disableDate s attributes).map fun date =>
      [Intent.run (Primitive.expire user date)]) = .ok p) ↔
        ∃ date, disableDate s attributes = .ok date := by
    cases disableDate s attributes with
    | error defect => exact iff_of_false (not_exists_error _) (not_exists_error _)
    | ok date => exact iff_of_true ⟨_, rfl⟩ ⟨_, rfl⟩
  unfold expirySteps AttributeSet.HasGoodDate AttributeSet.AsksForDate
  cases attributes.flag? AttributeName.enable with
  | none =>
    cases attributes.isPresent AttributeName.disableDate with
    | false => exact iff_of_true ⟨_, rfl⟩ (by simp)
    | true => simpa using hexpire.trans exists_disableDate_iff
  | some enabled =>
    cases enabled with
    | false => simpa using hexpire.trans exists_disableDate_iff
    | true => exact iff_of_true ⟨_, rfl⟩ (by simp)

/-- Nothing but a day that is none keeps from composing what is said on the use of an account. -/
theorem exists_activation?_iff :
    (∃ command, activation? s user attributes = .ok command) ↔ attributes.HasGoodDate := by
  refine Iff.trans ?_ (exists_expirySteps_iff : (∃ p, expirySteps s user attributes = .ok p) ↔ _)
  unfold activation? activationSteps
  cases expirySteps s user attributes with
  | error defect => exact iff_of_false (not_exists_error _) (not_exists_error _)
  | ok p => exact iff_of_true ⟨_, rfl⟩ ⟨_, rfl⟩

theorem exists_createAccount (s : Settings) (user : String) (attributes : AttributeSet) :
    ∃ command, createAccount s user attributes = .ok command := by
  unfold createAccount createAccountSteps grantSupplied
  cases attributes.text? AttributeName.permissions <;> exact ⟨_, rfl⟩

end Recipe

namespace Provision

open Procedure (Dispatches)

variable {s : Settings} {attributes : AttributeSet} {name : String}

/-- The password to be given to the account; an empty one is none. -/
def suppliedPassword? (attributes : AttributeSet) : Option String :=
  (attributes.secret? AttributeName.password).filter fun p => !p.isEmpty

/-- What is sent to create an account, in order. -/
def creationErrands (s : Settings) (name : String) (attributes : AttributeSet) :
    Except Fault (List Errand) := do
  let create ← Recipe.createAccount s name attributes
  let activation ← Recipe.activation? s name attributes
  let password := (suppliedPassword? attributes).map (Recipe.setPassword s name)
  return [(create, .useradd)] ++ Errand.optional password .passwd ++
    Errand.optional activation .usermod

/-- What can be created can be composed. -/
theorem exists_composeAccount (h : attributes.IsCreatable s.fieldNames name) :
    ∃ c, composeAccount s attributes = .ok c ∧ c.username = name ∧
      creationErrands s name attributes = .ok ((c.create, .useradd) ::
        (Errand.optional c.password .passwd ++ Errand.optional c.activation .usermod)) := by
  obtain ⟨create, hcreate⟩ := Recipe.exists_createAccount s name attributes
  obtain ⟨activation, hactivation⟩ :
      ∃ command, Recipe.activation? s name attributes = .ok command :=
    Recipe.exists_activation?_iff.mpr h.date
  have hname := requireName_eq_ok_iff.mpr ⟨h.named, h.name⟩
  have hattributes : checkAttributes .account s.fieldNames attributes = .ok () := by
    refine checkAttributes_account_eq_ok_iff.mpr ⟨fun other hother => ?_, h.home, h.shell, h.groups⟩
    rw [← Option.some.inj (h.named.symm.trans hother)]
    exact h.name
  let c : AccountCreation :=
    ⟨name, create, (suppliedPassword? attributes).map (Recipe.setPassword s name), activation⟩
  have hcompose : composeAccount s attributes = .ok c := by
    simp only [composeAccount, hname, hattributes, hcreate, hactivation, bind, Except.bind]
    rfl
  have herrands : creationErrands s name attributes = .ok ((c.create, .useradd) ::
      (Errand.optional c.password .passwd ++ Errand.optional c.activation .usermod)) := by
    simp only [creationErrands, hcreate, hactivation, bind, Except.bind]
    rfl
  exact ⟨c, hcompose, rfl, herrands⟩

theorem isCreatable_of_composeAccount {c : AccountCreation}
    (h : composeAccount s attributes = .ok c) : attributes.IsCreatable s.fieldNames c.username := by
  obtain ⟨username, hname, h⟩ := exists_of_bind_eq_ok h
  obtain ⟨⟨⟩, hattributes, h⟩ := exists_of_bind_eq_ok h
  obtain ⟨create, -, h⟩ := exists_of_bind_eq_ok h
  obtain ⟨activation, hactivation, h⟩ := exists_of_bind_eq_ok h
  obtain rfl := Except.ok.inj h
  obtain ⟨hnamed, hgood⟩ := requireName_eq_ok_iff.mp hname
  obtain ⟨-, hhome, hshell, hgroups⟩ := checkAttributes_account_eq_ok_iff.mp hattributes
  exact ⟨hnamed, hgood, hhome, hshell, hgroups, Recipe.exists_activation?_iff.mp ⟨_, hactivation⟩⟩

/-- If an account can be created with the attributes, its script, its password and what is said on
its use can all be composed. They are sent in this order, each once the one before it has succeeded,
and the name is returned exactly if all were sent and succeeded. If no account can be created with
them, nothing is sent and the creation fails. -/
theorem createAccount_dispatches (s : Settings) (attributes : AttributeSet) {σ : Type}
    (peer : Dialogue.Peer σ) (start : σ) :
    (∀ name, attributes.IsCreatable s.fieldNames name →
      ∃ errands, creationErrands s name attributes = .ok errands ∧
        Dispatches s.diagnostics errands name
          ((create s .account attributes).exchanges peer start)
          ((create s .account attributes).run peer start).1) ∧
    ((¬ ∃ name, attributes.IsCreatable s.fieldNames name) →
      (create s .account attributes).exchanges peer start = [] ∧
        ∃ fault, ((create s .account attributes).run peer start).1 = .error fault) := by
  have hcreate : create s .account attributes =
      Procedure.ofExcept id (composeAccount s attributes) >>= carryOutCreation s := rfl
  constructor
  · intro name h
    obtain ⟨c, hc, rfl, herrands⟩ := exists_composeAccount h
    have hcarryOut : create s .account attributes = carryOutCreation s c := by
      rw [hcreate, hc]
      rfl
    have hproceeds := (orderly_createAccount s attributes).course
    rw [show createAccount s attributes = carryOutCreation s c from hcarryOut] at hproceeds
    rw [hcarryOut]
    exact ⟨_, herrands, (sends_carryOutCreation s c).dispatches (carries_carryOutCreation s c)
      hproceeds peer start⟩
  · intro h
    cases hc : composeAccount s attributes with
    | ok c => exact absurd ⟨_, isCreatable_of_composeAccount hc⟩ h
    | error fault =>
      rw [hcreate, hc]
      exact ⟨rfl, fault, rfl⟩

/-- The account `svc1`, with a password, but locked. -/
def lockedAttributes : AttributeSet :=
  .ofList [⟨AttributeName.name, [.text "svc1"]⟩, ⟨AttributeName.password, [.secret "s3cret"]⟩,
    ⟨AttributeName.lockOut, [.flag true]⟩]

theorem isCreatable_lockedAttributes (names : FieldNames)
    (hhome : lockedAttributes.text? names.homeDirectory = none)
    (hshell : lockedAttributes.text? names.shell = none) :
    lockedAttributes.IsCreatable names "svc1" where
  named := by decide +kernel
  name := by decide +kernel
  home := fun _ h => nomatch hhome.symm.trans h
  shell := fun _ h => nomatch hshell.symm.trans h
  groups := nofun
  date := by
    rintro (h | ⟨-, h⟩)
    · exact absurd h (by decide +kernel)
    · exact absurd h (by decide +kernel)

/-- Three commands would create the account; the connection breaks down before the second one. In
want of a name nothing is sent. -/
theorem createAccount_dispatches_svc1 :
    (∃ errands, creationErrands lenientSettings "svc1" lockedAttributes = .ok errands ∧
      errands.map Prod.snd = [.useradd, .passwd, .usermod] ∧
      Dispatches lenientSettings.diagnostics errands "svc1"
        ((create lenientSettings .account lockedAttributes).exchanges Rehearsal.peer failingHost)
        ((create lenientSettings .account lockedAttributes).run Rehearsal.peer failingHost).1) ∧
    (create lenientSettings .account .empty).exchanges Rehearsal.peer failingHost = [] := by
  constructor
  · obtain ⟨errands, herrands, hdispatches⟩ :=
      (createAccount_dispatches lenientSettings lockedAttributes Rehearsal.peer failingHost).1
        "svc1" (isCreatable_lockedAttributes _ rfl rfl)
    refine ⟨errands, herrands, ?_, hdispatches⟩
    obtain rfl := Except.ok.inj herrands
    rfl
  · refine ((createAccount_dispatches lenientSettings .empty Rehearsal.peer failingHost).2 ?_).1
    rintro ⟨name, h⟩
    exact nomatch h.named

end Provision

end HostAccounts
