import HostAccounts.Provision.Checks

/-!
# Requests that pass their checks

A request passes if each name and each path in it is a good one, whatever else it says. Main
statements: `requireName_eq_ok_iff`, `requireUid_eq_ok_iff`, `checkAttributes_account_eq_ok_iff`.
-/

set_option autoImplicit false

namespace HostAccounts.Provision

/-! ## Checks one after the other -/

section

variable {ε α : Type}

theorem bind_eq_ok_iff {x y : Except ε Unit} :
    (do x; y) = .ok () ↔ x = .ok () ∧ y = .ok () := by
  cases x with
  | error e => exact iff_of_false nofun fun h => nomatch h.1
  | ok u => exact ⟨fun h => ⟨rfl, h⟩, fun h => h.2⟩

theorem forM_eq_ok_iff {check : α → Except ε Unit} {as : List α} :
    as.forM check = .ok () ↔ ∀ a ∈ as, check a = .ok () := by
  induction as with
  | nil => exact iff_of_true rfl nofun
  | cons a rest ih =>
    rw [List.forall_mem_cons, ← ih]
    exact bind_eq_ok_iff

/-- The check of what may be supplied. -/
def checkSupplied (supplied : Option α) (check : α → Except ε Unit) : Except ε Unit :=
  supplied.elim (.ok ()) check

theorem checkSupplied_eq_ok_iff {supplied : Option α} {check : α → Except ε Unit} :
    checkSupplied supplied check = .ok () ↔ ∀ a, supplied = some a → check a = .ok () := by
  cases supplied with
  | none => exact iff_of_true rfl nofun
  | some a => exact ⟨fun h b hb => Option.some.inj hb ▸ h, fun h => h a rfl⟩

end

theorem asFault_eq_ok_iff {check : Except ArgumentDefect Unit} :
    asFault check = .ok () ↔ check = .ok () := by
  cases check with
  | error defect => exact iff_of_false nofun nofun
  | ok u => exact iff_of_true rfl rfl

/-- What is checked is handed back as it is. -/
theorem checked_eq_ok_iff {α : Type} {check : Except ArgumentDefect Unit} {a b : α} :
    (do asFault check; return a) = .ok b ↔ a = b ∧ check = .ok () := by
  cases check with
  | error defect => exact iff_of_false nofun fun h => nomatch h.2
  | ok u => exact ⟨fun h => ⟨Except.ok.inj h, rfl⟩, fun h => congrArg _ h.1⟩

/-! ## The checks -/

variable {attributes : AttributeSet} {names : FieldNames} {name uid : String}

theorem requireName_eq_ok_iff : requireName attributes = .ok name ↔
    attributes.name? = some name ∧ checkName AttributeName.name name = .ok () := by
  unfold requireName
  cases attributes.name? with
  | none => exact iff_of_false nofun fun h => nomatch h.1
  | some supplied =>
    refine checked_eq_ok_iff.trans ?_
    rw [Option.some.injEq]
    exact and_congr_right fun h => by rw [h]

theorem requireUid_eq_ok_iff : requireUid uid = .ok name ↔
    uid = name ∧ checkName AttributeName.uid uid = .ok () :=
  checked_eq_ok_iff

theorem checkAttributes_account_eq (names : FieldNames) (attributes : AttributeSet) :
    checkAttributes .account names attributes = (do
      checkSupplied attributes.name? fun name => asFault (checkName AttributeName.name name)
      checkSupplied (attributes.text? names.homeDirectory) fun home =>
        asFault (checkPath names.homeDirectory home)
      checkSupplied (attributes.text? names.shell) fun shell =>
        asFault (checkPath names.shell shell)
      (attributes.texts AttributeName.groups).forM fun group =>
        asFault (checkName AttributeName.groups group)) := by
  unfold checkAttributes
  cases attributes.name? <;> cases attributes.text? names.homeDirectory <;>
    cases attributes.text? names.shell <;> rfl

/-- The attributes of an account pass if the name, the paths and the groups among them do. -/
theorem checkAttributes_account_eq_ok_iff : checkAttributes .account names attributes = .ok () ↔
    (∀ name, attributes.name? = some name → checkName AttributeName.name name = .ok ()) ∧
    (∀ home, attributes.text? names.homeDirectory = some home →
      checkPath names.homeDirectory home = .ok ()) ∧
    (∀ shell, attributes.text? names.shell = some shell →
      checkPath names.shell shell = .ok ()) ∧
    ∀ group ∈ attributes.texts AttributeName.groups,
      checkName AttributeName.groups group = .ok () := by
  rw [checkAttributes_account_eq]
  simp only [bind_eq_ok_iff, checkSupplied_eq_ok_iff, asFault_eq_ok_iff, forM_eq_ok_iff]

end HostAccounts.Provision
