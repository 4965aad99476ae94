import HostAccounts.Proofs.Recipe.Reading
import Mathlib.Data.List.Forall2

/-!
# Secrets in commands

Two calls that differ in nothing but secrets are read by the shell as the same pipelines with the
same arguments, but for the one argument of an `echo` that feeds a password to its reader. Whatever
the secrets hold, they do not get anywhere else. Main statement: `alike_of_hidden_eq`.
-/

set_option autoImplicit false

namespace HostAccounts

open Shell (CommandLine Program)

/-! ## What is left of a request without its secrets -/

/-- The value with its secret blotted out. -/
def Value.hidden : Value → Value
  | secret _ => secret ""
  | v => v

@[simp] theorem Value.text?_hidden (v : Value) : v.hidden.text? = v.text? := by
  cases v <;> rfl

@[simp] theorem Value.flag?_hidden (v : Value) : v.hidden.flag? = v.flag? := by
  cases v <;> rfl

/-- The attribute with its secrets blotted out. -/
def Attribute.hidden (a : Attribute) : Attribute :=
  { a with values := a.values.map Value.hidden }

namespace AttributeSet

/-- The set with its secrets blotted out. -/
def hidden (a : AttributeSet) : AttributeSet :=
  ⟨a.entries.map Attribute.hidden⟩

@[simp] theorem find?_hidden (a : AttributeSet) (name : String) :
    a.hidden.find? name = (a.find? name).map Attribute.hidden := by
  have hfirst : a.hidden.entries.find? (fun b => b.isNamed name) =
      (a.entries.find? fun b => b.isNamed name).map Attribute.hidden :=
    List.find?_map
  unfold find? entry?
  rw [hfirst, Option.filter_map]
  congr 2
  funext b
  simp [Attribute.hidden]

@[simp] theorem contains_hidden (a : AttributeSet) (name : String) :
    a.hidden.contains name = a.contains name := by
  simp only [contains, hidden, List.any_map]
  rfl

@[simp] theorem isPresent_hidden (a : AttributeSet) (name : String) :
    a.hidden.isPresent name = a.isPresent name := by
  simp [isPresent]

@[simp] theorem text?_hidden (a : AttributeSet) (name : String) :
    a.hidden.text? name = a.text? name := by
  unfold text?
  rw [find?_hidden]
  cases a.find? name with
  | none => rfl
  | some b => simp [Attribute.hidden, List.findSome?_map, Function.comp_def]

@[simp] theorem texts_hidden (a : AttributeSet) (name : String) :
    a.hidden.texts name = a.texts name := by
  unfold texts
  rw [find?_hidden]
  cases a.find? name with
  | none => rfl
  | some b => simp [Attribute.hidden, List.filterMap_map]

@[simp] theorem flag?_hidden (a : AttributeSet) (name : String) :
    a.hidden.flag? name = a.flag? name := by
  unfold flag?
  rw [find?_hidden]
  cases a.find? name with
  | none => rfl
  | some b =>
    cases hvalues : b.values with
    | nil => simp [Attribute.hidden, hvalues]
    | cons v rest => simp [Attribute.hidden, hvalues]

@[simp] theorem name?_hidden (a : AttributeSet) : a.hidden.name? = a.name? :=
  text?_hidden a _

end AttributeSet

/-- The change with its secrets blotted out. -/
def AccountUpdate.hidden (u : AccountUpdate) : AccountUpdate :=
  { u with attributes := u.attributes.hidden }

theorem AccountUpdate.newName_hidden (u : AccountUpdate) : u.hidden.newName = u.newName := by
  simp [newName, hidden]

theorem AccountUpdate.fields_hidden (u : AccountUpdate) (names : FieldNames) :
    u.hidden.fields names = u.fields names := by
  simp [fields, hidden, Primitive.AccountFields.ofAttributes]

/-- The change with its secrets blotted out. -/
def GroupUpdate.hidden (u : GroupUpdate) : GroupUpdate :=
  { u with attributes := u.attributes.hidden }

/-- The call with its secrets blotted out. -/
def Recipe.Call.hidden : Recipe.Call → Recipe.Call
  | createAccount user attributes => createAccount user attributes.hidden
  | updateAccount u => updateAccount u.hidden
  | setPassword user _ => setPassword user ""
  | activation user attributes => activation user attributes.hidden
  | createGroup group attributes => createGroup group attributes.hidden
  | updateGroup u => updateGroup u.hidden
  | call => call

/-! ## Plans do not depend on secrets -/

namespace Recipe

variable (s : Settings) (attributes : AttributeSet)

theorem newFields_hidden : newFields s attributes.hidden = newFields s attributes := by
  simp [newFields, Primitive.AccountFields.ofAttributes]

theorem keysSupplied_hidden (user home : String) :
    keysSupplied s user home attributes.hidden = keysSupplied s user home attributes := by
  simp [keysSupplied]

theorem grantSupplied_hidden (c : ObjectClass) (name : String) :
    grantSupplied s c name attributes.hidden = grantSupplied s c name attributes := by
  simp [grantSupplied]

theorem revokeSupplied_hidden (c : ObjectClass) (name : String) :
    revokeSupplied s c name attributes.hidden = revokeSupplied s c name attributes := by
  simp [revokeSupplied]

theorem activationSteps_hidden (user : String) :
    activationSteps s user attributes.hidden = activationSteps s user attributes := by
  simp [activationSteps, expirySteps, disableDate, lockSteps]

theorem createAccountSteps_hidden (user : String) :
    createAccountSteps s user attributes.hidden = createAccountSteps s user attributes := by
  simp only [createAccountSteps, newFields_hidden, keysSupplied_hidden, grantSupplied_hidden]

theorem createGroupSteps_hidden (group : String) :
    createGroupSteps s group attributes.hidden = createGroupSteps s group attributes := by
  simp only [createGroupSteps, grantSupplied_hidden]

theorem keysWithdrawn_hidden (home : String) :
    keysWithdrawn home attributes.hidden = keysWithdrawn home attributes := by
  simp [keysWithdrawn]

theorem leaveGroupSteps_hidden (u : AccountUpdate) :
    leaveGroupSteps u.hidden = leaveGroupSteps u := by
  simp only [leaveGroupSteps, AccountUpdate.hidden, AttributeSet.isPresent_hidden,
    AttributeSet.texts_hidden]
  rfl

theorem modifySteps_hidden (u : AccountUpdate) : modifySteps s u.hidden = modifySteps s u := by
  simp only [modifySteps, AccountUpdate.fields_hidden, AccountUpdate.newName_hidden]
  rfl

theorem followUpSteps_hidden (u : AccountUpdate) :
    followUpSteps s u.hidden = followUpSteps s u := by
  simp only [followUpSteps, AccountUpdate.fields_hidden, AccountUpdate.newName_hidden,
    AccountUpdate.isRename]
  rfl

theorem grantOrRevokeSteps_hidden (u : AccountUpdate) :
    grantOrRevokeSteps s u.hidden = grantOrRevokeSteps s u := by
  simp only [grantOrRevokeSteps, finalHome, AccountUpdate.fields_hidden,
    AccountUpdate.newName_hidden]
  simp only [AccountUpdate.hidden, grantSupplied_hidden, revokeSupplied_hidden,
    keysSupplied_hidden, keysWithdrawn_hidden]

theorem updateAccountSteps_hidden (u : AccountUpdate) :
    updateAccountSteps s u.hidden = updateAccountSteps s u := by
  simp only [updateAccountSteps, leaveGroupSteps_hidden, modifySteps_hidden, followUpSteps_hidden,
    grantOrRevokeSteps_hidden, AccountUpdate.newName_hidden]
  simp only [AccountUpdate.hidden, activationSteps_hidden]

theorem updateGroupSteps_hidden (u : GroupUpdate) :
    updateGroupSteps s u.hidden = updateGroupSteps s u := by
  simp only [updateGroupSteps, GroupUpdate.hidden, GroupUpdate.newName, AttributeSet.name?_hidden,
    grantSupplied_hidden, revokeSupplied_hidden]

end Recipe

/-! ## Steps and plans that differ in a password -/

/-- Two steps that are the same, or that set passwords. -/
inductive Intent.SameButPassword : Intent → Intent → Prop where
  | same (i : Intent) : SameButPassword i i
  | password (payload payload' : String) :
    SameButPassword (.feedSecret payload Primitive.chpasswd)
      (.feedSecret payload' Primitive.chpasswd)

/-- Two plans whose steps are the same but for passwords that they set. -/
def Plan.SameButPassword : Plan → Plan → Prop :=
  List.Forall₂ Intent.SameButPassword

theorem Plan.sameButPassword_refl (p : Plan) : p.SameButPassword p :=
  List.forall₂_same.mpr fun i _ => .same i

namespace Recipe.Call

/-- What a call that sets no password is to do does not depend on secrets. -/
theorem plan_hidden (s : Settings) {call : Call}
    (h : ∀ user password, call ≠ .setPassword user password) :
    call.hidden.plan s = call.plan s := by
  cases call with
  | setPassword user password => exact absurd rfl (h user password)
  | createAccount user attributes => exact createAccountSteps_hidden s attributes user
  | updateAccount u => exact updateAccountSteps_hidden s u
  | activation user attributes => exact activationSteps_hidden s attributes user
  | createGroup group attributes => exact createGroupSteps_hidden s attributes group
  | updateGroup u => exact updateGroupSteps_hidden s u
  | _ => rfl

/-- Calls that differ in secrets fail alike, or have plans that differ in a password. -/
theorem plan_of_hidden_eq (s : Settings) {call call' : Call} (h : call.hidden = call'.hidden) :
    (∃ fault, call.plan s = .error fault ∧ call'.plan s = .error fault) ∨
      ∃ p p', call.plan s = .ok p ∧ call'.plan s = .ok p' ∧ p.SameButPassword p' := by
  by_cases hset : ∃ user password, call = .setPassword user password
  · obtain ⟨user, password, rfl⟩ := hset
    obtain ⟨password', rfl⟩ : ∃ password', call' = .setPassword user password' := by
      cases call' with
      | setPassword user' password' =>
        cases h
        exact ⟨password', rfl⟩
      | _ => cases h
    exact .inr ⟨_, _, rfl, rfl, .cons (.password _ _) .nil⟩
  · have hplain : ∀ {c : Call}, c.hidden = call.hidden → ∀ user password,
        c ≠ .setPassword user password := by
      rintro c hc user password rfl
      refine hset ?_
      cases call with
      | setPassword user' password' => exact ⟨user', password', rfl⟩
      | _ => cases hc
    have hplan : call'.plan s = call.plan s := by
      rw [← plan_hidden s (hplain h.symm), ← plan_hidden s (hplain rfl), h]
    cases hp : call.plan s with
    | error fault => exact .inl ⟨fault, rfl, hplan.trans hp⟩
    | ok p => exact .inr ⟨p, p, rfl, hplan.trans hp, p.sameButPassword_refl⟩

end Recipe.Call

/-! ## The sudo password -/

/-- The settings with another sudo password. -/
def Settings.withSudoPassword (s : Settings) (password : String) : Settings :=
  { s with elevation := { s.elevation with sudoPassword := some password } }

theorem Settings.elevationPolicy_withSudoPassword (s : Settings) (password : String) :
    (s.withSudoPassword password).elevationPolicy =
      if s.elevation.root then .alreadyRoot else .viaSudo (some password) :=
  rfl

theorem Settings.isRequired_elevationPolicy (s : Settings) :
    s.elevationPolicy.isRequired = !s.elevation.root := by
  unfold elevationPolicy
  cases s.elevation.root <;> rfl

/-- No plan depends on the sudo password. -/
theorem Recipe.Call.plan_withSudoPassword (s : Settings) (call : Call) (password : String) :
    call.plan (s.withSudoPassword password) = call.plan s := by
  cases call with
  | find c name => cases c <;> rfl
  | list c => cases c <;> rfl
  | testSession =>
    simp only [plan, testSessionSteps, Settings.isRequired_elevationPolicy]
    rfl
  | _ => rfl

/-! ## Commands that differ in a password -/

/-- Two pipelines that are the same, or that feed something to the validation of the sudo password,
or that feed something to `chpasswd`, led by the same words. What is fed may differ. -/
inductive SameButSecret : CommandLine → CommandLine → Prop where
  | same (l : CommandLine) : SameButSecret l l
  | validation (secret secret' : String) :
    SameButSecret [⟨["echo", secret], []⟩, ⟨["sudo", "-S", "-p", "", "-v"], []⟩]
      [⟨["echo", secret'], []⟩, ⟨["sudo", "-S", "-p", "", "-v"], []⟩]
  | password (payload payload' : String) {reader : List String}
    (h : reader = ["chpasswd"] ∨ reader = ["sudo", "chpasswd"]) :
    SameButSecret [⟨["echo", payload], []⟩, ⟨reader, []⟩]
      [⟨["echo", payload'], []⟩, ⟨reader, []⟩]

/-- Two programs of as many pipelines, each the same in both but for what is fed as a secret. -/
def AgreeButForSecrets : Program → Program → Prop :=
  List.Forall₂ SameButSecret

theorem agree_primingProgram (secret secret' : String) :
    AgreeButForSecrets (primingProgram secret) (primingProgram secret') :=
  .cons (.same _) (.cons (.validation _ _) .nil)

variable {root : List String}

theorem Intent.SameButPassword.commandLine (hroot : root = [] ∨ root = ["sudo"]) {i j : Intent}
    (h : i.SameButPassword j) : SameButSecret (i.commandLine root) (j.commandLine root) := by
  cases h with
  | same => exact .same _
  | password payload payload' =>
    rcases hroot with rfl | rfl
    · exact .password _ _ (.inl rfl)
    · exact .password _ _ (.inr rfl)

theorem Intent.SameButPassword.needsRoot_eq {i j : Intent} (h : i.SameButPassword j) :
    i.needsRoot = j.needsRoot := by
  cases h <;> rfl

namespace Plan.SameButPassword

variable {p p' : Plan}

theorem eq_nil_iff (h : p.SameButPassword p') : p = [] ↔ p' = [] := by
  cases h <;> simp

theorem map_commandLine (hroot : root = [] ∨ root = ["sudo"]) (h : p.SameButPassword p') :
    AgreeButForSecrets (p.map (Intent.commandLine root)) (p'.map (Intent.commandLine root)) :=
  List.forall₂_map_left_iff.mpr <| List.forall₂_map_right_iff.mpr <|
    h.imp fun _ _ hi => hi.commandLine hroot

/-- The priming stands at the same place in both. -/
theorem primedProgram (h : p.SameButPassword p') {priming priming' : Program}
    (hpriming : AgreeButForSecrets priming priming') :
    AgreeButForSecrets (p.primedProgram priming) (p'.primedProgram priming') := by
  induction h with
  | nil => exact .nil
  | @cons i j rest rest' hi hrest ih =>
    have hline := hi.commandLine (.inr rfl)
    rw [Plan.primedProgram, Plan.primedProgram, hi.needsRoot_eq]
    cases j.needsRoot with
    | true => exact List.rel_append hpriming (.cons hline (map_commandLine (.inr rfl) hrest))
    | false => exact .cons hline ih

theorem program (h : p.SameButPassword p') (s : Settings) (secret secret' : String) :
    AgreeButForSecrets (p.program (s.withSudoPassword secret).elevationPolicy)
      (p'.program (s.withSudoPassword secret').elevationPolicy) := by
  rw [Settings.elevationPolicy_withSudoPassword, Settings.elevationPolicy_withSudoPassword]
  cases s.elevation.root with
  | true => exact h.map_commandLine (.inl rfl)
  | false => exact h.primedProgram (agree_primingProgram _ _)

end Plan.SameButPassword

/-! ## Calls that differ in secrets -/

/-- Two attempts at a command come to the same but for secrets: both fail with the same fault, both
have nothing to send, or the shell reads both texts, as programs that agree. -/
inductive Alike :
    Except Fault (Option RemoteCommand) → Except Fault (Option RemoteCommand) → Prop where
  | refused (fault : Fault) : Alike (.error fault) (.error fault)
  | nothing : Alike (.ok none) (.ok none)
  | composed {c c' : RemoteCommand} {p p' : Program} (h : Shell.parse c.text = some p)
    (h' : Shell.parse c'.text = some p') (hp : AgreeButForSecrets p p') :
    Alike (.ok (some c)) (.ok (some c'))

namespace Recipe

variable {s : Settings} {call : Call}

theorem Call.command?_of_plan_eq_error {fault : Fault} (h : call.plan s = .error fault) :
    call.command? s = .error fault := by
  have heq := Call.command?_eq_plan s call
  rw [h] at heq
  exact eq_error_of_map_eq_error heq

/-- A plan has a command whose text is read as the program of the plan, unless it is empty. -/
theorem Call.command?_of_plan_eq_ok {p : Plan} (h : call.plan s = .ok p) :
    (p = [] ∧ call.command? s = .ok none) ∨
      (p ≠ [] ∧ ∃ c, call.command? s = .ok (some c) ∧
        Shell.parse c.text = some (p.program s.elevationPolicy)) := by
  have heq := Call.command?_eq_plan s call
  rw [h] at heq
  obtain ⟨command, hcommand, hsent⟩ := exists_of_map_eq_ok heq
  by_cases hp : p = []
  · subst hp
    have hnone : command = none := Option.map_eq_none_iff.mp hsent
    exact .inl ⟨rfl, hnone ▸ hcommand⟩
  · rw [sent?_of_ne_nil _ hp] at hsent
    obtain ⟨c, rfl, htext⟩ := Option.map_eq_some_iff.mp hsent
    refine .inr ⟨hp, c, hcommand, ?_⟩
    rw [htext]
    exact Plan.parse_text_command (Call.isMade_plan h) _

/-- Plans whose programs agree have commands that come to the same but for secrets. -/
theorem alike_of_plan {s s' : Settings} {call call' : Call} {p p' : Plan}
    (hplan : call.plan s = .ok p) (hplan' : call'.plan s' = .ok p') (hnil : p = [] ↔ p' = [])
    (hagree : AgreeButForSecrets (p.program s.elevationPolicy) (p'.program s'.elevationPolicy)) :
    Alike (call.command? s) (call'.command? s') := by
  rcases Call.command?_of_plan_eq_ok hplan with ⟨hp, hnone⟩ | ⟨hp, c, hc, hparse⟩
  · rcases Call.command?_of_plan_eq_ok hplan' with ⟨-, hnone'⟩ | ⟨hp', -⟩
    · rw [hnone, hnone']
      exact .nothing
    · exact absurd (hnil.mp hp) hp'
  · rcases Call.command?_of_plan_eq_ok hplan' with ⟨hp', -⟩ | ⟨-, c', hc', hparse'⟩
    · exact absurd (hnil.mpr hp') hp
    · rw [hc, hc']
      exact .composed hparse hparse' hagree

/-- Whatever is called for, secrets get nowhere but into the argument of the `echo` that feeds them.
Under two sudo passwords, and with two sets of secrets in the call, the same comes about but for
these arguments; and for a session of root the sudo password is not in the text at all. -/
theorem alike_of_hidden_eq (s : Settings) (secret secret' : String) {call call' : Call}
    (h : call.hidden = call'.hidden) :
    Alike (call.command? (s.withSudoPassword secret))
        (call'.command? (s.withSudoPassword secret')) ∧
      (s.elevation.root = true →
        (call.command? (s.withSudoPassword secret)).map (Option.map RemoteCommand.text) =
          (call.command? (s.withSudoPassword secret')).map (Option.map RemoteCommand.text)) := by
  constructor
  · have hsecret := Call.plan_withSudoPassword s call secret
    have hsecret' := Call.plan_withSudoPassword s call' secret'
    rcases Call.plan_of_hidden_eq s h with ⟨fault, hplan, hplan'⟩ | ⟨p, p', hplan, hplan', hsame⟩
    · rw [Call.command?_of_plan_eq_error (hsecret.trans hplan),
        Call.command?_of_plan_eq_error (hsecret'.trans hplan')]
      exact .refused fault
    · exact alike_of_plan (hsecret.trans hplan) (hsecret'.trans hplan') hsame.eq_nil_iff
        (hsame.program s secret secret')
  · intro hroot
    rw [Call.command?_eq_plan, Call.command?_eq_plan, Call.plan_withSudoPassword,
      Call.plan_withSudoPassword, Settings.elevationPolicy_withSudoPassword,
      Settings.elevationPolicy_withSudoPassword, if_pos hroot, if_pos hroot]

/-- A call whose password tries to get out of its quotes. -/
def hostileCall : Call :=
  .setPassword "svc1" "x'; rm -rf / | tee"

/-- The same call with an ordinary password. -/
def ordinaryCall : Call :=
  .setPassword "svc1" "pw123"

/-- A sudo password that looks like the end of the priming. -/
def hostileSecret : String :=
  "'x' | sudo -S -p '' -v; sudo "

theorem alike_of_hidden_eq_hostile :
    Alike (hostileCall.command? (Settings.withSudoPassword {} hostileSecret))
        (ordinaryCall.command? (Settings.withSudoPassword {} "hunter2")) ∧
      (hostileCall.command?
          (Settings.withSudoPassword { elevation := { root := true } } hostileSecret)).map
            (Option.map RemoteCommand.text) =
        (hostileCall.command?
          (Settings.withSudoPassword { elevation := { root := true } } "hunter2")).map
            (Option.map RemoteCommand.text) := by
  have hcalls : hostileCall.hidden = ordinaryCall.hidden := rfl
  have hroot : ({ elevation := { root := true } } : Settings).elevation.root = true := rfl
  exact ⟨(alike_of_hidden_eq {} hostileSecret "hunter2" hcalls).1,
    (alike_of_hidden_eq _ hostileSecret "hunter2" hcalls).2 hroot⟩

end Recipe

end HostAccounts
