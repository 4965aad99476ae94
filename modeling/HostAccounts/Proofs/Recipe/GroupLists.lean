import HostAccounts.Proofs.Principal
import HostAccounts.Proofs.Provision.Checks
import HostAccounts.Proofs.Recipe.Deeds

/-!
# Lists of groups

What `useradd` and `usermod` are given for the groups of an account. The groups are joined by commas
into one argument, so it takes checked names for the host to find the same groups in it. Main
statements: `groupLists_createAccount`, `groupLists_updateAccount?`, `accepted_texts_are_inert`.
-/

set_option autoImplicit false

namespace HostAccounts

open Primitive (Accompanying AccountFields)
open Shell (Pipeline SimpleCommand)

/-! ## Reading the lists -/

namespace GroupList

/-- The values of `-G` among the arguments of a command on an account. An option that has a value
takes the argument behind it for that, whatever it looks like. -/
def ofArguments : List String → List String
  | option :: value :: rest =>
    if option = "-G" then value :: ofArguments rest
    else if ["-d", "-s", "-c", "-l", "-e"].contains option then ofArguments rest
    else ofArguments (value :: rest)
  | _ => []

/-- The lists that a command is given which is not led by `sudo`. -/
def ofCommand : List String → List String
  | "useradd" :: arguments | "usermod" :: arguments => ofArguments arguments
  | _ => []

/-- The lists that a command is given, led by `sudo` or not. -/
def ofWords : List String → List String
  | "sudo" :: words => ofCommand words
  | words => ofCommand words

/-- The lists that commands are given, one after the other. -/
def ofCommands (cs : List SimpleCommand) : List String :=
  cs.flatMap fun c => ofWords c.arguments

theorem ofWords_of_ne {name : String} (hname : name ≠ "sudo") (arguments : List String) :
    ofWords (name :: arguments) = ofCommand (name :: arguments) := by
  unfold ofWords
  split
  · next heq => exact absurd (List.head_eq_of_cons_eq heq) hname
  · rfl

end GroupList

/-- The lists of groups that are given to the commands of a text. -/
def groupLists (text : String) : List String :=
  match Shell.parse text with
  | some p => GroupList.ofCommands p.flatten
  | none => []

/-! ## The lists of primitive commands -/

/-- No primitive command elevates itself. -/
theorem Primitive.Made.exists_meaning {p : Pipeline} (h : Made p) :
    ∃ name arguments files rest, p.meaning = ⟨name :: arguments, files⟩ :: rest ∧
      name ≠ "sudo" := by
  cases h with
  | usermod h =>
    rw [eq_of_usermod?_eq_some h]
    exact ⟨_, _, _, _, rfl, by decide⟩
  | _ => exact ⟨_, _, _, _, rfl, by decide⟩

namespace GroupList

/-- The lists that the commands of a pipeline are given. -/
def ofPipeline (p : Pipeline) : List String :=
  ofCommands p.meaning

/-- It does not matter whether the first command of a pipeline is led by `sudo`. -/
theorem ofCommands_ledBy {p : Pipeline} (h : Primitive.Made p) {root : List String}
    (hroot : root = [] ∨ root = ["sudo"]) : ofCommands (p.meaning.ledBy root) = ofPipeline p := by
  obtain ⟨name, arguments, files, rest, hp, hname⟩ := h.exists_meaning
  rw [ofPipeline, hp]
  rcases hroot with rfl | rfl
  · rfl
  · have hwords := ofWords_of_ne hname arguments
    simp only [ofCommands, Shell.CommandLine.ledBy, List.flatMap_cons, hwords]
    rfl

/-- What is fed to a command is no list of groups. -/
theorem ofCommands_commandLine {i : Intent} (h : Primitive.Made i.pipeline) {root : List String}
    (hroot : root = [] ∨ root = ["sudo"]) :
    ofCommands (i.commandLine root) = ofPipeline i.pipeline := by
  cases i with
  | run p => exact ofCommands_ledBy h hroot
  | plain p => rfl
  | feed payload p => exact ofCommands_ledBy h hroot
  | feedSecret payload p => exact ofCommands_ledBy h hroot

theorem ofPipeline_of_accompanying {p : Pipeline} (h : Accompanying p) : ofPipeline p = [] := by
  cases h with
  | tee path => rw [ofPipeline, Primitive.meaning_tee]; rfl
  | chown owner path => rw [ofPipeline, Primitive.meaning_chown]; rfl
  | _ => exact congrArg ofCommands (Shell.meaning_ofWords _)

/-- An option that has a value is passed over together with it. -/
theorem ofArguments_option {option : String} (h : option ∈ ["-d", "-s", "-c", "-l", "-e"])
    (value : String) (rest : List String) :
    ofArguments (option :: value :: rest) = ofArguments rest := by
  have hother : option ≠ "-G" := by
    rintro rfl
    exact absurd h (by decide)
  rw [ofArguments, if_neg hother, if_pos (List.contains_iff_mem.mpr h)]

/-- The list that fields come to: their groups joined by commas, if there are any to be given. -/
def ofFields (fields : AccountFields) (withGroups : Bool) : List String :=
  if withGroups && !fields.groups.isEmpty then [",".intercalate fields.groups] else []

theorem ofArguments_flags (fields : AccountFields) (withGroups : Bool) (rest : List String) :
    ofArguments (fields.flags withGroups ++ rest) =
      ofFields fields withGroups ++ ofArguments rest := by
  have hvalue : ∀ {option : String}, option ∈ ["-d", "-s", "-c", "-l", "-e"] →
      ∀ (value : Option String) (more : List String),
        ofArguments ((value.toList.flatMap fun v => [option, v]) ++ more) = ofArguments more := by
    intro option h value more
    cases value with
    | none => rfl
    | some v => exact ofArguments_option h v more
  rw [AccountFields.flags, ofFields]
  simp only [List.append_assoc]
  rw [hvalue (by decide), hvalue (by decide)]
  split
  · rw [List.cons_append, List.cons_append, List.nil_append, ofArguments, if_pos rfl,
      hvalue (by decide), List.singleton_append]
  · rw [List.nil_append, List.nil_append, hvalue (by decide)]

theorem ofPipeline_useradd (user : String) (fields : AccountFields) (createHome : Bool) :
    ofPipeline (Primitive.useradd user fields createHome) = ofFields fields true := by
  have hrest : ofArguments ((if createHome then ["-m"] else []) ++ [user]) = [] := by
    cases createHome <;> rfl
  rw [ofPipeline, Primitive.useradd, Shell.meaning_ofWords, ofCommands, List.flatMap_singleton,
    List.append_assoc, List.append_assoc, List.singleton_append]
  exact (ofArguments_flags fields true _).trans (by rw [hrest, List.append_nil])

/-- A change gives the groups where it sets them; where nothing is changed, there are none. -/
theorem ofPipeline_usermod? (user : String) (fields : AccountFields) (newName : Option String)
    (setGroups : Bool) :
    (Primitive.usermod? user fields newName setGroups).toList.flatMap ofPipeline =
      ofFields fields setGroups := by
  cases hmod : Primitive.usermod? user fields newName setGroups with
  | none =>
    have hflags : fields.flags setGroups = [] := by
      rw [Primitive.usermod?] at hmod
      simp only [ite_eq_left_iff, reduceCtorEq, imp_false, not_not, List.isEmpty_iff,
        List.append_eq_nil_iff] at hmod
      exact hmod.1
    have hread := ofArguments_flags fields setGroups []
    rw [hflags] at hread
    rw [Option.toList_none, List.flatMap_nil, ← List.append_nil (ofFields ..)]
    exact hread
  | some q =>
    have hrest : ofArguments ((newName.filter (· ≠ user)).toList.flatMap (fun n => ["-l", n]) ++
        [user]) = [] := by
      cases newName.filter (· ≠ user) <;> rfl
    rw [Option.toList_some, List.flatMap_singleton, Primitive.eq_of_usermod?_eq_some hmod,
      ofPipeline, Shell.meaning_ofWords, ofCommands, List.flatMap_singleton, List.append_assoc]
    exact (ofArguments_flags fields setGroups _).trans (by rw [hrest, List.append_nil])

/-- Whoever takes a list of names apart at the commas finds the names. -/
theorem map_splitOn_ofFields (fields : AccountFields) (withGroups : Bool)
    (h : ∀ g ∈ fields.groups, IsPrincipalName g) :
    (ofFields fields withGroups).map (Text.splitOn ',') =
      if withGroups = true ∧ fields.groups ≠ [] then [fields.groups] else [] := by
  rw [ofFields]
  by_cases hgiven : withGroups = true ∧ fields.groups ≠ []
  · have hsplit : Text.splitOn ',' (",".intercalate fields.groups) = fields.groups :=
      Text.splitOn_intercalate hgiven.2 fun g hg => (h g hg).isInert.item
    simp [hgiven, hsplit]
  · have hnone : (withGroups && !fields.groups.isEmpty) = false := by
      simpa [Bool.and_eq_false_iff, not_and_or] using hgiven
    rw [hnone, if_neg hgiven]
    rfl

end GroupList

/-! ## The lists of a plan -/

namespace Plan

open GroupList (ofCommands ofPipeline ofCommands_commandLine)

/-- The lists of groups that the steps of a plan give. -/
def groupLists (p : Plan) : List String :=
  p.flatMap fun i => ofPipeline i.pipeline

theorem ofCommands_flatMap_commandLine {p : Plan} (h : p.IsMade) {root : List String}
    (hroot : root = [] ∨ root = ["sudo"]) :
    ofCommands (p.flatMap (Intent.commandLine root)) = p.groupLists := by
  induction p with
  | nil => rfl
  | cons i rest ih =>
    obtain ⟨hi, hrest⟩ := List.forall_mem_cons.mp h
    rw [List.flatMap_cons, ofCommands, List.flatMap_append, groupLists, List.flatMap_cons]
    exact congrArg₂ _ (ofCommands_commandLine hi hroot) (ih hrest)

/-- What is read of the command of a plan is what its steps give. -/
theorem groupLists_command {p : Plan} (h : p.IsMade) (e : Elevation) :
    HostAccounts.groupLists (p.command e).text = p.groupLists := by
  rw [HostAccounts.groupLists, parse_text_command h]
  exact read_program (fun _ _ => List.flatMap_append) (fun _ => rfl)
    (fun _ hroot => ofCommands_flatMap_commandLine h hroot) e

theorem groupLists_of_accompanying {p : Plan} (h : p.Only Accompanying) : p.groupLists = [] :=
  List.flatMap_eq_nil_iff.mpr fun i hi => GroupList.ofPipeline_of_accompanying (h i hi)

theorem groupLists_append (p q : Plan) : groupLists (p ++ q) = p.groupLists ++ q.groupLists :=
  List.flatMap_append

end Plan

/-! ## The lists of recipes -/

namespace Recipe

variable {s : Settings} {command : RemoteCommand}

/-- A creation gives the groups that are supplied, in one list. -/
theorem groupLists_createAccount {user : String} {attributes : AttributeSet}
    (h : createAccount s user attributes = .ok command) :
    groupLists command.text = GroupList.ofFields (newFields s attributes) true := by
  obtain ⟨p, hp, rfl⟩ := exists_of_map_eq_ok h
  rw [Plan.groupLists_command (isMade_createAccountSteps hp)]
  obtain ⟨rest, rfl, hrest⟩ := exists_createAccountSteps hp
  have hnone := Plan.groupLists_of_accompanying hrest
  rw [Plan.groupLists] at hnone ⊢
  rw [List.flatMap_cons, hnone, List.append_nil]
  exact GroupList.ofPipeline_useradd _ _ _

/-- A change gives the groups that are supplied, in one list, and only where it replaces them. -/
theorem groupLists_updateAccount? {u : AccountUpdate}
    (h : updateAccount? s u = .ok (some command)) :
    groupLists command.text = GroupList.ofFields (u.fields s.fieldNames) (u.mode = .replace) := by
  obtain ⟨p, hp, hcommand⟩ := exists_of_map_eq_ok h
  rw [← Plan.command_of_command?_eq_some hcommand,
    Plan.groupLists_command (isMade_updateAccountSteps hp)]
  obtain ⟨front, back, rfl, hfront, hback⟩ := exists_updateAccountSteps hp
  rw [Plan.groupLists_append, Plan.groupLists_append, Plan.groupLists_of_accompanying hfront,
    Plan.groupLists_of_accompanying hback, List.nil_append, List.append_nil, modifySteps,
    Plan.groupLists, List.flatMap_map]
  exact GroupList.ofPipeline_usermod? _ _ _ _

end Recipe

/-! ## Accepted texts -/

/-- The names and paths that pass their checks are those of two grammars, and stand for themselves
wherever they are put. Of the attributes of an account that pass theirs, the home directory and the
shell are written without quotes, and the groups are found again, all of them and in order, in each
list of groups that a creation or a change is composed with. -/
theorem accepted_texts_are_inert :
    (∀ field name, checkName field name = .ok () ↔ IsPrincipalName name) ∧
    (∀ field path, checkPath field path = .ok () ↔ IsRemotePath path) ∧
    (∀ name, IsPrincipalName name → IsInert name) ∧
    (∀ path, IsRemotePath path → IsInert path) ∧
    ∀ (s : Settings) (attributes : AttributeSet),
      Provision.checkAttributes .account s.fieldNames attributes = .ok () →
      let groups := attributes.texts AttributeName.groups
      (∀ home, attributes.text? s.fieldNames.homeDirectory = some home →
        Shell.quote home = home) ∧
      (∀ shell, attributes.text? s.fieldNames.shell = some shell → Shell.quote shell = shell) ∧
      (∀ user command, Recipe.createAccount s user attributes = .ok command →
        (groupLists command.text).map (Text.splitOn ',') =
          if groups ≠ [] then [groups] else []) ∧
      ∀ u command, u.attributes = attributes → Recipe.updateAccount? s u = .ok (some command) →
        (groupLists command.text).map (Text.splitOn ',') =
          if u.mode = .replace ∧ groups ≠ [] then [groups] else [] := by
  refine ⟨fun _ _ => checkName_eq_ok_iff, fun _ _ => checkPath_eq_ok_iff, fun _ h => h.isInert,
    fun _ h => h.isInert, ?_⟩
  intro s attributes hchecks
  obtain ⟨-, hhome, hshell, hgroups⟩ := Provision.checkAttributes_account_eq_ok_iff.mp hchecks
  have hnames : ∀ g ∈ attributes.texts AttributeName.groups, IsPrincipalName g := fun g hg =>
    checkName_eq_ok_iff.mp (hgroups g hg)
  refine ⟨?_, ?_, ?_, ?_⟩
  · intro home h
    exact (checkPath_eq_ok_iff.mp (hhome home h)).quote_eq
  · intro shell h
    exact (checkPath_eq_ok_iff.mp (hshell shell h)).quote_eq
  · intro user command h
    rw [Recipe.groupLists_createAccount h,
      GroupList.map_splitOn_ofFields (Recipe.newFields s attributes) true hnames]
    simp [Recipe.newFields, AccountFields.ofAttributes]
  · rintro u command rfl h
    rw [Recipe.groupLists_updateAccount? h]
    cases hmode : u.mode with
    | replace =>
      have hfields : u.fields s.fieldNames = .ofAttributes s.fieldNames u.attributes := by
        rw [AccountUpdate.fields, hmode]
      rw [hfields, GroupList.map_splitOn_ofFields _ _ hnames]
      simp [AccountFields.ofAttributes]
    | removeValues => rfl

/-- An account with a home directory, a shell and two groups. -/
def memberAttributes : AttributeSet :=
  .ofList [⟨AttributeName.name, [.text "svc1"]⟩, ⟨"homeDirectory", [.text "/srv/svc1"]⟩,
    ⟨"shell", [.text "/bin/sh"]⟩, ⟨AttributeName.groups, [.text "ops", .text "wheel"]⟩]

theorem accepted_texts_are_inert_member :
    Shell.quote "/srv/svc1" = "/srv/svc1" ∧ Shell.quote "/bin/sh" = "/bin/sh" ∧
      (∃ command, Recipe.createAccount {} "svc1" memberAttributes = .ok command ∧
        (groupLists command.text).map (Text.splitOn ',') = [["ops", "wheel"]]) ∧
      ∃ command, Recipe.updateAccount? {} ⟨"svc1", memberAttributes, .replace, [],
          some ⟨"svc1", 1001, 1001, "", "/home/svc1", "/bin/sh"⟩⟩ = .ok (some command) ∧
        (groupLists command.text).map (Text.splitOn ',') = [["ops", "wheel"]] := by
  have hchecks : Provision.checkAttributes .account ({} : Settings).fieldNames memberAttributes =
      .ok () := rfl
  obtain ⟨hhome, hshell, hcreate, hupdate⟩ :=
    accepted_texts_are_inert.2.2.2.2 {} memberAttributes hchecks
  obtain ⟨created, hcreated⟩ :
      ∃ command, Recipe.createAccount {} "svc1" memberAttributes = .ok command := ⟨_, rfl⟩
  obtain ⟨updated, hupdated⟩ : ∃ command, Recipe.updateAccount? {} ⟨"svc1", memberAttributes,
      .replace, [], some ⟨"svc1", 1001, 1001, "", "/home/svc1", "/bin/sh"⟩⟩ =
        .ok (some command) := ⟨_, rfl⟩
  refine ⟨hhome _ rfl, hshell _ rfl, ⟨created, hcreated, ?_⟩, ⟨updated, hupdated, ?_⟩⟩
  · exact (hcreate "svc1" created hcreated).trans rfl
  · exact (hupdate _ updated rfl hupdated).trans rfl

end HostAccounts
