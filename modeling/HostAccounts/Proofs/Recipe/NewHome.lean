import HostAccounts.Proofs.Principal
import HostAccounts.Proofs.Provision.Creation
import HostAccounts.Proofs.Recipe.Changes

/-!
# The home of a new account

Where the script that creates an account puts its keys, and which home directory the account gets by
the same script. A host that is not told otherwise gives an account the directory of its name below
`/home`. Main statements: `placements_createAccount`, `keys_land_at_home_iff`.
-/

set_option autoImplicit false

namespace HostAccounts

open Shell (CommandLine SimpleCommand)

/-! ## What commands put where -/

/-- What a command does for a new account, and where. -/
inductive Placement where
  /-- Creates the account, with a home directory if one is given. -/
  | account (name : String) (home : Option String)
  /-- Makes a directory. -/
  | directory (path : String)
  /-- Writes a file. -/
  | file (path : String)
  /-- Hands a path and all below it to an owner, who is written with a colon. -/
  | owner (owner path : String)
  /-- Sets the mode of a path. -/
  | mode (mode path : String)
  /-- Does something else. -/
  | other (words : List String)
  deriving DecidableEq, Repr

namespace Placement

/-- What the arguments of `useradd` ask for: options, most with a value, and then the name. -/
def newAccount? (home : Option String) : List String → Option Placement
  | [] => none
  | [name] => some (.account name home)
  | option :: value :: rest =>
    if option = "-m" then newAccount? home (value :: rest)
    else if option = "-d" then newAccount? (some value) rest
    else if ["-s", "-G", "-c"].contains option then newAccount? home rest
    else none

/-- What a command does that is not led by `sudo`. An `echo` only feeds the next command. -/
def ofCommand : List String → List Placement
  | ["echo", _] => []
  | "useradd" :: arguments =>
    [(newAccount? none arguments).getD (.other ("useradd" :: arguments))]
  | ["mkdir", "-p", path] => [.directory path]
  | ["tee", path] => [.file path]
  | ["chown", "-R", holder, path] => [.owner holder path]
  | ["chmod", bits, path] => [.mode bits path]
  | words => [.other words]

/-- What a command does, led by `sudo` or not. The commands of the priming do nothing. -/
def ofWords : List String → List Placement
  | ["sudo", "-k"] | ["sudo", "-S", "-p", "", "-v"] => []
  | "sudo" :: words => ofCommand words
  | words => ofCommand words

/-- What commands do one after the other. -/
def ofCommands (cs : List SimpleCommand) : List Placement :=
  cs.flatMap fun c => ofWords c.arguments

theorem ofCommands_append (cs ds : List SimpleCommand) :
    ofCommands (cs ++ ds) = ofCommands cs ++ ofCommands ds :=
  List.flatMap_append

/-- An option with a value that is no home directory is passed over together with the value. -/
theorem newAccount?_option {option : String} (h : option ∈ ["-s", "-G", "-c"])
    (home : Option String) (value : String) (rest : List String) :
    newAccount? home (option :: value :: rest) = newAccount? home rest := by
  have hother : option ≠ "-m" ∧ option ≠ "-d" := by
    constructor <;> rintro rfl <;> exact absurd h (by decide)
  rw [newAccount?, if_neg hother.1, if_neg hother.2, if_pos (List.contains_iff_mem.mpr h)]

/-- The arguments of `useradd` are read as the account with the home directory among its fields. -/
theorem newAccount?_flags (user : String) (fields : Primitive.AccountFields) (createHome : Bool) :
    newAccount? none (fields.flags true ++ (if createHome then ["-m"] else []) ++ [user]) =
      some (.account user fields.homeDirectory) := by
  have hvalue : ∀ {option : String}, option ∈ ["-s", "-G", "-c"] →
      ∀ (home value : Option String) (more : List String),
        newAccount? home ((value.toList.flatMap fun v => [option, v]) ++ more) =
          newAccount? home more := by
    intro option h home value more
    cases value with
    | none => rfl
    | some v => exact newAccount?_option h home v more
  have hgroups : ∀ (home : Option String) (more : List String),
      newAccount? home
          ((if true && !fields.groups.isEmpty then ["-G", ",".intercalate fields.groups]
            else []) ++ more) =
        newAccount? home more := by
    intro home more
    split
    · exact newAccount?_option (by decide) home _ more
    · rfl
  have hname : ∀ home : Option String,
      newAccount? home ((if createHome then ["-m"] else []) ++ [user]) =
        some (.account user home) := by
    cases createHome <;> exact fun _ => rfl
  have hrest : ∀ home : Option String,
      newAccount? home ((fields.shell.toList.flatMap fun v => ["-s", v]) ++
        ((if true && !fields.groups.isEmpty then ["-G", ",".intercalate fields.groups] else []) ++
          ((fields.comment.toList.flatMap fun v => ["-c", v]) ++
            ((if createHome then ["-m"] else []) ++ [user])))) = some (.account user home) := by
    intro home
    rw [hvalue (by decide), hgroups, hvalue (by decide), hname]
  rw [Primitive.AccountFields.flags]
  simp only [List.append_assoc]
  cases fields.homeDirectory with
  | none => exact hrest none
  | some home => exact hrest (some home)

end Placement

/-- What the text of a command does for a new account. -/
def placements? (text : String) : Option (List Placement) :=
  (Shell.parse text).map fun p => Placement.ofCommands p.flatten

/-! ## What a plan puts where -/

namespace Plan

/-- The plan comes to the placements, whether it runs through `sudo` or not. -/
def Places (p : Plan) (ps : List Placement) : Prop :=
  ∀ root, root = [] ∨ root = ["sudo"] →
    Placement.ofCommands (p.flatMap (Intent.commandLine root)) = ps

theorem places_nil : Places [] [] :=
  fun _ _ => rfl

theorem Places.append {p q : Plan} {ps qs : List Placement} (hp : p.Places ps) (hq : q.Places qs) :
    Places (p ++ q) (ps ++ qs) := by
  intro root hroot
  rw [List.flatMap_append, Placement.ofCommands_append, hp root hroot, hq root hroot]

/-- A step with root rights does what its one command does, led by `sudo` or not. -/
theorem places_run {p : Shell.Pipeline} {words : List String} {files : List (Nat × String)}
    {ps : List Placement} (hp : p.meaning = [⟨words, files⟩]) (h : Placement.ofWords words = ps)
    (hsudo : Placement.ofWords ("sudo" :: words) = ps) : Places [.run p] ps := by
  rintro root (rfl | rfl) <;>
    simp only [List.flatMap_cons, List.flatMap_nil, List.append_nil, Intent.commandLine, hp,
      CommandLine.ledBy, Placement.ofCommands, List.nil_append, List.singleton_append, h, hsudo]

/-- What feeds a command does nothing. -/
theorem places_feed {p : Shell.Pipeline} {ps : List Placement} (payload : String)
    (h : Places [.run p] ps) : Places [.feed payload p] ps :=
  h

theorem places_useradd (user : String) (fields : Primitive.AccountFields) (createHome : Bool) :
    Places [.run (Primitive.useradd user fields createHome)]
      [.account user fields.homeDirectory] := by
  have hread := Placement.newAccount?_flags user fields createHome
  rw [Primitive.useradd, List.append_assoc, List.append_assoc, List.singleton_append,
    ← List.append_assoc]
  have hplacement : Placement.ofCommand ("useradd" :: (fields.flags true ++
      (if createHome then ["-m"] else []) ++ [user])) = [.account user fields.homeDirectory] := by
    rw [Placement.ofCommand, hread]
    rfl
  exact places_run (Shell.meaning_ofWords _) hplacement hplacement

theorem places_mkdir (path : String) : Places [.run (Primitive.mkdir path)] [.directory path] :=
  places_run (Shell.meaning_ofWords _) rfl rfl

theorem places_tee (path : String) : Places [.run (Primitive.tee path)] [.file path] :=
  places_run (Primitive.meaning_tee path) rfl rfl

theorem places_chown (owner path : String) :
    Places [.run (Primitive.chown owner path)] [.owner (owner ++ ":") path] :=
  places_run (Primitive.meaning_chown owner path) rfl rfl

theorem places_chmod (mode path : String) :
    Places [.run (Primitive.chmod mode path)] [.mode mode path] :=
  places_run (Shell.meaning_ofWords _) rfl rfl

/-- What is read of the command of a plan is what its steps do. -/
theorem Places.placements?_command {p : Plan} {ps : List Placement} (h : p.Places ps)
    (hmade : p.IsMade) (e : Elevation) : placements? (p.command e).text = some ps := by
  rw [placements?, parse_text_command hmade, Option.map_some,
    read_program Placement.ofCommands_append (fun _ => rfl) h]

end Plan

/-! ## The creation of an account -/

/-- The home directory that a host gives to a new account. -/
def homeGiven (name : String) (home : Option String) : String :=
  home.getD ("/home/" ++ name)

/-- What it takes to put the keys of an account into a directory of their own. -/
def keyPlacements (s : Settings) (name directory : String) : List Placement :=
  [.directory directory, .file (directory ++ "/authorized_keys"), .owner (name ++ ":") directory,
    .mode s.accounts.keyDirectoryMode directory,
    .mode s.accounts.keyFileMode (directory ++ "/authorized_keys")]

/-- What it takes to give an account a rule, if one is supplied. -/
def rulePlacements (s : Settings) (name : String) (attributes : AttributeSet) : List Placement :=
  match attributes.text? AttributeName.permissions with
  | some _ => [.file (dropIn s name), .mode "0440" (dropIn s name)]
  | none => []

namespace Recipe

open Plan (Places)

variable {s : Settings} {user name : String} {attributes : AttributeSet}

theorem places_keyFileSteps (s : Settings) (user home key : String) :
    (keyFileSteps s user home key).Places (keyPlacements s user (keyDirectory home)) :=
  (Plan.places_mkdir _).append <| (Plan.places_feed key (Plan.places_tee _)).append <|
    (Plan.places_chown _ _).append <| (Plan.places_chmod _ _).append (Plan.places_chmod _ _)

theorem places_grantSupplied {p : Plan}
    (h : grantSupplied s .account user attributes = .ok p) :
    p.Places (rulePlacements s user attributes) := by
  unfold grantSupplied at h
  unfold rulePlacements
  cases hrule : attributes.text? AttributeName.permissions with
  | none =>
    rw [hrule] at h
    obtain rfl := Except.ok.inj h
    exact Plan.places_nil
  | some rule =>
    rw [hrule] at h
    obtain ⟨path, hpath, rfl⟩ := exists_of_map_eq_ok h
    obtain rfl := Except.ok.inj hpath
    exact (Plan.places_feed _ (Plan.places_tee _)).append (Plan.places_chmod _ _)

/-- The script that creates an account with keys. The account gets the home directory that is
supplied, if one is; the keys go into that, or else into the one that the settings assume. -/
theorem placements_createAccount {command : RemoteCommand}
    (h : createAccount s user attributes = .ok command)
    (hkeys : attributes.texts AttributeName.publicKey ≠ []) :
    let supplied := attributes.text? s.fieldNames.homeDirectory
    placements? command.text = some (.account user supplied ::
      (keyPlacements s user (keyDirectory (supplied.getD (s.defaultHome user))) ++
        rulePlacements s user attributes)) := by
  obtain ⟨p, hp, rfl⟩ := exists_of_map_eq_ok h
  refine Places.placements?_command ?_ (isMade_createAccountSteps hp) _
  obtain ⟨rule, hrule, hp⟩ := exists_of_bind_eq_ok hp
  obtain rfl := Except.ok.inj hp
  have hplaced : (keysSupplied s user ((newFields s attributes).homeDirectory.getD
      (s.defaultHome user)) attributes).Places (keyPlacements s user (keyDirectory
        ((attributes.text? s.fieldNames.homeDirectory).getD (s.defaultHome user)))) := by
    unfold keysSupplied
    split
    · next hnone => exact absurd hnone hkeys
    · exact places_keyFileSteps _ _ _ _
  exact ((Plan.places_useradd _ _ _).append hplaced).append (places_grantSupplied hrule)

/-- The script creates the account and puts its keys into the home that the account has then.
Nothing else is touched but its rule file. -/
def KeysLandAtHome (s : Settings) (name text : String) : Prop :=
  ∃ home rule, placements? text = some (.account name home ::
      (keyPlacements s name (Text.trimEndOf '/' (homeGiven name home) ++ "/.ssh") ++ rule)) ∧
    ∀ p ∈ rule, p = .file (dropIn s name) ∨ p = .mode "0440" (dropIn s name)

theorem mem_rulePlacements {p : Placement} (h : p ∈ rulePlacements s name attributes) :
    p = .file (dropIn s name) ∨ p = .mode "0440" (dropIn s name) := by
  unfold rulePlacements at h
  split at h
  · simpa using h
  · cases h

/-- A path that ends in a name ends in no slash. -/
theorem trimEndOf_append_name (hname : IsPrincipalName name) (front : String) :
    Text.trimEndOf '/' (front ++ name) = front ++ name := by
  refine Text.trimEndOf_eq_self fun hlast => hname.slash_not_mem ?_
  rw [String.toList_append, List.getLast?_append_of_ne_nil _
    (mt String.toList_eq_nil_iff.mp hname.isInert.ne_empty)] at hlast
  exact List.mem_of_getLast? hlast

theorem keyDirectory_eq (home : String) :
    keyDirectory home = Text.trimEndOf '/' home ++ "/.ssh" := by
  rw [keyDirectory, pathIn, String.append_assoc]
  rfl

/-- The home directory that the settings assume is the one that a host gives exactly if their base
is that of the host. -/
theorem keyDirectory_defaultHome_eq_iff (hname : IsPrincipalName name) :
    keyDirectory (s.defaultHome name) = Text.trimEndOf '/' (homeGiven name none) ++ "/.ssh" ↔
      Text.trimEndOf '/' s.accounts.baseHomeDirectory = "/home" := by
  have hgiven : homeGiven name none = "/home" ++ "/" ++ name := rfl
  rw [keyDirectory_eq, hgiven, Settings.defaultHome, pathIn, trimEndOf_append_name hname,
    trimEndOf_append_name hname, String.append_left_inj, String.append_left_inj,
    String.append_left_inj]

theorem keysLandAtHome_iff_of_placements (hname : IsPrincipalName name) {text : String}
    {supplied : Option String} (h : placements? text = some (.account name supplied ::
      (keyPlacements s name (keyDirectory (supplied.getD (s.defaultHome name))) ++
        rulePlacements s name attributes))) :
    KeysLandAtHome s name text ↔
      supplied.isSome = true ∨ Text.trimEndOf '/' s.accounts.baseHomeDirectory = "/home" := by
  have hplace : KeysLandAtHome s name text ↔
      keyDirectory (supplied.getD (s.defaultHome name)) =
        Text.trimEndOf '/' (homeGiven name supplied) ++ "/.ssh" := by
    constructor
    · rintro ⟨home, rule, hplaced, -⟩
      rw [h] at hplaced
      injection hplaced with hplaced
      injection hplaced with haccount hkeys
      injection haccount with _ hhome
      injection hkeys with hdirectory
      injection hdirectory with hdirectory
      rw [hdirectory, hhome]
    · intro hdirectory
      exact ⟨supplied, _, hdirectory ▸ h, fun p hp => mem_rulePlacements hp⟩
  rw [hplace]
  cases supplied with
  | some home => exact iff_of_true (keyDirectory_eq home) (.inl rfl)
  | none =>
    rw [Option.getD_none, keyDirectory_defaultHome_eq_iff hname]
    simp

/-- What is composed for the creation of an account with keys is its script, under a checked
name. -/
theorem placements_composeAccount {c : Provision.AccountCreation}
    (h : Provision.composeAccount s attributes = .ok c)
    (hkeys : attributes.texts AttributeName.publicKey ≠ []) :
    let supplied := attributes.text? s.fieldNames.homeDirectory
    IsPrincipalName c.username ∧
      placements? c.create.text = some (.account c.username supplied ::
        (keyPlacements s c.username (keyDirectory (supplied.getD (s.defaultHome c.username))) ++
          rulePlacements s c.username attributes)) := by
  have hname := checkName_eq_ok_iff.mp (Provision.isCreatable_of_composeAccount h).name
  obtain ⟨_, -, h⟩ := exists_of_bind_eq_ok h
  obtain ⟨_, -, h⟩ := exists_of_bind_eq_ok h
  obtain ⟨create, hcreate, h⟩ := exists_of_bind_eq_ok h
  obtain ⟨activation, -, h⟩ := exists_of_bind_eq_ok h
  obtain rfl := Except.ok.inj h
  exact ⟨hname, placements_createAccount hcreate hkeys⟩

/-- Whatever can be created with keys puts them into the home directory that is supplied, or into
the one that the settings assume. The account gets that home exactly if one is supplied, or if the
base in the settings is the one of the host: the script does not tell the host what is assumed. -/
theorem keys_land_at_home_iff {c : Provision.AccountCreation}
    (h : Provision.composeAccount s attributes = .ok c)
    (hkeys : attributes.texts AttributeName.publicKey ≠ []) :
    let supplied := attributes.text? s.fieldNames.homeDirectory
    placements? c.create.text = some (.account c.username supplied ::
      (keyPlacements s c.username (keyDirectory (supplied.getD (s.defaultHome c.username))) ++
        rulePlacements s c.username attributes)) ∧
    (KeysLandAtHome s c.username c.create.text ↔
      supplied.isSome = true ∨ Text.trimEndOf '/' s.accounts.baseHomeDirectory = "/home") := by
  obtain ⟨hname, hplaced⟩ := placements_composeAccount h hkeys
  exact ⟨hplaced, keysLandAtHome_iff_of_placements hname hplaced⟩

/-- A host of which the home directories are said to lie elsewhere. -/
def relocated : Settings :=
  { elevation := { root := true }, accounts := { baseHomeDirectory := "/srv/home" } }

/-- An account with a key, a rule and a home directory. -/
def housedAttributes : AttributeSet :=
  .ofList [⟨AttributeName.name, [.text "svc1"]⟩, ⟨"homeDirectory", [.text "/data/svc1//"]⟩,
    ⟨AttributeName.publicKey, [.text "ssh-ed25519 AAAA"]⟩,
    ⟨AttributeName.permissions, [.text "ALL"]⟩]

theorem keys_land_at_home_iff_housed :
    ∃ c, Provision.composeAccount relocated housedAttributes = .ok c ∧
      KeysLandAtHome relocated c.username c.create.text := by
  obtain ⟨c, h⟩ : ∃ c, Provision.composeAccount relocated housedAttributes = .ok c := ⟨_, rfl⟩
  have hkeys : housedAttributes.texts AttributeName.publicKey ≠ [] := by decide
  exact ⟨c, h, (keys_land_at_home_iff h hkeys).2.mpr (.inl rfl)⟩

/-- The same account without a home directory of its own. -/
def unhousedAttributes : AttributeSet :=
  .ofList [⟨AttributeName.name, [.text "svc1"]⟩,
    ⟨AttributeName.publicKey, [.text "ssh-ed25519 AAAA"]⟩]

/-- Its keys go into a directory below `/srv/home`, and it lives below `/home`. -/
theorem not_keys_land_at_home :
    ¬ ∀ (s : Settings) (attributes : AttributeSet) (c : Provision.AccountCreation),
      s.check = .ok () → Provision.composeAccount s attributes = .ok c →
      attributes.texts AttributeName.publicKey ≠ [] →
      KeysLandAtHome s c.username c.create.text := by
  intro hland
  obtain ⟨c, h⟩ : ∃ c, Provision.composeAccount relocated unhousedAttributes = .ok c := ⟨_, rfl⟩
  have hkeys : unhousedAttributes.texts AttributeName.publicKey ≠ [] := by decide
  obtain ⟨hname, hplaced⟩ := placements_composeAccount h hkeys
  rcases (keysLandAtHome_iff_of_placements hname hplaced).mp (hland _ _ c rfl h hkeys) with
    hsupplied | hbase
  · exact absurd hsupplied (by decide)
  · exact absurd hbase (by decide)

end Recipe

end HostAccounts
