import HostAccounts.CommandLine.Command
import HostAccounts.Program.Failure
import HostAccounts.Settings.Document

/-!
# Where settings come from

A file comes first: the one that is named, or one in the working directory, or one of the user's.
Secrets in the environment go before those of the file, options go before both, and a password that
is typed goes before all.
-/

set_option autoImplicit false

namespace HostAccounts.Program

open CommandLine (GlobalOptions)

/-! ## Files -/

/-- The user's home directory, if the environment names it. -/
def home : Program (Option String) :=
  request (.environment "HOME")

/-- The file exists. -/
def hasFile (path : String) : Program Bool :=
  request (.hasFile path)

/-- Reads the settings from a file. -/
def readSettings (path : String) : Program Settings := do
  let path := expandHome (← home) path
  match ← request (.readFile path) with
  | none => throw (.unreadableSettings path)
  | some text =>
    match Settings.ofText? text with
    | some s => return s
    | none => throw (.malformedSettings path)

/-- The file in the working directory. -/
def localFile : String := "unixprov.yaml"

/-- The user's directory for settings, if it is known. -/
def userDirectory (xdg home : Option String) : Option String :=
  match xdg.filter fun d => d.toList.head? = some '/' with
  | some directory => some directory
  | none => (home.filter (!·.isEmpty)).map (below · ".config")

/-- The user's file. -/
def userFile? : Program (Option String) := do
  let xdg ← request (.environment "XDG_CONFIG_HOME")
  return (userDirectory xdg (← home)).map fun d => below (below d "unixprov") "config.yaml"

/-- Reads the settings from the file that is named, or else from the first that exists. -/
def findSettings (given : Option String) : Program Settings := do
  if let some path := given then
    tell (.settingsGiven path)
    return ← readSettings path
  if ← hasFile localFile then
    tell .settingsInWorkingDirectory
    return ← readSettings localFile
  if let some path ← userFile? then
    tell (.settingsOfUser path)
    if ← hasFile path then
      return ← readSettings path
  throw .noSettings

/-! ## Secrets -/

/-- The variable of the environment that holds the password of the administrator. -/
def adminVariable : String := "UNIXPROV_PASSWORD"

/-- The settings with the secrets of the environment. A sudo password there may not be empty. -/
def withEnvironment (s : Settings) : Program Settings := do
  let root ← request (.environment Failure.sudoVariable)
  let s ← match root with
    | none => pure s
    | some secret =>
      if secret.isEmpty then throw .blankSudoVariable
      tell .sudoPasswordFromEnvironment
      pure { s with elevation := { s.elevation with sudoPassword := some secret } }
  match ← request (.environment adminVariable) with
  | none => return s
  | some secret =>
    if secret.isEmpty then return s
    tell .adminPasswordFromEnvironment
    return { s with connection := { s.connection with password := some secret } }

/-- Has a password typed. -/
def typePassword (prompt : String) : Program String := do
  match ← request (.password (some prompt)) with
  | none => throw .noPassword
  | some secret =>
    if secret.isEmpty then throw .blankPassword
    return secret

/-- Has the sudo password typed. -/
def typeSudoPassword : Program String := do
  request (.notice "Enter sudo password: \n")
  match ← request (.password none) with
  | none => throw .noSudoPassword
  | some secret =>
    if secret.isEmpty then throw .blankSudoPassword
    return secret

/-- The settings with the password of the administrator typed, if that is wanted. -/
def withPassword (wanted : Bool) (s : Settings) : Program Settings := do
  if !wanted then return s
  let secret ← typePassword s!"Password for {s.connection.admin}@{s.connection.host}: "
  return { s with connection := { s.connection with password := some secret } }

/-- The settings with the sudo password typed, if there is none and one is needed. -/
def withSudoPassword (s : Settings) : Program Settings := do
  if s.elevation.root || s.elevation.sudoPassword.isSome then return s
  let secret ← typeSudoPassword
  return { s with elevation := { s.elevation with sudoPassword := some secret } }

/-! ## The whole -/

/-- The settings of a run. -/
def configure (o : GlobalOptions) : Program Settings := do
  let s ← findSettings o.config
  let s ← withEnvironment s
  withSudoPassword (← withPassword o.password (o.override s))

end HostAccounts.Program
