import HostAccounts.Attribute
import HostAccounts.Diagnostics.Catalogue
import HostAccounts.Elevation
import HostAccounts.Principal

/-!
# Settings

How to reach the managed host, how to get root rights there, and what to assume for new accounts.
For the login of the administrator a key file goes before an agent, and an agent before a password.
-/

set_option autoImplicit false

namespace HostAccounts

open Diagnostics (Overrides)

/-! ## The parts -/

/-- The session of the administrator. -/
structure ConnectionSettings where
  host : String := ""
  port : UInt16 := 22
  admin : String := ""
  password : Option String := none
  keyPath : Option String := none
  keyPassphrase : Option String := none
  useAgent : Bool := false
  /-- The key of the host has to be known. -/
  strictHostKeyChecking : Bool := true
  /-- Seconds that may pass until the connection stands. -/
  connectTimeout : UInt64 := 30
  deriving DecidableEq, Repr

/-- How to get root rights. -/
structure ElevationSettings where
  /-- The administrator is root. -/
  root : Bool := false
  sudoPassword : Option String := none
  deriving DecidableEq, Repr

/-- What to assume for accounts. -/
structure AccountSettings where
  baseHomeDirectory : String := "/home"
  createHomeDirectory : Bool := true
  deleteHomeDirectory : Bool := false
  /-- The shell of a new account for which none is supplied. -/
  defaultShell : Option String := none
  /-- The end of an account that is disabled without a date. -/
  disableDate : String := "1970-01-02"
  keyDirectoryMode : String := "700"
  keyFileMode : String := "600"
  sudoersDirectory : String := "/etc/sudoers.d"
  deriving DecidableEq, Repr

/-- The settings. -/
structure Settings where
  connection : ConnectionSettings := {}
  elevation : ElevationSettings := {}
  accounts : AccountSettings := {}
  fieldNames : FieldNames := {}
  diagnostics : Overrides := Overrides.empty
  deriving DecidableEq, Repr

namespace Settings

/-! ## What follows from them -/

/-- How commands get root rights. -/
def elevationPolicy (s : Settings) : Elevation :=
  if s.elevation.root then .alreadyRoot else .viaSudo s.elevation.sudoPassword

/-- The home directory of an account for which none is supplied. -/
def defaultHome (s : Settings) (user : String) : String :=
  pathIn s.accounts.baseHomeDirectory user

/-! ## Checks -/

/-- An octal mode of at most four digits. -/
def isMode (mode : String) : Bool :=
  !mode.isEmpty && mode.utf8ByteSize ≤ 4 && mode.toList.all fun c => '0' ≤ c && c ≤ '7'

/-- Checks a path among the settings. -/
def checkPathSetting (field path : String) : Except SettingsDefect Unit :=
  (checkPath field path).mapError .badPath

/-- Checks a mode among the settings. -/
def checkMode (field mode : String) : Except SettingsDefect Unit :=
  if isMode mode then .ok () else .error (.badMode field mode)

/-- The sudo password is known, or none is needed. -/
def hasElevation (s : Settings) : Bool :=
  s.elevation.root || (s.elevation.sudoPassword.any fun p => !p.isEmpty)

/-- Checks that operations can work with the settings. -/
def check (s : Settings) : Except SettingsDefect Unit := do
  if !s.hasElevation then throw .noSudoPassword
  checkPathSetting "base_home_directory" s.accounts.baseHomeDirectory
  checkPathSetting "sudoers_directory" s.accounts.sudoersDirectory
  checkMode "ssh_dir_permissions" s.accounts.keyDirectoryMode
  checkMode "ssh_key_permissions" s.accounts.keyFileMode

end Settings

/-! ## Paths below the home directory

A path that begins with a tilde alone lies below the home directory of the user. The home directory
of another user is not looked up, so a tilde with a name stays as it is. -/

/-- A part of a path that leads nowhere. -/
def isIdlePart (part : String) : Bool :=
  part.isEmpty || part == "."

/-- The parts without idle ones at either end. -/
def dropIdleParts (parts : List String) : List String :=
  ((parts.dropWhile isIdlePart).reverse.dropWhile isIdlePart).reverse

/-- A path below a directory. -/
def below (directory path : String) : String :=
  if directory.isEmpty || directory.toList.getLast? = some '/' then directory ++ path
  else directory ++ "/" ++ path

/-- The path with the home directory, if that is known, in place of a leading tilde. -/
def expandHome (home : Option String) (path : String) : String :=
  match home, Text.splitOn '/' path with
  | some home, "~" :: parts => below home ("/".intercalate (dropIdleParts parts))
  | _, _ => path

/-! ## Credentials -/

/-- With what to log in. -/
inductive Credential where
  | keyFile (path : String) (passphrase : Option String)
  | agent
  | password (secret : String)
  deriving DecidableEq, Repr

/-- The credential that the settings give the administrator. -/
def ConnectionSettings.credential? (home : Option String) (c : ConnectionSettings) :
    Option Credential :=
  match c.keyPath with
  | some path => some (.keyFile (expandHome home path) c.keyPassphrase)
  | none => if c.useAgent then some .agent else c.password.map .password

/-- Checks that the settings suffice to log in, and gives the credential. -/
def Settings.checkLogin (home : Option String) (s : Settings) :
    Except SettingsDefect Credential := do
  s.check
  if Text.isBlankText s.connection.host then throw .noHost
  if Text.isBlankText s.connection.admin then throw .noAdmin
  match s.connection.credential? home with
  | some credential => return credential
  | none => throw .noCredential

end HostAccounts
