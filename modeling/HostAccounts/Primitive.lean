import HostAccounts.Attribute
import HostAccounts.Shell.Pipeline

/-!
# Primitive commands

The commands on accounts, groups and files of which scripts are made, and the lookups that only
read, each as a pipeline. None of them elevates itself; that is decided where they are put into a
script.
-/

set_option autoImplicit false

namespace HostAccounts.Primitive

open Shell (Pipeline Word)

/-! ## Accounts -/

/-- The fields of an account row that a request supplies. -/
structure AccountFields where
  homeDirectory : Option String := none
  shell : Option String := none
  comment : Option String := none
  groups : List String := []
  deriving DecidableEq, Repr

namespace AccountFields

/-- The fields that a set of attributes supplies, under the given names. -/
def ofAttributes (names : FieldNames) (attributes : AttributeSet) : AccountFields where
  homeDirectory := attributes.text? names.homeDirectory
  shell := attributes.text? names.shell
  comment := attributes.text? names.comment
  groups := attributes.texts AttributeName.groups

/-- No field is supplied. -/
def isEmpty (f : AccountFields) : Bool :=
  f.homeDirectory.isNone && f.shell.isNone && f.comment.isNone && f.groups.isEmpty

/-- The flags for the supplied fields; the groups, which replace the whole list, only on request. -/
def flags (f : AccountFields) (withGroups : Bool) : List String :=
  (f.homeDirectory.toList.flatMap fun v => ["-d", v]) ++
  (f.shell.toList.flatMap fun v => ["-s", v]) ++
  (if withGroups && !f.groups.isEmpty then ["-G", ",".intercalate f.groups] else []) ++
  (f.comment.toList.flatMap fun v => ["-c", v])

end AccountFields

/-- Creates an account. -/
def useradd (user : String) (fields : AccountFields) (createHome : Bool) : Pipeline :=
  .ofWords (["useradd"] ++ fields.flags true ++ (if createHome then ["-m"] else []) ++ [user])

/-- Changes the supplied fields and the name of an account, if anything of that changes. -/
def usermod? (user : String) (fields : AccountFields) (newName : Option String)
    (setGroups : Bool) : Option Pipeline :=
  let rename := (newName.filter (· ≠ user)).toList.flatMap fun n => ["-l", n]
  let flags := fields.flags setGroups ++ rename
  if flags.isEmpty then none else some (.ofWords (["usermod"] ++ flags ++ [user]))

/-- Removes an account, with its home directory if so asked. -/
def userdel (user : String) (removeHome : Bool) : Pipeline :=
  .ofWords (["userdel"] ++ (if removeHome then ["-r"] else []) ++ [user])

/-- Locks the password of an account. -/
def lock (user : String) : Pipeline :=
  .ofWords ["usermod", "-L", user]

/-- Unlocks the password of an account. -/
def unlock (user : String) : Pipeline :=
  .ofWords ["usermod", "-U", user]

/-- Sets the day on which an account ends. -/
def expire (user date : String) : Pipeline :=
  .ofWords ["usermod", "-e", date, user]

/-- Takes the end of an account away. -/
def clearExpiry (user : String) : Pipeline :=
  expire user ""

/-- Takes an account out of a group. -/
def removeFromGroup (user group : String) : Pipeline :=
  .ofWords ["gpasswd", "-d", user, group]

/-! ## Passwords -/

/-- Reads records of a name and a password from standard input. -/
def chpasswd : Pipeline :=
  .ofWords ["chpasswd"]

/-- The record that sets a password. -/
def passwordLine (user password : String) : String :=
  user ++ ":" ++ password

/-- The record that sets a password, as it is written in a command. -/
def passwordRecord (user password : String) : String :=
  Shell.singleQuote (passwordLine user password)

/-- Takes the password of an account away. -/
def resetPassword (user : String) : Pipeline :=
  .ofWords ["passwd", "-d", user]

/-! ## Groups -/

/-- Creates a group. -/
def groupadd (group : String) : Pipeline :=
  .ofWords ["groupadd", group]

/-- Gives a group a new name. -/
def renameGroup (group newName : String) : Pipeline :=
  .ofWords ["groupmod", "-n", newName, group]

/-- Gives a group a new name, if it is one. -/
def renameGroup? (group : String) (newName : Option String) : Option Pipeline :=
  (newName.filter (· ≠ group)).map (renameGroup group)

/-- Removes a group. -/
def groupdel (group : String) : Pipeline :=
  .ofWords ["groupdel", group]

/-! ## Files -/

/-- Writes standard input to a file, silently. -/
def tee (path : String) : Pipeline :=
  .single ⟨[⟨"tee", ""⟩, ⟨path, ""⟩], some (.output "/dev/null")⟩

/-- Makes a directory and those above it. -/
def mkdir (path : String) : Pipeline :=
  .ofWords ["mkdir", "-p", path]

/-- Hands a path and all below it to an account and its login group. -/
def chown (owner path : String) : Pipeline :=
  .single ⟨[⟨"chown", ""⟩, ⟨"-R", ""⟩, ⟨owner, ":"⟩, ⟨path, ""⟩], none⟩

/-- Sets the mode of a path. -/
def chmod (mode path : String) : Pipeline :=
  .ofWords ["chmod", mode, path]

/-- Removes a file, if it is there. -/
def removeFile (path : String) : Pipeline :=
  .ofWords ["rm", "-f", path]

/-- Removes a directory and all below it. -/
def removeDirectory (path : String) : Pipeline :=
  .ofWords ["rm", "-rf", path]

/-- Moves a file or directory. -/
def move (source target : String) : Pipeline :=
  .ofWords ["mv", source, target]

/-- Prints a file, and nothing at all if it is not there. -/
def cat (path : String) : Pipeline :=
  .single ⟨[⟨"cat", ""⟩, ⟨path, ""⟩], some (.errors "/dev/null")⟩

/-! ## Lookups

The commands that read the databases of the host, and those that test the session. They change
nothing. -/

/-- The row of one account. -/
def accountEntry (user : String) : Pipeline :=
  .ofWords ["getent", "passwd", user]

/-- The rows of all accounts. -/
def accountDump : Pipeline :=
  .ofWords ["getent", "passwd"]

/-- The row of one group. -/
def groupEntry (group : String) : Pipeline :=
  .ofWords ["getent", "group", group]

/-- The rows of all groups. -/
def groupDump : Pipeline :=
  .ofWords ["getent", "group"]

/-- The password and expiry record of one account. -/
def shadowEntry (user : String) : Pipeline :=
  .ofWords ["getent", "shadow", user]

/-- The group rows that hold the account's name as a word; among them are rows that do not list the
account as a member. -/
def groupsMentioning (user : String) : Pipeline :=
  ⟨[.ofWords ["getent", "group"], .ofWords ["grep", "-w", "--", user]]⟩

/-- Does nothing. -/
def succeed : Pipeline :=
  .ofWords ["true"]

/-- Prints a marker. -/
def echo (marker : String) : Pipeline :=
  .ofWords ["echo", marker]

end HostAccounts.Primitive
