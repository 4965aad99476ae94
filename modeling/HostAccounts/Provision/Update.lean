import HostAccounts.Database.Row
import HostAccounts.Provision.Checks
import HostAccounts.Provision.Session
import HostAccounts.Recipe.Group

/-!
# Change

What the script of a change depends on is read from the host first, before anything is changed. The
password, if there is one to set or to take away, comes last and in a command of its own.
-/

set_option autoImplicit false

namespace HostAccounts.Provision

open Database (AccountRow GroupRow)

/-! ## Reading ahead -/

/-- The row of an account in what its lookup printed. -/
def rowNamed (user output : String) : Procedure AccountRow := do
  let rows ← Session.rows (AccountRow.dump output)
  match rows.find? fun r => r.username = user with
  | some row => return row
  | none => throw (.unknownTarget user)

/-- The row of an account. -/
def fetchAccount (s : Settings) (user : String) : Procedure AccountRow := do
  let output ← Session.read s.diagnostics (Recipe.findAccount user)
  rowNamed user output

/-- The names of the groups that list an account. -/
def fetchGroups (s : Settings) (user : String) : Procedure (List String) := do
  let output ← Session.read s.diagnostics (Recipe.readMemberships user)
  let rows ← Session.rows (GroupRow.dump output)
  return GroupRow.groupsOf rows user

/-- The change depends on the row of the account. -/
def needsRow (s : Settings) (user : String) (attributes : AttributeSet) (mode : UpdateMode) :
    Bool :=
  attributes.name?.getD user ≠ user ||
    (mode = .replace && attributes.isPresent s.fieldNames.homeDirectory) ||
    attributes.contains AttributeName.publicKey

/-- The change depends on the groups of the account. -/
def needsGroups (attributes : AttributeSet) (mode : UpdateMode) : Bool :=
  mode = .removeValues && attributes.isPresent AttributeName.groups

/-- Looks the account up, if the change depends on its row. -/
def readRow (s : Settings) (user : String) (attributes : AttributeSet) (mode : UpdateMode) :
    Procedure (Option AccountRow) :=
  if needsRow s user attributes mode then some <$> fetchAccount s user else pure none

/-- Looks up the groups of the account, if the change depends on them. -/
def readGroups (s : Settings) (user : String) (attributes : AttributeSet) (mode : UpdateMode) :
    Procedure (List String) :=
  if needsGroups attributes mode then fetchGroups s user else pure []

/-- Looks up what the change of an account depends on. -/
def readAhead (s : Settings) (username : String) (attributes : AttributeSet) (mode : UpdateMode) :
    Procedure AccountUpdate := do
  let currentRow ← readRow s username attributes mode
  let currentGroups ← readGroups s username attributes mode
  return { username, attributes, mode, currentGroups, currentRow }

/-! ## Accounts -/

/-- The command that sets the password, or takes it away. -/
def passwordCommand? (s : Settings) (user : String) (attributes : AttributeSet)
    (mode : UpdateMode) : Option RemoteCommand :=
  match mode with
  | .replace =>
    ((attributes.secret? AttributeName.password).filter fun p => !p.isEmpty).map
      (Recipe.setPassword s user)
  | .removeValues =>
    if attributes.contains AttributeName.password then some (Recipe.resetPassword s user) else none

/-- Sends what was composed for the change of an account; the result is its identifier after the
change. -/
def carryOut (s : Settings) (u : AccountUpdate) (script : Option RemoteCommand) :
    Procedure String := do
  Procedure.tell <| if script.isSome then .updating "account" u.username
    else .nothingToModify "account" u.username
  Session.runOptional s.diagnostics script .usermod "Could not modify user" u.username
  Session.runOptional s.diagnostics (passwordCommand? s u.newName u.attributes u.mode) .passwd
    "Could not set password" u.newName
  return u.newName

/-- Changes an account; the result is its identifier after the change. -/
def updateAccount (s : Settings) (uid : String) (attributes : AttributeSet) (mode : UpdateMode) :
    Procedure String := do
  let username ← Procedure.ofExcept id (requireUid uid)
  Procedure.ofExcept id (checkAttributes .account s.fieldNames attributes)
  let u ← readAhead s username attributes mode
  let script ← Procedure.ofExcept id (Recipe.updateAccount? s u)
  carryOut s u script

/-! ## Groups -/

/-- Sends what was composed for the change of a group; the result is its identifier after the
change. -/
def carryOutGroup (s : Settings) (u : GroupUpdate) (script : Option RemoteCommand) :
    Procedure String := do
  Procedure.tell <| if script.isSome then .updating "group" u.groupname
    else .nothingToModify "group" u.groupname
  Session.runOptional s.diagnostics script .groupmod "Could not modify group" u.groupname
  return u.newName

/-- Changes a group; the result is its identifier after the change. -/
def updateGroup (s : Settings) (uid : String) (attributes : AttributeSet) (mode : UpdateMode) :
    Procedure String := do
  let groupname ← Procedure.ofExcept id (requireUid uid)
  Procedure.ofExcept id (checkAttributes .group s.fieldNames attributes)
  let script ← Procedure.ofExcept id (Recipe.updateGroup? s ⟨groupname, attributes, mode⟩)
  carryOutGroup s ⟨groupname, attributes, mode⟩ script

/-- Changes an object; the result is its identifier after the change. -/
def update (s : Settings) (c : ObjectClass) (uid : String) (attributes : AttributeSet)
    (mode : UpdateMode) : Procedure String :=
  match c with
  | .account => updateAccount s uid attributes mode
  | .group => updateGroup s uid attributes mode
  | .other what => throw (.unsupportedClass what)

end HostAccounts.Provision
