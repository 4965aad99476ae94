import HostAccounts.Provision.Checks
import HostAccounts.Provision.Session
import HostAccounts.Recipe.Group

/-!
# Creation

Every command is composed before the first one is sent, so that a malformed attribute leaves nothing
half done on the host.
-/

set_option autoImplicit false

namespace HostAccounts.Provision

/-- The commands that create an account. -/
structure AccountCreation where
  username : String
  create : RemoteCommand
  password : Option RemoteCommand
  activation : Option RemoteCommand
  deriving DecidableEq, Repr

/-- Composes the creation of an account. -/
def composeAccount (s : Settings) (attributes : AttributeSet) : Except Fault AccountCreation := do
  let username ← requireName attributes
  checkAttributes .account s.fieldNames attributes
  let create ← Recipe.createAccount s username attributes
  let password := (attributes.secret? AttributeName.password).filter fun p => !p.isEmpty
  let activation ← Recipe.activation? s username attributes
  return { username, create, password := password.map (Recipe.setPassword s username), activation }

/-- Sends what was composed for the creation of an account; the result is its identifier. -/
def carryOutCreation (s : Settings) (c : AccountCreation) : Procedure String := do
  Procedure.tell (.creating "account" c.username)
  discard <| Session.run s.diagnostics c.create .useradd "Could not create user" c.username
  Session.runOptional s.diagnostics c.password .passwd "Could not set password" c.username
  Session.runOptional s.diagnostics c.activation .usermod "Could not change user activation status"
    c.username
  return c.username

/-- Creates an account; the result is its identifier. -/
def createAccount (s : Settings) (attributes : AttributeSet) : Procedure String := do
  let c ← Procedure.ofExcept id (composeAccount s attributes)
  carryOutCreation s c

/-- Composes the creation of a group. -/
def composeGroup (s : Settings) (attributes : AttributeSet) :
    Except Fault (String × RemoteCommand) := do
  let groupname ← requireName attributes
  checkAttributes .group s.fieldNames attributes
  if attributes.contains AttributeName.password then
    throw (.invalidArgument .groupPassword)
  let create ← Recipe.createGroup s groupname attributes
  return (groupname, create)

/-- Creates a group; the result is its identifier. -/
def createGroup (s : Settings) (attributes : AttributeSet) : Procedure String := do
  let (groupname, command) ← Procedure.ofExcept id (composeGroup s attributes)
  Procedure.tell (.creating "group" groupname)
  discard <| Session.run s.diagnostics command .groupadd "Could not create group" groupname
  return groupname

/-- Creates an object; the result is its identifier. -/
def create (s : Settings) (c : ObjectClass) (attributes : AttributeSet) : Procedure String :=
  match c with
  | .account => createAccount s attributes
  | .group => createGroup s attributes
  | .other what => throw (.unsupportedClass what)

end HostAccounts.Provision
