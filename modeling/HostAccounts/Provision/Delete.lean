import HostAccounts.Provision.Checks
import HostAccounts.Provision.Session
import HostAccounts.Recipe.Group

/-!
# Removal

The commands that remove report a missing target in words that differ from host to host. So the
target is looked up first, and nothing is removed if the lookup prints nothing.
-/

set_option autoImplicit false

namespace HostAccounts.Provision

open Diagnostics (Operation)

/-- A removal: its command, the kind of the command, and what to say if it fails. -/
structure Removal where
  command : RemoteCommand
  operation : Operation
  failure : String
  lookup : RemoteCommand
  deriving DecidableEq, Repr

/-- Composes a removal. -/
def composeRemoval (s : Settings) (c : ObjectClass) (name : String) : Except Fault Removal := do
  match c with
  | .account =>
    let command ← Recipe.deleteAccount s name
    return ⟨command, .userdel, "Could not delete user", Recipe.findAccount name⟩
  | .group =>
    let command ← Recipe.deleteGroup s name
    return ⟨command, .groupdel, "Could not delete group", Recipe.findGroup name⟩
  | .other what => throw (.unsupportedClass what)

/-- Removes the object that was found, or fails if none was. -/
def carryOutRemoval (s : Settings) (c : ObjectClass) (name : String) (removal : Removal)
    (found : String) : Procedure Unit := do
  if Text.isBlankText found then
    Procedure.tell (.nothingToDelete c name)
    throw (.unknownTarget name)
  Procedure.tell (.deleting c name)
  discard <| Session.run s.diagnostics removal.command removal.operation removal.failure name

/-- Removes an object. -/
def delete (s : Settings) (c : ObjectClass) (uid : String) : Procedure Unit := do
  let name ← Procedure.ofExcept id (requireUid uid)
  let removal ← Procedure.ofExcept id (composeRemoval s c name)
  let found ← Session.read s.diagnostics removal.lookup
  carryOutRemoval s c name removal found

end HostAccounts.Provision
