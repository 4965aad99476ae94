import HostAccounts.Recipe.Account

/-!
# Recipes for groups

The scripts that create, change and remove a group.
-/

set_option autoImplicit false

namespace HostAccounts

/-- A change of a group. -/
structure GroupUpdate where
  groupname : String
  attributes : AttributeSet
  mode : UpdateMode

/-- The name after the change. -/
def GroupUpdate.newName (u : GroupUpdate) : String :=
  u.attributes.name?.getD u.groupname

namespace Recipe

/-- Creates a group with its rule. -/
def createGroupSteps (s : Settings) (group : String) (attributes : AttributeSet) :
    Except Fault Plan := do
  let rule ← grantSupplied s .group group attributes
  return .run (Primitive.groupadd group) :: rule

/-- The command that creates a group. -/
def createGroup (s : Settings) (group : String) (attributes : AttributeSet) :
    Except Fault RemoteCommand :=
  (createGroupSteps s group attributes).map (Plan.command s.elevationPolicy)

/-- Changes a group. -/
def updateGroupSteps (s : Settings) (u : GroupUpdate) : Except Fault Plan :=
  match u.mode with
  | .replace => do
    let rule ← grantSupplied s .group u.newName u.attributes
    return (Primitive.renameGroup? u.groupname (some u.newName)).toList.map Intent.run ++ rule
  | .removeValues => revokeSupplied s .group u.newName u.attributes

/-- The command that changes a group, if anything is to be changed. -/
def updateGroup? (s : Settings) (u : GroupUpdate) : Except Fault (Option RemoteCommand) :=
  (updateGroupSteps s u).map (Plan.command? s.elevationPolicy)

/-- Removes a group and its rule. -/
def deleteGroupSteps (s : Settings) (group : String) : Except Fault Plan := do
  let rule ← revokeSteps s .group group
  return .run (Primitive.groupdel group) :: rule

/-- The command that removes a group. -/
def deleteGroup (s : Settings) (group : String) : Except Fault RemoteCommand :=
  (deleteGroupSteps s group).map (Plan.command s.elevationPolicy)

end Recipe

end HostAccounts
