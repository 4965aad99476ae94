import HostAccounts.Database.Row
import HostAccounts.Recipe.Activation
import HostAccounts.Recipe.Keys
import HostAccounts.Recipe.Permissions

/-!
# Recipes for accounts

The scripts that create, change and remove an account. Each is sent in one go. In a change the order
matters: what happens before the account is renamed names it as it was, what happens after as it is.
-/

set_option autoImplicit false

namespace HostAccounts

open Database (AccountRow)
open Primitive (AccountFields)

/-! ## Changes -/

/-- What a change does with the attributes supplied. -/
inductive UpdateMode where
  /-- They replace those of the object. -/
  | replace
  /-- They say what to take away: memberships in groups that are not listed, the keys, the rule and
  the password. -/
  | removeValues
  deriving DecidableEq, Repr

/-- A change of an account, with what the host was found to hold. -/
structure AccountUpdate where
  username : String
  attributes : AttributeSet
  mode : UpdateMode
  /-- The groups that list the account. -/
  currentGroups : List String
  /-- The row of the account, where it was looked up. -/
  currentRow : Option AccountRow

namespace AccountUpdate

/-- The name after the change. -/
def newName (u : AccountUpdate) : String :=
  u.attributes.name?.getD u.username

/-- The change is a renaming. -/
def isRename (u : AccountUpdate) : Bool :=
  u.newName ≠ u.username

/-- The fields that are set. -/
def fields (u : AccountUpdate) (names : FieldNames) : AccountFields :=
  match u.mode with
  | .replace => .ofAttributes names u.attributes
  | .removeValues => {}

end AccountUpdate

namespace Recipe

/-! ## Creation -/

/-- The fields of a new account: those supplied, and the shell of the settings in want of one. -/
def newFields (s : Settings) (attributes : AttributeSet) : AccountFields :=
  let fields := AccountFields.ofAttributes s.fieldNames attributes
  { fields with shell := fields.shell.or s.accounts.defaultShell }

/-- Creates an account with its keys and its rule. -/
def createAccountSteps (s : Settings) (user : String) (attributes : AttributeSet) :
    Except Fault Plan := do
  let fields := newFields s attributes
  let home := fields.homeDirectory.getD (s.defaultHome user)
  let rule ← grantSupplied s .account user attributes
  return [.run (Primitive.useradd user fields s.accounts.createHomeDirectory)] ++
    keysSupplied s user home attributes ++ rule

/-- The command that creates an account. -/
def createAccount (s : Settings) (user : String) (attributes : AttributeSet) :
    Except Fault RemoteCommand :=
  (createAccountSteps s user attributes).map (Plan.command s.elevationPolicy)

/-! ## Change -/

/-- Takes the account, under its old name, out of the groups that are not to be kept. -/
def leaveGroupSteps (u : AccountUpdate) : Plan :=
  if u.mode = .removeValues && u.attributes.isPresent AttributeName.groups then
    let kept := u.attributes.texts AttributeName.groups
    (u.currentGroups.filter fun g => !kept.contains g).map fun g =>
      .run (Primitive.removeFromGroup u.username g)
  else []

/-- Sets the fields and the name. -/
def modifySteps (s : Settings) (u : AccountUpdate) : Plan :=
  (Primitive.usermod? u.username (u.fields s.fieldNames) (some u.newName)
    (u.mode = .replace)).toList.map Intent.run

/-- Moves the home directory and renames the group of the account, both from what the row says. -/
def followUpSteps (s : Settings) (u : AccountUpdate) : Except Fault Plan :=
  let home := (u.fields s.fieldNames).homeDirectory
  if u.isRename || home.isSome then
    match u.currentRow with
    | none => .error (.unknownTarget u.username)
    | some row =>
      .ok (((home.filter (· ≠ row.homeDirectory)).toList.map fun h =>
          Intent.run (Primitive.move row.homeDirectory h)) ++
        if u.isRename then [.run (Primitive.renameGroup row.username u.newName)] else [])
  else .ok []

/-- The home directory after the change. -/
def finalHome (s : Settings) (u : AccountUpdate) : String :=
  ((u.fields s.fieldNames).homeDirectory.or (u.currentRow.map AccountRow.homeDirectory)).getD
    (s.defaultHome u.newName)

/-- Writes or removes the keys and the rule, under the new name. -/
def grantOrRevokeSteps (s : Settings) (u : AccountUpdate) : Except Fault Plan :=
  match u.mode with
  | .replace => do
    let rule ← grantSupplied s .account u.newName u.attributes
    return keysSupplied s u.newName (finalHome s u) u.attributes ++ rule
  | .removeValues => do
    let rule ← revokeSupplied s .account u.newName u.attributes
    return keysWithdrawn (finalHome s u) u.attributes ++ rule

/-- Changes an account. -/
def updateAccountSteps (s : Settings) (u : AccountUpdate) : Except Fault Plan := do
  let activation ← activationSteps s u.newName u.attributes
  let followUp ← followUpSteps s u
  let grants ← grantOrRevokeSteps s u
  return leaveGroupSteps u ++ modifySteps s u ++ activation ++ followUp ++ grants

/-- The command that changes an account, if anything is to be changed. -/
def updateAccount? (s : Settings) (u : AccountUpdate) : Except Fault (Option RemoteCommand) :=
  (updateAccountSteps s u).map (Plan.command? s.elevationPolicy)

/-- The command that renames the group of an account. -/
def renamePrimaryGroup (s : Settings) (oldName newName : String) : RemoteCommand :=
  elevated s (Primitive.renameGroup oldName newName)

/-- The command that moves a home directory. -/
def moveHome (s : Settings) (oldHome newHome : String) : RemoteCommand :=
  elevated s (Primitive.move oldHome newHome)

/-! ## Removal -/

/-- Removes an account and its rule. -/
def deleteAccountSteps (s : Settings) (user : String) : Except Fault Plan := do
  let rule ← revokeSteps s .account user
  return .run (Primitive.userdel user s.accounts.deleteHomeDirectory) :: rule

/-- The command that removes an account. -/
def deleteAccount (s : Settings) (user : String) : Except Fault RemoteCommand :=
  (deleteAccountSteps s user).map (Plan.command s.elevationPolicy)

/-! ## Passwords -/

/-- Sets the password of an account. -/
def setPasswordSteps (user password : String) : Plan :=
  [.feedSecret (Primitive.passwordLine user password) Primitive.chpasswd]

/-- What is written is the record of the account. -/
theorem script_setPasswordSteps (user password : String) :
    (setPasswordSteps user password).script =
      [.pipedSecret (Primitive.passwordRecord user password) Primitive.chpasswd.written] :=
  rfl

/-- The command that sets a password. -/
def setPassword (s : Settings) (user password : String) : RemoteCommand :=
  Plan.command s.elevationPolicy (setPasswordSteps user password)

/-- The command that takes a password away. -/
def resetPassword (s : Settings) (user : String) : RemoteCommand :=
  elevated s (Primitive.resetPassword user)

end Recipe

end HostAccounts
