import HostAccounts.Database.RootOnly
import HostAccounts.Filter
import HostAccounts.Provision.Update

/-!
# Search

A search for one object by its name looks that object up, tells more about it, and fails if there is
none. Every other search goes through all rows and tells what stands in them. Objects are handed
over one by one; once no more are wanted, nothing more is read.
-/

set_option autoImplicit false

namespace HostAccounts.Provision

open Database (AccountRow GroupRow ShadowRow)

/-- What takes the objects of a search, and says whether it wants more. -/
abbrev Handler := ManagedObject → Dialogue Bool

/-! ## Fields -/

/-- The field of an account row that a search compares. -/
inductive AccountField where
  | name
  | comment
  | shell
  | homeDirectory
  deriving DecidableEq, Repr

/-- The field that goes by a name. -/
def AccountField.ofName? (names : FieldNames) (name : String) : Option AccountField :=
  if Text.sameIgnoringCase name AttributeName.name || Text.sameIgnoringCase name AttributeName.uid
  then some .name
  else if Text.sameIgnoringCase name names.comment then some .comment
  else if Text.sameIgnoringCase name names.shell then some .shell
  else if Text.sameIgnoringCase name names.homeDirectory then some .homeDirectory
  else none

/-- The value of the field in a row. -/
def AccountField.value (f : AccountField) (r : AccountRow) : String :=
  match f with
  | name => r.username
  | comment => r.comment
  | shell => r.shell
  | homeDirectory => r.homeDirectory

/-! ## What more is known of one object -/

/-- Adds the rule for commands with root rights. -/
def addRule (s : Settings) (o : ManagedObject) : Procedure ManagedObject := do
  let command ← Procedure.ofExcept id (Recipe.readRule s o.objectClass o.name)
  let output ← Session.read s.diagnostics command
  match Database.sudoersRule? output o.name with
  | some rule => return o.insert AttributeName.permissions [.text rule]
  | none => return o

/-- Adds what the shadow record says. -/
def addStatus (s : Settings) (o : ManagedObject) : Procedure ManagedObject := do
  let output ← Session.read s.diagnostics (Recipe.readStatus s o.name)
  match (Text.lines output).find? fun l => !Text.isBlankText l with
  | none => return o
  | some line =>
    let row ← Procedure.ofExcept (fun defect => .badRow (.ofDefect defect)) (ShadowRow.ofLine line)
    let today ← Procedure.request .today
    let status := row.status today
    let o := o.insert AttributeName.enable [.flag status.enabled]
    let o := o.insert AttributeName.lockOut [.flag status.locked]
    match status.disableDate with
    | some date => return o.insert AttributeName.disableDate [.text date.written]
    | none => return o

/-- Adds the groups that list the account. -/
def addGroups (s : Settings) (o : ManagedObject) : Procedure ManagedObject := do
  let groups ← fetchGroups s o.name
  return o.insert AttributeName.groups (groups.map .text)

/-- Adds all that is kept apart from the account row. -/
def completeAccount (s : Settings) (o : ManagedObject) : Procedure ManagedObject := do
  let o ← addGroups s o
  let o ← addStatus s o
  addRule s o

/-! ## Handing over -/

/-- Completes and hands over one object after the other while more are wanted. -/
def deliver (complete : ManagedObject → Procedure ManagedObject) (handle : Handler) :
    List ManagedObject → Procedure Unit
  | [] => pure ()
  | o :: rest => do
    let o ← complete o
    let more ← ExceptT.lift (handle o)
    if more then deliver complete handle rest

/-- Fails if a search for one object found none. -/
def requireFound (operand : Option Operand) (objects : List ManagedObject) : Except Fault Unit :=
  match operand with
  | some o => if o.isKeyed && objects.isEmpty then .error (.noResults o.value) else .ok ()
  | none => .ok ()

/-- The search is for one object. -/
def isKeyed (operand : Option Operand) : Bool :=
  operand.any Operand.isKeyed

/-- The name of the one object that is searched for. -/
def keyOf? (operand : Option Operand) : Option String :=
  (operand.filter Operand.isKeyed).map Operand.value

/-! ## Tables -/

/-- A database of the host as a search uses it. -/
structure Table (ρ : Type) where
  /-- Reads the row of one object. -/
  find : String → RemoteCommand
  /-- Reads all rows. -/
  list : RemoteCommand
  dump : String → Database.Dump ρ
  /-- The comparison with each row that an operand asks for. -/
  test : Option Operand → Except Fault (ρ → Bool)
  /-- What a row tells. -/
  object : ρ → ManagedObject
  /-- What is told of the number of objects. -/
  matched : Nat → Event
  /-- Adds all that is kept apart from the row. -/
  complete : ManagedObject → Procedure ManagedObject

namespace Table

variable {ρ : Type}

/-- The command that a search reads with. -/
def reading (t : Table ρ) (operand : Option Operand) : RemoteCommand :=
  match keyOf? operand with
  | some name => t.find name
  | none => t.list

/-- The objects of the rows that pass the test. -/
def objects (t : Table ρ) (test : ρ → Bool) (rows : List ρ) : List ManagedObject :=
  (rows.filter test).map t.object

/-- What completes the objects of a search: nothing, unless it is for one object. -/
def completion (t : Table ρ) (operand : Option Operand) : ManagedObject → Procedure ManagedObject :=
  if isKeyed operand then t.complete else pure

/-- Searches a table. -/
def search (t : Table ρ) (s : Settings) (operand : Option Operand) (handle : Handler) :
    Procedure Unit := do
  let test ← Procedure.ofExcept id (t.test operand)
  let output ← Session.read s.diagnostics (t.reading operand)
  let rows ← Session.rows (t.dump output)
  let objects := t.objects test rows
  Procedure.ofExcept id (requireFound operand objects)
  Procedure.tell (t.matched objects.length)
  deliver (t.completion operand) handle objects

end Table

/-! ## Accounts -/

/-- The comparison with each account row that an operand asks for. -/
def accountTest (names : FieldNames) (operand : Option Operand) :
    Except Fault (AccountRow → Bool) :=
  match operand with
  | none => .ok fun _ => true
  | some o =>
    match AccountField.ofName? names o.field with
    | some field => .ok fun row => o.accepts (field.value row)
    | none => .error (.invalidArgument (.unsearchable "accounts" o.field))

/-- What an account row tells. -/
def accountObject (names : FieldNames) (r : AccountRow) : ManagedObject :=
  ((ManagedObject.ofName .account r.username).insert names.comment [.text r.comment]
    |>.insert names.shell [.text r.shell])
    |>.insert names.homeDirectory [.text r.homeDirectory]

/-- The accounts. -/
def accountTable (s : Settings) : Table AccountRow where
  find := Recipe.findAccount
  list := Recipe.listAccounts
  dump := AccountRow.dump
  test := accountTest s.fieldNames
  object := accountObject s.fieldNames
  matched := .accountsMatched
  complete := completeAccount s

/-! ## Groups -/

/-- The comparison with each group row that an operand asks for. -/
def groupTest (operand : Option Operand) : Except Fault (GroupRow → Bool) :=
  match operand with
  | none => .ok fun _ => true
  | some o =>
    if o.isPrimaryKey then .ok fun row => o.accepts row.groupname
    else .error (.invalidArgument (.unsearchable "groups" o.field))

/-- The groups. -/
def groupTable (s : Settings) : Table GroupRow where
  find := Recipe.findGroup
  list := Recipe.listGroups
  dump := GroupRow.dump
  test := groupTest
  object := fun r => .ofName .group r.groupname
  matched := .groupsMatched
  complete := addRule s

/-! ## Searches -/

/-- Searches the objects of a class for an operand. -/
def searchOperand (s : Settings) (c : ObjectClass) (operand : Option Operand) (handle : Handler) :
    Procedure Unit :=
  match c with
  | .account => (accountTable s).search s operand handle
  | .group => (groupTable s).search s operand handle
  | .other what => throw (.unsupportedClass what)

/-- The operand of a filter, if there is a filter. -/
def operandOf (filter : Option Filter) : Except Fault (Option Operand) :=
  match filter with
  | none => .ok none
  | some f => (f.operand.map some).mapError .unsupportedFilter

/-- Searches the objects of a class. -/
def search (s : Settings) (c : ObjectClass) (filter : Option Filter) (handle : Handler) :
    Procedure Unit := do
  Procedure.ofExcept id (requireSupported c)
  let operand ← Procedure.ofExcept id (operandOf filter)
  searchOperand s c operand handle

end HostAccounts.Provision
