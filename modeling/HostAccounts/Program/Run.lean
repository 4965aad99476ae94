import HostAccounts.Program.Configure
import HostAccounts.Provision.Create
import HostAccounts.Provision.Delete
import HostAccounts.Provision.Search
import HostAccounts.Provision.Session
import HostAccounts.Provision.Update

/-!
# Runs

What the program does for a command, and a run from the settings to the end of the session.
-/

set_option autoImplicit false

namespace HostAccounts.Program

open CommandLine (Command Invocation readAttributes readClass readFilter)

/-! ## Output -/

/-- Prints a line. -/
def printLine (text : String) : Program Unit :=
  request (.print (text ++ "\n"))

/-- Prints an object behind the mark of a document, and goes on with the search. -/
def printObject (o : ManagedObject) : Dialogue Bool := do
  Dialogue.request (.print ("---\n" ++ Text.trimEnd o.document ++ "\n"))
  return true

/-! ## Commands -/

/-- The attributes that the pairs spell, with a password typed if that is wanted. -/
def attributes (pairs : List String) (password : Bool) : Program AttributeSet := do
  let attrs ← ofExpression (readAttributes pairs)
  if !password then return attrs
  let secret ← typePassword "Account password: "
  return attrs.insert ⟨AttributeName.password, [.secret secret]⟩

/-- Does what the command says. -/
def execute (s : Settings) : Command → Program Unit
  | .test => do
    operate (Provision.testSession s)
    printLine "Connection test succeeded"
  | .create className pairs password => do
    let c ← ofExpression (readClass className)
    let attrs ← attributes pairs password
    printLine (← operate (Provision.create s c attrs))
  | .update className uid pairs password => do
    let c ← ofExpression (readClass className)
    let attrs ← attributes pairs password
    printLine (← operate (Provision.update s c uid attrs .replace))
  | .removeValues className uid pairs => do
    let c ← ofExpression (readClass className)
    let attrs ← attributes pairs false
    printLine (← operate (Provision.update s c uid attrs .removeValues))
  | .delete className uid => do
    let c ← ofExpression (readClass className)
    operate (Provision.delete s c uid)
    printLine s!"Deleted {uid}"
  | .search className filter => do
    let c ← ofExpression (readClass className)
    let filter ← filter.mapM fun text => ofExpression (readFilter text)
    operate (Provision.search s c filter printObject)
  | .authenticate username => do
    let secret ← typePassword s!"Password for {username}: "
    let uid ← operate (Provision.authenticate .account username secret)
    printLine s!"Authenticated {uid}"

/-! ## The session -/

/-- Opens the session of the administrator, if the settings suffice for it. -/
def openSession (s : Settings) : Procedure Unit := do
  let home ← Procedure.request (.environment "HOME")
  let credential ← Procedure.ofExcept .badSettings (s.checkLogin home)
  let c := s.connection
  Procedure.tell (.opening c.host c.port c.admin)
  match ← Procedure.request (.connect c.admin credential) with
  | .error fault => throw (.brokenConnection fault)
  | .ok () =>
    Procedure.tell (.connected c.host c.port c.admin)
    s.diagnostics.entries.forM fun (operation, _) => Procedure.tell (.replacing operation)

/-- Ends the session of the administrator; that this fails does not matter any more. -/
def closeSession : Dialogue Unit := do
  match ← ExceptT.run Session.disconnect with
  | .ok () => return
  | .error fault => Dialogue.request (.tell (.closingFailed fault.message))

/-- Does what the program was told, on a session of its own. -/
def runInvocation (i : Invocation) : Program Unit := do
  let s ← configure i.options
  ExceptT.adapt Failure.noSession (openSession s)
  let result ← ExceptT.lift (ExceptT.run (execute s i.command))
  ExceptT.lift closeSession
  ExceptT.mk (.done result)

end HostAccounts.Program
