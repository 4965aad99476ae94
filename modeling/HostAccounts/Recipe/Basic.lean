import HostAccounts.ObjectClass
import HostAccounts.Primitive
import HostAccounts.Script
import HostAccounts.Settings.Basic

/-!
# Recipes

Which commands an operation consists of. A recipe says what is to be done as pipelines and payloads;
only here is that written as the steps of a script. The commands that only read are made from one
pipeline each.
-/

set_option autoImplicit false

namespace HostAccounts

/-! ## Plans -/

/-- What a step is to do, before it is written. -/
inductive Intent where
  /-- Runs a pipeline with root rights. -/
  | run (p : Shell.Pipeline)
  /-- Runs a pipeline as the session user. -/
  | plain (p : Shell.Pipeline)
  /-- Feeds a text to a pipeline that runs with root rights. -/
  | feed (payload : String) (p : Shell.Pipeline)
  /-- The same with a text that must not be shown. -/
  | feedSecret (payload : String) (p : Shell.Pipeline)
  deriving DecidableEq, Repr

/-- The step as it is written: a payload is always put between single quotes. -/
def Intent.written : Intent → Step
  | run p => .elevated p.written
  | plain p => .plain p.written
  | feed payload p => .piped (Shell.singleQuote payload) p.written
  | feedSecret payload p => .pipedSecret (Shell.singleQuote payload) p.written

/-- What is to be done on the host, in order. -/
abbrev Plan := List Intent

namespace Plan

/-- The script of the plan. -/
def script (p : Plan) : Script :=
  p.map Intent.written

/-- The command of the plan; a plan without steps is the empty command. -/
def command (e : Elevation) (p : Plan) : RemoteCommand :=
  p.script.command e

/-- The command of the plan, if it has a step. -/
def command? (e : Elevation) (p : Plan) : Option RemoteCommand :=
  p.script.command? e

end Plan

namespace Recipe

/-- The command of one pipeline with root rights. -/
def elevated (s : Settings) (p : Shell.Pipeline) : RemoteCommand :=
  Plan.command s.elevationPolicy [.run p]

/-- The command of one pipeline that needs no root rights and holds no secret. -/
def plain (p : Shell.Pipeline) : RemoteCommand :=
  .ofText p.written .exec

/-! ## Reading the databases -/

/-- Reads the row of one account. -/
def findAccount (user : String) : RemoteCommand :=
  plain (Primitive.accountEntry user)

/-- Reads the row of one group. -/
def findGroup (group : String) : RemoteCommand :=
  plain (Primitive.groupEntry group)

/-- Reads all account rows. -/
def listAccounts : RemoteCommand :=
  plain Primitive.accountDump

/-- Reads all group rows. -/
def listGroups : RemoteCommand :=
  plain Primitive.groupDump

/-- Reads the row of one object. -/
def find (c : ObjectClass) (name : String) : Except Fault RemoteCommand :=
  match c with
  | .account => .ok (findAccount name)
  | .group => .ok (findGroup name)
  | .other what => .error (.unsupportedClass what)

/-- Reads all rows of a class. -/
def list (c : ObjectClass) : Except Fault RemoteCommand :=
  match c with
  | .account => .ok listAccounts
  | .group => .ok listGroups
  | .other what => .error (.unsupportedClass what)

/-- Reads the password and expiry record of an account. -/
def readStatus (s : Settings) (user : String) : RemoteCommand :=
  elevated s (Primitive.shadowEntry user)

/-- Reads the group rows that may list an account. -/
def readMemberships (user : String) : RemoteCommand :=
  plain (Primitive.groupsMentioning user)

/-! ## The session -/

/-- Prints a marker. With root rights to be got first, something harmless is run with them, so that
a wrong password shows. -/
def testSessionSteps (s : Settings) : Plan :=
  (if s.elevationPolicy.isRequired then [.run Primitive.succeed] else []) ++
    [.plain (Primitive.echo Diagnostics.testMarker)]

/-- The command that tests the session. -/
def testSession (s : Settings) : RemoteCommand :=
  Plan.command s.elevationPolicy (testSessionSteps s)

end Recipe

end HostAccounts
