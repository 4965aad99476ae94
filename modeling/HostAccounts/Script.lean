import HostAccounts.Elevation
import HostAccounts.Text.Pieces

/-!
# Scripts

A script is a list of steps; composing it gives the one command text that is sent to the host. It is
put together step by step: the first step that needs root rights takes the priming, every later one
the bare `sudo`. A composed command also has a redacted form, which is the only one that is ever
shown.
-/

set_option autoImplicit false

namespace HostAccounts

/-! ## Composed commands -/

/-- How a command reaches the remote shell. -/
inductive Channel where
  /-- As the request itself. -/
  | exec
  /-- Written to the standard input of a shell. -/
  | interactive
  deriving DecidableEq, Repr

/-- A command as it is sent, and as it may be shown. -/
structure RemoteCommand where
  text : String
  redacted : String
  channel : Channel
  deriving DecidableEq, Repr

/-- A command that holds no secret. -/
def RemoteCommand.ofText (text : String) (channel : Channel) : RemoteCommand :=
  ⟨text, text, channel⟩

/-! ## Steps -/

/-- One step of a script. -/
inductive Step where
  /-- Runs with root rights. -/
  | elevated (fragment : String)
  /-- Runs as the session user. -/
  | plain (fragment : String)
  /-- Feeds a quoted payload to a command that runs with root rights. -/
  | piped (payload fragment : String)
  /-- The same with a payload that must not be shown. -/
  | pipedSecret (payload fragment : String)
  deriving DecidableEq, Repr

/-! ## Redaction -/

namespace Script

/-- What is shown in place of a secret. -/
def mask : String := "'********'"

/-- The text with each secret masked, one after the other; the quoted empty text is no secret. -/
def redact (secrets : List String) (text : String) : String :=
  (secrets.filter (· ≠ "''")).foldl (fun shown secret => Text.replaceAll secret mask shown) text

end Script

/-! ## Drafts -/

/-- A script while it is put together: the texts of the steps so far, and what they committed to. -/
structure Draft where
  segments : List String := []
  /-- What must not be shown, in the order in which it came in. -/
  secrets : List String := []
  /-- The priming has gone out. -/
  primed : Bool := false
  /-- The channel that the steps so far need. -/
  channel : Channel := .exec
  deriving DecidableEq, Repr

namespace Draft

/-- The draft without steps; the password of the priming is its first secret. -/
def start (e : Elevation) : Draft :=
  { secrets := e.quotedSecret?.toList }

/-- What the next command with root rights is led by. -/
def nextLead (e : Elevation) (d : Draft) : Elevation.Lead :=
  if !e.isRequired then .none else if d.primed then .bare else .full

/-- The draft once that lead is given out. A priming feeds the password through standard input, so
from then on a shell of its own is needed. -/
def takeLead (e : Elevation) (d : Draft) : Draft :=
  match d.nextLead e with
  | .full => { d with primed := true, channel := .interactive }
  | _ => d

/-- The draft with one more segment. -/
def push (d : Draft) (segment : String) : Draft :=
  { d with segments := d.segments ++ [segment] }

/-- A payload fed to a command with root rights. The priming, where it is still to come, stands in
front of the `echo`, so that the pipe carries nothing but the payload. -/
def pipe (e : Elevation) (d : Draft) (payload fragment : String) : Draft :=
  let (front, lead) :=
    match d.nextLead e with
    | .full => (e.priming, e.lead .bare)
    | lead => ("", e.lead lead)
  let d := (d.takeLead e).push (front ++ "echo " ++ payload ++ " | " ++ lead ++ fragment)
  { d with channel := .interactive }

/-- The draft with one more step. -/
def add (e : Elevation) (d : Draft) : Step → Draft
  | .plain fragment => d.push fragment
  | .elevated fragment => (d.takeLead e).push (e.lead (d.nextLead e) ++ fragment)
  | .piped payload fragment => d.pipe e payload fragment
  | .pipedSecret payload fragment =>
    let d := d.pipe e payload fragment
    { d with secrets := d.secrets ++ [payload] }

/-- The text of the draft. -/
def text (d : Draft) : String :=
  "; ".intercalate d.segments

/-- The command of the draft, if it has a segment. -/
def build? (d : Draft) : Option RemoteCommand :=
  if d.segments.isEmpty then none else some ⟨d.text, Script.redact d.secrets d.text, d.channel⟩

end Draft

/-! ## Composition -/

/-- What is done on the host, in order. -/
abbrev Script := List Step

namespace Script

/-- The script put together, step by step. -/
def draft (e : Elevation) (s : Script) : Draft :=
  s.foldl (Draft.add e) (Draft.start e)

/-- The command of the script, if it has a step. -/
def command? (e : Elevation) (s : Script) : Option RemoteCommand :=
  (s.draft e).build?

/-- The command of the script; a script without steps is the empty command. -/
def command (e : Elevation) (s : Script) : RemoteCommand :=
  (s.command? e).getD (.ofText "" (s.draft e).channel)

end Script

end HostAccounts
