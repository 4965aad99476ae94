import HostAccounts.Dialogue

/-!
# Rehearsals

A host, a terminal and an environment that answer from a script and keep a record of what they were
asked for. Whatever holds of every peer can be tried out on this one without a network.
-/

set_option autoImplicit false

namespace HostAccounts

/-! ## The script -/

/-- A breakdown of the session: so many commands still get through. -/
structure Outage where
  fault : TransportFault
  after : Nat := 0
  deriving DecidableEq, Repr

/-- What the host and the terminal answer. -/
structure Rehearsal.Script where
  /-- Outputs, each for the commands that hold a text. -/
  replies : List (String × String) := []
  outage : Option Outage := none
  /-- Why the session of the administrator cannot be ended. -/
  closingFault : Option TransportFault := none
  /-- The passwords of the accounts. -/
  accounts : List (String × String) := []
  /-- Why no session can be opened for an account, and why one cannot be ended. -/
  loginFault : Option TransportFault := none
  logoutFault : Option TransportFault := none
  /-- The passwords that are typed, one behind the other. -/
  typed : List (Option String) := []
  /-- How many objects of a search are wanted. -/
  limit : Option Nat := none
  environment : List (String × String) := []
  /-- Files by their absolute paths. -/
  files : List (String × String) := []
  /-- The absolute paths of directories that exist whether there is a file in them or not. -/
  directories : List String := []
  /-- The absolute path of the working directory. -/
  directory : String := "/"
  today : Date := ⟨1970, 1, 1, by decide⟩

/-! ## The record -/

/-- What the host and the terminal were asked for. -/
structure Rehearsal.Record where
  sent : List RemoteCommand := []
  /-- For whom a session was opened. -/
  opened : List String := []
  delivered : List ManagedObject := []
  events : List Event := []
  prompts : List String := []
  printed : String := ""
  notices : String := ""

/-- A script with the record so far. -/
structure Rehearsal where
  script : Rehearsal.Script := {}
  record : Rehearsal.Record := {}
  /-- How often the session of the administrator was ended. -/
  closings : Nat := 0

namespace Rehearsal

/-- The reply to a command: the first one for exactly this text, or else the first one for a text
that the command holds. -/
def reply (replies : List (String × String)) (command : String) : String :=
  match replies.find? (·.1 == command) with
  | some (_, output) => output
  | none =>
    match replies.find? fun (part, _) => Text.contains command part with
    | some (_, output) => output
    | none => ""

/-- Changes the record. -/
def note (r : Rehearsal) (f : Record → Record) : Rehearsal :=
  { r with record := f r.record }

/-- A fault, if there is one, in place of nothing. -/
def outcome (fault : Option TransportFault) : Except TransportFault Unit :=
  match fault with
  | some fault => .error fault
  | none => .ok ()

/-- The host is sent a command. -/
def send (command : RemoteCommand) (r : Rehearsal) : Except TransportFault String × Rehearsal :=
  let answered := r.note fun t => { t with sent := t.sent ++ [command] }
  match r.script.outage with
  | some ⟨fault, 0⟩ => (.error fault, r)
  | some ⟨fault, n + 1⟩ =>
    (.ok (reply r.script.replies command.text),
      { answered with script := { r.script with outage := some ⟨fault, n⟩ } })
  | none => (.ok (reply r.script.replies command.text), answered)

/-- An account logs in. -/
def login (user password : String) (r : Rehearsal) : Except TransportFault Unit × Rehearsal :=
  let answer :=
    match r.script.loginFault with
    | some fault => .error fault
    | none =>
      if r.script.accounts.lookup user = some password then .ok ()
      else .error (.rejected s!"permission denied for {user}")
  (answer, r.note fun t => { t with opened := t.opened ++ [user] })

/-- A password is typed. -/
def type (prompt : Option String) (r : Rehearsal) : Option String × Rehearsal :=
  let r := r.note fun t => { t with prompts := t.prompts ++ prompt.toList }
  match r.script.typed with
  | first :: rest => (first, { r with script := { r.script with typed := rest } })
  | [] => (none, r)

/-- An object of a search is delivered. -/
def deliver (o : ManagedObject) (r : Rehearsal) : Bool × Rehearsal :=
  let r := r.note fun t => { t with delivered := t.delivered ++ [o] }
  (r.script.limit.all fun n => r.record.delivered.length < n, r)

/-- The names in a path. -/
def names (path : String) : List String :=
  (Text.splitOn '/' path).filter (!isIdlePart ·)

/-- There is a directory where the names lead. -/
def isDirectory (s : Script) (place : List String) : Bool :=
  let known := s.files.map (fun (path, _) => (names path).dropLast) ++
    (s.directory :: s.directories).map names
  known.any place.isPrefixOf

/-- Where a path leads from the working directory. Only out of a directory is there a way back. -/
def place? (s : Script) (path : String) : Option (List String) :=
  let enter (place : List String) (name : String) : Option (List String) :=
    if name ≠ ".." then some (place ++ [name])
    else if isDirectory s place then some place.dropLast
    else none
  (names path).foldlM enter (if path.toList.head? = some '/' then [] else names s.directory)

/-- The content of a file. A path that ends in a slash leads to none. -/
def file? (s : Script) (path : String) : Option String := do
  if (Text.splitOn '/' path).getLast?.any isIdlePart then none
  let place ← place? s path
  ((s.files.find? fun (known, _) => names known == place).map (·.2))

/-- The peer that answers from the script. -/
def peer : Dialogue.Peer Rehearsal
  | .send command _, r => r.send command
  | .disconnect, r => (outcome r.script.closingFault, { r with closings := r.closings + 1 })
  | .login user password, r => r.login user password
  | .logout _, r => (outcome r.script.logoutFault, r)
  | .deliver o, r => r.deliver o
  | .today, r => (r.script.today, r)
  | .tell e, r => ((), r.note fun t => { t with events := t.events ++ [e] })
  | .password prompt, r => r.type prompt
  | .print text, r => ((), r.note fun t => { t with printed := t.printed ++ text })
  | .notice text, r => ((), r.note fun t => { t with notices := t.notices ++ text })
  | .environment name, r => (r.script.environment.lookup name, r)
  | .hasFile path, r => ((file? r.script path).isSome, r)
  | .readFile path, r => (file? r.script path, r)
  | .connect _ _, r => (.ok (), r)

end Rehearsal

end HostAccounts
