import HostAccounts.Diagnostics.Verdict

/-!
# The catalogue of diagnostics

The signatures that apply to each kind of command unless the settings replace them.
-/

set_option autoImplicit false

namespace HostAccounts.Diagnostics

/-! ## Kinds of commands -/

/-- The kind of a command, by which its output is judged. -/
inductive Operation where
  | useradd
  | usermod
  | userdel
  | groupadd
  | groupmod
  | groupdel
  | passwd
  /-- Lookups and dumps. -/
  | read
  /-- The test of a session. -/
  | test
  deriving DecidableEq, Repr

namespace Operation

/-- All kinds. -/
def all : List Operation :=
  [useradd, usermod, userdel, groupadd, groupmod, groupdel, passwd, read, test]

/-- The name of the kind. -/
def name : Operation → String
  | useradd => "useradd"
  | usermod => "usermod"
  | userdel => "userdel"
  | groupadd => "groupadd"
  | groupmod => "groupmod"
  | groupdel => "groupdel"
  | passwd => "passwd"
  | read => "read"
  | test => "test"

/-- The kind with the name. -/
def ofName? (name : String) : Option Operation :=
  all.find? fun o => o.name == name

theorem mem_all (o : Operation) : o ∈ all := by
  cases o <;> simp [all]

theorem ofName?_name (o : Operation) : ofName? o.name = some o := by
  cases o <;> decide

end Operation

/-! ## Signatures -/

/-- What `sudo` prints when it turns a user down. -/
def sudoSignatures : List String :=
  ["sorry, try again", "incorrect password", "authentication failure",
    "sudo: 3 incorrect password attempts", "sudo: no password was provided",
    "sudo: a password is required", "is not in the sudoers file", "may not run sudo"]

/-- What the commands on files print in front of a complaint. -/
def fileSignatures : List String :=
  ["mkdir:", "tee:", "chown:", "chmod:", "mv:", "rm:"]

/-- What any command may print when it fails. -/
def commonSignatures : List String :=
  sudoSignatures ++ ["command not found", "permission denied"]

/-- Notices that mean no failure. -/
def harmlessSignatures : List String :=
  ["warning:", "mail spool", "not copying any file"]

/-- The text that a test of the session prints. -/
def testMarker : String := "unixprov-ready"

/-- A diagnostic of the catalogue. -/
def catalogueEntry (failure notFound : List String) : Diagnostic :=
  { failure := failure ++ commonSignatures, notFound, ignore := harmlessSignatures }

/-- The catalogue. -/
def catalogue : Operation → Diagnostic
  | .useradd => catalogueEntry (["useradd:", "already exists"] ++ fileSignatures) []
  | .usermod =>
    catalogueEntry (["usermod:", "gpasswd:", "groupmod:"] ++ fileSignatures)
      ["usermod: user '*' does not exist"]
  | .userdel => catalogueEntry (["userdel:"] ++ fileSignatures) ["userdel: user '*' does not exist"]
  | .groupadd => catalogueEntry (["groupadd:", "already exists"] ++ fileSignatures) []
  | .groupmod => catalogueEntry (["groupmod:"] ++ fileSignatures) ["does not exist"]
  | .groupdel => catalogueEntry (["groupdel:"] ++ fileSignatures) ["does not exist"]
  | .passwd =>
    catalogueEntry ["chpasswd:", "authentication token manipulation error", "only root"]
      ["unknown user", "does not exist"]
  | .read => catalogueEntry [] []
  | .test => { catalogueEntry [] [] with confirmation := some testMarker }

/-! ## Replaced entries -/

/-- Entries that stand in place of those of the catalogue. -/
structure Overrides where
  entries : List (Operation × Diagnostic)
  deriving DecidableEq, Repr

namespace Overrides

/-- The catalogue as it is. -/
def empty : Overrides := ⟨[]⟩

/-- Replaces the entry of a kind. -/
def insert (o : Overrides) (operation : Operation) (d : Diagnostic) : Overrides :=
  ⟨o.entries.filter (·.1 ≠ operation) ++ [(operation, d)]⟩

/-- The entry that applies to a kind. -/
def entry (o : Overrides) (operation : Operation) : Diagnostic :=
  (o.entries.lookup operation).getD (catalogue operation)

/-- The verdict on the output of a command of the kind. -/
def classify (o : Overrides) (operation : Operation) (output : String) : Verdict :=
  (o.entry operation).classify output

@[simp] theorem entry_empty (operation : Operation) : empty.entry operation = catalogue operation :=
  rfl

theorem entry_insert (o : Overrides) (operation : Operation) (d : Diagnostic) :
    (o.insert operation d).entry operation = d := by
  have h : (o.entries.filter (·.1 ≠ operation)).lookup operation = none := by
    refine List.lookup_eq_none_iff.2 fun e he => ?_
    have hne : e.1 ≠ operation := of_decide_eq_true (List.mem_filter.1 he).2
    exact bne_iff_ne.2 hne.symm
  rw [entry, insert, List.lookup_append, h, List.lookup_cons_self]
  rfl

end Overrides

end HostAccounts.Diagnostics
