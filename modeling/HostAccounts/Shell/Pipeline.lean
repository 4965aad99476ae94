import HostAccounts.Shell.Quoting

/-!
# Pipelines

A simple command as data: its words, and where its output goes. A pipeline feeds one command into
the next. Only here is a command turned into text, so that every argument is quoted once and in
the same way.
-/

set_option autoImplicit false

namespace HostAccounts.Shell

/-- A word: text that is quoted where needed, and text glued to its end as it stands. -/
structure Word where
  text : String
  glued : String := ""
  deriving DecidableEq, Repr

/-- The word as it is written. -/
def Word.written (w : Word) : String :=
  quote w.text ++ w.glued

/-- What the shell hands to the command for the word. -/
def Word.value (w : Word) : String :=
  w.text ++ w.glued

/-- A redirection of one of the two output streams. -/
inductive Redirection where
  | output (path : String)
  | errors (path : String)
  deriving DecidableEq, Repr

/-- The redirection as it is written behind the words. -/
def Redirection.written : Redirection → String
  | .output path => "> " ++ path
  | .errors path => "2>" ++ path

/-- A command with its arguments. -/
structure Invocation where
  words : List Word
  redirection : Option Redirection := none
  deriving DecidableEq, Repr

/-- A command without redirection. -/
def Invocation.ofWords (words : List String) : Invocation :=
  ⟨words.map fun w => ⟨w, ""⟩, none⟩

/-- The command as it is written. -/
def Invocation.written (i : Invocation) : String :=
  " ".intercalate (i.words.map Word.written ++ i.redirection.toList.map Redirection.written)

/-- Commands, each reading what the one before it prints. -/
structure Pipeline where
  stages : List Invocation
  deriving DecidableEq, Repr

/-- A pipeline of one command. -/
def Pipeline.single (i : Invocation) : Pipeline :=
  ⟨[i]⟩

/-- A pipeline of one command without redirection. -/
def Pipeline.ofWords (words : List String) : Pipeline :=
  .single (.ofWords words)

/-- The pipeline as it is written. -/
def Pipeline.written (p : Pipeline) : String :=
  " | ".intercalate (p.stages.map Invocation.written)

end HostAccounts.Shell
