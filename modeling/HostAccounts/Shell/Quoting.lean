/-!
# Quoting for the shell

Two ways to write a text as one word of a shell command. `singleQuote` always puts the text
between single quotes; `quote` does so only where the shell would otherwise split or expand it.
A single quote inside the text is written by leaving the quotes, escaping it, and entering again.
-/

set_option autoImplicit false

namespace HostAccounts.Shell

/-! ## Single quotes -/

/-- The text with every single quote replaced by its escaped form. -/
def escapeQuotes : List Char → List Char
  | [] => []
  | c :: cs =>
    if c = '\'' then '\'' :: '\\' :: '\'' :: '\'' :: escapeQuotes cs
    else c :: escapeQuotes cs

theorem escapeQuotes_append (cs ds : List Char) :
    escapeQuotes (cs ++ ds) = escapeQuotes cs ++ escapeQuotes ds := by
  induction cs with
  | nil => rfl
  | cons c cs ih => by_cases h : c = '\'' <;> simp [escapeQuotes, h, ih]

theorem escapeQuotes_eq_self {cs : List Char} (h : '\'' ∉ cs) : escapeQuotes cs = cs := by
  induction cs with
  | nil => rfl
  | cons c cs ih =>
    have hc : c ≠ '\'' := fun e => h (e ▸ List.mem_cons_self ..)
    simp [escapeQuotes, hc, ih fun m => h (List.mem_cons_of_mem _ m)]

/-- The characters of the text between single quotes. -/
def singleQuoted (cs : List Char) : List Char :=
  '\'' :: (escapeQuotes cs ++ ['\''])

/-- The text between single quotes. -/
def singleQuote (s : String) : String :=
  String.ofList (singleQuoted s.toList)

/-! ## Quotes where needed -/

/-- The characters that the shell would split at or expand. -/
def specialChars : List Char :=
  "\n'|&;<>()$\x60\\\" \t*?[#~=%".toList

/-- A character that the shell would split at or expand. -/
def isSpecial (c : Char) : Bool :=
  specialChars.contains c

/-- A text that the shell reads as the one word it is. -/
def isPlainWord (cs : List Char) : Bool :=
  !cs.isEmpty && cs.all fun c => !isSpecial c

/-- The text as one word, between single quotes where that is needed. -/
def quote (s : String) : String :=
  if isPlainWord s.toList then s else singleQuote s

theorem quote_of_isPlainWord {s : String} (h : isPlainWord s.toList = true) : quote s = s := by
  simp [quote, h]

@[simp] theorem quote_empty : quote "" = "''" := by
  decide

end HostAccounts.Shell
