import HostAccounts.Shell.Pipeline

/-!
# How the shell reads a text

Token recognition and quote removal, and the grammar of simple commands, pipelines and sequences of
them: blanks divide words; `;`, `|` and `>` are operators, the last with the number of a stream
right in front of it; single quotes and the backslash quote. A text that would need more of the
shell than that, an expansion, a comment, another operator, a reserved word or an assignment, is not
read at all, so that a reading never rests on a guess.

The other direction, from commands to tokens, is `programTokens`. Main statement:
`program?_programTokens`.
-/

set_option autoImplicit false

namespace HostAccounts.Shell

/-! ## Tokens -/

/-- What the shell takes a text apart into. -/
inductive Token where
  /-- A word, its quotes removed. -/
  | word (text : List Char)
  /-- The sign `;`. -/
  | semicolon
  /-- The sign `|`. -/
  | pipe
  /-- The sign `>`, with the stream that goes to what is named next. -/
  | redirect (stream : Nat)
  deriving DecidableEq, Repr

/-- The characters that, unquoted, begin something that is not read here. -/
def foreignChars : List Char :=
  "\n&<()$\x60\"*?[#~=%".toList

/-- A character that, unquoted, begins something that is not read here. -/
def isForeign (c : Char) : Bool :=
  foreignChars.contains c

/-! ## Recognition -/

/-- Where a reader stands in a text. -/
inductive Place where
  /-- Between two words. -/
  | between
  /-- In a word, of which so much is read; `bare` if none of it was quoted. -/
  | inside (word : List Char) (bare : Bool)
  /-- In a word, between single quotes. -/
  | quoted (word : List Char)
  /-- In a word, behind a backslash. -/
  | escaped (word : List Char)
  deriving DecidableEq, Repr

namespace Place

/-- What is read of the word. -/
def word : Place → List Char
  | between => []
  | inside word _ | quoted word | escaped word => word

/-- Nothing of the word was quoted. -/
def isBare : Place → Bool
  | between => true
  | inside _ bare => bare
  | _ => false

/-- The word that ends here, if the reader stands in one. -/
def ending : Place → List Token
  | inside word _ => [.word word]
  | _ => []

/-- The number that digits write. -/
def number (digits : List Char) : Nat :=
  digits.foldl (fun n c => 10 * n + (c.toNat - '0'.toNat)) 0

/-- What a `>` means here: bare digits right in front of it name the stream, and are no word. -/
def redirection : Place → List Token
  | inside word true =>
    if word.all Char.isDigit then [.redirect (number word)] else [.word word, .redirect 1]
  | p => p.ending ++ [.redirect 1]

/-- Reads one character: the tokens that end with it, and where the reader stands then. -/
def next (p : Place) (c : Char) : Option (List Token × Place) :=
  match p with
  | quoted word => some ([], if c = '\'' then inside word false else quoted (word ++ [c]))
  | escaped word => if c = '\n' then none else some ([], inside (word ++ [c]) false)
  | _ =>
    if c = ' ' || c = '\t' then some (p.ending, between)
    else if c = ';' then some (p.ending ++ [.semicolon], between)
    else if c = '|' then some (p.ending ++ [.pipe], between)
    else if c = '>' then some (p.redirection, between)
    else if c = '\'' then some ([], quoted p.word)
    else if c = '\\' then some ([], escaped p.word)
    else if isForeign c then none
    else some ([], inside (p.word ++ [c]) p.isBare)

/-- Reads a text: the tokens that end in it, and where the reader stands at its end. -/
def read (p : Place) : List Char → Option (List Token × Place)
  | [] => some ([], p)
  | c :: cs =>
    match p.next c with
    | none => none
    | some (ts, q) => (q.read cs).map fun (us, r) => (ts ++ us, r)

/-- The end of the text ends a word; an open quote is an error. -/
def finish? : Place → Option (List Token)
  | between => some []
  | inside word _ => some [.word word]
  | _ => none

end Place

/-- The tokens of a text. -/
def tokens? (cs : List Char) : Option (List Token) := do
  let (ts, p) ← Place.between.read cs
  let us ← p.finish?
  return ts ++ us

/-! ## Commands -/

/-- A command as it is started: what it is given, and the files that its streams go to. -/
structure SimpleCommand where
  arguments : List String
  redirections : List (Nat × String) := []
  deriving DecidableEq, Repr

/-- Commands that feed one another. -/
abbrev CommandLine := List SimpleCommand

/-- Pipelines that run one after the other. -/
abbrev Program := List CommandLine

/-- The words that begin or end a compound command. -/
def reservedWords : List String :=
  ["!", "\x7b", "\x7d", "case", "do", "done", "elif", "else", "esac", "fi", "for", "if", "in",
    "then", "until", "while"]

/-- The word names a command where one is expected: it is not reserved and assigns nothing. -/
def isCommandName (word : String) : Bool :=
  !reservedWords.contains word && !word.toList.contains '='

/-- The words and redirections of a command. -/
def contents? : List Token → Option SimpleCommand
  | [] => some ⟨[], []⟩
  | .word w :: ts =>
    (contents? ts).map fun c => { c with arguments := String.ofList w :: c.arguments }
  | .redirect stream :: .word w :: ts =>
    (contents? ts).map fun c =>
      { c with redirections := (stream, String.ofList w) :: c.redirections }
  | _ => none

/-- The command has a name. -/
def SimpleCommand.isNamed (c : SimpleCommand) : Bool :=
  c.arguments.head?.any isCommandName

/-- The command of the tokens. -/
def command? (ts : List Token) : Option SimpleCommand :=
  (contents? ts).filter SimpleCommand.isNamed

/-- The pipeline of the tokens. -/
def commandLine? (ts : List Token) : Option CommandLine :=
  (ts.splitOn .pipe).mapM command?

/-- The program of the tokens. -/
def program? (ts : List Token) : Option Program :=
  if ts.isEmpty then some [] else (ts.splitOn .semicolon).mapM commandLine?

/-- The program that the shell reads in a text. -/
def parse (text : String) : Option Program :=
  (tokens? text.toList).bind program?

/-! ## From commands to tokens -/

/-- The tokens of a redirection. -/
def redirectionTokens (r : Nat × String) : List Token :=
  [.redirect r.1, .word r.2.toList]

/-- The tokens of a command: its words, then its redirections. -/
def SimpleCommand.tokens (c : SimpleCommand) : List Token :=
  c.arguments.map (fun a => .word a.toList) ++ c.redirections.flatMap redirectionTokens

/-- The tokens of a pipeline. -/
def commandLineTokens (l : CommandLine) : List Token :=
  [Token.pipe].intercalate (l.map SimpleCommand.tokens)

/-- The tokens of a program. -/
def programTokens (p : Program) : List Token :=
  [Token.semicolon].intercalate (p.map commandLineTokens)

/-- Every pipeline has a command, and every command a name. -/
def IsRunnable (p : Program) : Prop :=
  ∀ l ∈ p, l ≠ [] ∧ ∀ c ∈ l, c.isNamed = true

theorem contents?_redirections (rs : List (Nat × String)) :
    contents? (rs.flatMap redirectionTokens) = some ⟨[], rs⟩ := by
  induction rs with
  | nil => rfl
  | cons r rest ih =>
    rw [List.flatMap_cons]
    simp [redirectionTokens, contents?, ih]

theorem contents?_tokens (c : SimpleCommand) : contents? c.tokens = some c := by
  obtain ⟨arguments, redirections⟩ := c
  induction arguments with
  | nil => exact contents?_redirections redirections
  | cons a rest ih =>
    simp only [SimpleCommand.tokens, List.map_cons, List.cons_append] at ih ⊢
    simp [contents?, ih]

theorem command?_tokens {c : SimpleCommand} (h : c.isNamed = true) :
    command? c.tokens = some c := by
  simp [command?, contents?_tokens, h]

theorem mem_tokens {c : SimpleCommand} {t : Token} (h : t ∈ c.tokens) :
    (∃ w, t = .word w) ∨ ∃ stream, t = .redirect stream := by
  simp only [SimpleCommand.tokens, redirectionTokens, List.mem_append, List.mem_map,
    List.mem_flatMap, List.mem_cons, List.not_mem_nil, or_false] at h
  rcases h with ⟨a, -, rfl⟩ | ⟨r, -, rfl | rfl⟩
  · exact Or.inl ⟨_, rfl⟩
  · exact Or.inr ⟨_, rfl⟩
  · exact Or.inl ⟨_, rfl⟩

theorem mem_commandLineTokens {l : CommandLine} {t : Token} (h : t ∈ commandLineTokens l) :
    t ≠ .semicolon := by
  induction l with
  | nil => simp [commandLineTokens] at h
  | cons c rest ih =>
    have hc : t ∈ c.tokens → t ≠ .semicolon := by
      intro hmem heq
      rcases mem_tokens hmem with ⟨w, hw⟩ | ⟨stream, hs⟩
      · rw [heq] at hw; cases hw
      · rw [heq] at hs; cases hs
    cases rest with
    | nil =>
      rw [commandLineTokens, List.map_singleton, List.intercalate_singleton] at h
      exact hc h
    | cons d rest =>
      rw [commandLineTokens, List.map_cons, List.map_cons, List.intercalate_cons_cons] at h
      simp only [List.mem_append, List.mem_singleton] at h
      rcases h with (h | h) | h
      · exact hc h
      · rw [h]; simp
      · exact ih h

/-- Reading each piece of a list back gives the list. -/
theorem mapM_map_eq_some {α β : Type} {write : α → List β} {read? : List β → Option α}
    {xs : List α} (h : ∀ x ∈ xs, read? (write x) = some x) :
    (xs.map write).mapM read? = some xs := by
  induction xs with
  | nil => rfl
  | cons x rest ih =>
    have hrest := ih fun y hy => h y (List.mem_cons_of_mem _ hy)
    simp [h x (List.mem_cons_self ..), hrest]

theorem commandLine?_tokens {l : CommandLine} (hne : l ≠ []) (h : ∀ c ∈ l, c.isNamed = true) :
    commandLine? (commandLineTokens l) = some l := by
  rw [commandLine?, commandLineTokens, List.splitOn_intercalate]
  · exact mapM_map_eq_some fun c hc => command?_tokens (h c hc)
  · intro ts hts hpipe
    obtain ⟨c, -, rfl⟩ := List.mem_map.mp hts
    rcases mem_tokens hpipe with ⟨w, hw⟩ | ⟨stream, hs⟩
    · cases hw
    · cases hs
  · simpa using hne

theorem commandLineTokens_ne_nil {l : CommandLine} (hne : l ≠ [])
    (h : ∀ c ∈ l, c.isNamed = true) : commandLineTokens l ≠ [] := by
  intro hnil
  have hread := commandLine?_tokens hne h
  rw [hnil] at hread
  cases hread

/-- A program is read back from its tokens. -/
theorem program?_programTokens {p : Program} (h : IsRunnable p) :
    program? (programTokens p) = some p := by
  by_cases hp : p = []
  · subst hp
    rfl
  have hlines : (p.map commandLineTokens) ≠ [] := by simpa using hp
  have hempty : (programTokens p).isEmpty = false := by
    rw [List.isEmpty_eq_false_iff, programTokens]
    cases p with
    | nil => exact absurd rfl hp
    | cons l rest =>
      have hl := h l (List.mem_cons_self ..)
      rw [List.map_cons]
      cases rest with
      | nil =>
        rw [List.map_nil, List.intercalate_singleton]
        exact commandLineTokens_ne_nil hl.1 hl.2
      | cons m rest => simp [List.intercalate_cons_cons]
  rw [program?, hempty, programTokens, List.splitOn_intercalate]
  · exact mapM_map_eq_some fun l hl => commandLine?_tokens (h l hl).1 (h l hl).2
  · intro ts hts hsemi
    obtain ⟨l, -, rfl⟩ := List.mem_map.mp hts
    exact mem_commandLineTokens hsemi rfl
  · exact hlines

end HostAccounts.Shell
