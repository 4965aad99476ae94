import HostAccounts.Proofs.Shell.Grammar
import Mathlib.Tactic.ByContra

/-!
# Reading back what is written

A quoted text, whatever it holds, is read as the one word it is, and joining texts by blanks, pipes
and semicolons joins what is read. `Says` puts this together: a text that says a program is read as
that program (`parse_of_says`), and `says_join` is how a sequence of texts comes to say the programs
of its pieces one after the other.
-/

set_option autoImplicit false

namespace HostAccounts.Shell

/-! ## Reading character by character -/

namespace Place

theorem read_append {p q r : Place} {cs ds : List Char} {ts us : List Token}
    (hcs : p.read cs = some (ts, q)) (hds : q.read ds = some (us, r)) :
    p.read (cs ++ ds) = some (ts ++ us, r) := by
  induction cs generalizing p ts with
  | nil =>
    obtain ⟨rfl, rfl⟩ : [] = ts ∧ p = q := by simpa [read] using hcs
    simpa using hds
  | cons c cs ih =>
    rw [List.cons_append, read]
    rw [read] at hcs
    cases hnext : p.next c with
    | none => simp [hnext] at hcs
    | some step =>
      obtain ⟨front, p'⟩ := step
      simp only [hnext, Option.map_eq_some_iff, Prod.exists, Prod.mk.injEq] at hcs
      obtain ⟨back, q', hrest, rfl, rfl⟩ := hcs
      simp [ih hrest]

/-- A character that the quoting leaves alone stands for itself. -/
theorem next_of_not_isSpecial {c : Char} (h : isSpecial c = false) (word : List Char)
    (bare : Bool) :
    (inside word bare).next c = some ([], inside (word ++ [c]) bare) ∧
      between.next c = some ([], inside [c] true) := by
  have hne : ∀ d : Char, isSpecial d = true → c ≠ d := by
    intro d hd hcd
    rw [hcd, hd] at h
    cases h
  have hforeign : isForeign c = false := by
    by_contra hf
    rw [Bool.not_eq_false, isForeign, List.contains_iff_mem] at hf
    have hall : foreignChars.all isSpecial = true := by decide
    exact hne c (List.all_eq_true.mp hall c hf) rfl
  have hblank : c ≠ ' ' := hne _ (by decide)
  have htab : c ≠ '\t' := hne _ (by decide)
  have hsemi : c ≠ ';' := hne _ (by decide)
  have hpipe : c ≠ '|' := hne _ (by decide)
  have hangle : c ≠ '>' := hne _ (by decide)
  have hquote : c ≠ '\'' := hne _ (by decide)
  have hback : c ≠ '\\' := hne _ (by decide)
  constructor <;> simp [next, Place.word, isBare, hforeign, hblank, htab, hsemi, hpipe, hangle,
    hquote, hback]

theorem read_plain_inside {cs : List Char} (h : ∀ c ∈ cs, isSpecial c = false) (word : List Char)
    (bare : Bool) : (inside word bare).read cs = some ([], inside (word ++ cs) bare) := by
  induction cs generalizing word with
  | nil => simp [read]
  | cons c cs ih =>
    have hc := (next_of_not_isSpecial (h c (List.mem_cons_self ..)) word bare).1
    have hcs := ih (fun d hd => h d (List.mem_cons_of_mem _ hd)) (word ++ [c])
    simp [read, hc, hcs]

/-- A plain word is read as itself. -/
theorem read_plain {cs : List Char} (h : isPlainWord cs = true) :
    between.read cs = some ([], inside cs true) := by
  cases cs with
  | nil => simp [isPlainWord] at h
  | cons c cs =>
    have hplain : ∀ d ∈ c :: cs, isSpecial d = false := by simpa [isPlainWord] using h
    have hc := (next_of_not_isSpecial (hplain c (List.mem_cons_self ..)) [] true).2
    have hcs := read_plain_inside (fun d hd => hplain d (List.mem_cons_of_mem _ hd)) [c] true
    simp [read, hc, hcs]

/-- An escaped text ends at the quote behind it, and is read as it was before it was escaped: each
quote in it closes the quotes, stands behind a backslash, and opens them again. -/
theorem read_escapeQuotes (word cs : List Char) :
    (quoted word).read (escapeQuotes cs ++ ['\'']) = some ([], inside (word ++ cs) false) := by
  induction cs generalizing word with
  | nil => simp [escapeQuotes, read, next]
  | cons c cs ih =>
    by_cases hc : c = '\''
    · subst hc
      have hrest := ih (word ++ ['\''])
      rw [List.append_assoc, List.singleton_append] at hrest
      simp [escapeQuotes, read, next, Place.word, hrest]
    · have hrest := ih (word ++ [c])
      rw [List.append_assoc, List.singleton_append] at hrest
      simp [escapeQuotes, hc, read, next, hrest]

theorem read_singleQuoted (cs : List Char) :
    between.read (singleQuoted cs) = some ([], inside cs false) := by
  have hrest := read_escapeQuotes [] cs
  rw [List.nil_append] at hrest
  simp [singleQuoted, read, next, Place.word, hrest]

/-- A quoted text is read as the text, whatever it holds. -/
theorem read_quote (s : String) :
    ∃ bare, between.read (quote s).toList = some ([], inside s.toList bare) := by
  by_cases h : isPlainWord s.toList = true
  · exact ⟨true, by rw [quote_of_isPlainWord h]; exact read_plain h⟩
  · refine ⟨false, ?_⟩
    rw [quote, if_neg h, singleQuote, String.toList_ofList]
    exact read_singleQuoted s.toList

end Place

/-! ## Texts that spell tokens -/

/-- The text is read as the tokens, of which the last is a word that ends with the text. -/
def Spells (cs : List Char) (ts : List Token) : Prop :=
  ∃ us word bare, Place.between.read cs = some (us, .inside word bare) ∧ ts = us ++ [.word word]

theorem tokens?_of_spells {cs : List Char} {ts : List Token} (h : Spells cs ts) :
    tokens? cs = some ts := by
  obtain ⟨us, word, bare, hread, rfl⟩ := h
  simp [tokens?, hread, Place.finish?]

theorem spells_singleQuote (s : String) : Spells (singleQuote s).toList [.word s.toList] := by
  refine ⟨[], s.toList, false, ?_, rfl⟩
  rw [singleQuote, String.toList_ofList]
  exact Place.read_singleQuoted s.toList

/-- What stands between two texts so that both are read on their own, and the tokens it adds. -/
def Separates (sep : List Char) (mid : List Token) : Prop :=
  ∀ word bare, (Place.inside word bare).read sep = some (.word word :: mid, .between)

theorem separates_blank : Separates " ".toList [] := by
  intro word bare
  rfl

theorem separates_pipe : Separates " | ".toList [.pipe] := by
  intro word bare
  rfl

theorem separates_semicolon : Separates "; ".toList [.semicolon] := by
  intro word bare
  rfl

theorem Spells.join {cs ds sep : List Char} {ts us mid : List Token} (hcs : Spells cs ts)
    (hsep : Separates sep mid) (hds : Spells ds us) :
    Spells (cs ++ sep ++ ds) (ts ++ mid ++ us) := by
  obtain ⟨ts', word, bare, hread, rfl⟩ := hcs
  obtain ⟨us', word', bare', hread', rfl⟩ := hds
  refine ⟨ts' ++ (.word word :: mid) ++ us', word', bare', ?_, by simp⟩
  exact Place.read_append (Place.read_append hread (hsep word bare)) hread'

/-- Texts joined by what separates them spell what each of them spells, one after the other. -/
theorem spells_intercalate {α : Type} {write : α → String} {spelled : α → List Token} {sep : String}
    {mid : List Token} (hsep : Separates sep.toList mid) {xs : List α} (hne : xs ≠ [])
    (h : ∀ x ∈ xs, Spells (write x).toList (spelled x)) :
    Spells (sep.intercalate (xs.map write)).toList (mid.intercalate (xs.map spelled)) := by
  induction xs with
  | nil => exact absurd rfl hne
  | cons x rest ih =>
    have hx := h x (List.mem_cons_self ..)
    cases rest with
    | nil =>
      rw [List.map_singleton, List.map_singleton, String.intercalate_singleton,
        List.intercalate_singleton]
      exact hx
    | cons y rest =>
      have hrest := ih (List.cons_ne_nil _ _) fun z hz => h z (List.mem_cons_of_mem _ hz)
      rw [List.map_cons] at hrest ⊢
      rw [List.map_cons, String.intercalate_cons_cons, List.map_cons, List.map_cons,
        List.intercalate_cons_cons, String.toList_append, String.toList_append]
      exact hx.join hsep hrest

/-! ## What a written pipeline means -/

/-- The stream, by its number, and the file that it goes to. -/
def Redirection.meaning : Redirection → Nat × String
  | output path => (1, path)
  | errors path => (2, path)

/-- The command that is started: every argument as it was before it was quoted. -/
def Invocation.meaning (i : Invocation) : SimpleCommand :=
  ⟨i.words.map Word.value, i.redirection.toList.map Redirection.meaning⟩

/-- The commands that are started. -/
def Pipeline.meaning (p : Pipeline) : CommandLine :=
  p.stages.map Invocation.meaning

/-- The command line with words in front of its first command. -/
def CommandLine.ledBy (words : List String) : CommandLine → CommandLine
  | [] => []
  | c :: rest => { c with arguments := words ++ c.arguments } :: rest

/-- The path of a redirection. -/
def Redirection.path : Redirection → String
  | output path | errors path => path

/-- The command can be written: it has a name, and what is not quoted need not be. -/
structure Invocation.IsWritable (i : Invocation) : Prop where
  named : i.meaning.isNamed = true
  glued : ∀ w ∈ i.words, ∀ c ∈ w.glued.toList, isSpecial c = false
  redirected : ∀ r ∈ i.redirection, isPlainWord r.path.toList = true

/-- The pipeline can be written. -/
structure Pipeline.IsWritable (p : Pipeline) : Prop where
  ne_nil : p.stages ≠ []
  stages : ∀ i ∈ p.stages, i.IsWritable

theorem Invocation.isWritable_ofWords {name : String} (h : isCommandName name = true)
    (arguments : List String) : (Invocation.ofWords (name :: arguments)).IsWritable := by
  constructor
  · simp [meaning, ofWords, SimpleCommand.isNamed, Word.value, h]
  · intro w hw
    obtain ⟨a, -, rfl⟩ := List.mem_map.mp hw
    simp
  · intro r hr
    cases hr

theorem Pipeline.isWritable_single {i : Invocation} (h : i.IsWritable) :
    (Pipeline.single i).IsWritable := by
  constructor
  · exact List.cons_ne_nil _ _
  · intro j hj
    obtain rfl : j = i := List.mem_singleton.mp hj
    exact h

theorem Pipeline.isWritable_ofWords {name : String} (h : isCommandName name = true)
    (arguments : List String) : (Pipeline.ofWords (name :: arguments)).IsWritable :=
  isWritable_single (Invocation.isWritable_ofWords h arguments)

theorem meaning_ofWords (words : List String) :
    (Pipeline.ofWords words).meaning = [⟨words, []⟩] := by
  have hvalue : Word.value ∘ (fun w => (⟨w, ""⟩ : Word)) = id := by
    funext w
    exact String.append_empty
  simp [Pipeline.meaning, Pipeline.ofWords, Pipeline.single, Invocation.ofWords, Invocation.meaning,
    hvalue]

/-! ## Spelling commands -/

theorem spells_word {w : Word} (h : ∀ c ∈ w.glued.toList, isSpecial c = false) :
    Spells w.written.toList [.word w.value.toList] := by
  obtain ⟨bare, hread⟩ := Place.read_quote w.text
  refine ⟨[], w.value.toList, bare, ?_, rfl⟩
  rw [Word.written, Word.value, String.toList_append, String.toList_append]
  exact Place.read_append hread (Place.read_plain_inside h w.text.toList bare)

theorem spells_redirection {r : Redirection} (h : isPlainWord r.path.toList = true) :
    Spells r.written.toList (redirectionTokens r.meaning) := by
  have hpath := Place.read_plain h
  cases r with
  | output path =>
    refine ⟨[.redirect 1], path.toList, true, ?_, rfl⟩
    have hsign : Place.between.read "> ".toList = some ([.redirect 1], .between) := rfl
    rw [Redirection.written, String.toList_append]
    exact Place.read_append hsign hpath
  | errors path =>
    refine ⟨[.redirect 2], path.toList, true, ?_, rfl⟩
    have hsign : Place.between.read "2>".toList = some ([.redirect 2], .between) := rfl
    rw [Redirection.written, String.toList_append]
    exact Place.read_append hsign hpath

/-- Nothing is added between words that are divided by blanks. -/
theorem intercalate_nil_singletons {α β : Type} (f : α → β) (xs : List α) :
    ([] : List β).intercalate (xs.map fun x => [f x]) = xs.map f := by
  induction xs with
  | nil => rfl
  | cons x rest ih =>
    cases rest with
    | nil => rfl
    | cons y rest =>
      rw [List.map_cons] at ih ⊢
      rw [List.map_cons, List.intercalate_cons_cons, ih]
      rfl

theorem spells_invocation {i : Invocation} (h : i.IsWritable) :
    Spells i.written.toList i.meaning.tokens := by
  have hne : i.words ≠ [] := by
    intro hnil
    have hnamed := h.named
    simp [Invocation.meaning, SimpleCommand.isNamed, hnil] at hnamed
  have hwords : Spells (" ".intercalate (i.words.map Word.written)).toList
      (i.words.map fun w => .word w.value.toList) := by
    have hjoined := spells_intercalate separates_blank hne fun w hw => spells_word (h.glued w hw)
    rw [intercalate_nil_singletons] at hjoined
    exact hjoined
  have htokens : i.meaning.tokens = (i.words.map fun w => .word w.value.toList) ++
      i.redirection.toList.flatMap fun r => redirectionTokens r.meaning := by
    rw [SimpleCommand.tokens, Invocation.meaning, List.map_map, List.flatMap_map]
    rfl
  cases hr : i.redirection with
  | none => simpa [Invocation.written, htokens, hr] using hwords
  | some r =>
    have hredirect := spells_redirection (h.redirected r hr)
    have hjoined := hwords.join separates_blank hredirect
    have hwritten : i.written =
        " ".intercalate (i.words.map Word.written) ++ " " ++ r.written := by
      rw [Invocation.written, hr, Option.toList_some, List.map_singleton,
        String.intercalate_append_of_ne_nil (by simpa using hne) (List.cons_ne_nil _ _),
        String.intercalate_singleton]
    rw [hwritten, String.toList_append, String.toList_append]
    simpa [htokens, hr] using hjoined

theorem spells_pipeline {p : Pipeline} (h : p.IsWritable) :
    Spells p.written.toList (commandLineTokens p.meaning) := by
  rw [Pipeline.written, commandLineTokens, Pipeline.meaning, List.map_map]
  exact spells_intercalate separates_pipe h.ne_nil fun i hi => spells_invocation (h.stages i hi)

/-! ## Texts that say programs -/

/-- The text is read as the program, which ends with the text. -/
structure Says (text : String) (p : Program) : Prop where
  ne_nil : p ≠ []
  runnable : IsRunnable p
  spells : Spells text.toList (programTokens p)

theorem parse_of_says {text : String} {p : Program} (h : Says text p) : parse text = some p := by
  rw [parse, tokens?_of_spells h.spells, Option.bind_some, program?_programTokens h.runnable]

/-- The empty text says no program. -/
theorem Says.text_ne_empty {text : String} {p : Program} (h : Says text p) : text ≠ "" := by
  rintro rfl
  have hnil : parse "" = some [] := rfl
  have hparse := parse_of_says h
  exact h.ne_nil (Option.some.inj (hparse.symm.trans hnil))

theorem programTokens_append {p q : Program} (hp : p ≠ []) (hq : q ≠ []) :
    programTokens (p ++ q) = programTokens p ++ [.semicolon] ++ programTokens q := by
  induction p with
  | nil => exact absurd rfl hp
  | cons l rest ih =>
    cases rest with
    | nil =>
      rw [List.singleton_append]
      simp only [programTokens, List.map_cons, List.map_nil, List.intercalate_singleton]
      rw [List.intercalate_cons_of_ne_nil (by simpa using hq)]
    | cons m rest =>
      have hrest := ih (List.cons_ne_nil _ _)
      simp only [programTokens, List.map_cons, List.cons_append, List.intercalate_cons_cons]
        at hrest ⊢
      rw [hrest]
      simp only [List.append_assoc]

/-- A sequence of two texts says what the first says and then what the second says. -/
theorem Says.append {text₁ text₂ : String} {p q : Program} (h₁ : Says text₁ p)
    (h₂ : Says text₂ q) : Says (text₁ ++ "; " ++ text₂) (p ++ q) := by
  constructor
  · simp [h₁.ne_nil]
  · intro l hl
    rcases List.mem_append.mp hl with hl | hl
    · exact h₁.runnable l hl
    · exact h₂.runnable l hl
  · rw [programTokens_append h₁.ne_nil h₂.ne_nil, String.toList_append, String.toList_append]
    exact h₁.spells.join separates_semicolon h₂.spells

/-- A sequence of texts that say a command line each says these, one after the other. -/
theorem says_join {α : Type} {write : α → String} {line : α → CommandLine} {xs : List α}
    (hne : xs ≠ []) (h : ∀ x ∈ xs, Says (write x) [line x]) :
    Says ("; ".intercalate (xs.map write)) (xs.map line) := by
  induction xs with
  | nil => exact absurd rfl hne
  | cons x rest ih =>
    have hx := h x (List.mem_cons_self ..)
    cases rest with
    | nil =>
      rw [List.map_singleton, String.intercalate_singleton]
      exact hx
    | cons y rest =>
      have hrest := ih (List.cons_ne_nil _ _) fun z hz => h z (List.mem_cons_of_mem _ hz)
      have hne' : (y :: rest).map write ≠ [] := List.cons_ne_nil _ _
      rw [List.map_cons, String.intercalate_cons_of_ne_nil hne']
      exact hx.append hrest

/-- A written pipeline says what it means. -/
theorem says_written {p : Pipeline} (h : p.IsWritable) : Says p.written [p.meaning] := by
  constructor
  · exact List.cons_ne_nil _ _
  · intro l hl
    obtain rfl : l = p.meaning := List.mem_singleton.mp hl
    refine ⟨by simpa [Pipeline.meaning] using h.ne_nil, ?_⟩
    intro c hc
    obtain ⟨i, hi, rfl⟩ := List.mem_map.mp hc
    exact (h.stages i hi).named
  · rw [programTokens, List.map_singleton, List.intercalate_singleton]
    exact spells_pipeline h

/-- Words in front of a text become the first words of its first command. -/
theorem Says.led {text : String} {l : CommandLine} (h : Says text [l]) :
    Says ("sudo " ++ text) [l.ledBy ["sudo"]] := by
  obtain ⟨hne, hnamed⟩ := h.runnable l (List.mem_singleton_self l)
  cases l with
  | nil => exact absurd rfl hne
  | cons c rest =>
    constructor
    · exact List.cons_ne_nil _ _
    · intro m hm
      obtain rfl : m = CommandLine.ledBy ["sudo"] (c :: rest) := List.mem_singleton.mp hm
      refine ⟨List.cons_ne_nil _ _, ?_⟩
      intro d hd
      rcases List.mem_cons.mp hd with rfl | hd
      · simp [SimpleCommand.isNamed, show isCommandName "sudo" = true by decide]
      · exact hnamed d (List.mem_cons_of_mem _ hd)
    · have hsudo : Spells "sudo".toList [.word "sudo".toList] := ⟨[], _, true, rfl, rfl⟩
      have hjoined := hsudo.join separates_blank h.spells
      have htokens : programTokens [CommandLine.ledBy ["sudo"] (c :: rest)] =
          .word "sudo".toList :: programTokens [c :: rest] := by
        cases rest <;> simp [programTokens, commandLineTokens, CommandLine.ledBy,
          SimpleCommand.tokens]
      rw [htokens, String.toList_append]
      exact hjoined

/-- A text behind an `echo` of a quoted payload reads that payload, whatever it holds. -/
theorem Says.fed {text : String} {l : CommandLine} (h : Says text [l]) (payload : String) :
    Says ("echo " ++ singleQuote payload ++ " | " ++ text) [⟨["echo", payload], []⟩ :: l] := by
  obtain ⟨hne, hnamed⟩ := h.runnable l (List.mem_singleton_self l)
  constructor
  · exact List.cons_ne_nil _ _
  · intro m hm
    obtain rfl : m = ⟨["echo", payload], []⟩ :: l := List.mem_singleton.mp hm
    refine ⟨List.cons_ne_nil _ _, ?_⟩
    intro d hd
    rcases List.mem_cons.mp hd with rfl | hd
    · simp [SimpleCommand.isNamed, show isCommandName "echo" = true by decide]
    · exact hnamed d hd
  · have hecho : Spells "echo".toList [.word "echo".toList] := ⟨[], _, true, rfl, rfl⟩
    have hjoined := (hecho.join separates_blank (spells_singleQuote payload)).join separates_pipe
      h.spells
    have htokens : programTokens [⟨["echo", payload], []⟩ :: l] =
        [.word "echo".toList, .word payload.toList] ++ [.pipe] ++ programTokens [l] := by
      simp only [programTokens, commandLineTokens, List.map_cons, List.map_nil,
        List.intercalate_singleton]
      rw [List.intercalate_cons_of_ne_nil (by simpa using hne)]
      rfl
    rw [htokens, String.toList_append, String.toList_append, String.toList_append]
    exact hjoined

end HostAccounts.Shell
