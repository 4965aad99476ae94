import HostAccounts.Pattern.Brackets
import HostAccounts.Text.LetterTable

/-!
# Reading patterns

From a text to the pattern that is written in it. Repetitions are not counted.
-/

set_option autoImplicit false

namespace HostAccounts.Pattern

/-! ## Groups -/

/-- A text under way of being read. -/
structure Draft where
  rest : List Char
  /-- Blanks and comments do not count. -/
  spaced : Bool := false
  /-- The names of groups so far. -/
  names : List String := []

namespace Draft

/-- The draft with switches set. -/
def switch (d : Draft) (s : Setting) : Draft :=
  { d with spaced := s.get .spaced d.spaced }

/-- The draft behind the name of a group; it is a new one. -/
def name? (d : Draft) (cs : List Char) : Option Draft :=
  let isMark (c : Char) : Bool := "_.[]".toList.contains c || Text.isLetterOrNumeral c
  match Text.cutAt? (· == '>') cs with
  | some (c :: others, rest) =>
    let name := String.ofList (c :: others)
    if (c = '_' || Text.isLetter c) && others.all isMark && !d.names.contains name then
      some { d with rest, names := name :: d.names }
    else none
  | _ => none

end Draft

/-- Switches and the mark that ends them, behind those read so far. A minus sign that something
follows switches off. -/
def setting? (on : Bool) (s : Setting) : List Char → Option (Setting × Char × List Char)
  | [] => none
  | c :: cs =>
    if c = ':' || c = ')' then some (s, c, cs)
    else if c = '-' then
      if on && cs.head?.any (fun c => c != ':' && c != ')') then setting? false s cs else none
    else
      match Switch.ofLetter? c with
      | some switch =>
        if (s.lookup switch).isSome then none else setting? on (s ++ [(switch, on)]) cs
      | none => none

/-- What a parenthesis opens, behind it: a group with switches, or switches without a group. -/
def opening? (d : Draft) : Option (Bool × Setting × Draft) :=
  match skip d.spaced d.rest with
  | '?' :: 'P' :: '<' :: cs | '?' :: '<' :: cs => (d.name? cs).map fun d => (true, [], d)
  | '?' :: cs =>
    match setting? true [] cs with
    | some (s, ':', rest) => some (true, s, { d with rest })
    | some (s, _, rest) => if s.isEmpty then none else some (false, s, { d with rest })
    | none => none
  | rest => some (true, [], { d with rest })

/-! ## Patterns -/

/-- The parts with the last one repeated, if there is one that can be. -/
def repeatLast? (ps : List Pattern) : Option (List Pattern) :=
  match ps.getLast? with
  | none | some (.switches _) => none
  | some p => some (ps.dropLast ++ [.repetition p])

/-- Reads alternatives up to the parenthesis behind them or to the end, the alternatives in front
and the parts of the one under way being given. -/
def alternatives? : Nat → List Pattern → List Pattern → Draft → Option (Pattern × Draft)
  | 0, _, _, _ => none
  | fuel + 1, before, ps, d =>
    let done := before ++ [.sequence ps]
    let ending := skip d.spaced d.rest
    match ending with
    | [] => some (.alternatives done, { d with rest := [] })
    | c :: cs =>
      let d := { d with rest := cs }
      match c with
      | ')' => some (.alternatives done, { d with rest := ending })
      | '|' => alternatives? fuel done [] d
      | '(' => do
        let (isGroup, s, d) ← opening? d
        if isGroup then
          let (inside, e) ← alternatives? fuel [] [] (d.switch s)
          match e.rest with
          | _ :: rest =>
            alternatives? fuel before (ps ++ [.group s inside]) { e with rest, spaced := d.spaced }
          | [] => none
        else alternatives? fuel before (ps ++ [.switches s]) (d.switch s)
      | '?' | '*' | '+' => do
        let ps ← repeatLast? ps
        let rest := if cs.head? = some '?' then cs.drop 1 else cs
        alternatives? fuel before ps { d with rest }
      | '\x7b' => none
      | '[' => do
        let (set, rest) ← set? d.spaced cs
        alternatives? fuel before (ps ++ [set]) { d with rest }
      | '\\' => do
        let (p, rest) ← escape? d.spaced cs
        alternatives? fuel before (ps ++ [p]) { d with rest }
      | '.' => alternatives? fuel before (ps ++ [.anything]) d
      | '^' | '$' => alternatives? fuel before (ps ++ [.edge]) d
      | _ => alternatives? fuel before (ps ++ [.literal ⟨c, false⟩]) d

/-- The pattern that is written in a text; it must not be nested too deeply. -/
def ofText? (s : String) : Option Pattern := do
  let (p, d) ← alternatives? (s.length + 1) [] [] { rest := s.toList }
  if d.rest.isEmpty && p.depth ≤ depthLimit then some p else none

end HostAccounts.Pattern
