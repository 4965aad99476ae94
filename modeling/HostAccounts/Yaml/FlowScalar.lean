import HostAccounts.Text.Numeral
import HostAccounts.Yaml.Cursor
import HostAccounts.Yaml.Token

/-!
# Scalars on lines that are folded

Plain and quoted scalars. Where such a scalar goes on in another line, one end of a line becomes a
space and further ones are kept; the spaces around them are dropped.
-/

set_option autoImplicit false

namespace HostAccounts.Yaml

/-! ## Gaps -/

/-- What lies between two words of a scalar: spaces on a line, or ends of lines. -/
structure Gap where
  spaces : List Char := []
  /-- The first end of a line. -/
  first : List Char := []
  /-- The ends of lines behind it. -/
  more : List Char := []
  /-- The gap holds the end of a line. -/
  broken : Bool := false

/-- What a gap comes to in the text. -/
def Gap.folded (g : Gap) : List Char :=
  if g.broken then
    match g.first with
    | '\n' :: _ => if g.more.isEmpty then [' '] else g.more
    | _ => g.first ++ g.more
  else g.spaces

/-- Takes in spaces and ends of lines. In a block, a tab may not stand before the column at which
the scalar goes on. -/
def Gap.extend (g : Gap) : Nat → Option Nat → Cursor → Option (Gap × Cursor)
  | 0, _, c => some (g, c)
  | fuel + 1, column, c =>
    match c.peek with
    | none => some (g, c)
    | some x =>
      if isSpace x then
        if g.broken then
          if x = '\t' && column.any (c.column < ·) then none else g.extend fuel column c.skip
        else extend { g with spaces := g.spaces ++ [x] } fuel column c.skip
      else if isBreak x then
        if g.broken then extend { g with more := g.more ++ [keptBreak x] } fuel column c.skipBreak
        else
          extend { g with spaces := [], first := [keptBreak x], broken := true } fuel column
            c.skipBreak
      else some (g, c)

/-! ## Plain scalars -/

/-- The characters of a plain scalar up to a gap or an indicator that ends it. -/
def plainRun (flow : Bool) : List Char → Option (List Char)
  | [] => some []
  | x :: rest =>
    if isGap x then some []
    else if flow && x == ':' && rest.head?.any fun y => isFlowIndicator y || y == '?' then none
    else if x == ':' && rest.head?.all isGap then some []
    else if flow && isFlowIndicator x then some []
    else (plainRun flow rest).map (x :: ·)

/-- A plain scalar and what gap follows it. In a block it goes on only at the given column. -/
def plainScalar (flow : Bool) (column : Nat) :
    Nat → Cursor → List Char → Gap → Option (List Char × Gap × Cursor)
  | 0, c, text, g => some (text, g, c)
  | fuel + 1, c, text, g =>
    if c.atDocumentEdge || c.sees '#' then some (text, g, c)
    else do
      let run ← plainRun flow c.rest
      let c := c.skipN run.length
      let text := if run.isEmpty then text else text ++ g.folded ++ run
      let g := if run.isEmpty then g else {}
      if c.peek.any isGap then
        let (g, c) ← g.extend c.fuel (some column) c
        if !flow && c.column < column then some (text, g, c)
        else plainScalar flow column fuel c text g
      else some (text, g, c)

/-! ## Quoted scalars -/

/-- The character that an escape of one letter stands for. -/
def escapedChar? (c : Char) : Option Char :=
  match c with
  | '0' => some (Char.ofNat 0)
  | 'a' => some (Char.ofNat 7)
  | 'b' => some (Char.ofNat 8)
  | 't' | '\t' => some '\t'
  | 'n' => some '\n'
  | 'v' => some (Char.ofNat 11)
  | 'f' => some (Char.ofNat 12)
  | 'r' => some '\r'
  | 'e' => some (Char.ofNat 27)
  | ' ' => some ' '
  | '"' => some '"'
  | '/' => some '/'
  | '\\' => some '\\'
  | 'N' => some (Char.ofNat 0x85)
  | '_' => some (Char.ofNat 0xA0)
  | 'L' => some (Char.ofNat 0x2028)
  | 'P' => some (Char.ofNat 0x2029)
  | _ => none

/-- The characters of a quoted scalar up to a gap or the closing quote, and whether an escaped end
of a line stopped them. -/
def quotedRun (single : Bool) : Nat → Cursor → List Char → Option (List Char × Bool × Cursor)
  | 0, _, _ => none
  | fuel + 1, c, text =>
    match c.rest with
    | [] => some (text, false, c)
    | x :: rest =>
      if isGap x then some (text, false, c)
      else if single then
        if x = '\'' then
          if rest.head? = some '\'' then quotedRun single fuel (c.skipN 2) (text ++ ['\''])
          else some (text, false, c)
        else quotedRun single fuel c.skip (text ++ [x])
      else if x = '"' then some (text, false, c)
      else if x = '\\' then
        match rest with
        | [] => none
        | y :: more =>
          if isBreak y then some (text, true, c.skip.skipBreak)
          else
            match Text.escapeDigits? y with
            | some count => do
              let z ← Text.numberedChar? count (more.take count)
              quotedRun single fuel (c.skipN (2 + count)) (text ++ [z])
            | none => do
              let z ← escapedChar? y
              quotedRun single fuel (c.skipN 2) (text ++ [z])
      else quotedRun single fuel c.skip (text ++ [x])

/-- A quoted scalar behind its opening quote. -/
def quotedScalar (single : Bool) : Nat → Cursor → List Char → Option (List Char × Cursor)
  | 0, _, _ => none
  | fuel + 1, c, text =>
    if c.atDocumentEdge || c.peek.isNone then none
    else do
      let (text, broken, c) ← quotedRun single c.fuel c text
      if c.sees (if single then '\'' else '"') then some (text, c.skip)
      else
        let (g, c) ← Gap.extend { broken } c.fuel none c
        quotedScalar single fuel c (text ++ g.folded)

end HostAccounts.Yaml
