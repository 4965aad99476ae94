import HostAccounts.Yaml.Cursor
import HostAccounts.Yaml.Token

/-!
# Scalars on lines of their own

Literal scalars keep the ends of their lines; folded ones turn an end between two lines of text into
a space. A mark behind the indicator says what becomes of the ends of lines at the end.
-/

set_option autoImplicit false

namespace HostAccounts.Yaml

/-- What becomes of the ends of lines at the end of a block scalar. -/
inductive Chomping where
  | strip
  | clip
  | keep
  deriving DecidableEq, Repr

/-- The mark of a chomping. -/
def chomping? (c : Option Char) : Option Chomping :=
  match c with
  | some '-' => some .strip
  | some '+' => some .keep
  | _ => none

/-- The mark of an indentation, which is a digit; zero is none. -/
def indentMark? (c : Option Char) : Option Nat :=
  (c.filter Char.isDigit).map fun d => d.toNat - '0'.toNat

/-- The two marks behind the indicator, in either order; no indentation may be zero. -/
def blockMarks (c : Cursor) : Option (Chomping × Nat × Cursor) :=
  let (chomping, increment, c) :=
    match chomping? c.peek with
    | some chomping =>
      let c := c.skip
      match indentMark? c.peek with
      | some n => (chomping, some n, c.skip)
      | none => (chomping, none, c)
    | none =>
      match indentMark? c.peek with
      | some n =>
        let c := c.skip
        match chomping? c.peek with
        | some chomping => (chomping, some n, c.skip)
        | none => (.clip, some n, c)
      | none => (.clip, none, c)
  if increment = some 0 then none else some (chomping, increment.getD 0, c)

/-- Takes in indentation and empty lines in front of a line of text. An indentation of zero is still
unknown; the widest one met is then handed back. -/
def blockBreaks (indent : Nat) : Nat → Nat → List Char → Cursor → Option (Nat × List Char × Cursor)
  | 0, widest, breaks, c => some (widest, breaks, c)
  | fuel + 1, widest, breaks, c =>
    let run := c.rest.takeWhile (· == ' ')
    let c := c.skipN (if indent = 0 then run.length else min run.length (indent - c.column))
    let widest := max widest c.column
    if (indent = 0 || c.column < indent) && c.sees '\t' then none
    else
      match c.peek with
      | some x =>
        if isBreak x then blockBreaks indent fuel widest (breaks ++ [keptBreak x]) c.skipBreak
        else some (widest, breaks, c)
      | none => some (widest, breaks, c)

/-- The indentation of a block whose marks leave it open. -/
def openIndent (parent : Int) (widest : Nat) : Nat :=
  max 1 (max widest (parent + 1).toNat)

/-- The lines of a block scalar, with the end of the last line and the empty lines behind it. -/
def blockText (folded : Bool) (indent : Nat) :
    Nat → Cursor → List Char → List Char → List Char → Bool →
      Option (List Char × List Char × List Char × Cursor)
  | 0, c, text, last, breaks, _ => some (text, last, breaks, c)
  | fuel + 1, c, text, last, breaks, spaced =>
    if c.column = indent && c.peek.isSome then do
      let spacedNow := c.atSpace
      let text :=
        if folded && last.head? = some '\n' && !spaced && !spacedNow then
          text ++ (if breaks.isEmpty then [' '] else []) ++ breaks
        else text ++ last ++ breaks
      let (run, c) := c.span fun _ => true
      let last := (c.peek.map keptBreak).toList
      let (_, breaks, c) ← blockBreaks indent c.fuel 0 [] c.skipBreak
      blockText folded indent fuel c (text ++ run) last breaks spacedNow
    else some (text, last, breaks, c)

/-- A block scalar behind its indicator, inside a block with the given indentation. -/
def blockScalar (folded : Bool) (parent : Int) (c : Cursor) : Option (List Char × Cursor) := do
  let (chomping, increment, c) ← blockMarks c
  let c := c.skipSpaces.skipComment
  if !c.atLineEnd then none
  else
    let c := c.skipBreak
    let marked :=
      if increment = 0 then 0
      else if parent ≥ 0 then parent.toNat + increment
      else increment
    let (widest, breaks, c) ← blockBreaks marked c.fuel 0 [] c
    let indent := if marked = 0 then openIndent parent widest else marked
    let (text, last, breaks, c) ← blockText folded indent c.fuel c [] [] breaks false
    match chomping with
    | .strip => return (text, c)
    | .clip => return (text ++ last, c)
    | .keep => return (text ++ last ++ breaks, c)

end HostAccounts.Yaml
