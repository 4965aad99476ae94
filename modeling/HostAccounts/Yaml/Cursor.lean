import HostAccounts.Text.Pieces
import HostAccounts.Yaml.Token

/-!
# Cursors

A place in a document: what lies ahead, how many bytes lie behind, and the line and column reached.
-/

set_option autoImplicit false

namespace HostAccounts.Yaml

/-- A place in a document. -/
structure Cursor where
  rest : List Char
  /-- The number of bytes that lie behind. -/
  index : Nat
  line : Nat
  column : Nat

namespace Cursor

/-- The beginning of a document. -/
def start (cs : List Char) : Cursor := ⟨cs, 0, 0, 0⟩

/-- The next character. -/
def peek (c : Cursor) : Option Char := c.rest.head?

/-- The character behind `n` others. -/
def peekAt (c : Cursor) (n : Nat) : Option Char := c.rest[n]?

/-- The next character is the given one. -/
def sees (c : Cursor) (x : Char) : Bool := c.peek == some x

/-- A gap or the end of the document lies behind `n` characters. -/
def gapAt (c : Cursor) (n : Nat) : Bool := (c.peekAt n).all isGap

/-- The end of a line or of the document lies ahead. -/
def atLineEnd (c : Cursor) : Bool := c.peek.all isBreak

/-- A character that ends a line lies ahead. -/
def atBreak (c : Cursor) : Bool := c.peek.any isBreak

/-- A space or a tab lies ahead. -/
def atSpace (c : Cursor) : Bool := c.peek.any isSpace

/-- The place behind `n` characters of the line. -/
def skipN (c : Cursor) (n : Nat) : Cursor :=
  { c with
    rest := c.rest.drop n
    index := c.index + Text.byteCount (c.rest.take n)
    column := c.column + n }

/-- The place behind one character of the line. -/
def skip (c : Cursor) : Cursor := c.skipN 1

/-- The place behind the end of the line. -/
def skipBreak (c : Cursor) : Cursor :=
  match c.rest with
  | '\r' :: '\n' :: rest => ⟨rest, c.index + 2, c.line + 1, 0⟩
  | x :: rest => ⟨rest, c.index + x.utf8Size, c.line + 1, 0⟩
  | [] => c

/-- The characters of the class that lie ahead on the line, and the place behind them. -/
def span (c : Cursor) (p : Char → Bool) : List Char × Cursor :=
  let run := c.rest.takeWhile fun x => p x && !isBreak x
  (run, c.skipN run.length)

/-- The place behind the characters of the class. -/
def skipWhile (c : Cursor) (p : Char → Bool) : Cursor := (c.span p).2

/-- The place behind spaces and tabs. -/
def skipSpaces (c : Cursor) : Cursor := c.skipWhile isSpace

/-- The place behind a comment, if one lies ahead. -/
def skipComment (c : Cursor) : Cursor :=
  if c.sees '#' then c.skipWhile fun _ => true else c

/-- Three hyphens or dots at the beginning of a line, standing alone. -/
def atDocumentMark (c : Cursor) (x : Char) : Bool :=
  c.column == 0 && [x, x, x].isPrefixOf c.rest && c.gapAt 3

/-- The beginning or the end of a document is marked ahead. -/
def atDocumentEdge (c : Cursor) : Bool :=
  c.atDocumentMark '-' || c.atDocumentMark '.'

/-- Something to bound a walk over what lies ahead. -/
def fuel (c : Cursor) : Nat := c.rest.length + 1

end Cursor

end HostAccounts.Yaml
