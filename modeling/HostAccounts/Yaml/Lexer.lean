import HostAccounts.Yaml.BlockScalar
import HostAccounts.Yaml.FlowScalar
import HostAccounts.Yaml.Tag

/-!
# Reading tokens

A document is cut into tokens from left to right. That something is the key of a mapping shows only
at the colon behind it; so the places where a key may begin are kept, one for each open collection,
and the tokens that belong in front of the key are put in when the colon comes.
-/

set_option autoImplicit false

namespace HostAccounts.Yaml

/-! ## Places of keys -/

/-- A place where a key may begin. -/
structure KeyPlace where
  /-- The number of the token that would be the key. -/
  token : Nat
  /-- Nothing but a key may stand there. -/
  required : Bool
  index : Nat
  line : Nat
  column : Nat

/-- The key, if it is one, would have ended: it may not leave its line nor take up more than 1024
bytes. -/
def KeyPlace.isStale (k : KeyPlace) (c : Cursor) : Bool :=
  k.line < c.line || k.index + 1024 < c.index

/-! ## The state -/

/-- How far the reading has come. -/
structure Lexer where
  cursor : Cursor
  tokens : Array Token := #[]
  /-- The place of a key in the innermost collection, and those in the collections around it. -/
  key : Option KeyPlace := none
  outerKeys : List (Option KeyPlace) := []
  /-- A key may begin here. -/
  keyAllowed : Bool := true
  /-- The column of the innermost block, and those of the blocks around it. -/
  indent : Int := -1
  outerIndents : List Int := []

namespace Lexer

/-- The reading is inside a flow collection. -/
def inFlow (l : Lexer) : Bool := !l.outerKeys.isEmpty

/-- Appends a token. -/
def emit (l : Lexer) (t : Token) : Lexer :=
  { l with tokens := l.tokens.push t }

/-- Appends a token and moves to the place behind it. -/
def emitTo (l : Lexer) (t : Token) (c : Cursor) : Lexer :=
  { l.emit t with cursor := c }

/-- Forgets a place that has become stale; it is an error if a key was required there. -/
def dropStale (c : Cursor) (k : Option KeyPlace) : Option (Option KeyPlace) :=
  match k with
  | some k => if k.isStale c then (if k.required then none else some none) else some (some k)
  | none => some none

/-- Forgets all stale places. -/
def dropStaleKeys (l : Lexer) : Option Lexer := do
  let key ← dropStale l.cursor l.key
  let outerKeys ← l.outerKeys.mapM (dropStale l.cursor)
  return { l with key, outerKeys }

/-- Forgets the place of a key; it is an error if a key was required there. -/
def removeKey (l : Lexer) : Option Lexer :=
  match l.key with
  | some k => if k.required then none else some { l with key := none }
  | none => some l

/-- Keeps the place as one where a key may begin. -/
def saveKey (l : Lexer) : Option Lexer :=
  if l.keyAllowed then do
    let l ← l.removeKey
    let c := l.cursor
    let required := !l.inFlow && l.indent == c.column
    return { l with key := some ⟨l.tokens.size, required, c.index, c.line, c.column⟩ }
  else some l

/-- Opens a block at the column, with a token in front of the one with the number. -/
def openBlock (l : Lexer) (column : Nat) (number : Nat) (t : Token) : Lexer :=
  if !l.inFlow && l.indent < column then
    { l with
      outerIndents := l.indent :: l.outerIndents
      indent := column
      tokens := l.tokens.insertIdxIfInBounds number t }
  else l

/-- Closes the blocks that begin behind the column. -/
def closeBlocks (column : Int) : List Int → Lexer → Lexer
  | [], l => l
  | outer :: rest, l =>
    if column < l.indent then
      closeBlocks column rest { l.emit .blockEnd with indent := outer, outerIndents := rest }
    else l

/-- Closes the blocks that begin behind the column; a flow collection has none. -/
def dedent (l : Lexer) (column : Int) : Lexer :=
  if l.inFlow then l else closeBlocks column l.outerIndents l

/-! ## Blanks and comments -/

/-- The place of the next token. Outside of flow collections the end of a line allows a key again. A
tab is no blank where a key may begin. A byte order mark at the beginning of a line is passed over
but takes up a column. -/
def skipBlank (flow : Bool) : Nat → Cursor → Bool → Cursor × Bool
  | 0, c, keyAllowed => (c, keyAllowed)
  | fuel + 1, c, keyAllowed =>
    let c := if c.column = 0 && c.peek.any isByteOrderMark then c.skip else c
    let c := c.skipWhile fun x => x == ' ' || ((flow || !keyAllowed) && x == '\t')
    let c := c.skipComment
    if c.atBreak then skipBlank flow fuel c.skipBreak (keyAllowed || !flow) else (c, keyAllowed)

/-! ## Marks -/

/-- A directive or a mark of a document closes all blocks. -/
def closeAll (l : Lexer) : Option Lexer := do
  let l ← (l.dedent (-1)).removeKey
  return { l with keyAllowed := false }

/-- Reads a directive. -/
def readDirective (l : Lexer) : Option Lexer := do
  let l ← l.closeAll
  let (name, c) := l.cursor.skip.span isWordChar
  if !c.gapAt 0 then none
  else
    let (token, c) ←
      if name = "YAML".toList then
        (version? c).map fun ((major, minor), c) => (Token.versionDirective major minor, c)
      else if name = "TAG".toList then
        (tagRule? c).map fun ((handle, expansion), c) => (Token.tagDirective handle expansion, c)
      else none
    let c := c.skipSpaces.skipComment
    if c.atLineEnd then some (l.emitTo token c.skipBreak) else none

/-- Reads the mark of a document's beginning or end. -/
def readDocumentMark (l : Lexer) (t : Token) : Option Lexer := do
  let l ← l.closeAll
  return l.emitTo t (l.cursor.skipN 3)

/-- Reads the beginning of a flow collection. -/
def readFlowStart (l : Lexer) (t : Token) : Option Lexer := do
  let l ← l.saveKey
  return { l.emitTo t l.cursor.skip with
    key := none, outerKeys := l.key :: l.outerKeys, keyAllowed := true }

/-- Reads the end of a flow collection. -/
def readFlowEnd (l : Lexer) (t : Token) : Option Lexer := do
  let l ← l.removeKey
  let l := match l.outerKeys with
    | key :: outerKeys => { l with key, outerKeys }
    | [] => l
  return { l.emitTo t l.cursor.skip with keyAllowed := false }

/-- Reads a comma. -/
def readFlowEntry (l : Lexer) : Option Lexer := do
  let l ← l.removeKey
  return { l.emitTo .flowEntry l.cursor.skip with keyAllowed := true }

/-- Opens a block at the place for an indicator, where one may stand. -/
def openHere (l : Lexer) (t : Token) : Option Lexer :=
  if l.inFlow then some l
  else if l.keyAllowed then some (l.openBlock l.cursor.column l.tokens.size t)
  else none

/-- Reads the hyphen of an item. -/
def readBlockEntry (l : Lexer) : Option Lexer := do
  let l ← l.openHere .blockSequenceStart
  let l ← l.removeKey
  return { l.emitTo .blockEntry l.cursor.skip with keyAllowed := true }

/-- Reads the question mark of a key. -/
def readKey (l : Lexer) : Option Lexer := do
  let l ← l.openHere .blockMappingStart
  let l ← l.removeKey
  return { l.emitTo .key l.cursor.skip with keyAllowed := !l.inFlow }

/-- Reads the colon of a value; what began at the kept place is then its key. -/
def readValue (l : Lexer) : Option Lexer :=
  match l.key with
  | some k =>
    let l := { l with key := none, tokens := l.tokens.insertIdxIfInBounds k.token .key }
    let l := l.openBlock k.column k.token .blockMappingStart
    some { l.emitTo .value l.cursor.skip with keyAllowed := false }
  | none => do
    let l ← l.openHere .blockMappingStart
    return { l.emitTo .value l.cursor.skip with keyAllowed := !l.inFlow }

/-! ## Names and texts -/

/-- Reads something that may be or begin a key, and allows none right behind it. -/
def readNode (l : Lexer) (scan : Cursor → Option (Token × Cursor)) : Option Lexer := do
  let l ← l.saveKey
  let (t, c) ← scan l.cursor
  return { l.emitTo t c with keyAllowed := false }

/-- Reads a scalar on lines of its own. -/
def readBlockScalar (l : Lexer) (style : Style) : Option Lexer := do
  let l ← l.removeKey
  let (text, c) ← blockScalar (style = .folded) l.indent l.cursor.skip
  return { l.emitTo (.scalar style (String.ofList text)) c with keyAllowed := true }

/-- Reads a quoted scalar. -/
def readQuoted (l : Lexer) (style : Style) : Option Lexer :=
  l.readNode fun c =>
    (quotedScalar (style = .singleQuoted) c.fuel c.skip []).map fun (text, c) =>
      (.scalar style (String.ofList text), c)

/-- Reads a plain scalar; behind the end of a line a key may begin again. -/
def readPlain (l : Lexer) : Option Lexer := do
  let l ← l.saveKey
  let c := l.cursor
  let (text, gap, c) ← plainScalar l.inFlow (l.indent + 1).toNat c.fuel c [] {}
  return { l.emitTo (.scalar .plain (String.ofList text)) c with keyAllowed := gap.broken }

/-- A plain scalar may begin here. -/
def beginsPlain (l : Lexer) (x : Char) : Bool :=
  let c := l.cursor
  if x = '-' then !c.gapAt 1 || c.rest.tail.isEmpty
  else if x = '?' || x = ':' then !l.inFlow && !c.gapAt 1
  else !isGap x && !"-?:,[]\x7b\x7d#&*!|>'\"%@\x60".toList.contains x

/-- Reads the token that begins with the character ahead. -/
def readToken (l : Lexer) (x : Char) : Option Lexer :=
  let c := l.cursor
  let flow := l.inFlow
  if c.column = 0 && x = '%' then l.readDirective
  else if c.atDocumentMark '-' then l.readDocumentMark .documentStart
  else if c.atDocumentMark '.' then l.readDocumentMark .documentEnd
  else if x = '[' then l.readFlowStart .flowSequenceStart
  else if x = '\x7b' then l.readFlowStart .flowMappingStart
  else if x = ']' then l.readFlowEnd .flowSequenceEnd
  else if x = '\x7d' then l.readFlowEnd .flowMappingEnd
  else if x = ',' then l.readFlowEntry
  else if x = '-' && c.gapAt 1 then l.readBlockEntry
  else if x = '?' && (flow || c.gapAt 1) then l.readKey
  else if x = ':' && (flow || c.gapAt 1) then l.readValue
  else if x = '*' then
    l.readNode fun c => (anchorName? c.skip).map fun (name, c) => (.reference name, c)
  else if x = '&' then
    l.readNode fun c => (anchorName? c.skip).map fun (name, c) => (.anchor name, c)
  else if x = '!' then
    l.readNode fun c => (tag? flow c).map fun ((handle, suffix), c) => (.tag handle suffix, c)
  else if x = '|' && !flow then l.readBlockScalar .literal
  else if x = '>' && !flow then l.readBlockScalar .folded
  else if x = '\'' then l.readQuoted .singleQuoted
  else if x = '"' then l.readQuoted .doubleQuoted
  else if l.beginsPlain x then l.readPlain
  else none

/-- Reads all tokens. -/
def readAll : Nat → Lexer → Option (List Token)
  | 0, _ => none
  | fuel + 1, l => do
    let (cursor, keyAllowed) := skipBlank l.inFlow l.cursor.fuel l.cursor l.keyAllowed
    let l ← { l with cursor, keyAllowed }.dropStaleKeys
    let l := l.dedent l.cursor.column
    match l.cursor.peek with
    | some x => readAll fuel (← l.readToken x)
    | none => return (← l.closeAll).tokens.toList

end Lexer

/-- The tokens of a text. -/
def tokens? (s : String) : Option (List Token) :=
  let cs := s.toList
  if cs.all isAllowed then Lexer.readAll (cs.length + 2) { cursor := .start cs } else none

end HostAccounts.Yaml
