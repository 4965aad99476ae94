import HostAccounts.Text.Numeral
import HostAccounts.Yaml.Cursor
import HostAccounts.Yaml.Token

/-!
# Tags and directives

The parts of tags, and of the directives in front of a document.
-/

set_option autoImplicit false

namespace HostAccounts.Yaml

/-! ## Names of anchors -/

/-- What may follow the name of an anchor. -/
def endsAnchor (c : Option Char) : Bool :=
  c.all fun x => isGap x || "?:,]\x7d%@\x60".toList.contains x

/-- The name of an anchor, behind its indicator. -/
def anchorName? (c : Cursor) : Option (String × Cursor) :=
  let (name, c) := c.span isWordChar
  if name.isEmpty || !endsAnchor c.peek then none else some (String.ofList name, c)

/-! ## Parts of a tag -/

/-- The characters of a tag that stand for themselves. -/
def isTagChar (inBrackets : Bool) (c : Char) : Bool :=
  isWordChar c || ";/?:@&=+$.!~*'()".toList.contains c ||
    (inBrackets && ",[]".toList.contains c)

/-- A byte behind a percent sign. -/
def percentByte? (cs : List Char) : Option (UInt8 × List Char) :=
  match cs with
  | '%' :: a :: b :: rest => (Text.digits? 16 [a, b]).map fun n => (n.toUInt8, rest)
  | _ => none

/-- The number of bytes of a character, by its first one. -/
def charWidth? (b : UInt8) : Option Nat :=
  let n := b.toNat
  if n < 0x80 then some 1
  else if 0xC0 ≤ n && n < 0xE0 then some 2
  else if 0xE0 ≤ n && n < 0xF0 then some 3
  else if 0xF0 ≤ n && n < 0xF8 then some 4
  else none

/-- The byte may stand behind the first one of a character. -/
def continuesChar (b : UInt8) : Bool :=
  0x80 ≤ b.toNat && b.toNat < 0xC0

/-- Further bytes of a character behind percent signs. -/
def percentBytes? : Nat → List Char → Option (TagBytes × List Char)
  | 0, cs => some ([], cs)
  | n + 1, cs => do
    let (b, rest) ← percentByte? cs
    if continuesChar b then
      let (bs, rest) ← percentBytes? n rest
      return (b :: bs, rest)
    else none

/-- The bytes of a character behind percent signs; that there is such a character is not asked. -/
def percentChar? (c : Cursor) : Option (TagBytes × Cursor) := do
  let (first, rest) ← percentByte? c.rest
  let width ← charWidth? first
  let (more, _) ← percentBytes? (width - 1) rest
  return (first :: more, c.skipN (3 * width))

/-- The characters of a tag, as bytes. -/
def tagText (inBrackets : Bool) : Nat → Cursor → TagBytes → Option (TagBytes × Cursor)
  | 0, c, text => some (text, c)
  | fuel + 1, c, text =>
    match c.peek with
    | some '%' => do
      let (bytes, c) ← percentChar? c
      tagText inBrackets fuel c (text ++ bytes)
    | some x =>
      if isTagChar inBrackets x then tagText inBrackets fuel c.skip (text ++ [x.toUInt8])
      else some (text, c)
    | none => some (text, c)

/-- What counts of a tag: the bytes in front of the first that is zero. -/
def effective (bytes : TagBytes) : TagBytes :=
  bytes.takeWhile (· ≠ 0)

/-- The bytes of characters of the ASCII range. -/
def asciiBytes (cs : List Char) : TagBytes :=
  cs.map Char.toUInt8

/-- The handle of a tag: an exclamation mark, and a word with another one. -/
def tagHandle? (c : Cursor) : Option (List Char × Cursor) :=
  if c.sees '!' then
    let (word, c) := c.skip.span isWordChar
    if c.sees '!' then some ('!' :: word ++ ['!'], c.skip) else some ('!' :: word, c)
  else none

/-! ## Tags -/

/-- A tag: its handle and what follows that. -/
def tag? (flow : Bool) (c : Cursor) : Option ((String × TagBytes) × Cursor) := do
  let ((handle, suffix), c) ←
    if c.peekAt 1 = some '<' then do
      let c := c.skipN 2
      let (suffix, c) ← tagText true c.fuel c []
      if suffix.isEmpty || !c.sees '>' then none else some (("", effective suffix), c.skip)
    else do
      let (handle, c) ← tagHandle? c
      if handle.length > 1 && handle.getLast? = some '!' then
        let (suffix, c) ← tagText false c.fuel c []
        if suffix.isEmpty then none else some ((String.ofList handle, effective suffix), c)
      else
        let (suffix, c) ← tagText false c.fuel c (asciiBytes handle.tail)
        let suffix := effective suffix
        if suffix.isEmpty then some (("", asciiBytes ['!']), c) else some (("!", suffix), c)
  if c.gapAt 0 || (flow && c.sees ',') then some ((handle, suffix), c) else none

/-! ## Directives -/

/-- A number of at most nine digits. -/
def versionNumber? (c : Cursor) : Option (Nat × Cursor) :=
  let (digits, c) := c.span Char.isDigit
  if digits.length > 9 then none else (Text.digits? 10 digits).map fun n => (n, c)

/-- The version behind the name of its directive. -/
def version? (c : Cursor) : Option ((Nat × Nat) × Cursor) := do
  let (major, c) ← versionNumber? c.skipSpaces
  if c.sees '.' then
    let (minor, c) ← versionNumber? c.skip
    return ((major, minor), c)
  else none

/-- The handle and its expansion behind the name of their directive. -/
def tagRule? (c : Cursor) : Option ((String × TagBytes) × Cursor) := do
  let (handle, c) ← tagHandle? c.skipSpaces
  if handle.length > 1 && handle.getLast? ≠ some '!' then none
  else if !c.atSpace then none
  else
    let c := c.skipSpaces
    let (expansion, c) ← tagText true c.fuel c []
    if expansion.isEmpty || !c.gapAt 0 then none
    else some ((String.ofList handle, effective expansion), c)

end HostAccounts.Yaml
