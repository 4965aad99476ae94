import HostAccounts.Yaml.Lexer
import HostAccounts.Yaml.Node

/-!
# Reading documents

The nodes of a document from its tokens. Where a node may be left out, the empty scalar stands for
it. A text holds at most one document.
-/

set_option autoImplicit false

namespace HostAccounts.Yaml

/-! ## Walking over tokens -/

/-- How far the reading has come. -/
structure Reading where
  tokens : List Token
  /-- What the handles of tags stand for. -/
  handles : List (String × TagBytes) := []
  anchors : Anchors := {}

/-- A step of the reading. It fails if the tokens do not make up a document. -/
abbrev Reader := StateT Reading Option

namespace Reader

/-- The token ahead. -/
def ahead : Reader (Option Token) := do
  return (← get).tokens.head?

/-- Moves behind the token ahead. -/
def advance : Reader Unit :=
  modify fun r => { r with tokens := r.tokens.tail }

/-- One of the tokens lies ahead. -/
def sees (ts : List Token) : Reader Bool := do
  return (← ahead).any ts.contains

/-- Moves behind the token if it lies ahead. -/
def accept (t : Token) : Reader Bool := do
  if ← sees [t] then
    advance
    return true
  else return false

/-- Moves behind the token, which has to lie ahead. -/
def expect (t : Token) : Reader Unit := do
  if !(← accept t) then failure

/-- Reads a node, which may be left out in front of the given tokens. -/
def orEmpty (stops : List Token) (read : Reader Node) : Reader Node := do
  if ← sees stops then return .empty none else read

/-! ## Directives and tags -/

/-- The handles that need no directive. -/
def commonHandles : List (String × TagBytes) :=
  [("!", asciiBytes "!".toList), ("!!", asciiBytes "tag:yaml.org,2002:".toList)]

/-- Reads the directives in front of a document. The version is given at most once, and each handle
as well. -/
def directives : Nat → Bool → List (String × TagBytes) → Reader (List (String × TagBytes))
  | 0, _, _ => failure
  | fuel + 1, versioned, handles => do
    match ← ahead with
    | some (.versionDirective major minor) =>
      if versioned || major != 1 || (minor != 1 && minor != 2) then failure
      advance
      directives fuel true handles
    | some (.tagDirective handle expansion) =>
      if (handles.lookup handle).isSome then failure
      advance
      directives fuel versioned (handles ++ [(handle, expansion)])
    | _ => return handles

/-- A tag in full. -/
def fullTag (handle : String) (suffix : TagBytes) : Reader TagBytes := do
  if handle.isEmpty then return suffix
  else
    match (← get).handles.lookup handle with
    | some expansion => return expansion ++ suffix
    | none => failure

/-- Reads an anchor if one lies ahead. -/
def anchor : Reader (Option String) := do
  match ← ahead with
  | some (.anchor name) =>
    advance
    return some name
  | _ => return none

/-- Reads a tag if one lies ahead. -/
def tag : Reader (Option (String × TagBytes)) := do
  match ← ahead with
  | some (.tag handle suffix) =>
    advance
    return some (handle, suffix)
  | _ => return none

/-- Reads an anchor and a tag, in either order. -/
def properties : Reader (Option String × Option TagBytes) := do
  let first ← anchor
  let tag ← tag
  let name ← if first.isSome then pure first else anchor
  return (name, ← tag.mapM fun (handle, suffix) => fullTag handle suffix)

/-! ## Nodes -/

mutual

/-- Reads a node. Block collections stand in a block only, and a sequence without indentation only
as the key or value of a mapping. -/
def node (block indentless : Bool) : Nat → Reader Node
  | 0 => failure
  | fuel + 1 => do
    match ← ahead with
    | some (.reference name) =>
      advance
      match (← get).anchors.number? name with
      | some number => return .reference number
      | none => failure
    | _ =>
      let place := (← get).tokens.length
      let (name, tag) ← properties
      if let some name := name then
        modify fun r => { r with anchors := r.anchors.name name place }
      let n ← content block indentless tag (name.isSome || tag.isSome) fuel
      if name.isSome then
        modify fun r => { r with anchors := r.anchors.keep place n }
      return n

/-- Reads what stands behind the anchor and the tag of a node. -/
def content (block indentless : Bool) (tag : Option TagBytes) (mayBeEmpty : Bool) :
    Nat → Reader Node
  | 0 => failure
  | fuel + 1 => do
    match ← ahead with
    | some (.scalar style text) =>
      advance
      return .scalar tag style text
    | some .flowSequenceStart =>
      advance
      return .sequence (← flowItems true fuel)
    | some .flowMappingStart =>
      advance
      return .mapping (← flowEntries true fuel)
    | next =>
      if indentless && next = some .blockEntry then
        return .sequence (← indentlessItems fuel)
      else if block && next = some .blockSequenceStart then
        advance
        return .sequence (← blockItems fuel)
      else if block && next = some .blockMappingStart then
        advance
        return .mapping (← blockEntries fuel)
      else if mayBeEmpty then return .empty tag
      else failure

/-- Reads the items of a sequence in a block. -/
def blockItems : Nat → Reader (List Node)
  | 0 => failure
  | fuel + 1 => do
    if ← accept .blockEntry then
      let n ← orEmpty [.blockEntry, .blockEnd] (node true false fuel)
      return n :: (← blockItems fuel)
    else
      expect .blockEnd
      return []

/-- Reads the items of a sequence that is not indented behind the mapping around it. -/
def indentlessItems : Nat → Reader (List Node)
  | 0 => failure
  | fuel + 1 => do
    if ← accept .blockEntry then
      let n ← orEmpty [.blockEntry, .key, .value, .blockEnd] (node true false fuel)
      return n :: (← indentlessItems fuel)
    else return []

/-- Reads the entries of a mapping in a block. -/
def blockEntries : Nat → Reader (List (Node × Node))
  | 0 => failure
  | fuel + 1 => do
    if ← accept .key then
      let stops := [.key, .value, .blockEnd]
      let k ← orEmpty stops (node true true fuel)
      let v ← if ← accept .value then orEmpty stops (node true true fuel) else pure (.empty none)
      return (k, v) :: (← blockEntries fuel)
    else
      expect .blockEnd
      return []

/-- Reads the items of a sequence in brackets. -/
def flowItems (first : Bool) : Nat → Reader (List Node)
  | 0 => failure
  | fuel + 1 => do
    if ← accept .flowSequenceEnd then return []
    if !first then expect .flowEntry
    if ← accept .key then
      let n ← flowPair fuel
      return n :: (← flowItems false fuel)
    else if ← accept .flowSequenceEnd then return []
    else
      let n ← node false false fuel
      return n :: (← flowItems false fuel)

/-- Reads a mapping of one entry that stands in a sequence. Where the key is left out, the token
that shows this counts as read. -/
def flowPair : Nat → Reader Node
  | 0 => failure
  | fuel + 1 => do
    let k ← if ← sees [.value, .flowEntry, .flowSequenceEnd] then
        advance
        pure (.empty none)
      else node false false fuel
    let v ← if ← accept .value then
        orEmpty [.flowEntry, .flowSequenceEnd] (node false false fuel)
      else pure (.empty none)
    return .mapping [(k, v)]

/-- Reads the entries of a mapping in braces. -/
def flowEntries (first : Bool) : Nat → Reader (List (Node × Node))
  | 0 => failure
  | fuel + 1 => do
    if ← accept .flowMappingEnd then return []
    if !first then expect .flowEntry
    if ← accept .key then
      let k ← orEmpty [.value, .flowEntry, .flowMappingEnd] (node false false fuel)
      let v ← if ← accept .value then
          orEmpty [.flowEntry, .flowMappingEnd] (node false false fuel)
        else pure (.empty none)
      return (k, v) :: (← flowEntries false fuel)
    else if ← accept .flowMappingEnd then return []
    else
      let k ← node false false fuel
      return (k, .empty none) :: (← flowEntries false fuel)

end

/-! ## Documents -/

/-- Moves behind the marks of a document's end. -/
def documentEnds : Nat → Reader Unit
  | 0 => return
  | fuel + 1 => do
    if ← accept .documentEnd then documentEnds fuel

/-- Reads the root of the document, if there is one. Directives need the mark of a beginning behind
them, and only behind that mark may the root be left out. -/
def documentRoot (fuel : Nat) : Reader (Option Node) := do
  if (← get).tokens.isEmpty then return none
  let before := (← get).tokens.length
  let handles ← directives fuel false []
  let directed := (← get).tokens.length < before
  modify fun r => { r with handles := handles ++ commonHandles }
  let marked ← accept .documentStart
  if directed && !marked then failure
  if marked && ((← ahead).isNone || (← sees [.documentStart, .documentEnd])) then
    return some (.empty none)
  else return some (← node true false fuel)

/-- Reads the root of the only document. -/
def onlyRoot : Reader (Option Node) := do
  let fuel := 4 * (← get).tokens.length + 8
  let n ← documentRoot fuel
  documentEnds fuel
  if !(← get).tokens.isEmpty then failure
  return n

end Reader

/-- The document that the text holds. -/
def Document.ofText? (s : String) : Option Document := do
  let tokens ← tokens? s
  let (root, r) ← Reader.onlyRoot.run { tokens }
  return ⟨root, r.anchors⟩

end HostAccounts.Yaml
