import HostAccounts.Settings.Format
import HostAccounts.Yaml.Document
import HostAccounts.Yaml.Scalar

/-!
# Settings in a YAML document

What the nodes of a document are taken for. Any scalar is a text, as it is written; a truth value or
a number has to be plain. A plain scalar without text stands for an empty list or record, and a null
only for an absent value.
-/

set_option autoImplicit false

namespace HostAccounts.Yaml

/-! ## Tags -/

/-- The tag of a null. -/
def nullTag : TagBytes := asciiBytes "tag:yaml.org,2002:null".toList

/-- The tag of a truth value. -/
def flagTag : TagBytes := asciiBytes "tag:yaml.org,2002:bool".toList

/-- The tag of a whole number. -/
def natTag : TagBytes := asciiBytes "tag:yaml.org,2002:int".toList

namespace Node

/-! ## Scalars -/

/-- The text of a scalar that is plain, or literal with the tag. -/
def resolved? (expected : TagBytes) : Node → Option String
  | .scalar _ .plain text => some text
  | .scalar (some tag) .literal text => if tag = expected then some text else none
  | _ => none

/-- The text of a scalar. -/
def text? : Node → Option String
  | .scalar _ _ text => some text
  | _ => none

/-- Whether the node stands for an absent value. What has the tag of a null has to be one. -/
def isAbsent? : Node → Option Bool
  | .scalar none .plain text => some (text.isEmpty || isNull text)
  | .scalar (some tag) .plain text =>
    if tag ≠ nullTag then some false else if isNull text then some true else none
  | _ => some false

/-- The name that a local tag gives, if its bytes make up a text; an exclamation mark alone is its
own name. -/
def localName? (tag : TagBytes) : Option String :=
  match tag with
  | b :: name =>
    if [b] = asciiBytes ['!'] then
      String.fromUTF8? ⟨(if name.isEmpty then tag else name).toArray⟩
    else none
  | [] => none

/-- A name out of a fixed choice: the local tag of a scalar that says no more, or else the text. -/
def choice? : Node → Option String
  | .scalar tag style text =>
    match tag.bind localName? with
    | some name =>
      if style = .plain && (text.isEmpty || isNull text) then some name else none
    | none => some text
  | _ => none

/-- The scalar is plain and has no text. -/
def isBlank : Node → Bool
  | .scalar _ .plain text => text.isEmpty
  | _ => false

end Node

/-! ## Collections -/

namespace Document

variable (d : Document)

/-- The items of a sequence. -/
def items? (n : Node) : Option (List Node) :=
  match n with
  | .sequence items => some items
  | _ => if n.isBlank then some [] else none

/-- The entries of a mapping. -/
def entries? (key? : Node → Option String) (n : Node) :
    StateT Nat Option (List (String × Node)) :=
  match n with
  | .mapping entries => entries.mapM fun (k, v) => do
    return (← key? (← d.follow k), v)
  | _ => if n.isBlank then pure [] else failure

/-- The entries of a mapping that have one of the names as key; there may not be two for one. -/
def fields? (names : List String) (n : Node) : StateT Nat Option (List (String × Node)) := do
  let fields := (← d.entries? Node.text? n).filter fun (key, _) => names.contains key
  if (fields.map (·.1)).Nodup then return fields else failure

end Document

end HostAccounts.Yaml

namespace HostAccounts

open Yaml (Node)

/-- YAML as a format of settings. The state is how many references may still be followed. -/
def Format.ofDocument (d : Yaml.Document) : Format Node (StateT Nat Option) where
  text? n := do (← d.follow n).text?
  flag? n := do Yaml.flag? (← (← d.follow n).resolved? Yaml.flagTag)
  nat? n := do Yaml.nat? (← (← d.follow n).resolved? Yaml.natTag)
  present? n := do
    let n ← d.follow n
    return if ← n.isAbsent? then none else some n
  items? n := do Yaml.Document.items? (← d.follow n)
  fields? names n := do d.fields? names (← d.follow n)
  entries? n := do d.entries? Node.choice? (← d.follow n)

/-- The settings that a text holds; one without anything in it holds the defaults. -/
def Settings.ofText? (s : String) : Option Settings := do
  let d ← Yaml.Document.ofText? s
  ((Format.ofDocument d).settings? (d.root.getD (.empty none))).run' d.followLimit

end HostAccounts
