import HostAccounts.Text.Blank
import HostAccounts.Text.Lowercase

/-!
# Attributes

What a caller says about an object: named attributes, each with any number of values. Names are
compared without regard to ASCII case. A set keeps its attributes in the order in which their names
first came in; an attribute supplied again replaces the earlier one where that stands.
-/

set_option autoImplicit false

namespace HostAccounts

/-! ## Names -/

namespace AttributeName

/-- The name of the object, and the name to rename it to. -/
def name : String := "__NAME__"

/-- The identifier of the object. -/
def uid : String := "__UID__"

/-- The password of an account. -/
def password : String := "__PASSWORD__"

/-- Whether an account may be used. -/
def enable : String := "__ENABLE__"

/-- Whether an account is locked. -/
def lockOut : String := "__LOCK_OUT__"

/-- The day on which an account ends. -/
def disableDate : String := "__DISABLE_DATE__"

/-- The supplementary groups of an account. -/
def groups : String := "groups"

/-- The public keys of an account. -/
def publicKey : String := "sshPublicKey"

/-- The rule for commands with root rights. -/
def permissions : String := "permissions"

end AttributeName

/-! ## Values -/

/-- One value of an attribute. -/
inductive Value where
  | text (s : String)
  | flag (b : Bool)
  | secret (s : String)
  deriving DecidableEq, Repr

namespace Value

/-- The text of a text value. -/
def text? : Value → Option String
  | text s => some s
  | _ => none

/-- The truth value of a flag, or of a text that spells one. -/
def flag? : Value → Option Bool
  | flag b => some b
  | text s =>
    match Text.trim s with
    | "true" => some true
    | "false" => some false
    | _ => none
  | secret _ => none

/-- The content of a secret value. -/
def secret? : Value → Option String
  | secret s => some s
  | _ => none

end Value

/-! ## Attributes -/

/-- A name with its values. -/
structure Attribute where
  name : String
  values : List Value
  deriving DecidableEq, Repr

/-- The attribute answers to the name. -/
def Attribute.isNamed (a : Attribute) (name : String) : Bool :=
  Text.sameIgnoringCase a.name name

/-! ## Sets -/

/-- The attributes of one request, in order. -/
structure AttributeSet where
  entries : List Attribute
  deriving DecidableEq, Repr

namespace AttributeSet

/-- The set without attributes. -/
def empty : AttributeSet := ⟨[]⟩

instance : Inhabited AttributeSet := ⟨empty⟩

/-- Puts the attribute in the place of the first one of its name, or at the end. -/
def place (a : Attribute) : List Attribute → List Attribute
  | [] => [a]
  | b :: rest => if b.isNamed a.name then a :: rest else b :: place a rest

/-- The set with the attribute added or replaced. -/
def insert (s : AttributeSet) (a : Attribute) : AttributeSet :=
  ⟨place a s.entries⟩

/-- The set of the attributes, inserted one after the other. -/
def ofList (as : List Attribute) : AttributeSet :=
  as.foldl insert empty

/-- The first attribute of the name, with or without values. -/
def entry? (s : AttributeSet) (name : String) : Option Attribute :=
  s.entries.find? fun a => a.isNamed name

/-- The attribute of the name, if it has values. -/
def find? (s : AttributeSet) (name : String) : Option Attribute :=
  (s.entry? name).filter fun a => !a.values.isEmpty

/-- The attribute was supplied, with or without values. -/
def contains (s : AttributeSet) (name : String) : Bool :=
  s.entries.any fun a => a.isNamed name

/-- The attribute was supplied with values. -/
def isPresent (s : AttributeSet) (name : String) : Bool :=
  (s.find? name).isSome

/-- The first text value, unless that is blank. -/
def text? (s : AttributeSet) (name : String) : Option String := do
  let a ← s.find? name
  (a.values.findSome? Value.text?).filter fun v => !Text.isBlankText v

/-- The text values that are not blank. -/
def texts (s : AttributeSet) (name : String) : List String :=
  match s.find? name with
  | some a => (a.values.filterMap Value.text?).filter fun v => !Text.isBlankText v
  | none => []

/-- The first value, as a truth value. -/
def flag? (s : AttributeSet) (name : String) : Option Bool := do
  let a ← s.find? name
  let v ← a.values.head?
  v.flag?

/-- The first secret value. -/
def secret? (s : AttributeSet) (name : String) : Option String := do
  let a ← s.find? name
  a.values.findSome? Value.secret?

/-- The name to create the object under or to rename it to. -/
def name? (s : AttributeSet) : Option String :=
  s.text? AttributeName.name

end AttributeSet

/-! ## Managed objects -/

/-- The names under which three fields of an account row are exchanged. -/
structure FieldNames where
  comment : String := "comment"
  shell : String := "shell"
  homeDirectory : String := "homeDirectory"
  deriving DecidableEq, Repr

end HostAccounts
