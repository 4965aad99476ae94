import HostAccounts.Attribute
import HostAccounts.ObjectClass
import HostAccounts.Yaml.Printer

/-!
# Managed objects

What a search tells about one account or group.
-/

set_option autoImplicit false

namespace HostAccounts

/-- An account or a group with what is known of it. -/
structure ManagedObject where
  objectClass : ObjectClass
  uid : String
  name : String
  attributes : AttributeSet
  deriving DecidableEq, Repr

namespace ManagedObject

/-- The object of the name, of which nothing is known yet; the name is its identifier. -/
def ofName (c : ObjectClass) (name : String) : ManagedObject :=
  ⟨c, name, name, .empty⟩

/-- The object with an attribute added or replaced. -/
def insert (o : ManagedObject) (name : String) (values : List Value) : ManagedObject :=
  { o with attributes := o.attributes.insert ⟨name, values⟩ }

/-! ## Printing -/

/-- What is shown in place of a secret. -/
def maskedSecret : String := "********"

/-- A value as it is shown. -/
def valueTree : Value → Yaml.Tree
  | .text s => .text s
  | .flag b => .flag b
  | .secret _ => .text maskedSecret

/-- An attribute as it is shown. -/
def attributeTree (a : Attribute) : Yaml.Tree :=
  .record [("name", .text a.name), ("values", .list (a.values.map valueTree))]

/-- A class as it is shown. -/
def classTree : ObjectClass → Yaml.Tree
  | .account => .text "Account"
  | .group => .text "Group"
  | .other name => .tagged "Other" name

/-- The object as a document. -/
def document (o : ManagedObject) : String :=
  Yaml.document [
    ("object_class", classTree o.objectClass), ("uid", .text o.uid), ("name", .text o.name),
    ("attributes", .list (o.attributes.entries.map attributeTree))]

end ManagedObject

end HostAccounts
