import HostAccounts.Text.Blank
import HostAccounts.Text.Lowercase

/-!
# Object classes

What kind of thing a request is about: an account, a group, or something that is not managed here.
-/

set_option autoImplicit false

namespace HostAccounts

/-- The kind of a managed object. -/
inductive ObjectClass where
  | account
  | group
  /-- A kind that is not managed, under the name it was asked for. -/
  | other (name : String)
  deriving DecidableEq, Repr

namespace ObjectClass

/-- Reads a class from its formal name or an everyday word, blanks and case aside. -/
def ofText (s : String) : ObjectClass :=
  let word := Text.lowerAscii (Text.trim s)
  if ["__account__", "account", "user"].contains word then account
  else if ["__group__", "group"].contains word then group
  else other s

/-- The formal name of the class. -/
def name : ObjectClass → String
  | account => "__ACCOUNT__"
  | group => "__GROUP__"
  | other name => name

/-- A class that is managed. -/
def isSupported : ObjectClass → Bool
  | other _ => false
  | _ => true

theorem ofText_name_of_isSupported {c : ObjectClass} (h : c.isSupported = true) :
    ofText c.name = c := by
  cases c with
  | account => decide
  | group => decide
  | other _ => simp [isSupported] at h

end ObjectClass

end HostAccounts
