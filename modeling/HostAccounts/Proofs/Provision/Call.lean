import HostAccounts.Proofs.Session.Course
import HostAccounts.Provision.Create
import HostAccounts.Provision.Delete
import HostAccounts.Provision.Search
import HostAccounts.Provision.Session

/-!
# Operations

Everything that can be asked of the session of the administrator, as one type, so that a statement
can speak of all operations at once. Each call sends its commands for purposes of its own, which
`Call.purpose` lists by the kinds of the commands.
-/

set_option autoImplicit false

namespace HostAccounts.Provision

open Diagnostics (Operation)

/-- What takes the objects of a search. It may do anything but use the session, which the search
holds. -/
structure Receiver where
  handle : Handler
  sendsNothing : ∀ o, (handle o).SendsNothing

/-- An operation and what it is called with. -/
inductive Call where
  | create (c : ObjectClass) (attributes : AttributeSet)
  | update (c : ObjectClass) (uid : String) (attributes : AttributeSet) (mode : UpdateMode)
  | delete (c : ObjectClass) (uid : String)
  | search (c : ObjectClass) (filter : Option Filter) (receiver : Receiver)
  | test

namespace Call

/-- What the call returns: an identifier, or nothing. -/
def Result : Call → Type
  | create .. | update .. => String
  | delete .. | search .. | test => Unit

/-- What the call does. -/
def procedure (s : Settings) : (call : Call) → Procedure call.Result
  | create c attributes => Provision.create s c attributes
  | update c uid attributes mode => Provision.update s c uid attributes mode
  | delete c uid => Provision.delete s c uid
  | search c filter receiver => Provision.search s c filter receiver.handle
  | test => Provision.testSession s

/-! ## Purposes -/

/-- What is reported if a command of the kind fails. -/
def failure : Call → Operation → String
  | _, .read => "Could not read host database"
  | _, .test => "Connection test failed"
  | _, .useradd => "Could not create user"
  | _, .userdel => "Could not delete user"
  | _, .groupadd => "Could not create group"
  | _, .groupmod => "Could not modify group"
  | _, .groupdel => "Could not delete group"
  | _, .passwd => "Could not set password"
  | create .., .usermod => "Could not change user activation status"
  | _, .usermod => "Could not modify user"

/-- Whom a command of the kind is about. A password is set after a renaming. -/
def target : Call → Operation → String
  | _, .read | _, .test => ""
  | create _ attributes, _ => attributes.name?.getD ""
  | update _ uid attributes _, .passwd => attributes.name?.getD uid
  | update _ uid _ _, _ | delete _ uid, _ => uid
  | search .., _ | test, _ => ""

/-- What a command of the kind is sent for. -/
def purpose (call : Call) (operation : Operation) : Purpose :=
  ⟨call.failure operation, call.target operation⟩

theorem purpose_read (call : Call) : call.purpose .read = .reading := by
  cases call <;> rfl

end Call

end HostAccounts.Provision
