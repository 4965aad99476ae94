import HostAccounts.Calendar.Date
import HostAccounts.Event
import HostAccounts.Fault
import HostAccounts.ManagedObject
import HostAccounts.Script
import HostAccounts.Settings.Basic

/-!
# Dialogues

What an operation does to the world outside, as data: it makes a request, is answered, and goes on
with what the answer says, until it is done. An operation therefore depends on the host only through
the answers, and can be run against any host whatever. A run is a fold over the dialogue with a peer
that answers and keeps a state of its own.
-/

set_option autoImplicit false

namespace HostAccounts

open Diagnostics (Operation)

/-! ## Requests -/

/-- What the outside is asked for. -/
inductive Request where
  /-- Runs a command on the host and hands back what it printed. -/
  | send (command : RemoteCommand) (operation : Operation)
  /-- Ends the session of the administrator. -/
  | disconnect
  /-- Opens a session of its own for an account. -/
  | login (user password : String)
  /-- Ends that session. -/
  | logout (user : String)
  /-- Hands an object over and hears whether more are wanted. -/
  | deliver (object : ManagedObject)
  /-- Asks for the day it is. -/
  | today
  /-- Tells an event. -/
  | tell (event : Event)
  /-- Has a password typed, behind a prompt if there is one; nothing if there is no terminal. -/
  | password (prompt : Option String)
  /-- Shows a text. -/
  | print (text : String)
  /-- Shows a text beside the output. -/
  | notice (text : String)
  /-- Asks for a variable of the environment. -/
  | environment (name : String)
  /-- Asks whether a file exists. -/
  | hasFile (path : String)
  /-- Reads a file; nothing if that cannot be done. -/
  | readFile (path : String)
  /-- Opens the session of the administrator. -/
  | connect (user : String) (credential : Credential)

/-- What the answer to a request is. -/
def Request.Answer : Request → Type
  | send .. => Except TransportFault String
  | disconnect | login .. | logout _ | connect .. => Except TransportFault Unit
  | deliver _ | hasFile _ => Bool
  | today => Date
  | tell _ | print _ | notice _ => Unit
  | password _ | environment _ | readFile _ => Option String

/-! ## Dialogues -/

/-- A computation that asks the outside for things and ends with a result. -/
inductive Dialogue (α : Type) where
  | done (result : α)
  | ask (request : Request) (next : request.Answer → Dialogue α)

namespace Dialogue

variable {α β γ : Type}

/-- Goes on with a second dialogue where the first is done. -/
def bind : Dialogue α → (α → Dialogue β) → Dialogue β
  | done a, f => f a
  | ask r next, f => ask r fun answer => (next answer).bind f

instance : Monad Dialogue where
  pure := done
  bind := bind

/-- The dialogue of one request. -/
def request (r : Request) : Dialogue r.Answer :=
  ask r done

@[simp] theorem done_bind (a : α) (f : α → Dialogue β) : (done a).bind f = f a := rfl

@[simp] theorem ask_bind (r : Request) (next : r.Answer → Dialogue α) (f : α → Dialogue β) :
    (ask r next).bind f = ask r fun answer => (next answer).bind f := rfl

@[simp] theorem bind_done (d : Dialogue α) : d.bind done = d := by
  induction d with
  | done _ => rfl
  | ask r next ih => simp only [ask_bind, ih]

theorem bind_assoc (d : Dialogue α) (f : α → Dialogue β) (g : β → Dialogue γ) :
    (d.bind f).bind g = d.bind fun a => (f a).bind g := by
  induction d with
  | done _ => rfl
  | ask r next ih => simp only [ask_bind, ih]

instance : LawfulMonad Dialogue :=
  LawfulMonad.mk' Dialogue bind_done (fun _ _ => rfl) bind_assoc

/-! ## Runs -/

/-- What answers requests, with a state of its own. -/
abbrev Peer (σ : Type) := (r : Request) → σ → r.Answer × σ

/-- Runs the dialogue with a peer. -/
def run {σ : Type} (peer : Peer σ) : Dialogue α → σ → α × σ
  | done a, s => (a, s)
  | ask r next, s => (next (peer r s).1).run peer (peer r s).2

@[simp] theorem run_done {σ : Type} (peer : Peer σ) (a : α) (s : σ) :
    (done a).run peer s = (a, s) := rfl

theorem run_ask {σ : Type} (peer : Peer σ) (r : Request) (next : r.Answer → Dialogue α) (s : σ) :
    (ask r next).run peer s = (next (peer r s).1).run peer (peer r s).2 := rfl

/-- A run of two dialogues is a run of the first and then one of the second. -/
theorem run_bind {σ : Type} (peer : Peer σ) (d : Dialogue α) (f : α → Dialogue β) (s : σ) :
    (d.bind f).run peer s = (f (d.run peer s).1).run peer (d.run peer s).2 := by
  induction d generalizing s with
  | done _ => rfl
  | ask r next ih => simp only [ask_bind, run_ask, ih]

end Dialogue

/-! ## Operations -/

/-- A dialogue that may end in a fault. -/
abbrev Procedure (α : Type) := ExceptT Fault Dialogue α

namespace Procedure

/-- The procedure of one request that cannot fail. -/
def request (r : Request) : Procedure r.Answer :=
  ExceptT.lift (Dialogue.request r)

/-- Tells an event. -/
def tell (e : Event) : Procedure Unit :=
  request (.tell e)

/-- Goes on with a value, or ends with the fault that stands in its place. -/
def ofExcept {ε α : Type} (toFault : ε → Fault) (x : Except ε α) : Procedure α :=
  ExceptT.mk (.done (x.mapError toFault))

/-- Runs the procedure with a peer. -/
def run {σ α : Type} (peer : Dialogue.Peer σ) (t : Procedure α) (s : σ) : Except Fault α × σ :=
  Dialogue.run peer (ExceptT.run t) s

end Procedure

end HostAccounts
