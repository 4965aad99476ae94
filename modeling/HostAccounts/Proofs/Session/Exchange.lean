import HostAccounts.Dialogue

/-!
# Round trips

What a run has sent to the host, and what came back. Round trips are the only requests that reach
the host, so whatever an operation does to it can be read off them. Main statements:
`Dialogue.exchanges_bind`, by which the round trips of a sequence are those of its parts, and
`Procedure.exchanges_bind`, by which a procedure that ended in a fault sends nothing more.
-/

set_option autoImplicit false

namespace HostAccounts

open Diagnostics (Operation)

/-! ## The record of a run -/

/-- A command that was sent, the kind that it was sent as, and what came back. -/
structure Exchange where
  command : RemoteCommand
  operation : Operation
  answer : Except TransportFault String

/-- The round trip that a request with its answer amounts to, if it is one. -/
def Request.exchange? : (r : Request) → r.Answer → Option Exchange
  | send command operation, answer => some ⟨command, operation, answer⟩
  | _, _ => none

/-- The request is no command for the host. -/
def Request.IsSilent (r : Request) : Prop :=
  ∀ answer, r.exchange? answer = none

namespace Dialogue

variable {α β σ : Type}

/-- The round trips of a run, in order. -/
def exchanges (peer : Peer σ) : Dialogue α → σ → List Exchange
  | done _, _ => []
  | ask r next, s =>
    (r.exchange? (peer r s).1).toList ++ (next (peer r s).1).exchanges peer (peer r s).2

theorem exchanges_ask (peer : Peer σ) (r : Request) (next : r.Answer → Dialogue α) (s : σ) :
    (ask r next).exchanges peer s = (r.exchange? (peer r s).1).toList ++
      (next (peer r s).1).exchanges peer (peer r s).2 := rfl

/-- The round trips of two dialogues are those of the first and then those of the second. -/
theorem exchanges_bind (peer : Peer σ) (d : Dialogue α) (f : α → Dialogue β) (s : σ) :
    (d.bind f).exchanges peer s =
      d.exchanges peer s ++ (f (d.run peer s).1).exchanges peer (d.run peer s).2 := by
  induction d generalizing s with
  | done _ => rfl
  | ask r next ih => simp only [ask_bind, exchanges_ask, run_ask, ih, List.append_assoc]

/-! ## Dialogues that leave the host alone -/

/-- However it is answered, the dialogue sends no command to the host. -/
def SendsNothing : Dialogue α → Prop
  | done _ => True
  | ask r next => r.IsSilent ∧ ∀ answer, (next answer).SendsNothing

theorem SendsNothing.bind {d : Dialogue α} {f : α → Dialogue β} (hd : d.SendsNothing)
    (hf : ∀ a, (f a).SendsNothing) : (d.bind f).SendsNothing := by
  induction d with
  | done a => exact hf a
  | ask r next ih => exact ⟨hd.1, fun answer => ih answer (hd.2 answer)⟩

theorem sendsNothing_request {r : Request} (h : r.IsSilent) : (request r).SendsNothing :=
  ⟨h, fun _ => trivial⟩

theorem SendsNothing.exchanges_eq_nil {d : Dialogue α} (h : d.SendsNothing) (peer : Peer σ)
    (s : σ) : d.exchanges peer s = [] := by
  induction d generalizing s with
  | done _ => rfl
  | ask r next ih =>
    rw [exchanges_ask, h.1, ih _ (h.2 _)]
    rfl

end Dialogue

/-! ## Procedures -/

namespace Procedure

variable {α β σ : Type}

/-- The round trips of a run of the procedure, in order. -/
def exchanges (peer : Dialogue.Peer σ) (t : Procedure α) (s : σ) : List Exchange :=
  Dialogue.exchanges peer (ExceptT.run t) s

/-- However it is answered, the procedure sends no command to the host. -/
def SendsNothing (t : Procedure α) : Prop :=
  Dialogue.SendsNothing (ExceptT.run t)

theorem run_request (peer : Dialogue.Peer σ) (r : Request) (s : σ) :
    Procedure.run peer (request r) s = (.ok (peer r s).1, (peer r s).2) := rfl

theorem run_tell (peer : Dialogue.Peer σ) (e : Event) (s : σ) :
    Procedure.run peer (tell e) s = (.ok (), (peer (.tell e) s).2) := rfl

theorem run_lift (peer : Dialogue.Peer σ) (d : Dialogue α) (s : σ) :
    Procedure.run peer (ExceptT.lift d : Procedure α) s =
      (.ok (d.run peer s).1, (d.run peer s).2) :=
  Dialogue.run_bind peer d (fun a => .done (.ok a : Except Fault α)) s

theorem exchanges_request (peer : Dialogue.Peer σ) (r : Request) (s : σ) :
    (request r).exchanges peer s = (r.exchange? (peer r s).1).toList :=
  List.append_nil _

theorem exchanges_tell (peer : Dialogue.Peer σ) (e : Event) (s : σ) :
    (tell e).exchanges peer s = [] := rfl

/-- A run of a sequence goes on with the value of the first part, or ends with its fault. -/
theorem run_bind (peer : Dialogue.Peer σ) (t : Procedure α) (f : α → Procedure β) (s : σ) :
    Procedure.run peer (t >>= f) s =
      match (t.run peer s).1 with
      | .ok a => (f a).run peer (t.run peer s).2
      | .error fault => (.error fault, (t.run peer s).2) := by
  have hrun : Procedure.run peer (t >>= f) s =
      Dialogue.run peer (Dialogue.bind (ExceptT.run t) (ExceptT.bindCont f)) s := rfl
  rw [hrun, Dialogue.run_bind, Procedure.run]
  cases (Dialogue.run peer (ExceptT.run t) s).1 <;> rfl

/-- After a fault no command is sent any more. -/
theorem exchanges_bind (peer : Dialogue.Peer σ) (t : Procedure α) (f : α → Procedure β) (s : σ) :
    Procedure.exchanges peer (t >>= f) s = t.exchanges peer s ++
      match (t.run peer s).1 with
      | .ok a => (f a).exchanges peer (t.run peer s).2
      | .error _ => [] := by
  have hexchanges : Procedure.exchanges peer (t >>= f) s =
      Dialogue.exchanges peer (Dialogue.bind (ExceptT.run t) (ExceptT.bindCont f)) s := rfl
  rw [hexchanges, Dialogue.exchanges_bind, Procedure.exchanges, Procedure.run]
  cases (Dialogue.run peer (ExceptT.run t) s).1 <;> rfl

/-! ## Procedures that leave the host alone -/

theorem SendsNothing.exchanges_eq_nil {t : Procedure α} (h : t.SendsNothing)
    (peer : Dialogue.Peer σ) (s : σ) : t.exchanges peer s = [] :=
  Dialogue.SendsNothing.exchanges_eq_nil h peer s

theorem sendsNothing_pure (a : α) : SendsNothing (pure a) :=
  trivial

theorem sendsNothing_throw (fault : Fault) : SendsNothing (throw fault : Procedure α) :=
  trivial

theorem sendsNothing_lift {d : Dialogue α} (h : d.SendsNothing) :
    SendsNothing (ExceptT.lift d : Procedure α) :=
  Dialogue.SendsNothing.bind h fun _ => trivial

theorem sendsNothing_request {r : Request} (h : r.IsSilent) : SendsNothing (request r) :=
  sendsNothing_lift (Dialogue.sendsNothing_request h)

theorem sendsNothing_tell (e : Event) : SendsNothing (tell e) :=
  sendsNothing_request fun _ => rfl

theorem SendsNothing.bind {t : Procedure α} {f : α → Procedure β} (ht : t.SendsNothing)
    (hf : ∀ a, (f a).SendsNothing) : SendsNothing (t >>= f) := by
  refine Dialogue.SendsNothing.bind ht fun x => ?_
  cases x with
  | error fault => exact trivial
  | ok a => exact hf a

theorem sendsNothing_forM {ι : Type} {f : ι → Procedure Unit} (h : ∀ i, (f i).SendsNothing)
    (is : List ι) : SendsNothing (is.forM f) := by
  induction is with
  | nil => exact sendsNothing_pure ()
  | cons i rest ih => exact (h i).bind fun _ => ih

end Procedure

end HostAccounts
