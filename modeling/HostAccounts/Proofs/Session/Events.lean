import HostAccounts.Proofs.Session.Exchange
import HostAccounts.Provision.Session

/-!
# What a run tells

The events that a run tells, in order. Main statements: `Procedure.told_bind`, by which a procedure
that ended in a fault tells nothing more, and `Session.told_rows`: of the lines of a dump, those
that are no rows are told, each once.
-/

set_option autoImplicit false

namespace HostAccounts

/-- The event that a request tells, if it tells one. -/
def Request.event? : Request → Option Event
  | tell e => some e
  | _ => none

namespace Dialogue

variable {α β σ : Type}

/-- The events that a run tells, in order. -/
def told (peer : Peer σ) : Dialogue α → σ → List Event
  | done _, _ => []
  | ask r next, s => r.event?.toList ++ (next (peer r s).1).told peer (peer r s).2

theorem told_ask (peer : Peer σ) (r : Request) (next : r.Answer → Dialogue α) (s : σ) :
    (ask r next).told peer s =
      r.event?.toList ++ (next (peer r s).1).told peer (peer r s).2 := rfl

/-- The events of two dialogues are those of the first and then those of the second. -/
theorem told_bind (peer : Peer σ) (d : Dialogue α) (f : α → Dialogue β) (s : σ) :
    (d.bind f).told peer s = d.told peer s ++ (f (d.run peer s).1).told peer (d.run peer s).2 := by
  induction d generalizing s with
  | done a => simp [told]
  | ask r next ih => simp only [ask_bind, told_ask, run_ask, ih, List.append_assoc]

end Dialogue

namespace Procedure

variable {α β σ : Type}

/-- The events that a run of the procedure tells, in order. -/
def told (peer : Dialogue.Peer σ) (t : Procedure α) (s : σ) : List Event :=
  Dialogue.told peer (ExceptT.run t) s

theorem told_pure (peer : Dialogue.Peer σ) (a : α) (s : σ) :
    told peer (pure a : Procedure α) s = [] := rfl

theorem told_tell (peer : Dialogue.Peer σ) (e : Event) (s : σ) : told peer (tell e) s = [e] := rfl

/-- After a fault nothing is told any more. -/
theorem told_bind (peer : Dialogue.Peer σ) (t : Procedure α) (f : α → Procedure β) (s : σ) :
    told peer (t >>= f) s = t.told peer s ++
      match (t.run peer s).1 with
      | .ok a => (f a).told peer (t.run peer s).2
      | .error _ => [] := by
  have htold : told peer (t >>= f) s =
      Dialogue.told peer (Dialogue.bind (ExceptT.run t) (ExceptT.bindCont f)) s := rfl
  rw [htold, Dialogue.told_bind, Procedure.told, Procedure.run]
  cases (Dialogue.run peer (ExceptT.run t) s).1 <;> rfl

/-- Events are told from the first to the last. -/
theorem told_forM_tell (peer : Dialogue.Peer σ) {ι : Type} (event : ι → Event) (is : List ι)
    (s : σ) : told peer (is.forM fun i => tell (event i)) s = is.map event := by
  induction is generalizing s with
  | nil => rfl
  | cons i rest ih =>
    have hcons : ((i :: rest).forM fun i => tell (event i)) =
        tell (event i) >>= fun _ => rest.forM fun i => tell (event i) := rfl
    rw [hcons, told_bind, told_tell, run_tell, List.map_cons, ← ih (peer (.tell (event i)) s).2]
    rfl

end Procedure

namespace Session

variable {α σ : Type}

/-- Every line that is no row is told, and nothing else. -/
theorem told_rows (peer : Dialogue.Peer σ) (dump : Database.Dump α) (s : σ) :
    (rows dump).told peer s = dump.faults.map Event.rowSkipped := by
  unfold rows
  rw [Procedure.told_bind, Procedure.told_forM_tell]
  split
  · rw [Procedure.told_pure, List.append_nil]
  · rw [List.append_nil]

end Session

end HostAccounts
