import HostAccounts.Proofs.Session.Errand

/-!
# What a run does

The commands that a run sends and the objects that it hands over, in the order in which it does so.
Round trips alone do not tell whether an object was handed over before or after a command was sent;
acts do. Main statements: `Procedure.acts_bind`, and `Procedure.HandsNothing.bind` for procedures
that hand over nothing, whose acts are their round trips.
-/

set_option autoImplicit false

namespace HostAccounts

open Diagnostics (Operation Overrides Verdict)

/-! ## Acts -/

/-- A round trip, or an object that is handed over and whether more are wanted. -/
inductive Act where
  | sent (e : Exchange)
  | handed (o : ManagedObject) (more : Bool)

/-- The act that a request with its answer amounts to, if it is one. -/
def Request.act? : (r : Request) → r.Answer → Option Act
  | send command operation, answer => some (.sent ⟨command, operation, answer⟩)
  | deliver o, more => some (.handed o more)
  | _, _ => none

namespace Dialogue

variable {α β σ : Type}

/-- The acts of a run, in order. -/
def acts (peer : Peer σ) : Dialogue α → σ → List Act
  | done _, _ => []
  | ask r next, s => (r.act? (peer r s).1).toList ++ (next (peer r s).1).acts peer (peer r s).2

theorem acts_ask (peer : Peer σ) (r : Request) (next : r.Answer → Dialogue α) (s : σ) :
    (ask r next).acts peer s =
      (r.act? (peer r s).1).toList ++ (next (peer r s).1).acts peer (peer r s).2 := rfl

/-- The acts of two dialogues are those of the first and then those of the second. -/
theorem acts_bind (peer : Peer σ) (d : Dialogue α) (f : α → Dialogue β) (s : σ) :
    (d.bind f).acts peer s =
      d.acts peer s ++ (f (d.run peer s).1).acts peer (d.run peer s).2 := by
  induction d generalizing s with
  | done _ => rfl
  | ask r next ih => simp only [ask_bind, acts_ask, run_ask, ih, List.append_assoc]

/-- What came back from the host is what the peer answered. -/
theorem exists_answer_of_sent {peer : Peer σ} {d : Dialogue α} {s : σ} {e : Exchange}
    (h : .sent e ∈ d.acts peer s) :
    ∃ state, (peer (.send e.command e.operation) state).1 = e.answer := by
  induction d generalizing s with
  | done _ => cases h
  | ask r next ih =>
    rw [acts_ask, List.mem_append] at h
    rcases h with here | later
    · rw [Option.mem_toList] at here
      cases r with
      | send command operation =>
        obtain rfl := Act.sent.inj (Option.some.inj here)
        exact ⟨s, rfl⟩
      | _ => cases here
    · exact ih _ later

end Dialogue

/-! ## Procedures -/

namespace Procedure

variable {α β σ : Type}

/-- The acts of a run of the procedure, in order. -/
def acts (peer : Dialogue.Peer σ) (t : Procedure α) (s : σ) : List Act :=
  Dialogue.acts peer (ExceptT.run t) s

/-- After a fault nothing is done any more. -/
theorem acts_bind (peer : Dialogue.Peer σ) (t : Procedure α) (f : α → Procedure β) (s : σ) :
    Procedure.acts peer (t >>= f) s = t.acts peer s ++
      match (t.run peer s).1 with
      | .ok a => (f a).acts peer (t.run peer s).2
      | .error _ => [] := by
  have hacts : Procedure.acts peer (t >>= f) s =
      Dialogue.acts peer (Dialogue.bind (ExceptT.run t) (ExceptT.bindCont f)) s := rfl
  rw [hacts, Dialogue.acts_bind, Procedure.acts, Procedure.run]
  cases (Dialogue.run peer (ExceptT.run t) s).1 <;> rfl

theorem acts_request (peer : Dialogue.Peer σ) (r : Request) (s : σ) :
    (request r).acts peer s = (r.act? (peer r s).1).toList :=
  List.append_nil _

/-! ## Procedures that hand over nothing -/

/-- Against every peer the acts of the procedure are its round trips. -/
def HandsNothing (t : Procedure α) : Prop :=
  ∀ ⦃σ : Type⦄ (peer : Dialogue.Peer σ) (s : σ),
    t.acts peer s = (t.exchanges peer s).map Act.sent

theorem handsNothing_pure (a : α) : HandsNothing (pure a) :=
  fun _ _ _ => rfl

theorem handsNothing_throw (fault : Fault) : HandsNothing (throw fault : Procedure α) :=
  fun _ _ _ => rfl

theorem handsNothing_ofExcept {ε : Type} (toFault : ε → Fault) (x : Except ε α) :
    (ofExcept toFault x).HandsNothing :=
  fun _ _ _ => rfl

theorem handsNothing_request {r : Request}
    (h : ∀ answer, r.act? answer = (r.exchange? answer).map Act.sent) :
    (request r).HandsNothing := by
  intro σ peer s
  rw [acts_request, exchanges_request, h]
  cases r.exchange? (peer r s).1 <;> rfl

theorem handsNothing_tell (e : Event) : (tell e).HandsNothing :=
  handsNothing_request fun _ => rfl

theorem HandsNothing.bind {t : Procedure α} {f : α → Procedure β} (ht : t.HandsNothing)
    (hf : ∀ a, (f a).HandsNothing) : (t >>= f).HandsNothing := by
  intro σ peer s
  rw [acts_bind, exchanges_bind, ht, List.map_append]
  cases (t.run peer s).1 with
  | error fault => rfl
  | ok a => exact congrArg _ (hf a peer _)

theorem handsNothing_forM {ι : Type} {f : ι → Procedure Unit} (h : ∀ i, (f i).HandsNothing)
    (is : List ι) : (is.forM f).HandsNothing := by
  induction is with
  | nil => exact handsNothing_pure ()
  | cons i rest ih => exact (h i).bind fun _ => ih

end Procedure

/-! ## Commands -/

namespace Session

open Procedure (handsNothing_pure handsNothing_request handsNothing_tell handsNothing_throw)

theorem handsNothing_judge (v : Verdict) (operation : Operation) (failure target output : String) :
    (judge v operation failure target output).HandsNothing := by
  cases v with
  | success => exact handsNothing_pure ()
  | notFound signature => exact (handsNothing_tell _).bind fun _ => handsNothing_throw _
  | failed signature => exact (handsNothing_tell _).bind fun _ => handsNothing_throw _
  | missingConfirmation marker => exact (handsNothing_tell _).bind fun _ => handsNothing_throw _

theorem handsNothing_read (d : Overrides) (command : RemoteCommand) :
    (read d command).HandsNothing := by
  refine Procedure.HandsNothing.bind ?_ fun output => ?_
  · refine (handsNothing_tell _).bind fun _ => ?_
    refine (handsNothing_request fun _ => rfl).bind fun answer => ?_
    split
    · exact (handsNothing_tell _).bind fun _ => handsNothing_pure _
    · exact (handsNothing_tell _).bind fun _ => handsNothing_throw _
  · exact (handsNothing_judge _ _ _ _ _).bind fun _ => handsNothing_pure _

theorem handsNothing_rows {α : Type} (dump : Database.Dump α) : (rows dump).HandsNothing :=
  (Procedure.handsNothing_forM (fun _ => handsNothing_tell _) dump.faults).bind
    fun _ => handsNothing_pure _

end Session

end HostAccounts
