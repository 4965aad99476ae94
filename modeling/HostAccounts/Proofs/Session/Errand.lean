import HostAccounts.Proofs.Session.Course
import Mathlib.Tactic.ByContra

/-!
# Commands in order

Which commands a procedure sends, and in what order. A procedure that sends some errands sends them
one after the other up to where it ends in a fault, and all of them if it returns, however it is
answered. What all errands of a procedure have in common is read off its parts. Main statements:
`Procedure.cases_run_bind`, by which a run of a sequence is one of two, `Procedure.Sends.bind` and
`Procedure.SendsOnly.bind`.
-/

set_option autoImplicit false

namespace HostAccounts

open Diagnostics (Operation Overrides)

/-! ## Errands -/

/-- A command and the kind that it is sent as. -/
abbrev Errand := RemoteCommand × Operation

/-- What was sent in a round trip. -/
def Exchange.errand (e : Exchange) : Errand :=
  (e.command, e.operation)

/-- The errand of a command that only reads. -/
def Errand.lookup (command : RemoteCommand) : Errand :=
  (command, .read)

/-- The errand of a command, if there is one. -/
def Errand.optional (command : Option RemoteCommand) (operation : Operation) : List Errand :=
  command.toList.map fun c => (c, operation)

namespace Procedure

variable {α β σ : Type}

/-! ## The two ways through a sequence -/

/-- A run of a sequence ends with the fault of its first part, or goes on with its value. -/
theorem cases_run_bind (peer : Dialogue.Peer σ) (t : Procedure α) (f : α → Procedure β) (s : σ) :
    (∃ fault, (t.run peer s).1 = .error fault ∧
      (Procedure.run peer (t >>= f) s).1 = .error fault ∧
      Procedure.exchanges peer (t >>= f) s = t.exchanges peer s) ∨
    ∃ a, (t.run peer s).1 = .ok a ∧
      Procedure.run peer (t >>= f) s = (f a).run peer (t.run peer s).2 ∧
      Procedure.exchanges peer (t >>= f) s =
        t.exchanges peer s ++ (f a).exchanges peer (t.run peer s).2 := by
  rw [run_bind, exchanges_bind]
  cases (t.run peer s).1 with
  | error fault => exact .inl ⟨fault, rfl, rfl, List.append_nil _⟩
  | ok a => exact .inr ⟨a, rfl, rfl, rfl⟩

/-- However it is answered, a run that ends in a fault has sent what it is to send for that fault,
and one that returns what it is to send for that value. -/
def Yields (t : Procedure α) (E : List Exchange → Fault → Prop) (Q : List Exchange → α → Prop) :
    Prop :=
  ∀ ⦃σ : Type⦄ (peer : Dialogue.Peer σ) (s : σ),
    match (t.run peer s).1 with
    | .error fault => E (t.exchanges peer s) fault
    | .ok a => Q (t.exchanges peer s) a

section

variable {E : List Exchange → Fault → Prop} {P : List Exchange → α → Prop}
  {Q : List Exchange → β → Prop}

theorem yields_pure {a : α} (h : P [] a) : (pure a : Procedure α).Yields E P :=
  fun _ _ _ => h

theorem yields_throw {fault : Fault} (h : E [] fault) : (throw fault : Procedure α).Yields E P :=
  fun _ _ _ => h

theorem Yields.bind {t : Procedure α} {f : α → Procedure β} (ht : t.Yields E P)
    (hf : ∀ es a, P es a → (f a).Yields (fun es' => E (es ++ es')) fun es' => Q (es ++ es')) :
    (t >>= f).Yields E Q := by
  intro σ peer s
  have hfirst := ht peer s
  rcases cases_run_bind peer t f s with
    ⟨fault, hfault, hrun, hexchanges⟩ | ⟨a, ha, hrun, hexchanges⟩
  · rw [hfault] at hfirst
    rw [hrun, hexchanges]
    exact hfirst
  · rw [ha] at hfirst
    rw [hrun, hexchanges]
    exact hf _ a hfirst peer _

theorem Yields.imp {E' : List Exchange → Fault → Prop} {P' : List Exchange → α → Prop}
    {t : Procedure α} (h : t.Yields E P) (hE : ∀ es fault, E es fault → E' es fault)
    (hP : ∀ es a, P es a → P' es a) : t.Yields E' P' := by
  intro σ peer s
  have hrun := h peer s
  cases hresult : (t.run peer s).1 with
  | error fault =>
    rw [hresult] at hrun
    exact hE _ fault hrun
  | ok a =>
    rw [hresult] at hrun
    exact hP _ a hrun

end

theorem sendsNothing_ofExcept {ε : Type} (toFault : ε → Fault) (x : Except ε α) :
    (ofExcept toFault x).SendsNothing :=
  trivial

/-! ## Errands in order -/

/-- Against every peer the procedure sends the errands in order up to where it ends in a fault, and
all of them if it returns. -/
def Sends (t : Procedure α) (errands : List Errand) : Prop :=
  ∀ ⦃σ : Type⦄ (peer : Dialogue.Peer σ) (s : σ),
    (t.exchanges peer s).map Exchange.errand <+: errands ∧
      ∀ a, (t.run peer s).1 = .ok a → (t.exchanges peer s).map Exchange.errand = errands

theorem SendsNothing.sends {t : Procedure α} (h : t.SendsNothing) : t.Sends [] := by
  intro σ peer s
  rw [h.exchanges_eq_nil]
  exact ⟨List.prefix_rfl, fun _ _ => rfl⟩

theorem sends_pure (a : α) : (pure a : Procedure α).Sends [] :=
  (sendsNothing_pure a).sends

theorem sends_throw (fault : Fault) : (throw fault : Procedure α).Sends [] :=
  (sendsNothing_throw fault).sends

theorem sends_tell (e : Event) : (tell e).Sends [] :=
  (sendsNothing_tell e).sends

/-- A sequence sends what its first part does, and then what follows on the value of that part. -/
theorem Sends.bind {t : Procedure α} {f : α → Procedure β} {front back : List Errand}
    (ht : t.Sends front)
    (hf : ∀ {σ : Type} {peer : Dialogue.Peer σ} {s : σ} {a : α},
      (t.run peer s).1 = .ok a → (f a).Sends back) : (t >>= f).Sends (front ++ back) := by
  intro σ peer s
  obtain ⟨hfront, hall⟩ := ht peer s
  rcases cases_run_bind peer t f s with ⟨fault, -, hfault, hexchanges⟩ | ⟨a, ha, hrun, hexchanges⟩
  · rw [hexchanges, hfault]
    refine ⟨hfront.trans (List.prefix_append front back), fun b hb => ?_⟩
    cases hb
  · obtain ⟨hback, hall'⟩ := hf ha peer (t.run peer s).2
    rw [hexchanges, hrun, List.map_append, hall a ha]
    exact ⟨List.prefix_append_right_inj front |>.mpr hback, fun b hb => by rw [hall' b hb]⟩

/-- To hand a value on sends nothing. -/
theorem Sends.bind_pure {t : Procedure α} {errands : List Errand} (h : t.Sends errands)
    (f : α → β) : (t >>= fun a => pure (f a)).Sends errands := by
  rw [← List.append_nil errands]
  exact h.bind fun _ => sends_pure _

/-! ## Errands of a kind -/

/-- However it is answered, the procedure sends errands of the kind only. -/
def SendsOnly (kind : Errand → Prop) (t : Procedure α) : Prop :=
  ∀ ⦃σ : Type⦄ (peer : Dialogue.Peer σ) (s : σ), ∀ e ∈ t.exchanges peer s, kind e.errand

section

variable {kind : Errand → Prop}

theorem Sends.sendsOnly {t : Procedure α} {errands : List Errand} (h : t.Sends errands)
    (hkind : ∀ errand ∈ errands, kind errand) : t.SendsOnly kind := by
  intro σ peer s e he
  exact hkind _ ((h peer s).1.subset (List.mem_map_of_mem he))

theorem SendsNothing.sendsOnly {t : Procedure α} (h : t.SendsNothing) : t.SendsOnly kind :=
  h.sends.sendsOnly fun _ herrand => absurd herrand List.not_mem_nil

theorem SendsOnly.bind {t : Procedure α} {f : α → Procedure β} (ht : t.SendsOnly kind)
    (hf : ∀ a, (f a).SendsOnly kind) : SendsOnly kind (t >>= f) := by
  intro σ peer s e he
  rcases cases_run_bind peer t f s with ⟨fault, -, -, hexchanges⟩ | ⟨a, -, -, hexchanges⟩
  · rw [hexchanges] at he
    exact ht peer s e he
  · rw [hexchanges] at he
    rcases List.mem_append.mp he with he | he
    · exact ht peer s e he
    · exact hf a peer _ e he

/-- A check sends nothing, and what follows may count on its value. -/
theorem sendsOnly_bind_ofExcept {ε : Type} {toFault : ε → Fault} {x : Except ε α}
    {f : α → Procedure β} (hf : ∀ a, x = .ok a → (f a).SendsOnly kind) :
    SendsOnly kind (ofExcept toFault x >>= f) := by
  cases x with
  | error e => exact (sendsNothing_throw (toFault e)).sendsOnly
  | ok a => exact hf a rfl

end

/-! ## Errands that are carried through -/

/-- The procedure fails only if a command does: if all of its commands succeed, it has sent the
errands in order, and returns the value. -/
def Carries (d : Overrides) (t : Procedure α) (errands : List Errand) (a : α) : Prop :=
  ∀ ⦃σ : Type⦄ (peer : Dialogue.Peer σ) (s : σ), (∀ e ∈ t.exchanges peer s, e.Succeeds d) →
    (t.exchanges peer s).map Exchange.errand = errands ∧ (t.run peer s).1 = .ok a

variable {d : Overrides}

theorem carries_pure (a : α) : (pure a : Procedure α).Carries d [] a :=
  fun _ _ _ _ => ⟨rfl, rfl⟩

theorem carries_tell (e : Event) : (tell e).Carries d [] () :=
  fun _ _ _ _ => ⟨rfl, rfl⟩

theorem Carries.bind {t : Procedure α} {f : α → Procedure β} {front back : List Errand} {a : α}
    {b : β} (ht : t.Carries d front a) (hf : (f a).Carries d back b) :
    (t >>= f).Carries d (front ++ back) b := by
  intro σ peer s hall
  rcases cases_run_bind peer t f s with ⟨fault, hfault, -, hexchanges⟩ | ⟨a', ha, hrun, hexchanges⟩
  · rw [hexchanges] at hall
    have hok := (ht peer s hall).2
    rw [hfault] at hok
    cases hok
  · rw [hexchanges] at hall ⊢
    obtain ⟨hfront, hok⟩ := ht peer s fun e he => hall e (List.mem_append_left _ he)
    obtain rfl : a' = a := Except.ok.inj (ha.symm.trans hok)
    obtain ⟨hback, hresult⟩ := hf peer _ fun e he => hall e (List.mem_append_right _ he)
    exact ⟨by rw [List.map_append, hfront, hback], by rw [hrun, hresult]⟩

theorem Carries.bind_pure {t : Procedure α} {errands : List Errand} {a : α}
    (h : t.Carries d errands a) (f : α → β) :
    (t >>= fun a => pure (f a)).Carries d errands (f a) := by
  rw [← List.append_nil errands]
  exact h.bind (carries_pure _)

/-! ## Ways to go -/

/-- As long as all commands succeed, what is sent and what comes of it are related. -/
def Goes (d : Overrides) (t : Procedure α) (R : List Errand → Except Fault α → Prop) : Prop :=
  ∀ ⦃σ : Type⦄ (peer : Dialogue.Peer σ) (s : σ), (∀ e ∈ t.exchanges peer s, e.Succeeds d) →
    R ((t.exchanges peer s).map Exchange.errand) (t.run peer s).1

variable {R : List Errand → Except Fault β → Prop}

theorem Carries.goes {t : Procedure β} {errands : List Errand} {b : β}
    (h : t.Carries d errands b) (hR : R errands (.ok b)) : t.Goes d R := by
  intro σ peer s hall
  obtain ⟨hsent, hresult⟩ := h peer s hall
  rw [hsent, hresult]
  exact hR

theorem goes_throw {fault : Fault} (hR : R [] (.error fault)) :
    (throw fault : Procedure β).Goes d R :=
  fun _ _ _ _ => hR

/-- A check that fails is the end, and one that does not has no part in what is sent. -/
theorem goes_bind_ofExcept {ε : Type} {toFault : ε → Fault} {x : Except ε α}
    {f : α → Procedure β} (herror : ∀ e, x = .error e → R [] (.error (toFault e)))
    (hok : ∀ a, x = .ok a → (f a).Goes d R) : (ofExcept toFault x >>= f).Goes d R := by
  cases x with
  | error e => exact goes_throw (herror e rfl)
  | ok a => exact hok a rfl

/-- What is sent first may be broken off by a fault; then nothing else is sent. -/
theorem Sends.goes_bind {t : Procedure α} {f : α → Procedure β} {front : List Errand}
    (ht : t.Sends front) (herror : ∀ es fault, es <+: front → R es (.error fault))
    (hok : ∀ {σ : Type} {peer : Dialogue.Peer σ} {s : σ} {a : α}, (t.run peer s).1 = .ok a →
      (f a).Goes d fun es result => R (front ++ es) result) : (t >>= f).Goes d R := by
  intro σ peer s hall
  obtain ⟨hpart, hsent⟩ := ht peer s
  rcases cases_run_bind peer t f s with ⟨fault, -, hrun, hexchanges⟩ | ⟨a, ha, hrun, hexchanges⟩
  · rw [hexchanges, hrun]
    exact herror _ fault hpart
  · rw [hexchanges] at hall
    rw [hexchanges, hrun, List.map_append, hsent a ha]
    exact hok ha peer _ fun e he => hall e (List.mem_append_right _ he)

/-! ## Runs in order -/

/-- The errands were sent one after the other, each once the one before it had succeeded. The value
is returned exactly if all of them were sent and succeeded. -/
structure Dispatches (d : Overrides) (errands : List Errand) (a : α) (es : List Exchange)
    (result : Except Fault α) : Prop where
  sent : es.map Exchange.errand <+: errands
  awaited : ∀ before e after, es = before ++ e :: after → after ≠ [] → e.Succeeds d
  returned_iff : ∀ b, result = .ok b ↔
    b = a ∧ es.map Exchange.errand = errands ∧ ∀ e ∈ es, e.Succeeds d

/-- What is sent in order, stops at a failure and does not fail for itself is dispatched. -/
theorem Sends.dispatches {t : Procedure α} {errands : List Errand} {a : α}
    {purpose : Operation → Purpose} {Q : α → Prop} {E : Fault → Prop} (hsends : t.Sends errands)
    (hcarries : t.Carries d errands a) (hproceeds : t.Proceeds d purpose Q E)
    (peer : Dialogue.Peer σ) (s : σ) :
    Dispatches d errands a (t.exchanges peer s) (t.run peer s).1 := by
  refine ⟨(hsends peer s).1, fun before e after hes hafter => ?_, fun b => ⟨fun hb => ?_, ?_⟩⟩
  · by_contra hfailed
    have hcourse := hproceeds peer s
    rw [hes] at hcourse
    exact hafter (hcourse.stops_at hfailed).1
  · have hall := hproceeds.succeeds_of_run_eq_ok hb
    exact ⟨Except.ok.inj (hb.symm.trans (hcarries peer s hall).2), (hsends peer s).2 b hb, hall⟩
  · rintro ⟨rfl, -, hall⟩
    exact (hcarries peer s hall).2

end Procedure

namespace Session

theorem sends_run (d : Overrides) (command : RemoteCommand) (operation : Operation)
    (failure target : String) :
    (Session.run d command operation failure target).Sends [(command, operation)] := by
  intro σ peer s
  obtain ⟨answer, hexchanges, -⟩ := exists_answer_run peer d command operation failure target s
  rw [hexchanges]
  exact ⟨List.prefix_rfl, fun _ _ => rfl⟩

theorem sends_read (d : Overrides) (command : RemoteCommand) :
    (Session.read d command).Sends [.lookup command] :=
  sends_run d command .read "Could not read host database" ""

theorem not_succeeds_of_classify {d : Overrides} {command : RemoteCommand} {operation : Operation}
    {output : String} {v : Diagnostics.Verdict} (h : d.classify operation output = v)
    (hv : v.isSuccess = false) : ¬ Exchange.Succeeds d ⟨command, operation, .ok output⟩ := by
  rintro ⟨output', houtput, hsuccess⟩
  obtain rfl := Except.ok.inj houtput
  rw [← h, show d.classify operation output = .success from hsuccess] at hv
  cases hv

/-- A lookup that returns has succeeded, and returns what was answered; one that does not has
failed. -/
theorem yields_read (d : Overrides) (command : RemoteCommand) :
    (Session.read d command).Yields
      (fun es _ => ∃ answer, es = [⟨command, .read, answer⟩] ∧
        ¬ Exchange.Succeeds d ⟨command, .read, answer⟩)
      fun es output => es = [⟨command, .read, .ok output⟩] ∧ ∀ e ∈ es, e.Succeeds d := by
  intro σ peer s
  obtain ⟨answer, hexchanges, hresult⟩ :=
    exists_answer_run peer d command .read "Could not read host database" "" s
  rw [show Session.read d command =
    Session.run d command .read "Could not read host database" "" from rfl, hexchanges, hresult]
  cases answer with
  | error fault =>
    refine ⟨_, rfl, ?_⟩
    rintro ⟨output, houtput, -⟩
    cases houtput
  | ok output =>
    rw [resultOf]
    cases hverdict : d.classify .read output with
    | success =>
      refine ⟨rfl, fun e he => ?_⟩
      rw [List.mem_singleton.mp he]
      exact ⟨output, rfl, hverdict⟩
    | notFound signature => exact ⟨_, rfl, not_succeeds_of_classify hverdict rfl⟩
    | failed signature => exact ⟨_, rfl, not_succeeds_of_classify hverdict rfl⟩
    | missingConfirmation marker => exact ⟨_, rfl, not_succeeds_of_classify hverdict rfl⟩

theorem sends_rows {α : Type} (dump : Database.Dump α) : (rows dump).Sends [] :=
  (sendsNothing_rows dump).sends

/-- A command whose output does not matter is one round trip all the same. -/
theorem exists_answer_discard {σ : Type} (peer : Dialogue.Peer σ) (d : Overrides)
    (command : RemoteCommand) (operation : Operation) (failure target : String) (s : σ) :
    ∃ answer, (discard (Session.run d command operation failure target) : Procedure Unit).exchanges
        peer s = [⟨command, operation, answer⟩] ∧
      ((discard (Session.run d command operation failure target) : Procedure Unit).run peer s).1 =
        (resultOf d operation failure target answer).map fun _ => () := by
  obtain ⟨answer, hexchanges, hresult⟩ :=
    exists_answer_run peer d command operation failure target s
  have hbind : (discard (Session.run d command operation failure target) : Procedure Unit) =
      Session.run d command operation failure target >>= fun _ => pure () := rfl
  refine ⟨answer, ?_, ?_⟩
  · rw [hbind, Procedure.exchanges_bind, hexchanges]
    cases ((Session.run d command operation failure target).run peer s).1 <;> rfl
  · rw [hbind, Procedure.run_bind, hresult]
    cases resultOf d operation failure target answer <;> rfl

theorem carries_run (d : Overrides) (command : RemoteCommand) (operation : Operation)
    (failure target : String) :
    (discard (Session.run d command operation failure target) : Procedure Unit).Carries d
      [(command, operation)] () := by
  intro σ peer s hall
  obtain ⟨answer, hexchanges, hresult⟩ :=
    exists_answer_discard peer d command operation failure target s
  rw [hexchanges] at hall ⊢
  obtain ⟨output, hanswer, hverdict⟩ := hall _ (List.mem_singleton_self _)
  obtain rfl : answer = .ok output := hanswer
  refine ⟨rfl, ?_⟩
  rw [hresult, resultOf, show d.classify operation output = .success from hverdict]
  rfl

/-- Every row of the dump is handed on, whatever is told of the other lines. -/
theorem run_rows {α σ : Type} (dump : Database.Dump α) (peer : Dialogue.Peer σ) (s : σ) :
    ((rows dump).run peer s).1 = .ok dump.rows := by
  have htell : ∀ (faults : List RowFault) (s : σ),
      ((faults.forM fun fault => Procedure.tell (.rowSkipped fault)).run peer s).1 = .ok () := by
    intro faults
    induction faults with
    | nil => exact fun _ => rfl
    | cons fault rest ih =>
      intro s
      exact (congrArg Prod.fst (Procedure.run_bind peer _ _ s)).trans (ih _)
  unfold rows
  rw [Procedure.run_bind, htell]
  rfl

theorem yields_rows {α : Type} (dump : Database.Dump α) (E : List Exchange → Fault → Prop) :
    (rows dump).Yields E fun es rows => es = [] ∧ rows = dump.rows := by
  intro σ peer s
  rw [run_rows]
  exact ⟨(sendsNothing_rows dump).exchanges_eq_nil peer s, rfl⟩

end Session

end HostAccounts
