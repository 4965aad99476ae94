import HostAccounts.Proofs.Session.Exchange
import HostAccounts.Provision.Session

/-!
# The course of a run

A run goes on as long as its round trips succeed, and ends with the first that does not, in the
fault that this one amounts to. `Course` says so of what was sent and of the result;
`Procedure.Proceeds` says it of a procedure against every peer, and is kept by sequencing
(`Proceeds.bind`). What it comes to: a round trip that failed is the last one (`Course.stops_at`).
-/

set_option autoImplicit false

namespace HostAccounts

open Diagnostics (Operation Overrides Verdict)

/-! ## Failed round trips -/

/-- What a command is sent for: what is reported if it fails, and whom it is about. -/
structure Purpose where
  failure : String
  target : String
  deriving DecidableEq, Repr

/-- Lookups and dumps are about nobody in particular. -/
def Purpose.reading : Purpose := ⟨"Could not read host database", ""⟩

namespace Exchange

/-- The command got through, and what it printed is a success for its kind. -/
def Succeeds (d : Overrides) (e : Exchange) : Prop :=
  ∃ output, e.answer = .ok output ∧ d.classify e.operation output = .success

/-- The fault in which a round trip that did not succeed ends its operation. -/
inductive EndsIn (d : Overrides) (purpose : Operation → Purpose) : Exchange → Fault → Prop where
  | broken (command : RemoteCommand) (operation : Operation) (fault : TransportFault) :
    EndsIn d purpose ⟨command, operation, .error fault⟩ (.brokenConnection fault)
  | missing (command : RemoteCommand) {operation : Operation} {output signature : String}
    (h : d.classify operation output = .notFound signature) :
    EndsIn d purpose ⟨command, operation, .ok output⟩ (.unknownTarget (purpose operation).target)
  | failed (command : RemoteCommand) {operation : Operation} {output signature : String}
    (h : d.classify operation output = .failed signature) :
    EndsIn d purpose ⟨command, operation, .ok output⟩
      (.commandFailed (purpose operation).failure (Text.trim output))
  | unconfirmed (command : RemoteCommand) {operation : Operation} {output marker : String}
    (h : d.classify operation output = .missingConfirmation marker) :
    EndsIn d purpose ⟨command, operation, .ok output⟩
      (.commandFailed (purpose operation).failure (Text.trim output))

variable {d : Overrides} {purpose : Operation → Purpose}

/-- No failure on the side of the host is the caller's doing. -/
theorem EndsIn.isCallersDoing_eq_false {e : Exchange} {fault : Fault}
    (h : e.EndsIn d purpose fault) : fault.isCallersDoing = false := by
  cases h <;> rfl

end Exchange

/-! ## Courses -/

/-- How a run may go that returns values of `Q` and, of its own accord, ends in faults of `E`: all
round trips succeed, or all but the last, whose fault the run then ends in. -/
inductive Course {α : Type} (d : Overrides) (purpose : Operation → Purpose) (Q : α → Prop)
    (E : Fault → Prop) (es : List Exchange) : Except Fault α → Prop where
  | returned (h : ∀ e ∈ es, e.Succeeds d) {a : α} (ha : Q a) : Course d purpose Q E es (.ok a)
  | refused (h : ∀ e ∈ es, e.Succeeds d) {fault : Fault} (hfault : E fault) :
    Course d purpose Q E es (.error fault)
  | stopped {front : List Exchange} {last : Exchange} (hes : es = front ++ [last])
    (h : ∀ e ∈ front, e.Succeeds d) {fault : Fault} (hlast : last.EndsIn d purpose fault) :
    Course d purpose Q E es (.error fault)

namespace Course

variable {α β : Type} {d : Overrides} {purpose : Operation → Purpose} {P Q : α → Prop}
  {E E' : Fault → Prop} {es : List Exchange} {result : Except Fault α}

theorem imp (h : Course d purpose P E es result) (hQ : ∀ a, P a → Q a)
    (hE : ∀ fault, E fault → E' fault) : Course d purpose Q E' es result := by
  cases h with
  | returned h ha => exact .returned h (hQ _ ha)
  | refused h hfault => exact .refused h (hE _ hfault)
  | stopped hes h hlast => exact .stopped hes h hlast

/-- Round trips that succeeded may stand in front of any course. -/
theorem append {front : List Exchange} (hfront : ∀ e ∈ front, e.Succeeds d)
    (h : Course d purpose Q E es result) : Course d purpose Q E (front ++ es) result := by
  have hall : ∀ {more : List Exchange}, (∀ e ∈ more, e.Succeeds d) →
      ∀ e ∈ front ++ more, e.Succeeds d := by
    intro more hmore e he
    rcases List.mem_append.mp he with he | he
    · exact hfront e he
    · exact hmore e he
  cases h with
  | returned h ha => exact .returned (hall h) ha
  | refused h hfault => exact .refused (hall h) hfault
  | stopped hes h hlast =>
    refine .stopped ?_ (hall h) hlast
    rw [hes, List.append_assoc]

/-- A round trip that did not succeed is the last one, and the run ends in its fault. -/
theorem stops_at {before after : List Exchange} {e : Exchange}
    (h : Course d purpose Q E (before ++ e :: after) result) (he : ¬ e.Succeeds d) :
    after = [] ∧ ∃ fault, e.EndsIn d purpose fault ∧ result = .error fault := by
  have hmem : e ∈ before ++ e :: after :=
    List.mem_append_right before (List.mem_cons_self ..)
  cases h with
  | returned h ha => exact absurd (h e hmem) he
  | refused h hfault => exact absurd (h e hmem) he
  | @stopped front last hes h fault hlast =>
    rcases List.eq_nil_or_concat after with rfl | ⟨rest, final, rfl⟩
    · obtain ⟨-, hlast'⟩ := List.append_inj' hes rfl
      obtain rfl : e = last := List.head_eq_of_cons_eq hlast'
      exact ⟨rfl, fault, hlast, rfl⟩
    · -- Something follows, so the round trip is one of those in front of the last.
      have hsplit : (before ++ e :: rest) ++ [final] = front ++ [last] := by
        rw [← hes]
        simp
      obtain ⟨hfront, -⟩ := List.append_inj' hsplit rfl
      refine absurd (h e ?_) he
      rw [← hfront]
      exact List.mem_append_right before (List.mem_cons_self ..)

/-- A run that returned has seen nothing but successes. -/
theorem succeeds_of_ok {a : α} (h : Course d purpose Q E es (.ok a)) :
    ∀ e ∈ es, e.Succeeds d := by
  cases h with
  | returned h ha => exact h

end Course

/-! ## Procedures -/

namespace Procedure

variable {α β : Type} {d : Overrides} {purpose : Operation → Purpose} {P Q : α → Prop}
  {R : β → Prop} {E E' : Fault → Prop}

/-- Against every peer the procedure stops at the first round trip that fails; otherwise it returns
a value of `Q` or ends in a fault of `E`. -/
def Proceeds (d : Overrides) (purpose : Operation → Purpose) (Q : α → Prop) (E : Fault → Prop)
    (t : Procedure α) : Prop :=
  ∀ ⦃σ : Type⦄ (peer : Dialogue.Peer σ) (s : σ),
    Course d purpose Q E (t.exchanges peer s) (t.run peer s).1

theorem Proceeds.imp {t : Procedure α} (h : t.Proceeds d purpose P E) (hQ : ∀ a, P a → Q a)
    (hE : ∀ fault, E fault → E' fault) : t.Proceeds d purpose Q E' :=
  fun _ peer s => (h peer s).imp hQ hE

theorem Proceeds.of_run_eq_ok {σ : Type} {t : Procedure α} (h : t.Proceeds d purpose P E)
    {peer : Dialogue.Peer σ} {s : σ} {a : α} (hresult : (t.run peer s).1 = .ok a) : P a := by
  have hcourse := h peer s
  rw [hresult] at hcourse
  cases hcourse with
  | returned _ ha => exact ha

theorem Proceeds.succeeds_of_run_eq_ok {σ : Type} {t : Procedure α} (h : t.Proceeds d purpose P E)
    {peer : Dialogue.Peer σ} {s : σ} {a : α} (hresult : (t.run peer s).1 = .ok a) :
    ∀ e ∈ t.exchanges peer s, e.Succeeds d := by
  have hcourse := h peer s
  rw [hresult] at hcourse
  exact hcourse.succeeds_of_ok

/-- A sequence proceeds if each of its parts does from where the one before it ended. -/
theorem Proceeds.bind {t : Procedure α} {f : α → Procedure β} (ht : t.Proceeds d purpose P E)
    (hf : ∀ a, P a → (f a).Proceeds d purpose R E) : (t >>= f).Proceeds d purpose R E := by
  intro σ peer s
  have h := ht peer s
  rw [exchanges_bind, run_bind]
  cases hresult : (t.run peer s).1 with
  | ok a =>
    rw [hresult] at h
    cases h with
    | returned h ha => exact (hf a ha peer _).append h
  | error fault =>
    rw [hresult] at h
    rw [List.append_nil]
    cases h with
    | refused h hfault => exact .refused h hfault
    | stopped hes h hlast => exact .stopped hes h hlast

/-- A procedure that sends nothing proceeds as its result does. -/
theorem SendsNothing.proceeds {t : Procedure α} (ht : t.SendsNothing)
    (hok : ∀ {σ : Type} (peer : Dialogue.Peer σ) (s : σ) (a : α), (t.run peer s).1 = .ok a → Q a)
    (herror : ∀ {σ : Type} (peer : Dialogue.Peer σ) (s : σ) (fault : Fault),
      (t.run peer s).1 = .error fault → E fault) : t.Proceeds d purpose Q E := by
  intro σ peer s
  have hnone : ∀ e ∈ ([] : List Exchange), e.Succeeds d := fun e he => absurd he List.not_mem_nil
  rw [ht.exchanges_eq_nil]
  cases hresult : (t.run peer s).1 with
  | ok a => exact .returned hnone (hok peer s a hresult)
  | error fault => exact .refused hnone (herror peer s fault hresult)

theorem proceeds_pure {a : α} (ha : Q a) : (pure a : Procedure α).Proceeds d purpose Q E := by
  refine (sendsNothing_pure a).proceeds ?_ ?_
  · intro σ peer s b hb
    obtain rfl := Except.ok.inj hb
    exact ha
  · intro σ peer s fault hfault
    cases hfault

theorem proceeds_throw {fault : Fault} (h : E fault) :
    (throw fault : Procedure α).Proceeds d purpose Q E := by
  refine (sendsNothing_throw fault).proceeds ?_ ?_
  · intro σ peer s a ha
    cases ha
  · intro σ peer s fault' hfault
    obtain rfl := Except.error.inj hfault
    exact h

theorem proceeds_ofExcept {ε : Type} {toFault : ε → Fault} {x : Except ε α}
    (hok : ∀ a, x = .ok a → Q a) (herror : ∀ e, x = .error e → E (toFault e)) :
    (ofExcept toFault x).Proceeds d purpose Q E := by
  cases x with
  | ok a => exact proceeds_pure (hok a rfl)
  | error e => exact proceeds_throw (herror e rfl)

theorem proceeds_lift {dialogue : Dialogue α} (h : dialogue.SendsNothing) :
    Proceeds d purpose (fun _ => True) E (ExceptT.lift dialogue : Procedure α) := by
  refine (sendsNothing_lift h).proceeds (fun _ _ _ _ => trivial) ?_
  intro σ peer s fault hfault
  rw [run_lift] at hfault
  cases hfault

theorem proceeds_request {r : Request} (h : r.IsSilent) :
    (request r).Proceeds d purpose (fun _ => True) E :=
  proceeds_lift (Dialogue.sendsNothing_request h)

theorem proceeds_tell (e : Event) : (tell e).Proceeds d purpose (fun _ => True) E :=
  proceeds_request (r := .tell e) fun _ => rfl

theorem proceeds_forM {ι : Type} {f : ι → Procedure Unit}
    (h : ∀ i, (f i).Proceeds d purpose (fun _ => True) E) (is : List ι) :
    (is.forM f).Proceeds d purpose (fun _ => True) E := by
  induction is with
  | nil => exact proceeds_pure trivial
  | cons i rest ih => exact (h i).bind fun _ _ => ih

theorem Proceeds.discard {t : Procedure α} (h : t.Proceeds d purpose P E) :
    (discard t : Procedure Unit).Proceeds d purpose (fun _ => True) E := by
  have hbind : (Functor.discard t : Procedure Unit) = t >>= fun _ => pure () := rfl
  rw [hbind]
  exact h.bind fun _ _ => proceeds_pure trivial

end Procedure

/-! ## Commands -/

namespace Session

open Procedure (exchanges_bind run_bind exchanges_request run_request exchanges_tell run_tell
  sendsNothing_pure sendsNothing_tell sendsNothing_throw)

variable {σ : Type}

/-- To execute a command is one round trip. -/
theorem exists_answer_execute (peer : Dialogue.Peer σ) (command : RemoteCommand)
    (operation : Operation) (s : σ) :
    ∃ answer, (execute command operation).exchanges peer s = [⟨command, operation, answer⟩] ∧
      ((execute command operation).run peer s).1 = answer.mapError .brokenConnection := by
  have hanswer : ∀ s', ∃ answer next,
      peer (.send command operation) s' = ((answer : Except TransportFault String), next) :=
    fun s' => ⟨_, _, rfl⟩
  obtain ⟨answer, next, hpeer⟩ :=
    hanswer (peer (.tell (.executing operation command.redacted)) s).2
  refine ⟨answer, ?_⟩
  unfold execute
  simp only [exchanges_bind, run_bind, run_request, exchanges_request, run_tell, exchanges_tell,
    hpeer]
  cases answer with
  | error fault => exact ⟨rfl, rfl⟩
  | ok output => exact ⟨rfl, rfl⟩

theorem sendsNothing_judge (v : Verdict) (operation : Operation) (failure target output : String) :
    (judge v operation failure target output).SendsNothing := by
  cases v with
  | success => exact sendsNothing_pure ()
  | notFound signature => exact (sendsNothing_tell _).bind fun _ => sendsNothing_throw _
  | failed signature => exact (sendsNothing_tell _).bind fun _ => sendsNothing_throw _
  | missingConfirmation marker => exact (sendsNothing_tell _).bind fun _ => sendsNothing_throw _

theorem run_judge (peer : Dialogue.Peer σ) (v : Verdict) (operation : Operation)
    (failure target output : String) (s : σ) :
    ((judge v operation failure target output).run peer s).1 =
      match v.fault? failure target output with
      | some fault => .error fault
      | none => .ok () := by
  cases v <;> rfl

/-- What an answer to a command comes to. -/
def resultOf (d : Overrides) (operation : Operation) (failure target : String) :
    Except TransportFault String → Except Fault String
  | .error fault => .error (.brokenConnection fault)
  | .ok output =>
    match (d.classify operation output).fault? failure target output with
    | some fault => .error fault
    | none => .ok output

/-- To run a command is one round trip, whose verdict decides the result. -/
theorem exists_answer_run (peer : Dialogue.Peer σ) (d : Overrides) (command : RemoteCommand)
    (operation : Operation) (failure target : String) (s : σ) :
    ∃ answer, (Session.run d command operation failure target).exchanges peer s =
        [⟨command, operation, answer⟩] ∧
      ((Session.run d command operation failure target).run peer s).1 =
        resultOf d operation failure target answer := by
  obtain ⟨answer, hexchanges, hresult⟩ := exists_answer_execute peer command operation s
  refine ⟨answer, ?_, ?_⟩
  · unfold Session.run
    rw [exchanges_bind, hexchanges, hresult]
    cases answer with
    | error fault => rfl
    | ok output =>
      have hsilent := (sendsNothing_judge (d.classify operation output) operation failure target
        output).bind fun _ => sendsNothing_pure output
      exact congrArg _ (hsilent.exchanges_eq_nil peer _)
  · unfold Session.run
    rw [run_bind, hresult]
    cases answer with
    | error fault => rfl
    | ok output =>
      refine (congrArg Prod.fst (run_bind peer _ (fun _ => pure output) _)).trans ?_
      rw [run_judge, resultOf]
      cases (d.classify operation output).fault? failure target output <;> rfl

variable {d : Overrides} {purpose : Operation → Purpose} {E : Fault → Prop}

/-- A command that is run for its purpose is stopped at if it fails. -/
theorem proceeds_run {command : RemoteCommand} {operation : Operation} {failure target : String}
    (h : purpose operation = ⟨failure, target⟩) :
    (Session.run d command operation failure target).Proceeds d purpose (fun _ => True) E := by
  intro σ peer s
  obtain ⟨answer, hexchanges, hresult⟩ :=
    exists_answer_run peer d command operation failure target s
  have hstopped : ∀ {fault}, Exchange.EndsIn d purpose ⟨command, operation, answer⟩ fault →
      Course d purpose (fun _ : String => True) E [⟨command, operation, answer⟩]
        (.error fault) := fun hlast =>
    .stopped (List.nil_append _).symm (fun e he => absurd he List.not_mem_nil) hlast
  have hfailure : failure = (purpose operation).failure := by rw [h]
  have htarget : target = (purpose operation).target := by rw [h]
  rw [hexchanges, hresult]
  cases answer with
  | error fault => exact hstopped (.broken command operation fault)
  | ok output =>
    rw [Session.resultOf]
    cases hverdict : d.classify operation output with
    | success =>
      refine .returned ?_ trivial
      intro e he
      rw [List.mem_singleton.mp he]
      exact ⟨output, rfl, hverdict⟩
    | notFound signature =>
      rw [Verdict.fault?, htarget]
      exact hstopped (.missing command hverdict)
    | failed signature =>
      rw [Verdict.fault?, hfailure]
      exact hstopped (.failed command hverdict)
    | missingConfirmation marker =>
      rw [Verdict.fault?, hfailure]
      exact hstopped (.unconfirmed command hverdict)

theorem proceeds_read {command : RemoteCommand} (h : purpose .read = .reading) :
    (Session.read d command).Proceeds d purpose (fun _ => True) E :=
  proceeds_run h

theorem proceeds_rows {α : Type} (dump : Database.Dump α) :
    (rows dump).Proceeds d purpose (fun _ => True) E :=
  (Procedure.proceeds_forM (fun _ => Procedure.proceeds_tell _) dump.faults).bind
    fun _ _ => Procedure.proceeds_pure trivial

theorem sendsNothing_rows {α : Type} (dump : Database.Dump α) : (rows dump).SendsNothing :=
  (Procedure.sendsNothing_forM (fun _ => sendsNothing_tell _) dump.faults).bind
    fun _ => sendsNothing_pure _

end Session

end HostAccounts
