import HostAccounts.Proofs.Session.Act

/-!
# Procedures that return

On a host that answers its lookups, a procedure does not end in a fault, whatever state the host is
in; and what is known of the answers carries over to what it returns. Main statements:
`Procedure.Returns.bind`, `Session.returns_read`.
-/

set_option autoImplicit false

namespace HostAccounts

/-! ## Returning -/

namespace Procedure

variable {σ α β : Type} {peer : Dialogue.Peer σ}

/-- Whatever state the peer is in, the procedure returns something of the kind. -/
def Returns (peer : Dialogue.Peer σ) (t : Procedure α) (Q : α → Prop) : Prop :=
  ∀ s, ∃ a, (t.run peer s).1 = .ok a ∧ Q a

theorem returns_pure {Q : α → Prop} {a : α} (h : Q a) : (pure a : Procedure α).Returns peer Q :=
  fun _ => ⟨a, rfl, h⟩

theorem Returns.imp {P Q : α → Prop} {t : Procedure α} (h : t.Returns peer P)
    (hPQ : ∀ a, P a → Q a) : t.Returns peer Q := by
  intro s
  obtain ⟨a, ha, hP⟩ := h s
  exact ⟨a, ha, hPQ a hP⟩

theorem Returns.bind {P : α → Prop} {Q : β → Prop} {t : Procedure α} {f : α → Procedure β}
    (ht : t.Returns peer P) (hf : ∀ a, P a → (f a).Returns peer Q) : (t >>= f).Returns peer Q := by
  intro s
  obtain ⟨a, ha, hP⟩ := ht s
  rw [run_bind, ha]
  exact hf a hP _

theorem returns_request (r : Request) : (request r).Returns peer fun _ => True :=
  fun s => ⟨(peer r s).1, rfl, trivial⟩

theorem returns_ofExcept {ε : Type} {toFault : ε → Fault} {x : Except ε α} {a : α}
    (h : x = .ok a) : (ofExcept toFault x).Returns peer (· = a) := by
  subst h
  exact fun _ => ⟨a, rfl, rfl⟩

end Procedure

/-! ## Lookups that are answered -/

namespace Session

variable {σ : Type} {peer : Dialogue.Peer σ}

/-- Whatever state the peer is in, its answer to the lookup is taken for a success and of the
kind. -/
def IsAnswered (peer : Dialogue.Peer σ) (d : Diagnostics.Overrides) (command : RemoteCommand)
    (P : String → Prop) : Prop :=
  ∀ state, ∃ output, (peer (.send command .read) state).1 = .ok output ∧
    d.classify .read output = .success ∧ P output

theorem IsAnswered.imp {d : Diagnostics.Overrides} {command : RemoteCommand} {P Q : String → Prop}
    (h : IsAnswered peer d command P) (hPQ : ∀ output, P output → Q output) :
    IsAnswered peer d command Q := by
  intro state
  obtain ⟨output, houtput, hverdict, hP⟩ := h state
  exact ⟨output, houtput, hverdict, hPQ output hP⟩

/-- A lookup that is answered returns the answer. -/
theorem returns_read {d : Diagnostics.Overrides} {command : RemoteCommand} {P : String → Prop}
    (h : IsAnswered peer d command P) : (Session.read d command).Returns peer P := by
  intro s
  obtain ⟨answer, hexchanges, hresult⟩ :=
    exists_answer_run peer d command .read "Could not read host database" "" s
  have hsent : Act.sent ⟨command, .read, answer⟩ ∈ (Session.read d command).acts peer s := by
    rw [handsNothing_read]
    exact hexchanges ▸ List.mem_singleton_self _
  obtain ⟨state, hstate⟩ := Dialogue.exists_answer_of_sent hsent
  obtain ⟨output, houtput, hverdict, hP⟩ := h state
  obtain rfl : .ok output = answer := houtput.symm.trans hstate
  refine ⟨output, hresult.trans ?_, hP⟩
  rw [resultOf, hverdict]
  rfl

theorem returns_rows {ρ : Type} (dump : Database.Dump ρ) :
    (rows dump).Returns peer fun _ => True :=
  fun s => ⟨dump.rows, run_rows dump peer s, trivial⟩

end Session

end HostAccounts
