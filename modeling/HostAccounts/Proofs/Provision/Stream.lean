import HostAccounts.Proofs.Provision.Sending
import HostAccounts.Proofs.Session.Act

/-!
# The stream of a search

A search reads the rows once and hands over an object for each row that it is after, in the order of
the rows, until no more are wanted. Only a search for one object by its name looks anything up
besides, for each object right before that is handed over; and only such a search can fail once the
rows are read. `Streams` says so of the acts of a run. Main statement: `search_streams`.
-/

set_option autoImplicit false

namespace HostAccounts.Provision

open Database (AccountRow GroupRow)
open Procedure (HandsNothing acts_bind exchanges_bind handsNothing_ofExcept handsNothing_pure
  handsNothing_request run_bind sendsNothing_pure sends_pure)
open Session (exists_answer_run handsNothing_read handsNothing_rows run_rows sendsNothing_rows
  sends_read sends_rows)

/-! ## What a search is after -/

/-- The class can be searched by the operand, if there is one. -/
def IsSearchable (names : FieldNames) : ObjectClass → Option Operand → Prop
  | .account, operand => ∀ o, operand = some o → (AccountField.ofName? names o.field).isSome = true
  | .group, operand => ∀ o, operand = some o → o.isPrimaryKey = true
  | .other _, _ => False

theorem IsSearchable.isSupported {names : FieldNames} {c : ObjectClass} {operand : Option Operand}
    (h : IsSearchable names c operand) : c.isSupported = true := by
  cases c with
  | other what => exact h.elim
  | _ => rfl

/-- The operand accepts the field of the row that it names. -/
def acceptsAccount (names : FieldNames) (operand : Option Operand) (r : AccountRow) : Bool :=
  operand.all fun o => (AccountField.ofName? names o.field).any fun f => o.accepts (f.value r)

/-- The operand accepts the name of the group. -/
def acceptsGroup (operand : Option Operand) (r : GroupRow) : Bool :=
  operand.all fun o => o.accepts r.groupname

/-- The objects of the accepted rows in an output, in the order of the rows. -/
def found (s : Settings) (c : ObjectClass) (operand : Option Operand) (output : String) :
    List ManagedObject :=
  match c with
  | .account => ((AccountRow.dump output).rows.filter (acceptsAccount s.fieldNames operand)).map
      (accountObject s.fieldNames)
  | .group => ((GroupRow.dump output).rows.filter (acceptsGroup operand)).map fun r =>
      .ofName .group r.groupname
  | .other _ => []

/-! ## What is looked up about an object -/

/-- The commands that look up what is kept apart from the row of an object: three for an account,
one for a group. -/
def lookupsAbout (s : Settings) (o : ManagedObject) : List RemoteCommand :=
  let rule (ending : String) : RemoteCommand :=
    Recipe.elevated s (Primitive.cat (pathIn s.accounts.sudoersDirectory (o.name ++ ending)))
  match o.objectClass with
  | .account => [Recipe.readMemberships o.name, Recipe.readStatus s o.name, rule "_user"]
  | .group => [rule "_group"]
  | .other _ => []

/-- How an object is completed: by its lookups, in order, which end in the object with what they
told, or at the first that fails or tells what cannot be read. -/
structure Completes (s : Settings) (o : ManagedObject) (es : List Exchange)
    (result : Except Fault ManagedObject) : Prop where
  lookups : es.map Exchange.errand <+: (lookupsAbout s o).map Errand.lookup
  whole : ∀ o', result = .ok o' → es.map Exchange.errand = (lookupsAbout s o).map Errand.lookup
  course : Course s.diagnostics (fun _ => .reading) (IsSame o) IsBadRow es result

/-- The object is handed over as it is, and nothing is looked up. -/
def StaysBare (o : ManagedObject) (es : List Exchange) (result : Except Fault ManagedObject) :
    Prop :=
  es = [] ∧ result = .ok o

/-- How the objects are handed over that each are completed as `L` says: one by one and in order,
each after its own lookups, until one is the last that is wanted or cannot be completed. -/
inductive Streams (L : ManagedObject → List Exchange → Except Fault ManagedObject → Prop) :
    List ManagedObject → List Act → Except Fault Unit → Prop where
  | exhausted : Streams L [] [] (.ok ())
  | stopped {o o' : ManagedObject} {es : List Exchange} (rest : List ManagedObject)
    (h : L o es (.ok o')) :
    Streams L (o :: rest) (es.map Act.sent ++ [.handed o' false]) (.ok ())
  | continued {o o' : ManagedObject} {es : List Exchange} {rest : List ManagedObject}
    {acts : List Act} {result : Except Fault Unit} (h : L o es (.ok o'))
    (hrest : Streams L rest acts result) :
    Streams L (o :: rest) (es.map Act.sent ++ .handed o' true :: acts) result
  | broken {o : ManagedObject} {es : List Exchange} (rest : List ManagedObject) {fault : Fault}
    (h : L o es (.error fault)) : Streams L (o :: rest) (es.map Act.sent) (.error fault)

/-- What a search does with the objects that it found, once the rows are read. -/
structure Answers (s : Settings) (operand : Option Operand) (objects : List ManagedObject)
    (acts : List Act) (result : Except Fault Unit) : Prop where
  /-- A search that is not for one object sends nothing more and cannot fail any more. -/
  enumeration : isKeyed operand = false →
    result = .ok () ∧ (∀ e, Act.sent e ∉ acts) ∧ Streams StaysBare objects acts result
  /-- A search for one object reports exactly that there is none. -/
  missing : ∀ o, operand = some o → o.isKeyed = true →
    (result = .error (.noResults o.value) ↔ objects = [])
  silent : isKeyed operand = true → objects = [] → acts = []
  keyed : isKeyed operand = true → objects ≠ [] → Streams (Completes s) objects acts result

namespace Streams

variable {objects : List ManagedObject} {acts : List Act} {result : Except Fault Unit}

/-- Without lookups nothing can fail and nothing is sent. -/
theorem of_staysBare (h : Streams StaysBare objects acts result) :
    result = .ok () ∧ ∀ e, Act.sent e ∉ acts := by
  induction h with
  | exhausted => exact ⟨rfl, fun _ => List.not_mem_nil⟩
  | stopped rest h =>
    obtain ⟨rfl, -⟩ := h
    exact ⟨rfl, fun e he => by simp at he⟩
  | continued h hrest ih =>
    obtain ⟨rfl, -⟩ := h
    exact ⟨ih.1, fun e he => ih.2 e (by simpa using he)⟩
  | broken rest h => cases h.2

/-- A search that has found something does not report that it has not. -/
theorem ne_noResults {s : Settings} (h : Streams (Completes s) objects acts result)
    (key : String) : result ≠ .error (.noResults key) := by
  induction h with
  | exhausted => nofun
  | stopped rest h => nofun
  | continued h hrest ih => exact ih
  | broken rest h =>
    intro heq
    obtain rfl := Except.error.inj heq
    cases h.course with
    | refused _ hfault =>
      obtain ⟨rowFault, hrow⟩ := hfault
      cases hrow
    | stopped _ _ hlast => cases hlast

end Streams

/-! ## Completing an object -/

theorem handsNothing_fetchGroups (s : Settings) (user : String) :
    (fetchGroups s user).HandsNothing :=
  (handsNothing_read _ _).bind fun _ => (handsNothing_rows _).bind fun _ => handsNothing_pure _

theorem handsNothing_addStatus (s : Settings) (o : ManagedObject) :
    (addStatus s o).HandsNothing := by
  refine (handsNothing_read _ _).bind fun output => ?_
  split
  · exact handsNothing_pure _
  · refine (handsNothing_ofExcept _ _).bind fun row => ?_
    refine (handsNothing_request fun _ => rfl).bind fun today => ?_
    simp only
    split
    · exact handsNothing_pure _
    · exact handsNothing_pure _

theorem handsNothing_addRule (s : Settings) (o : ManagedObject) : (addRule s o).HandsNothing := by
  refine (handsNothing_ofExcept _ _).bind fun command => ?_
  refine (handsNothing_read _ _).bind fun output => ?_
  split
  · exact handsNothing_pure _
  · exact handsNothing_pure _

theorem handsNothing_completeAccount (s : Settings) (o : ManagedObject) :
    (completeAccount s o).HandsNothing := by
  refine Procedure.HandsNothing.bind ?_ fun o => ?_
  · exact (handsNothing_fetchGroups s o.name).bind fun _ => handsNothing_pure _
  · exact (handsNothing_addStatus s o).bind fun o => handsNothing_addRule s o

theorem sends_addGroups (s : Settings) (o : ManagedObject) :
    (addGroups s o).Sends [.lookup (Recipe.readMemberships o.name)] :=
  (sends_fetchGroups s o.name).bind fun _ => sends_pure _

theorem sends_addStatus (s : Settings) (o : ManagedObject) :
    (addStatus s o).Sends [.lookup (Recipe.readStatus s o.name)] := by
  refine (sends_read _ _).bind fun _ => ?_
  split
  · exact sends_pure _
  · refine (Procedure.sendsNothing_ofExcept _ _).sends.bind fun _ => ?_
    refine (Procedure.sendsNothing_request fun _ => rfl).sends.bind fun _ => ?_
    simp only
    split
    · exact sends_pure _
    · exact sends_pure _

/-- The rule is looked up where the class keeps it. -/
theorem sends_addRule (s : Settings) (o : ManagedObject) {command : RemoteCommand}
    (h : Recipe.readRule s o.objectClass o.name = .ok command) :
    (addRule s o).Sends [.lookup command] := by
  unfold addRule
  rw [h]
  refine (sends_pure command).bind fun ha => ?_
  obtain rfl := Except.ok.inj ha
  refine (sends_read _ _).bind fun _ => ?_
  split
  · exact sends_pure _
  · exact sends_pure _

theorem sends_completeAccount (s : Settings) {o : ManagedObject} (ho : o.objectClass = .account) :
    (completeAccount s o).Sends ((lookupsAbout s o).map Errand.lookup) := by
  unfold lookupsAbout
  rw [ho]
  have hgroups : (addGroups s o).Proceeds s.diagnostics (fun _ => .reading) (IsSame o) IsBadRow :=
    proceeds_addGroups o rfl
  refine (sends_addGroups s o).bind fun {_ _ _ o₁} h₁ => ?_
  have hsame₁ := hgroups.of_run_eq_ok h₁
  have hstatus : (addStatus s o₁).Proceeds s.diagnostics (fun _ => .reading) (IsSame o₁) IsBadRow :=
    proceeds_addStatus o₁ rfl
  rw [← hsame₁.2.2]
  refine (sends_addStatus s o₁).bind fun {_ _ _ o₂} h₂ => ?_
  have hsame := hsame₁.trans (hstatus.of_run_eq_ok h₂)
  refine sends_addRule s o₂ ?_
  rw [hsame.1, ho, hsame.2.2, hsame₁.2.2]
  rfl

theorem completes_completeAccount (s : Settings) {o : ManagedObject}
    (ho : o.objectClass = .account) {σ : Type} (peer : Dialogue.Peer σ) (start : σ) :
    Completes s o ((completeAccount s o).exchanges peer start)
      ((completeAccount s o).run peer start).1 where
  lookups := (sends_completeAccount s ho peer start).1
  whole := (sends_completeAccount s ho peer start).2
  course := proceeds_completeAccount ho rfl peer start

theorem completes_addRule (s : Settings) {o : ManagedObject} (ho : o.objectClass = .group)
    {σ : Type} (peer : Dialogue.Peer σ) (start : σ) :
    Completes s o ((addRule s o).exchanges peer start) ((addRule s o).run peer start).1 := by
  have hsends : (addRule s o).Sends ((lookupsAbout s o).map Errand.lookup) := by
    unfold lookupsAbout
    rw [ho]
    refine sends_addRule s o ?_
    rw [ho]
    rfl
  have hclass : o.objectClass.isSupported = true := by rw [ho]; rfl
  exact ⟨(hsends peer start).1, (hsends peer start).2, proceeds_addRule hclass rfl peer start⟩

/-! ## Handing over -/

/-- The handler that hands each object over and goes on as it is answered. -/
def handOver : Handler :=
  fun o => Dialogue.request (.deliver o)

variable {σ : Type} {peer : Dialogue.Peer σ}

/-- More objects are wanted after this one. -/
def wantsMore (peer : Dialogue.Peer σ) (o : ManagedObject) (start : σ) : Bool :=
  (peer (.deliver o) start).1

theorem acts_handOver (o : ManagedObject) (start : σ) :
    Procedure.acts peer (ExceptT.lift (handOver o)) start = [.handed o (wantsMore peer o start)] :=
  rfl

theorem run_handOver (o : ManagedObject) (start : σ) :
    Procedure.run peer (ExceptT.lift (handOver o)) start =
      (.ok (wantsMore peer o start), (peer (.deliver o) start).2) :=
  rfl

theorem streams_deliver {complete : ManagedObject → Procedure ManagedObject}
    {L : ManagedObject → List Exchange → Except Fault ManagedObject → Prop}
    (hands : ∀ o, (complete o).HandsNothing) {objects : List ManagedObject}
    (hL : ∀ o ∈ objects, ∀ start : σ,
      L o ((complete o).exchanges peer start) ((complete o).run peer start).1) (start : σ) :
    Streams L objects ((deliver complete handOver objects).acts peer start)
      ((deliver complete handOver objects).run peer start).1 := by
  induction objects generalizing start with
  | nil => exact .exhausted
  | cons o rest ih =>
    have ho := hL o (List.mem_cons_self ..) start
    have hrest := ih fun o ho => hL o (List.mem_cons_of_mem _ ho)
    rw [deliver, acts_bind, run_bind, hands]
    cases hresult : ((complete o).run peer start).1 with
    | error fault =>
      rw [hresult] at ho
      rw [List.append_nil]
      exact .broken rest ho
    | ok completed =>
      rw [hresult] at ho
      -- The answer to the object decides whether the rest is streamed.
      simp only [acts_bind, run_bind, acts_handOver, run_handOver]
      cases wantsMore peer completed ((complete o).run peer start).2 with
      | false => exact .stopped rest ho
      | true => exact .continued ho (hrest _)

/-- A search for one object fails where it found none. -/
theorem exists_of_requireFound_eq_error {operand : Option Operand} {objects : List ManagedObject}
    {fault : Fault} (h : requireFound operand objects = .error fault) :
    ∃ o, operand = some o ∧ o.isKeyed = true ∧ objects = [] ∧ fault = .noResults o.value := by
  unfold requireFound at h
  split at h
  · next o =>
    split at h
    · next hkeyed =>
      rw [Bool.and_eq_true, List.isEmpty_iff] at hkeyed
      exact ⟨o, rfl, hkeyed.1, hkeyed.2, (Except.error.inj h).symm⟩
    · cases h
  · cases h

theorem ne_nil_of_requireFound_eq_ok {operand : Option Operand} {objects : List ManagedObject}
    (h : requireFound operand objects = .ok ()) (hkeyed : isKeyed operand = true) :
    objects ≠ [] := by
  rintro rfl
  cases operand with
  | none => cases hkeyed
  | some o =>
    have ho : o.isKeyed = true := hkeyed
    simp [requireFound, ho] at h

/-! ## Answers -/

theorem answers_of_requireFound_eq_error (s : Settings) {operand : Option Operand}
    {objects : List ManagedObject} {fault : Fault}
    (h : requireFound operand objects = .error fault) :
    Answers s operand objects [] (.error fault) := by
  obtain ⟨o, rfl, ho, hnil, rfl⟩ := exists_of_requireFound_eq_error h
  have hkeyed : isKeyed (some o) = true := ho
  refine ⟨fun hnot => ?_, fun o' ho' _ => ?_, fun _ _ => rfl, fun _ hne => absurd hnil hne⟩
  · rw [hkeyed] at hnot
    cases hnot
  · rw [← Option.some.inj ho']
    exact iff_of_true rfl hnil

/-- A search that is not for one object hands every object over as it is. -/
theorem answers_deliver_pure (s : Settings) {operand : Option Operand}
    (hkeyed : isKeyed operand = false) (objects : List ManagedObject) (start : σ) :
    Answers s operand objects ((deliver pure handOver objects).acts peer start)
      ((deliver pure handOver objects).run peer start).1 := by
  have hstream : Streams StaysBare objects ((deliver pure handOver objects).acts peer start)
      ((deliver pure handOver objects).run peer start).1 :=
    streams_deliver handsNothing_pure (fun _ _ _ => ⟨rfl, rfl⟩) start
  have hnot : isKeyed operand ≠ true := by simp [hkeyed]
  refine ⟨fun _ => ⟨hstream.of_staysBare.1, hstream.of_staysBare.2, hstream⟩, ?_,
    fun h => absurd h hnot, fun h => absurd h hnot⟩
  rintro o rfl ho
  exact absurd ho hnot

/-- A search for one object that found some completes each before it is handed over. -/
theorem Streams.answers {s : Settings} {operand : Option Operand} {objects : List ManagedObject}
    {acts : List Act} {result : Except Fault Unit}
    (h : Streams (Completes s) objects acts result) (hkeyed : isKeyed operand = true)
    (hne : objects ≠ []) : Answers s operand objects acts result := by
  refine ⟨fun hnot => ?_, fun o _ _ => ?_, fun _ hnil => absurd hnil hne, fun _ _ => h⟩
  · rw [hkeyed] at hnot
    cases hnot
  · exact iff_of_false (h.ne_noResults o.value) hne

/-! ## Reading once -/

/-- The command is the first thing sent. If it fails, that is the end. Once it has succeeded, either
nothing was found although it had to be, or all that is left to do is to hand over. -/
theorem Table.exists_acts_search {ρ : Type} (t : Table ρ) (s : Settings)
    {operand : Option Operand} {test : ρ → Bool} (htest : t.test operand = .ok test)
    (peer : Dialogue.Peer σ) (start : σ) :
    ∃ answer rest,
      (t.search s operand handOver).acts peer start =
        .sent ⟨t.reading operand, .read, answer⟩ :: rest ∧
      (∀ fault, Session.resultOf s.diagnostics .read "Could not read host database" "" answer =
          .error fault →
        rest = [] ∧ ((t.search s operand handOver).run peer start).1 = .error fault) ∧
      ∀ output, answer = .ok output → s.diagnostics.classify .read output = .success →
        (∃ fault, requireFound operand (t.objects test (t.dump output).rows) = .error fault ∧
          rest = [] ∧ ((t.search s operand handOver).run peer start).1 = .error fault) ∨
        requireFound operand (t.objects test (t.dump output).rows) = .ok () ∧ ∃ next,
          rest = (deliver (t.completion operand) handOver
            (t.objects test (t.dump output).rows)).acts peer next ∧
          ((t.search s operand handOver).run peer start).1 =
            ((deliver (t.completion operand) handOver
              (t.objects test (t.dump output).rows)).run peer next).1 := by
  obtain ⟨answer, hexchanges, hresult⟩ := exists_answer_run peer s.diagnostics (t.reading operand)
    .read "Could not read host database" "" start
  have hread : (Session.read s.diagnostics (t.reading operand)).acts peer start =
      [.sent ⟨t.reading operand, .read, answer⟩] := by
    rw [handsNothing_read]
    exact congrArg _ hexchanges
  unfold Table.search
  have hpure : Procedure.ofExcept id (.ok test : Except Fault (ρ → Bool)) = pure test := rfl
  rw [htest, hpure, pure_bind, acts_bind, hread]
  refine ⟨answer, _, rfl, fun fault hfault => ?_, fun output houtput hverdict => ?_⟩
  · have herror : ((Session.read s.diagnostics (t.reading operand)).run peer start).1 =
        .error fault := hresult.trans hfault
    rw [run_bind, herror]
    exact ⟨rfl, rfl⟩
  · have hok : ((Session.read s.diagnostics (t.reading operand)).run peer start).1 =
        .ok output := by
      refine hresult.trans ?_
      rw [houtput, Session.resultOf, hverdict]
      rfl
    have hrows : ∀ next, (Session.rows (t.dump output)).acts peer next = [] := by
      intro next
      rw [handsNothing_rows, (sendsNothing_rows _).exchanges_eq_nil, List.map_nil]
    simp only [run_bind, acts_bind, hok, hrows, run_rows, List.nil_append]
    cases hfound : requireFound operand (t.objects test (t.dump output).rows) with
    | error fault => exact .inl ⟨fault, rfl, rfl, rfl⟩
    | ok u => exact .inr ⟨rfl, _, rfl, rfl⟩

/-! ## Searches as streams -/

/-- The command that a search reads with. -/
def readingOf (c : ObjectClass) (operand : Option Operand) : Except Fault RemoteCommand :=
  match keyOf? operand with
  | some key => Recipe.find c key
  | none => Recipe.list c

/-- What completes the objects of a search. -/
def completion (s : Settings) (c : ObjectClass) (operand : Option Operand) :
    ManagedObject → Procedure ManagedObject :=
  match c with
  | .account => (accountTable s).completion operand
  | .group => (groupTable s).completion operand
  | .other _ => pure

/-- The table of a class is read with the commands of the class. -/
theorem Table.reading_eq {ρ : Type} (t : Table ρ) {c : ObjectClass} {operand : Option Operand}
    {command : RemoteCommand} (hfind : ∀ key, Recipe.find c key = .ok (t.find key))
    (hlist : Recipe.list c = .ok t.list) (h : readingOf c operand = .ok command) :
    t.reading operand = command := by
  unfold readingOf at h
  unfold Table.reading
  cases hkey : keyOf? operand with
  | none =>
    rw [hkey] at h
    exact Except.ok.inj (hlist.symm.trans h)
  | some key =>
    rw [hkey] at h
    exact Except.ok.inj ((hfind key).symm.trans h)

theorem accountTest_eq_ok {names : FieldNames} {operand : Option Operand}
    (h : IsSearchable names .account operand) :
    accountTest names operand = .ok (acceptsAccount names operand) := by
  unfold accountTest acceptsAccount
  cases operand with
  | none => rfl
  | some o =>
    obtain ⟨field, hfield⟩ := Option.isSome_iff_exists.mp (h o rfl)
    simp [hfield]

theorem groupTest_eq_ok {names : FieldNames} {operand : Option Operand}
    (h : IsSearchable names .group operand) :
    groupTest operand = .ok (acceptsGroup operand) := by
  unfold groupTest acceptsGroup
  cases operand with
  | none => rfl
  | some o => simp [h o rfl]

section

variable {s : Settings} {c : ObjectClass} {operand : Option Operand} {command : RemoteCommand}

/-- A search of a class that can be searched is the search of its table. -/
theorem exists_acts_searchOperand (hc : IsSearchable s.fieldNames c operand)
    (hcommand : readingOf c operand = .ok command) (peer : Dialogue.Peer σ) (start : σ) :
    ∃ answer rest,
      (searchOperand s c operand handOver).acts peer start =
        .sent ⟨command, .read, answer⟩ :: rest ∧
      (∀ fault, Session.resultOf s.diagnostics .read "Could not read host database" "" answer =
          .error fault →
        rest = [] ∧ ((searchOperand s c operand handOver).run peer start).1 = .error fault) ∧
      ∀ output, answer = .ok output → s.diagnostics.classify .read output = .success →
        (∃ fault, requireFound operand (found s c operand output) = .error fault ∧ rest = [] ∧
          ((searchOperand s c operand handOver).run peer start).1 = .error fault) ∨
        requireFound operand (found s c operand output) = .ok () ∧ ∃ next,
          rest = (deliver (completion s c operand) handOver (found s c operand output)).acts
            peer next ∧
          ((searchOperand s c operand handOver).run peer start).1 =
            ((deliver (completion s c operand) handOver (found s c operand output)).run
              peer next).1 := by
  cases c with
  | account =>
    obtain rfl := (accountTable s).reading_eq (fun _ => rfl) rfl hcommand
    exact (accountTable s).exists_acts_search s (accountTest_eq_ok hc) peer start
  | group =>
    obtain rfl := (groupTable s).reading_eq (fun _ => rfl) rfl hcommand
    exact (groupTable s).exists_acts_search s (groupTest_eq_ok hc) peer start
  | other what => exact hc.elim

/-- Where the host answers the one command that a search reads with, the verdict on the answer
decides. -/
theorem exists_acts_searchOperand_of_host {output : String}
    (hc : IsSearchable s.fieldNames c operand) (hcommand : readingOf c operand = .ok command)
    (hhost : ∀ state, (peer (.send command .read) state).1 = .ok output) (start : σ) :
    ∃ rest, (searchOperand s c operand handOver).acts peer start =
        .sent ⟨command, .read, .ok output⟩ :: rest ∧
      (∀ fault, Session.resultOf s.diagnostics .read "Could not read host database" ""
          (.ok output) = .error fault →
        rest = [] ∧ ((searchOperand s c operand handOver).run peer start).1 = .error fault) ∧
      (s.diagnostics.classify .read output = .success →
        (∃ fault, requireFound operand (found s c operand output) = .error fault ∧ rest = [] ∧
          ((searchOperand s c operand handOver).run peer start).1 = .error fault) ∨
        requireFound operand (found s c operand output) = .ok () ∧ ∃ next,
          rest = (deliver (completion s c operand) handOver (found s c operand output)).acts
            peer next ∧
          ((searchOperand s c operand handOver).run peer start).1 =
            ((deliver (completion s c operand) handOver (found s c operand output)).run
              peer next).1) := by
  obtain ⟨answer, rest, hacts, hfailed, hread⟩ :=
    exists_acts_searchOperand hc hcommand peer start
  obtain ⟨state, hstate⟩ := Dialogue.exists_answer_of_sent (hacts ▸ List.mem_cons_self ..)
  obtain rfl : .ok output = answer := (hhost state).symm.trans hstate
  exact ⟨rest, hacts, hfailed, hread output rfl⟩

theorem objectClass_of_mem_found {output : String} {o : ManagedObject}
    (h : o ∈ found s c operand output) : o.objectClass = c := by
  cases c with
  | account =>
    obtain ⟨r, -, rfl⟩ := List.mem_map.mp h
    rfl
  | group =>
    obtain ⟨r, -, rfl⟩ := List.mem_map.mp h
    rfl
  | other what => cases h

/-- Only a search for one object completes what it hands over. -/
theorem completion_of_not_keyed (h : isKeyed operand = false) : completion s c operand = pure := by
  cases c <;> simp [completion, Table.completion, h]

theorem completion_account (h : isKeyed operand = true) :
    completion s .account operand = completeAccount s :=
  if_pos h

theorem completion_group (h : isKeyed operand = true) :
    completion s .group operand = addRule s :=
  if_pos h

theorem handsNothing_completion (s : Settings) (c : ObjectClass) (operand : Option Operand)
    (o : ManagedObject) : (completion s c operand o).HandsNothing := by
  cases hkeyed : isKeyed operand with
  | false =>
    rw [completion_of_not_keyed hkeyed]
    exact handsNothing_pure o
  | true =>
    cases c with
    | account =>
      rw [completion_account hkeyed]
      exact handsNothing_completeAccount s o
    | group =>
      rw [completion_group hkeyed]
      exact handsNothing_addRule s o
    | other what => exact handsNothing_pure o

theorem completes_completion (hc : c.isSupported = true) (hkeyed : isKeyed operand = true)
    {o : ManagedObject} (ho : o.objectClass = c) (peer : Dialogue.Peer σ) (start : σ) :
    Completes s o ((completion s c operand o).exchanges peer start)
      ((completion s c operand o).run peer start).1 := by
  cases c with
  | account =>
    rw [completion_account hkeyed]
    exact completes_completeAccount s ho peer start
  | group =>
    rw [completion_group hkeyed]
    exact completes_addRule s ho peer start
  | other what => cases hc

end

theorem search_eq_searchOperand {s : Settings} {c : ObjectClass} {filter : Option Filter}
    {operand : Option Operand} (hfilter : operandOf filter = .ok operand)
    (hc : IsSearchable s.fieldNames c operand) :
    search s c filter handOver = searchOperand s c operand handOver := by
  unfold search
  rw [hfilter]
  cases c with
  | account => rfl
  | group => rfl
  | other what => exact hc.elim

theorem exists_readingOf {names : FieldNames} {c : ObjectClass} {operand : Option Operand}
    (hc : IsSearchable names c operand) : ∃ command, readingOf c operand = .ok command := by
  unfold readingOf
  cases c with
  | account => cases keyOf? operand <;> exact ⟨_, rfl⟩
  | group => cases keyOf? operand <;> exact ⟨_, rfl⟩
  | other what => exact hc.elim

/-- What a search reads with its command, it answers for. -/
theorem answers_searchOperand {s : Settings} {c : ObjectClass} {operand : Option Operand}
    {command : RemoteCommand} (hc : IsSearchable s.fieldNames c operand)
    (hcommand : readingOf c operand = .ok command) (peer : Dialogue.Peer σ) (start : σ) :
    ∃ answer rest, (searchOperand s c operand handOver).acts peer start =
        .sent ⟨command, .read, answer⟩ :: rest ∧
      ∀ output, answer = .ok output → s.diagnostics.classify .read output = .success →
        Answers s operand (found s c operand output) rest
          ((searchOperand s c operand handOver).run peer start).1 := by
  obtain ⟨answer, rest, hacts, -, hread⟩ := exists_acts_searchOperand hc hcommand peer start
  refine ⟨answer, rest, hacts, fun output houtput hverdict => ?_⟩
  rcases hread output houtput hverdict with
    ⟨fault, hfault, rfl, hresult⟩ | ⟨hok, next, rfl, hresult⟩
  · rw [hresult]
    exact answers_of_requireFound_eq_error s hfault
  · rw [hresult]
    cases hkeyed : isKeyed operand with
    | false =>
      rw [completion_of_not_keyed hkeyed]
      exact answers_deliver_pure s hkeyed _ next
    | true =>
      have hcompletes : ∀ o ∈ found s c operand output, ∀ start : σ, Completes s o
          ((completion s c operand o).exchanges peer start)
          ((completion s c operand o).run peer start).1 :=
        fun o ho => completes_completion hc.isSupported hkeyed (objectClass_of_mem_found ho) peer
      have hstream := streams_deliver (handsNothing_completion s c operand) hcompletes next
      exact hstream.answers hkeyed (ne_nil_of_requireFound_eq_ok hok hkeyed)

end HostAccounts.Provision
