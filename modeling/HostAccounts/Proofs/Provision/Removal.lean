import HostAccounts.Proofs.Provision.KeyedSearch

/-!
# Removals and their lookup

A removal looks its target up first, as a change and a search for one object do. These two look for
a row of the name in what the lookup prints; the removal only looks whether anything was printed.
The difference shows where a host prints something else, such as a row that it found under a number.
Main statement: `removal_follows_lookup_iff`.
-/

set_option autoImplicit false

namespace HostAccounts

open Diagnostics (Operation Overrides)

/-! ## Rows of a name -/

namespace Database

variable {ρ : Type} {read : String → Except RowDefect ρ} {name : ρ → String} {v output : String}

theorem exists_isRowOf_iff : (∃ line ∈ Text.lines output, isRowOf read name v line = true) ↔
    ∃ r ∈ (readDump read output).rows, name r = v := by
  rw [readDump, rows_readLines]
  simp only [isRowOf, Option.any_eq_true, beq_iff_eq, List.mem_filterMap]
  constructor
  · rintro ⟨line, hline, r, hr, hname⟩
    exact ⟨r, ⟨line, hline, hr⟩, hname⟩
  · rintro ⟨r, ⟨line, hline, hr⟩, hname⟩
    exact ⟨line, hline, r, hr, hname⟩

/-- A blank line is no row. -/
theorem isBlankText_of_isRowOf {line : String} (h : isRowOf read name v line = true) :
    Text.isBlankText line = false := by
  rw [isRowOf, rowIn?] at h
  cases hblank : Text.isBlankText line with
  | false => rfl
  | true =>
    rw [hblank] at h
    cases h

end Database

/-! ## Lookups that decide -/

namespace Session

variable {d : Overrides} {β σ : Type}

/-- Only an answer that is taken for a success is gone on with. -/
theorem of_resultOf_eq_ok {operation : Operation} {failure target output : String}
    {answer : Except TransportFault String}
    (h : resultOf d operation failure target answer = .ok output) :
    answer = .ok output ∧ d.classify operation output = .success := by
  cases answer with
  | error fault => cases h
  | ok printed =>
    rw [resultOf] at h
    cases hverdict : d.classify operation printed with
    | success =>
      rw [hverdict] at h
      obtain rfl := Except.ok.inj h
      exact ⟨rfl, hverdict⟩
    | _ => rw [hverdict] at h; cases h

/-- What begins with a lookup ends with its fault, or goes on with what it printed. -/
theorem cases_read_bind (peer : Dialogue.Peer σ) (d : Overrides) (command : RemoteCommand)
    (f : String → Procedure β) (start : σ) :
    ∃ answer, (∃ fault,
        resultOf d .read "Could not read host database" "" answer = .error fault ∧
        Procedure.exchanges peer (read d command >>= f) start = [⟨command, .read, answer⟩] ∧
        (Procedure.run peer (read d command >>= f) start).1 = .error fault) ∨
      ∃ output next, answer = .ok output ∧ d.classify .read output = .success ∧
        Procedure.exchanges peer (read d command >>= f) start =
          ⟨command, .read, .ok output⟩ :: (f output).exchanges peer next ∧
        (Procedure.run peer (read d command >>= f) start).1 = ((f output).run peer next).1 := by
  obtain ⟨answer, hexchanges, hresult⟩ :=
    exists_answer_run peer d command .read "Could not read host database" "" start
  rw [← read] at hexchanges hresult
  rcases Procedure.cases_run_bind peer (read d command) f start with
    ⟨fault, hfault, hrun, hsent⟩ | ⟨output, houtput, hrun, hsent⟩
  · exact ⟨answer, .inl ⟨fault, hresult.symm.trans hfault, hsent.trans hexchanges, hrun⟩⟩
  · obtain ⟨rfl, hread⟩ := of_resultOf_eq_ok (hresult.symm.trans houtput)
    exact ⟨_, .inr ⟨output, _, rfl, hread, by rw [hsent, hexchanges]; rfl, by rw [hrun]⟩⟩

end Session

namespace Provision

open Database (AccountRow GroupRow exists_isRowOf_iff isBlankText_of_isRowOf)
open Session (resultOf)

variable {s : Settings} {c : ObjectClass} {uid output : String}

/-- The object stands in the output of a lookup: one of its lines is a row of that name. -/
def Lists (c : ObjectClass) (uid output : String) : Prop :=
  ∃ line ∈ Text.lines output, isRowIn c uid line = true

theorem isBlankText_of_lists (h : Lists c uid output) : Text.isBlankText output = false := by
  obtain ⟨line, hline, hrow⟩ := h
  have hsolid : Text.isBlankText line = false := by
    cases c with
    | account => exact isBlankText_of_isRowOf hrow
    | group => exact isBlankText_of_isRowOf hrow
    | other what => cases hrow
  refine Bool.eq_false_iff.mpr fun hblank => Bool.eq_false_iff.mp hsolid ?_
  exact List.all_eq_true.mpr fun d hd =>
    List.all_eq_true.mp hblank d (Text.mem_of_mem_lines hline hd)

/-! ## The other two that look for one object -/

/-- What a search by a name finds in the output is nothing exactly if the object does not stand
there. -/
theorem found_nameIs_eq_nil_iff {field : String} (h : (nameIs field uid).isPrimaryKey = true) :
    found s c (some (nameIs field uid)) output = [] ↔ ¬ Lists c uid output := by
  cases c with
  | account =>
    have hrows : Lists .account uid output ↔
        ∃ r ∈ (AccountRow.dump output).rows, r.username = uid := exists_isRowOf_iff
    rw [hrows, found, acceptsAccount_nameIs h, List.map_eq_nil_iff, List.filter_eq_nil_iff]
    simp
  | group =>
    have hrows : Lists .group uid output ↔
        ∃ r ∈ (GroupRow.dump output).rows, r.groupname = uid := exists_isRowOf_iff
    rw [hrows, found, acceptsGroup_nameIs, List.map_eq_nil_iff, List.filter_eq_nil_iff]
    simp
  | other what => simp [found, Lists, isRowIn]

/-- A search by a name takes the object for missing exactly if it does not stand in what the lookup
printed. -/
theorem search_misses_iff (hc : c.isSupported = true) {field : String}
    (h : (nameIs field uid).isPrimaryKey = true) {lookup : RemoteCommand}
    (hlookup : Recipe.find c uid = .ok lookup) {σ : Type} (peer : Dialogue.Peer σ) (start : σ) :
    ∃ answer rest, (search s c (some (.compare field .equal uid)) handOver).acts peer start =
        .sent ⟨lookup, .read, answer⟩ :: rest ∧
      ∀ output, answer = .ok output → s.diagnostics.classify .read output = .success →
        (((search s c (some (.compare field .equal uid)) handOver).run peer start).1 =
            .error (.noResults uid) ↔ ¬ Lists c uid output) := by
  have hsearchable := isSearchable_nameIs s.fieldNames hc h
  have hreading : readingOf c (some (nameIs field uid)) = .ok lookup := by
    rw [readingOf, keyOf?_nameIs h]
    exact hlookup
  obtain ⟨answer, rest, hacts, hanswers⟩ := answers_searchOperand hsearchable hreading peer start
  rw [search_eq_searchOperand rfl hsearchable]
  refine ⟨answer, rest, hacts, fun output houtput hread => ?_⟩
  have hkeyed : (nameIs field uid).isKeyed = true := isKeyed_nameIs h
  exact ((hanswers output houtput hread).missing _ rfl hkeyed).trans (found_nameIs_eq_nil_iff h)

theorem sendsNothing_rowNamed (uid output : String) : (rowNamed uid output).SendsNothing := by
  refine (Session.sendsNothing_rows _).bind fun rows => ?_
  split
  · exact Procedure.sendsNothing_pure _
  · exact Procedure.sendsNothing_throw _

/-- There is none exactly if the account does not stand there. -/
theorem run_rowNamed_iff (uid output : String) {σ : Type} (peer : Dialogue.Peer σ) (start : σ) :
    ((rowNamed uid output).run peer start).1 = .error (.unknownTarget uid) ↔
      ¬ Lists .account uid output := by
  have hrows : Lists .account uid output ↔
      ∃ r ∈ (AccountRow.dump output).rows, r.username = uid := exists_isRowOf_iff
  rw [hrows, rowNamed, Procedure.run_bind, Session.run_rows]
  cases hfind : (AccountRow.dump output).rows.find? fun r => r.username = uid with
  | none =>
    simp only [hfind]
    exact iff_of_true rfl (by simpa using List.find?_eq_none.mp hfind)
  | some row =>
    have hname : row.username = uid := by simpa using List.find?_some hfind
    simp only [hfind]
    exact iff_of_false nofun (not_not_intro ⟨row, List.mem_of_find?_eq_some hfind, hname⟩)

/-- A change takes the account for missing exactly if it does not stand in what the lookup
printed. -/
theorem fetchAccount_misses_iff (s : Settings) (uid : String) {σ : Type} (peer : Dialogue.Peer σ)
    (start : σ) :
    ∃ answer, (fetchAccount s uid).exchanges peer start =
        [⟨Recipe.findAccount uid, .read, answer⟩] ∧
      ∀ output, answer = .ok output → s.diagnostics.classify .read output = .success →
        (((fetchAccount s uid).run peer start).1 = .error (.unknownTarget uid) ↔
          ¬ Lists .account uid output) := by
  unfold fetchAccount
  obtain ⟨answer, ⟨fault, hfault, hexchanges, -⟩ | ⟨output, next, rfl, -, hexchanges, hrun⟩⟩ :=
    Session.cases_read_bind peer s.diagnostics (Recipe.findAccount uid) (rowNamed uid) start
  · refine ⟨answer, hexchanges, fun output houtput hread => ?_⟩
    rw [houtput, resultOf, hread] at hfault
    cases hfault
  · rw [(sendsNothing_rowNamed uid output).exchanges_eq_nil] at hexchanges
    refine ⟨_, hexchanges, fun output' houtput _ => ?_⟩
    obtain rfl := Except.ok.inj houtput
    rw [hrun]
    exact run_rowNamed_iff uid output peer next

/-! ## Removals -/

/-- A removal goes by whether its target stands in what the lookup printed: it is removed if it
does, and otherwise the removal ends with the lookup, for want of the target or because the lookup
failed. -/
inductive GoesByLookup (s : Settings) (c : ObjectClass) (uid : String) (removal : Removal) :
    List Exchange → Except Fault Unit → Prop where
  | removed {output : String} (answer : Except TransportFault String)
    (hread : s.diagnostics.classify .read output = .success) (hlisted : Lists c uid output) :
    GoesByLookup s c uid removal
      [⟨removal.lookup, .read, .ok output⟩, ⟨removal.command, removal.operation, answer⟩]
      ((resultOf s.diagnostics removal.operation removal.failure uid answer).map fun _ => ())
  | missing {output : String} (hread : s.diagnostics.classify .read output = .success)
    (hlisted : ¬ Lists c uid output) :
    GoesByLookup s c uid removal [⟨removal.lookup, .read, .ok output⟩]
      (.error (.unknownTarget uid))
  | unread {answer : Except TransportFault String} {fault : Fault}
    (hfault : resultOf s.diagnostics .read "Could not read host database" "" answer =
      .error fault) :
    GoesByLookup s c uid removal [⟨removal.lookup, .read, answer⟩] (.error fault)

/-- Where something is sent after the lookup, the target stood in what the lookup printed. -/
theorem GoesByLookup.lists {removal : Removal} {first second : Exchange}
    {result : Except Fault Unit} (h : GoesByLookup s c uid removal [first, second] result)
    (hfirst : first.answer = .ok output) : Lists c uid output := by
  cases h with
  | removed answer hread hlisted =>
    obtain rfl := Except.ok.inj hfirst
    exact hlisted

/-- Once the target was found, the removal is one round trip. -/
theorem exists_answer_carryOutRemoval (s : Settings) (c : ObjectClass) (uid : String)
    (removal : Removal) {found : String} (hfound : Text.isBlankText found = false) {σ : Type}
    (peer : Dialogue.Peer σ) (start : σ) :
    ∃ answer, (carryOutRemoval s c uid removal found).exchanges peer start =
        [⟨removal.command, removal.operation, answer⟩] ∧
      ((carryOutRemoval s c uid removal found).run peer start).1 =
        (resultOf s.diagnostics removal.operation removal.failure uid answer).map fun _ => () := by
  obtain ⟨answer, hexchanges, hresult⟩ := Session.exists_answer_discard peer s.diagnostics
    removal.command removal.operation removal.failure uid (peer (.tell (.deleting c uid)) start).2
  rw [carryOutRemoval_of_found hfound]
  refine ⟨answer, ?_, ?_⟩
  · rw [Procedure.exchanges_bind]
    exact hexchanges
  · rw [Procedure.run_bind]
    exact hresult

theorem exists_composeRemoval (s : Settings) (hc : c.isSupported = true) (uid : String) :
    ∃ removal, composeRemoval s c uid = .ok removal ∧ Recipe.find c uid = .ok removal.lookup := by
  cases c with
  | account => exact ⟨_, rfl, rfl⟩
  | group => exact ⟨_, rfl, rfl⟩
  | other what => cases hc

/-- What a removal does that is not turned down. -/
theorem delete_of_checked (s : Settings) {removal : Removal}
    (hname : checkName AttributeName.uid uid = .ok ())
    (hremoval : composeRemoval s c uid = .ok removal) :
    delete s c uid =
      Session.read s.diagnostics removal.lookup >>= carryOutRemoval s c uid removal := by
  have huid : requireUid uid = .ok uid := by
    rw [requireUid, hname]
    rfl
  rw [delete, huid]
  exact congrArg (fun x => Procedure.ofExcept id x >>= fun removal =>
    Session.read s.diagnostics removal.lookup >>= carryOutRemoval s c uid removal) hremoval

/-- The target is removed exactly if the lookup succeeded and did not print a blank text. So the
removal goes by whether the target stands there exactly if nothing else is printed. -/
theorem delete_goes_by_lookup_iff (s : Settings) {removal : Removal}
    (hname : checkName AttributeName.uid uid = .ok ())
    (hremoval : composeRemoval s c uid = .ok removal) {σ : Type} (peer : Dialogue.Peer σ)
    (start : σ) :
    ∃ answer rest, (delete s c uid).exchanges peer start =
        ⟨removal.lookup, .read, answer⟩ :: rest ∧
      (rest ≠ [] ↔ ∃ output, answer = .ok output ∧
        s.diagnostics.classify .read output = .success ∧ Text.isBlankText output = false) ∧
      (GoesByLookup s c uid removal ((delete s c uid).exchanges peer start)
          ((delete s c uid).run peer start).1 ↔
        ∀ output, answer = .ok output → s.diagnostics.classify .read output = .success →
          Text.isBlankText output = false → Lists c uid output) := by
  rw [delete_of_checked s hname hremoval]
  obtain ⟨answer, ⟨fault, hfault, hexchanges, hrun⟩ |
      ⟨output, next, rfl, hread, hexchanges, hrun⟩⟩ :=
    Session.cases_read_bind peer s.diagnostics removal.lookup
      (carryOutRemoval s c uid removal) start
  · have hunread : ∀ output, answer = .ok output →
        s.diagnostics.classify .read output ≠ .success := by
      rintro output rfl hread
      rw [resultOf, hread] at hfault
      cases hfault
    refine ⟨answer, [], hexchanges, ?_, ?_⟩
    · refine iff_of_false (fun h => h rfl) ?_
      rintro ⟨output, houtput, hread, -⟩
      exact hunread output houtput hread
    · rw [hexchanges, hrun]
      exact iff_of_true (.unread hfault) fun output houtput hread =>
        absurd hread (hunread output houtput)
  · refine ⟨.ok output, _, hexchanges, ?_⟩
    rw [hexchanges, hrun]
    simp only [Except.ok.injEq, exists_eq_left', forall_eq', hread, true_and, forall_const]
    cases hblank : Text.isBlankText output with
    | true =>
      rw [carryOutRemoval_of_blank hblank]
      refine ⟨iff_of_false (fun h => h rfl) (by simp), iff_of_true ?_ (by simp)⟩
      refine .missing hread fun hlisted => ?_
      rw [isBlankText_of_lists hlisted] at hblank
      cases hblank
    | false =>
      obtain ⟨answer, hsent, hresult⟩ :=
        exists_answer_carryOutRemoval s c uid removal hblank peer next
      rw [hsent, hresult]
      refine ⟨iff_of_true (List.cons_ne_nil _ _) rfl, fun h _ => h.lists rfl, fun hlisted => ?_⟩
      exact .removed answer hread (hlisted rfl)

/-- The test for its target that a removal makes, beside those of the other two operations that
look for one object. All send the same lookup first. A search by the name and a change take the
object for missing exactly if it does not stand in what the lookup printed. A removal goes by the
same exactly if the lookup does not print something else; it removes its target whatever is printed
but blanks. An identifier that is no name is turned down with nothing sent. -/
theorem removal_follows_lookup_iff (s : Settings) (hc : c.isSupported = true) (uid : String) :
    ∃ removal, composeRemoval s c uid = .ok removal ∧ Recipe.find c uid = .ok removal.lookup ∧
    (∀ {σ : Type} (peer : Dialogue.Peer σ) (start : σ),
      (checkName AttributeName.uid uid ≠ .ok () →
        (delete s c uid).exchanges peer start = [] ∧
        ∃ defect, ((delete s c uid).run peer start).1 = .error (.invalidArgument defect)) ∧
      (checkName AttributeName.uid uid = .ok () →
        ∃ answer rest, (delete s c uid).exchanges peer start =
            ⟨removal.lookup, .read, answer⟩ :: rest ∧
          (rest ≠ [] ↔ ∃ output, answer = .ok output ∧
            s.diagnostics.classify .read output = .success ∧ Text.isBlankText output = false) ∧
          (GoesByLookup s c uid removal ((delete s c uid).exchanges peer start)
              ((delete s c uid).run peer start).1 ↔
            ∀ output, answer = .ok output → s.diagnostics.classify .read output = .success →
              Text.isBlankText output = false → Lists c uid output))) ∧
    (∀ (field : String) {σ : Type} (peer : Dialogue.Peer σ) (start : σ),
      (nameIs field uid).isPrimaryKey = true →
      ∃ answer rest, (search s c (some (.compare field .equal uid)) handOver).acts peer start =
          .sent ⟨removal.lookup, .read, answer⟩ :: rest ∧
        ∀ output, answer = .ok output → s.diagnostics.classify .read output = .success →
          (((search s c (some (.compare field .equal uid)) handOver).run peer start).1 =
            .error (.noResults uid) ↔ ¬ Lists c uid output)) ∧
    (c = .account → ∀ {σ : Type} (peer : Dialogue.Peer σ) (start : σ),
      ∃ answer, (fetchAccount s uid).exchanges peer start =
          [⟨removal.lookup, .read, answer⟩] ∧
        ∀ output, answer = .ok output → s.diagnostics.classify .read output = .success →
          (((fetchAccount s uid).run peer start).1 = .error (.unknownTarget uid) ↔
            ¬ Lists .account uid output)) := by
  obtain ⟨removal, hremoval, hlookup⟩ := exists_composeRemoval s hc uid
  refine ⟨removal, hremoval, hlookup, fun peer start => ⟨fun hname => ?_, fun hname => ?_⟩,
    fun field _ peer start hfield => search_misses_iff hc hfield hlookup peer start, ?_⟩
  · cases hcheck : checkName AttributeName.uid uid with
    | ok u => exact absurd hcheck hname
    | error defect =>
      have huid : requireUid uid = .error (.invalidArgument defect) := by
        rw [requireUid, hcheck]
        rfl
      rw [delete, huid]
      exact ⟨rfl, defect, rfl⟩
  · exact delete_goes_by_lookup_iff s hname hremoval peer start
  · rintro rfl σ peer start
    have hcommand : Recipe.findAccount uid = removal.lookup := Except.ok.inj hlookup
    rw [← hcommand]
    exact fetchAccount_misses_iff s uid peer start

/-- The account is removed once its rows were found. -/
theorem removal_follows_lookup_iff_double :
    ∃ removal, composeRemoval rootSettings .account "svc1" = .ok removal ∧
      GoesByLookup rootSettings .account "svc1" removal
        ((delete rootSettings .account "svc1").exchanges doubleHost ())
        ((delete rootSettings .account "svc1").run doubleHost ()).1 := by
  obtain ⟨removal, hremoval, -, hdelete, -⟩ :=
    removal_follows_lookup_iff (c := .account) rootSettings rfl "svc1"
  obtain ⟨answer, rest, hexchanges, -, hgoes⟩ := (hdelete doubleHost ()).2 rfl
  refine ⟨removal, hremoval, hgoes.mpr fun output houtput _ _ => ?_⟩
  have hfirst : ((delete rootSettings .account "svc1").exchanges doubleHost ()).head?.map
      Exchange.answer = some (.ok doubleRows) := rfl
  rw [hexchanges, houtput] at hfirst
  obtain rfl : output = doubleRows := by simpa using hfirst
  exact ⟨"svc1:x:1:1:one:/:", by decide +kernel, by decide +kernel⟩

/-- What a host prints that finds an account of another name under a number. -/
def numberedRow : String :=
  "svc1:x:1001:1001::/home/svc1:/bin/sh\n"

def numberHost : Dialogue.Peer Unit :=
  steadyHost
    { script := { workingHost.script with replies := [("getent passwd 1001", numberedRow)] } }

/-- There is no account by the name of its number, and yet one is removed. -/
theorem not_removal_follows_lookup :
    ¬ ∀ (s : Settings) (c : ObjectClass) (uid : String) (removal : Removal)
        (peer : Dialogue.Peer Unit),
      s.check = .ok () → checkName AttributeName.uid uid = .ok () →
      composeRemoval s c uid = .ok removal →
      GoesByLookup s c uid removal ((delete s c uid).exchanges peer ())
        ((delete s c uid).run peer ()).1 := by
  intro h
  obtain ⟨removal, hremoval⟩ :
      ∃ removal, composeRemoval rootSettings .account "1001" = .ok removal := ⟨_, rfl⟩
  obtain ⟨answer, rest, hexchanges, -, hgoes⟩ :=
    delete_goes_by_lookup_iff rootSettings rfl hremoval numberHost ()
  have hfirst : ((delete rootSettings .account "1001").exchanges numberHost ()).head?.map
      Exchange.answer = some (.ok numberedRow) := rfl
  rw [hexchanges] at hfirst
  have hanswer : answer = .ok numberedRow := by simpa using hfirst
  obtain ⟨line, hline, hrow⟩ := hgoes.mp (h _ _ _ _ _ rfl rfl hremoval) numberedRow hanswer
    (by decide +kernel) (by decide +kernel)
  have hlines : Text.lines numberedRow = ["svc1:x:1001:1001::/home/svc1:/bin/sh"] := by
    decide +kernel
  rw [hlines] at hline
  obtain rfl := List.mem_singleton.mp hline
  exact absurd hrow (by decide +kernel)

end Provision

end HostAccounts
