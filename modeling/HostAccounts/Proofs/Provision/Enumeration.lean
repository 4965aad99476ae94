import HostAccounts.Proofs.Attribute
import HostAccounts.Proofs.Database.AccountRow
import HostAccounts.Proofs.Diagnostics.PlainSignature
import HostAccounts.Proofs.Provision.Stream
import Mathlib.Data.List.Forall2

/-!
# All accounts of a host

A search for all accounts hands over every account of the database. But the rows are judged by the
same signatures as what a failed command prints, so an account whose row sounds like a complaint
makes the search fail as a whole. Main statement: `search_enumerates`.
-/

set_option autoImplicit false

namespace HostAccounts

open Diagnostics (catalogue commonSignatures harmlessSignatures)

namespace Provision

open AttributeSet (entry?_insert_of_ne entry?_insert_self)
open Database (AccountRow)
open Procedure (acts_bind handsNothing_pure run_bind)

/-! ## Objects that tell a row -/

/-- The object tells the row under the names that the fields go by. Where two fields go by one name,
the home directory goes before the shell, and either before the comment. -/
structure Tells (names : FieldNames) (o : ManagedObject) (r : AccountRow) : Prop where
  objectClass : o.objectClass = .account
  uid : o.uid = r.username
  name : o.name = r.username
  homeDirectory : o.attributes.entry? names.homeDirectory =
    some ⟨names.homeDirectory, [.text r.homeDirectory]⟩
  shell : Text.sameIgnoringCase names.homeDirectory names.shell = false →
    o.attributes.entry? names.shell = some ⟨names.shell, [.text r.shell]⟩
  comment : Text.sameIgnoringCase names.homeDirectory names.comment = false →
    Text.sameIgnoringCase names.shell names.comment = false →
    o.attributes.entry? names.comment = some ⟨names.comment, [.text r.comment]⟩

theorem tells_accountObject (names : FieldNames) (r : AccountRow) :
    Tells names (accountObject names r) r where
  objectClass := rfl
  uid := rfl
  name := rfl
  homeDirectory := entry?_insert_self _ _ _
  shell hhome := (entry?_insert_of_ne _ _ hhome).trans (entry?_insert_self _ _ _)
  comment hhome hshell :=
    (entry?_insert_of_ne _ _ hhome).trans
      ((entry?_insert_of_ne _ _ hshell).trans (entry?_insert_self _ _ _))

/-! ## Rows that sound like complaints -/

/-- The line of the row holds what a failed command prints, and nothing that makes it harmless. -/
def soundsFailed (r : AccountRow) : Bool :=
  commonSignatures.any (Text.contains (Text.lower r.line)) &&
    !harmlessSignatures.any (Text.contains (Text.lower r.line))

theorem isBadLine_line (r : AccountRow) : (catalogue .read).isBadLine r.line = soundsFailed r :=
  rfl

/-- The dump of accounts that do not sound like complaints is taken for a success. -/
theorem classify_printed_eq_success {rows : List AccountRow} (hrows : ∀ r ∈ rows, r.IsWritable)
    (hsound : ∀ r ∈ rows, soundsFailed r = false) :
    (catalogue .read).classify (AccountRow.printed rows) = .success := by
  refine Diagnostics.Diagnostic.classify_eq_success Diagnostics.isPlain_catalogue_read ?_
  rw [AccountRow.lines_printed hrows]
  exact List.forall_mem_map.mpr fun r hr => (isBadLine_line r).trans (hsound r hr)

/-- One account that sounds like a complaint makes the whole dump one. -/
theorem exists_classify_printed_eq_failed {rows : List AccountRow}
    (hrows : ∀ r ∈ rows, r.IsWritable) {r : AccountRow} (hr : r ∈ rows)
    (hsound : soundsFailed r = true) :
    ∃ signature, (catalogue .read).classify (AccountRow.printed rows) = .failed signature := by
  have hline : r.line ∈ Text.lines (AccountRow.printed rows) := by
    rw [AccountRow.lines_printed hrows]
    exact List.mem_map_of_mem hr
  exact Diagnostics.Diagnostic.exists_classify_eq_failed Diagnostics.isPlain_catalogue_read hline
    ((isBadLine_line r).trans hsound)

/-! ## Handing over all accounts -/

variable {σ : Type} {peer : Dialogue.Peer σ}

/-- A receiver that always wants more is handed every object as it is. -/
theorem deliver_pure (hmore : ∀ o state, (peer (.deliver o) state).1 = true)
    (objects : List ManagedObject) (start : σ) :
    (deliver pure handOver objects).acts peer start = objects.map (Act.handed · true) ∧
      ((deliver pure handOver objects).run peer start).1 = .ok () := by
  induction objects generalizing start with
  | nil => exact ⟨rfl, rfl⟩
  | cons o rest ih =>
    have hwanted : wantsMore peer o start = true := hmore o start
    obtain ⟨hacts, hrun⟩ := ih (peer (.deliver o) start).2
    have hone : (deliver pure handOver (o :: rest)).acts peer start =
          .handed o true :: (deliver pure handOver rest).acts peer (peer (.deliver o) start).2 ∧
        ((deliver pure handOver (o :: rest)).run peer start).1 =
          ((deliver pure handOver rest).run peer (peer (.deliver o) start).2).1 := by
      rw [deliver, pure_bind, acts_bind, run_bind, acts_handOver, run_handOver, hwanted]
      exact ⟨rfl, rfl⟩
    exact ⟨by rw [hone.1, hacts, List.map_cons], hone.2.trans hrun⟩

/-! ## All accounts -/

/-- Without an operand every row counts. -/
theorem found_all (s : Settings) (output : String) :
    found s .account none output =
      (AccountRow.dump output).rows.map (accountObject s.fieldNames) := by
  have hall : (AccountRow.dump output).rows.filter (acceptsAccount s.fieldNames none) =
      (AccountRow.dump output).rows := List.filter_eq_self.mpr fun _ _ => rfl
  rw [found, hall]

/-- The round trip that reads all accounts. -/
def listing (rows : List AccountRow) : Exchange :=
  ⟨Recipe.listAccounts, .read, .ok (AccountRow.printed rows)⟩

section

variable {s : Settings} {rows : List AccountRow}

/-- The host prints its accounts, so the search starts with them, and goes on as they are judged. -/
theorem exists_acts_search_all
    (hhost : ∀ state, (peer (.send Recipe.listAccounts .read) state).1 =
      .ok (AccountRow.printed rows)) (start : σ) :
    ∃ rest, (search s .account none handOver).acts peer start = .sent (listing rows) :: rest ∧
      (∀ fault, Session.resultOf s.diagnostics .read "Could not read host database" ""
          (.ok (AccountRow.printed rows)) = .error fault →
        rest = [] ∧ ((search s .account none handOver).run peer start).1 = .error fault) ∧
      (s.diagnostics.classify .read (AccountRow.printed rows) = .success → ∃ next,
        rest = (deliver pure handOver ((AccountRow.dump (AccountRow.printed rows)).rows.map
          (accountObject s.fieldNames))).acts peer next ∧
        ((search s .account none handOver).run peer start).1 =
          ((deliver pure handOver ((AccountRow.dump (AccountRow.printed rows)).rows.map
            (accountObject s.fieldNames))).run peer next).1) := by
  have hsearchable : IsSearchable s.fieldNames .account none := fun o ho => by cases ho
  obtain ⟨rest, hacts, hfailed, hread⟩ :=
    exists_acts_searchOperand_of_host hsearchable rfl hhost start
  rw [found_all] at hread
  rw [search_eq_searchOperand rfl hsearchable]
  refine ⟨rest, hacts, hfailed, fun hsuccess => ?_⟩
  rcases hread hsuccess with ⟨fault, hfault, -⟩ | ⟨-, hdelivered⟩
  · cases hfault
  · exact hdelivered

theorem search_all_of_sound (hd : s.diagnostics.entry .read = catalogue .read)
    (hrows : ∀ r ∈ rows, r.IsWritable)
    (hhost : ∀ state, (peer (.send Recipe.listAccounts .read) state).1 =
      .ok (AccountRow.printed rows))
    (hmore : ∀ o state, (peer (.deliver o) state).1 = true)
    (hsound : ∀ r ∈ rows, soundsFailed r = false) (start : σ) :
    ((search s .account none handOver).run peer start).1 = .ok () ∧
      (search s .account none handOver).acts peer start = .sent (listing rows) ::
        (rows.map (accountObject s.fieldNames)).map (Act.handed · true) := by
  obtain ⟨rest, hacts, -, hread⟩ := exists_acts_search_all (s := s) hhost start
  have hsuccess : s.diagnostics.classify .read (AccountRow.printed rows) = .success := by
    rw [Diagnostics.Overrides.classify, hd]
    exact classify_printed_eq_success hrows hsound
  obtain ⟨next, hrest, hresult⟩ := hread hsuccess
  rw [AccountRow.dump_printed hrows] at hrest hresult
  obtain ⟨hdelivered, hreturned⟩ := deliver_pure hmore (rows.map (accountObject s.fieldNames)) next
  exact ⟨hresult.trans hreturned, by rw [hacts, hrest, hdelivered]⟩

theorem search_all_of_soundsFailed (hd : s.diagnostics.entry .read = catalogue .read)
    (hrows : ∀ r ∈ rows, r.IsWritable)
    (hhost : ∀ state, (peer (.send Recipe.listAccounts .read) state).1 =
      .ok (AccountRow.printed rows))
    {r : AccountRow} (hr : r ∈ rows) (hsound : soundsFailed r = true) (start : σ) :
    ((search s .account none handOver).run peer start).1 =
        .error (.commandFailed "Could not read host database"
          (Text.trim (AccountRow.printed rows))) ∧
      (search s .account none handOver).acts peer start = [.sent (listing rows)] := by
  obtain ⟨rest, hacts, hfailed, -⟩ := exists_acts_search_all (s := s) hhost start
  obtain ⟨signature, hverdict⟩ := exists_classify_printed_eq_failed hrows hr hsound
  obtain ⟨hrest, hresult⟩ := hfailed
    (.commandFailed "Could not read host database" (Text.trim (AccountRow.printed rows))) (by
      rw [Session.resultOf, Diagnostics.Overrides.classify, hd, hverdict]
      rfl)
  exact ⟨hresult, by rw [hacts, hrest]⟩

/-- On a host that prints its accounts as they are, and with a receiver that wants them all, the
search hands over every account in its place, and returns. If there is an account that sounds like
a complaint, it hands over none and ends in a failure of the read. -/
theorem search_enumerates (hd : s.diagnostics.entry .read = catalogue .read)
    (hrows : ∀ r ∈ rows, r.IsWritable)
    (hhost : ∀ state, (peer (.send Recipe.listAccounts .read) state).1 =
      .ok (AccountRow.printed rows))
    (hmore : ∀ o state, (peer (.deliver o) state).1 = true) (start : σ) :
    ((∀ r ∈ rows, soundsFailed r = false) →
      ((search s .account none handOver).run peer start).1 = .ok () ∧
      ∃ objects, List.Forall₂ (Tells s.fieldNames) objects rows ∧
        (search s .account none handOver).acts peer start =
          .sent (listing rows) :: objects.map (Act.handed · true)) ∧
    ∀ r ∈ rows, soundsFailed r = true →
      ((search s .account none handOver).run peer start).1 =
          .error (.commandFailed "Could not read host database"
            (Text.trim (AccountRow.printed rows))) ∧
        (search s .account none handOver).acts peer start = [.sent (listing rows)] := by
  refine ⟨fun hsound => ?_, fun r hr hsound => ?_⟩
  · obtain ⟨hreturned, hacts⟩ := search_all_of_sound hd hrows hhost hmore hsound start
    refine ⟨hreturned, rows.map (accountObject s.fieldNames), ?_, hacts⟩
    rw [List.forall₂_map_left_iff]
    exact List.forall₂_same.mpr fun r _ => tells_accountObject s.fieldNames r
  · exact search_all_of_soundsFailed hd hrows hhost hr hsound start

end

/-- Settings for a session of root, with the catalogue as it is. -/
def rootSettings : Settings where
  elevation := { root := true }

/-- A host that prints the accounts. -/
def databaseHost (rows : List AccountRow) : Dialogue.Peer Unit :=
  steadyHost
    { script := { workingHost.script with
        replies := [("getent passwd", AccountRow.printed rows)] } }

theorem databaseHost_send (rows : List AccountRow) (state : Unit) :
    (databaseHost rows (.send Recipe.listAccounts .read) state).1 =
      .ok (AccountRow.printed rows) :=
  rfl

def quietRows : List AccountRow :=
  [⟨"root", 0, 0, "root", "/root", "/bin/bash"⟩, ⟨"svc1", 1001, 1001, "", "/srv", ""⟩]

/-- The two accounts are handed over one after the other. -/
theorem search_enumerates_quietRows :
    (∀ r ∈ quietRows, r.IsWritable ∧ soundsFailed r = false) ∧
      ((search rootSettings .account none handOver).run (databaseHost quietRows) ()).1 = .ok () ∧
      ∃ objects, List.Forall₂ (Tells {}) objects quietRows ∧
        (search rootSettings .account none handOver).acts (databaseHost quietRows) () =
          .sent (listing quietRows) :: objects.map (Act.handed · true) := by
  have hrows : ∀ r ∈ quietRows, r.IsWritable ∧ soundsFailed r = false := by decide +kernel
  have hsearch := search_enumerates (s := rootSettings) rfl (fun r hr => (hrows r hr).1)
    (databaseHost_send quietRows) (fun _ _ => rfl) ()
  exact ⟨hrows, hsearch.1 fun r hr => (hrows r hr).2⟩

/-- The comment of an account can be a complaint by its wording. -/
def complainingRow : AccountRow :=
  ⟨"svc1", 1001, 1001, "permission denied", "/home/svc1", "/bin/sh"⟩

/-- Not every account of a host can be told, not even where it is the only one. -/
theorem not_search_enumerates :
    ¬ ∀ (rows : List AccountRow) (peer : Dialogue.Peer Unit), (∀ r ∈ rows, r.IsWritable) →
      (∀ state, (peer (.send Recipe.listAccounts .read) state).1 =
        .ok (AccountRow.printed rows)) →
      (∀ o state, (peer (.deliver o) state).1 = true) →
      ((search rootSettings .account none handOver).run peer ()).1 = .ok () := by
  intro h
  have hrows : ∀ r ∈ [complainingRow], r.IsWritable := by decide +kernel
  have hsound : soundsFailed complainingRow = true := by decide +kernel
  have hok := h [complainingRow] (databaseHost [complainingRow]) hrows
    (databaseHost_send [complainingRow]) fun _ _ => rfl
  have hfailed := search_all_of_soundsFailed (s := rootSettings) rfl hrows
    (databaseHost_send [complainingRow]) (List.mem_singleton_self _) hsound ()
  rw [hok] at hfailed
  cases hfailed.1

end Provision

end HostAccounts
