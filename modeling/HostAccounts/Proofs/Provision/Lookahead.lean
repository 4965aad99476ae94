import HostAccounts.Proofs.Provision.Sending
import HostAccounts.Proofs.Recipe.AccountUpdate

/-!
# What a change looks up

What to look up is decided on other grounds than what to compose: by whether attributes come with
values, and not by what their texts are. It is nevertheless decided well. All that the script of a
change depends on has been looked up before anything is changed, so that no row is missing, no key
is written to a home that is only assumed, and no membership is given up that was not found. Main
statement: `updateAccount_looks_ahead`.
-/

set_option autoImplicit false

namespace HostAccounts

open Database (AccountRow GroupRow)
open Recipe (keyDirectory keyFile)

/-! ## What is needed -/

namespace Settings

/-- The settings with another directory to assume homes in. -/
def withBase (s : Settings) (base : String) : Settings :=
  { s with accounts := { s.accounts with baseHomeDirectory := base } }

end Settings

namespace AccountUpdate

/-- The home directory that is known of the account after the change. -/
def knownHome? (s : Settings) (u : AccountUpdate) : Option String :=
  (u.suppliedHome? s).or (u.currentRow.map AccountRow.homeDirectory)

theorem homeAfter_of_knownHome? {s : Settings} {u : AccountUpdate} {home : String}
    (h : u.knownHome? s = some home) : u.homeAfter s = home := by
  rw [homeAfter, show (u.suppliedHome? s).or _ = some home from h, Option.getD_some]

/-- The row of the account is needed to rename its group, to move its home, and to find its keys. -/
def DependsOnRow (s : Settings) (u : AccountUpdate) : Prop :=
  u.isRename = true ∨ (u.suppliedHome? s).isSome = true ∨
    u.attributes.contains AttributeName.publicKey = true

end AccountUpdate

namespace Recipe

variable {s : Settings} {u : AccountUpdate} {fault : Fault}

/-- With a row at hand, nothing but the day on which the account ends can be turned down. -/
theorem isBadDate_of_dependsOnRow
    (hrow : u.DependsOnRow s → ∃ row, u.currentRow = some row)
    (h : updateAccount? s u = .error fault) : Provision.IsBadDate fault := by
  refine (Provision.isBadDate_or_rowless_of_updateAccount? h).resolve_right ?_
  rintro ⟨hnone, hneeded, -⟩
  rw [AccountUpdate.homeDirectory_fields, Bool.or_eq_true] at hneeded
  obtain ⟨row, hsome⟩ := hrow (hneeded.imp_right .inl)
  rw [hnone] at hsome
  cases hsome

/-- Where keys are named and the home is known, no home is assumed. -/
theorem grantOrRevokeSteps_withBase
    (hhome : u.attributes.contains AttributeName.publicKey = true →
      ∃ home, u.knownHome? s = some home) (base : String) :
    grantOrRevokeSteps (s.withBase base) u = grantOrRevokeSteps s u := by
  have hsame : u.attributes.contains AttributeName.publicKey = true →
      finalHome (s.withBase base) u = finalHome s u := by
    intro hnamed
    obtain ⟨home, hhome⟩ := hhome hnamed
    rw [AccountUpdate.finalHome_eq, AccountUpdate.finalHome_eq,
      AccountUpdate.homeAfter_of_knownHome? hhome]
    exact AccountUpdate.homeAfter_of_knownHome? hhome
  unfold grantOrRevokeSteps
  cases u.mode with
  | replace =>
    have hkeys : keysSupplied (s.withBase base) u.newName (finalHome (s.withBase base) u)
        u.attributes = keysSupplied s u.newName (finalHome s u) u.attributes := by
      unfold keysSupplied
      split
      · rfl
      · next hkeys =>
        rw [hsame (AttributeSet.contains_of_texts_ne_nil hkeys)]
        rfl
    simp only [hkeys]
    rfl
  | removeValues =>
    have hkeys : keysWithdrawn (finalHome (s.withBase base) u) u.attributes =
        keysWithdrawn (finalHome s u) u.attributes := by
      unfold keysWithdrawn
      split
      · next hnamed => rw [hsame hnamed]
      · rfl
    simp only [hkeys]
    rfl

theorem updateAccount?_withBase
    (hhome : u.attributes.contains AttributeName.publicKey = true →
      ∃ home, u.knownHome? s = some home) (base : String) :
    updateAccount? (s.withBase base) u = updateAccount? s u := by
  have hsteps : updateAccountSteps (s.withBase base) u = updateAccountSteps s u := by
    unfold updateAccountSteps
    rw [grantOrRevokeSteps_withBase hhome base]
    rfl
  unfold updateAccount?
  rw [hsteps]
  rfl

end Recipe

/-! ## What the script does with it -/

/-- The deeds of a change go by what is known of the account: what is done to keys is done in its
home, and it leaves the groups that were found to list it and are not to be kept. -/
structure AccountUpdate.GoesBy (s : Settings) (u : AccountUpdate) (ds : List Deed) : Prop where
  keys : ∀ d ∈ ds, ∀ user home, d.IsOnKeys user home →
    ∃ known, u.knownHome? s = some known ∧ d.IsOnKeys u.newName known
  departures : ∀ account group, .leave account group ∈ ds ↔
    account = u.username ∧ u.mode = .removeValues ∧
      u.attributes.isPresent AttributeName.groups = true ∧ group ∈ u.currentGroups ∧
      group ∉ u.attributes.texts AttributeName.groups

namespace UpdateDeeds

variable {s : Settings} {u : AccountUpdate} {d : UpdateDeeds}

/-- No rule is kept among keys. -/
theorem not_isOnKeys_of_isOnRule {user user' home : String} {x : Deed} (h : x.IsOnRule s user) :
    ¬ x.IsOnKeys user' home := by
  obtain ⟨path, hpath, rfl⟩ := h
  obtain rfl := Except.ok.inj hpath
  rintro (hkeys | hkeys | hkeys)
  · cases hkeys
  · have hlast := congrArg (fun path => path.toList.getLast?) (Deed.file.inj hkeys)
    simp [pathIn, keyDirectory, List.getLast?_cons] at hlast
  · have hlast := congrArg (fun path => path.toList.getLast?) (Deed.file.inj hkeys)
    simp [pathIn, keyFile, List.getLast?_cons] at hlast

theorem AreOf.mem_keys (h : d.AreOf s u) {user home : String} {x : Deed}
    (hx : x.IsOnKeys user home) (hmem : x ∈ d.inOrder) : x ∈ d.keys := by
  rcases h.mem_cases hmem with ⟨-, _, rfl⟩ | ⟨_, _, rfl⟩ | ⟨-, _, _, rfl⟩ | ⟨-, _, _, rfl⟩ |
    ⟨hkeys, -⟩ | hrule
  case inr.inr.inr.inr.inl => exact hkeys
  case inr.inr.inr.inr.inr => exact absurd hx (not_isOnKeys_of_isOnRule hrule)
  all_goals rcases hx with hx | hx | hx <;> cases hx

theorem AreOf.leave_mem_iff (h : d.AreOf s u) {account group : String} :
    .leave account group ∈ d.inOrder ↔ .leave account group ∈ d.departures := by
  refine ⟨fun hmem => ?_, fun hmem => by simp [inOrder, hmem]⟩
  rcases h.mem_cases hmem with ⟨hdepartures, -⟩ | ⟨_, _, hx⟩ | ⟨-, _, _, hx⟩ | ⟨-, _, _, hx⟩ |
    ⟨-, hx | hx | hx⟩ | ⟨_, -, hx⟩
  case inl => exact hdepartures
  all_goals cases hx

end UpdateDeeds

namespace Recipe

variable {s : Settings} {u : AccountUpdate}

/-- The script goes by what is known, if the home is known where keys are named. -/
theorem goesBy_updateAccount? {command : RemoteCommand}
    (hrow : ∀ row, u.currentRow = some row → row.username = u.username)
    (hhome : u.attributes.contains AttributeName.publicKey = true →
      ∃ home, u.knownHome? s = some home)
    (h : updateAccount? s u = .ok (some command)) :
    ∃ ds, deeds? command.text = some ds ∧ u.GoesBy s ds := by
  obtain ⟨p, hp, hcommand⟩ := exists_of_map_eq_ok h
  obtain ⟨d, hdoes, hd, hdepartures, hkeys⟩ := exists_deeds_updateAccountSteps hrow hp
  have htext := hdoes.deeds?_command (isMade_updateAccountSteps hp) s.elevationPolicy
  rw [Plan.command_of_command?_eq_some hcommand] at htext
  refine ⟨d.inOrder, htext, fun x hx user home hon => ?_, fun account group => ?_⟩
  · have hmem := hd.mem_keys hon hx
    obtain ⟨known, hknown⟩ := hhome (hkeys (List.ne_nil_of_mem hmem))
    have hin := hd.keys x hmem
    rw [AccountUpdate.homeAfter_of_knownHome? hknown] at hin
    exact ⟨known, hknown, hin⟩
  · rw [hd.leave_mem_iff, hdepartures, List.mem_map, ← AccountUpdate.mem_leaving_iff]
    constructor
    · rintro ⟨group', hgroup, hleave⟩
      obtain ⟨rfl, rfl⟩ := Deed.leave.inj hleave
      exact ⟨rfl, hgroup⟩
    · rintro ⟨rfl, hgroup⟩
      exact ⟨group, hgroup, rfl⟩

end Recipe

/-! ## Looking it up -/

namespace Provision

open Procedure (Dispatches Yields yields_pure yields_throw)
open Session (sends_runOptional yields_read yields_rows)

variable {s : Settings} {uid : String} {attributes : AttributeSet} {mode : UpdateMode}

/-- A lookup came to nothing: it failed, or the account has no row. -/
inductive LooksInVain (s : Settings) (uid : String) : List Exchange → Fault → Prop where
  | failed {front : List Exchange} {e : Exchange} {fault : Fault} (h : ¬ e.Succeeds s.diagnostics) :
    LooksInVain s uid (front ++ [e]) fault
  | rowless {front : List Exchange} {output : String}
    (h : ∀ row ∈ (AccountRow.dump output).rows, row.username ≠ uid) :
    LooksInVain s uid (front ++ [⟨Recipe.findAccount uid, .read, .ok output⟩]) (.unknownTarget uid)

theorem LooksInVain.append {es : List Exchange} {fault : Fault} (h : LooksInVain s uid es fault)
    (front : List Exchange) : LooksInVain s uid (front ++ es) fault := by
  cases h with
  | failed he =>
    rw [← List.append_assoc]
    exact .failed he
  | rowless hrows =>
    rw [← List.append_assoc]
    exact .rowless hrows

/-- The row was read from what was answered, and there is one if the change depends on it. -/
structure RowIsFrom (s : Settings) (uid : String) (attributes : AttributeSet) (mode : UpdateMode)
    (es : List Exchange) (currentRow : Option AccountRow) : Prop where
  found : ∀ row, currentRow = some row → row.username = uid ∧
    ∃ output, ⟨Recipe.findAccount uid, .read, .ok output⟩ ∈ es ∧ row ∈ (AccountRow.dump output).rows
  needed : needsRow s uid attributes mode = true → ∃ row, currentRow = some row

/-- The groups were read from what was answered, if the change depends on them. -/
structure GroupsAreFrom (uid : String) (attributes : AttributeSet) (mode : UpdateMode)
    (es : List Exchange) (currentGroups : List String) : Prop where
  found : needsGroups attributes mode = true →
    ∃ output, ⟨Recipe.readMemberships uid, .read, .ok output⟩ ∈ es ∧
      currentGroups = GroupRow.groupsOf (GroupRow.dump output).rows uid
  unneeded : needsGroups attributes mode = false → currentGroups = []

/-- The change is the one asked for, with what was answered about the account. -/
structure IsGathered (s : Settings) (uid : String) (attributes : AttributeSet) (mode : UpdateMode)
    (es : List Exchange) (u : AccountUpdate) : Prop where
  asked : IsAsked uid attributes mode u
  row : RowIsFrom s uid attributes mode es u.currentRow
  groups : GroupsAreFrom uid attributes mode es u.currentGroups
  succeeded : ∀ e ∈ es, e.Succeeds s.diagnostics

theorem yields_fetchAccount (s : Settings) (uid : String) :
    (fetchAccount s uid).Yields (LooksInVain s uid) fun es row =>
      (∀ e ∈ es, e.Succeeds s.diagnostics) ∧ row.username = uid ∧
        ∃ output, es = [⟨Recipe.findAccount uid, .read, .ok output⟩] ∧
          row ∈ (AccountRow.dump output).rows := by
  refine Yields.bind ((yields_read _ _).imp ?_ fun _ _ h => h) fun es output hread => ?_
  · rintro es fault ⟨answer, rfl, hfailed⟩
    exact @LooksInVain.failed s uid [] _ fault hfailed
  obtain ⟨rfl, hsucceeds⟩ := hread
  refine (yields_rows _ _).bind fun es' rows hrows => ?_
  obtain ⟨rfl, rfl⟩ := hrows
  split
  · next row hrow =>
    have hname : row.username = uid := by simpa using List.find?_some hrow
    exact yields_pure ⟨hsucceeds, hname, output, rfl, List.mem_of_find?_eq_some hrow⟩
  · next hnone =>
    have hrows : ∀ row ∈ (AccountRow.dump output).rows, row.username ≠ uid := by
      simpa using List.find?_eq_none.mp hnone
    exact yields_throw (@LooksInVain.rowless s uid [] output hrows)

theorem yields_readRow (s : Settings) (uid : String) (attributes : AttributeSet)
    (mode : UpdateMode) :
    (readRow s uid attributes mode).Yields (LooksInVain s uid) fun es currentRow =>
      (∀ e ∈ es, e.Succeeds s.diagnostics) ∧ RowIsFrom s uid attributes mode es currentRow := by
  unfold readRow
  split
  · rw [map_eq_pure_bind]
    refine (yields_fetchAccount s uid).bind fun es row hrow => ?_
    obtain ⟨hsucceeds, hname, output, rfl, hmem⟩ := hrow
    refine yields_pure ⟨hsucceeds, ⟨fun row' hrow' => ?_, fun _ => ⟨row, rfl⟩⟩⟩
    obtain rfl := Option.some.inj hrow'
    exact ⟨hname, output, List.mem_cons_self .., hmem⟩
  · next hneeded => exact yields_pure ⟨nofun, ⟨nofun, fun h => absurd h hneeded⟩⟩

theorem yields_fetchGroups (s : Settings) (uid : String) :
    (fetchGroups s uid).Yields
      (fun es _ => ∃ answer, es = [⟨Recipe.readMemberships uid, .read, answer⟩] ∧
        ¬ Exchange.Succeeds s.diagnostics ⟨Recipe.readMemberships uid, .read, answer⟩)
      fun es currentGroups => (∀ e ∈ es, e.Succeeds s.diagnostics) ∧
        ∃ output, es = [⟨Recipe.readMemberships uid, .read, .ok output⟩] ∧
          currentGroups = GroupRow.groupsOf (GroupRow.dump output).rows uid := by
  refine (yields_read _ _).bind fun es output hread => ?_
  obtain ⟨rfl, hsucceeds⟩ := hread
  refine (yields_rows _ _).bind fun es' rows hrows => ?_
  obtain ⟨rfl, rfl⟩ := hrows
  exact yields_pure ⟨hsucceeds, output, rfl, rfl⟩

theorem yields_readGroups (s : Settings) (uid : String) (attributes : AttributeSet)
    (mode : UpdateMode) :
    (readGroups s uid attributes mode).Yields (LooksInVain s uid) fun es currentGroups =>
      (∀ e ∈ es, e.Succeeds s.diagnostics) ∧
        GroupsAreFrom uid attributes mode es currentGroups := by
  unfold readGroups
  split
  · next hneeded =>
    refine (yields_fetchGroups s uid).imp ?_ ?_
    · rintro es fault ⟨answer, rfl, hfailed⟩
      exact @LooksInVain.failed s uid [] _ fault hfailed
    · rintro es currentGroups ⟨hsucceeds, output, rfl, hgroups⟩
      refine ⟨hsucceeds, fun _ => ⟨output, List.mem_cons_self .., hgroups⟩, fun h => ?_⟩
      rw [hneeded] at h
      cases h
  · next hneeded => exact yields_pure ⟨nofun, fun h => absurd h hneeded, fun _ => rfl⟩

theorem GroupsAreFrom.append {es : List Exchange} {currentGroups : List String}
    (h : GroupsAreFrom uid attributes mode es currentGroups) (front : List Exchange) :
    GroupsAreFrom uid attributes mode (front ++ es) currentGroups := by
  refine ⟨fun hneeded => ?_, h.unneeded⟩
  obtain ⟨output, hmem, hgroups⟩ := h.found hneeded
  exact ⟨output, List.mem_append_right _ hmem, hgroups⟩

theorem RowIsFrom.append {es : List Exchange} {currentRow : Option AccountRow}
    (h : RowIsFrom s uid attributes mode es currentRow) (back : List Exchange) :
    RowIsFrom s uid attributes mode (es ++ back) currentRow := by
  refine ⟨fun row hrow => ?_, h.needed⟩
  obtain ⟨hname, output, hmem, hrows⟩ := h.found row hrow
  exact ⟨hname, output, List.mem_append_left _ hmem, hrows⟩

theorem yields_readAhead (s : Settings) (uid : String) (attributes : AttributeSet)
    (mode : UpdateMode) :
    (readAhead s uid attributes mode).Yields (LooksInVain s uid)
      (IsGathered s uid attributes mode) := by
  refine (yields_readRow s uid attributes mode).bind fun es currentRow hrow => ?_
  refine Yields.bind ((yields_readGroups s uid attributes mode).imp ?_ fun _ _ h => h)
    fun es' currentGroups hgroups => yields_pure ?_
  · exact fun es' fault h => h.append es
  · rw [List.append_nil]
    refine ⟨⟨rfl, rfl, rfl⟩, hrow.2.append es', hgroups.2.append es, fun e he => ?_⟩
    rcases List.mem_append.mp he with he | he
    · exact hrow.1 e he
    · exact hgroups.1 e he

/-! ## What was found suffices -/

/-- Whether the row is looked up is decided by attributes that come with values, or only by name,
which covers whatever the change turns out to depend on. -/
theorem needsRow_of_dependsOnRow {u : AccountUpdate} (hasked : IsAsked uid attributes mode u)
    (h : u.DependsOnRow s) : needsRow s uid attributes mode = true := by
  obtain ⟨rfl, rfl, rfl⟩ := hasked
  rw [needsRow, Bool.or_eq_true, Bool.or_eq_true]
  rcases h with hrename | hhome | hkeys
  · exact .inl (.inl hrename)
  · obtain ⟨home, hhome⟩ := Option.isSome_iff_exists.mp hhome
    obtain ⟨hmode, hhome⟩ := AccountUpdate.suppliedHome?_eq_some_iff.mp hhome
    refine .inl (.inr ?_)
    rw [hmode, AttributeSet.isPresent_of_text?_eq_some hhome]
    rfl
  · exact .inr hkeys

theorem IsGathered.exists_row {es : List Exchange} {u : AccountUpdate}
    (h : IsGathered s uid attributes mode es u) (hneeded : u.DependsOnRow s) :
    ∃ row, u.currentRow = some row ∧ row.username = uid := by
  obtain ⟨row, hrow⟩ := h.row.needed (needsRow_of_dependsOnRow h.asked hneeded)
  exact ⟨row, hrow, (h.row.found row hrow).1⟩

/-- Where keys are named, the home is known. -/
theorem IsGathered.exists_knownHome? {es : List Exchange} {u : AccountUpdate}
    (h : IsGathered s uid attributes mode es u)
    (hkeys : u.attributes.contains AttributeName.publicKey = true) :
    ∃ home, u.knownHome? s = some home := by
  obtain ⟨row, hrow, -⟩ := h.exists_row (s := s) (.inr (.inr hkeys))
  rw [AccountUpdate.knownHome?, hrow]
  cases u.suppliedHome? s with
  | none => exact ⟨_, rfl⟩
  | some home => exact ⟨home, rfl⟩

theorem sends_carryOut (s : Settings) (u : AccountUpdate) (script : Option RemoteCommand) :
    (carryOut s u script).Sends (Errand.optional script .usermod ++
      Errand.optional (passwordCommand? s u.newName u.attributes u.mode) .passwd) := by
  exact (Procedure.sends_tell _).bind fun _ => (sends_runOptional ..).bind fun _ =>
    (sends_runOptional ..).bind_pure fun _ => u.newName

/-! ## Changes -/

/-- Why a change is not composed: the request does not pass its checks, in which case nothing is
looked up, or something is looked up in vain. -/
inductive GivesUp (s : Settings) (uid : String) (attributes : AttributeSet) :
    List Exchange → Fault → Prop where
  | refused {fault : Fault}
    (h : ¬ (requireUid uid = .ok uid ∧ checkAttributes .account s.fieldNames attributes = .ok ())) :
    GivesUp s uid attributes [] fault
  | inVain {es : List Exchange} {fault : Fault} (h : LooksInVain s uid es fault) :
    GivesUp s uid attributes es fault

/-- A change that was composed from what was looked up: what it depends on was there. It can be
turned down for its date and for nothing else, in which case nothing more is sent; or its script and
the password are sent after the lookups, in this order, and the script goes by what was found. -/
structure IsComposed (s : Settings) (uid : String) (attributes : AttributeSet) (mode : UpdateMode)
    (ahead back : List Exchange) (result : Except Fault String) (u : AccountUpdate) : Prop where
  lookedUp : ahead.map Exchange.errand = (lookupsAhead s uid attributes mode).map Errand.lookup
  gathered : IsGathered s uid attributes mode ahead u
  row : u.DependsOnRow s → ∃ row, u.currentRow = some row ∧ row.username = uid
  refused : ∀ fault, Recipe.updateAccount? s u = .error fault →
    IsBadDate fault ∧ back = [] ∧ result = .error fault
  sent : ∀ script, Recipe.updateAccount? s u = .ok script →
    Dispatches s.diagnostics (Errand.optional script .usermod ++
      Errand.optional (passwordCommand? s u.newName attributes mode) .passwd) u.newName back result
  goesBy : ∀ command, Recipe.updateAccount? s u = .ok (some command) →
    ∃ ds, deeds? command.text = some ds ∧ u.GoesBy s ds
  unassumed : ∀ base, Recipe.updateAccount? (s.withBase base) u = Recipe.updateAccount? s u

/-- What is gathered suffices to compose the change. -/
theorem isComposed_of_isGathered {ahead : List Exchange} {u : AccountUpdate}
    (h : IsGathered s uid attributes mode ahead u)
    (hlookedUp : ahead.map Exchange.errand =
      (lookupsAhead s uid attributes mode).map Errand.lookup)
    {σ : Type} (peer : Dialogue.Peer σ) (start : σ) :
    IsComposed s uid attributes mode ahead
      ((Procedure.ofExcept id (Recipe.updateAccount? s u) >>= carryOut s u).exchanges peer start)
      ((Procedure.ofExcept id (Recipe.updateAccount? s u) >>= carryOut s u).run peer start).1
      u := by
  have hrow : ∀ row, u.currentRow = some row → row.username = u.username := by
    intro row hrow
    rw [h.asked.1]
    exact (h.row.found row hrow).1
  refine ⟨hlookedUp, h, h.exists_row, fun fault hfault => ?_, fun script hscript => ?_,
    fun command hcommand => Recipe.goesBy_updateAccount? hrow h.exists_knownHome? hcommand,
    Recipe.updateAccount?_withBase h.exists_knownHome?⟩
  · have hdate : IsBadDate fault := Recipe.isBadDate_of_dependsOnRow
      (fun hneeded => (h.exists_row hneeded).imp fun _ hrow => hrow.1) hfault
    rw [hfault]
    exact ⟨hdate, rfl, rfl⟩
  · rw [hscript]
    have hproceeds : (carryOut s u script).Proceeds s.diagnostics
        (Call.update .account uid attributes mode).purpose (fun _ => True) fun _ => True :=
      proceeds_carryOut h.asked script
    obtain ⟨rfl, rfl, rfl⟩ := h.asked
    exact (sends_carryOut s u script).dispatches (carries_carryOut s u script) hproceeds peer start

/-- The change of an account first sends its lookups. It gives up with nothing else sent, or the
change is composed from what was answered to them, which is all that it depends on. -/
theorem updateAccount_looks_ahead (s : Settings) (uid : String) (attributes : AttributeSet)
    (mode : UpdateMode) {σ : Type} (peer : Dialogue.Peer σ) (start : σ) :
    ∃ ahead back,
      (update s .account uid attributes mode).exchanges peer start = ahead ++ back ∧
      ahead.map Exchange.errand <+: (lookupsAhead s uid attributes mode).map Errand.lookup ∧
      ((back = [] ∧ ∃ fault, GivesUp s uid attributes ahead fault ∧
          ((update s .account uid attributes mode).run peer start).1 = .error fault) ∨
        ∃ u, IsComposed s uid attributes mode ahead back
          ((update s .account uid attributes mode).run peer start).1 u) := by
  have hupdate : update s .account uid attributes mode = updateAccount s uid attributes mode := rfl
  rw [hupdate]
  by_cases hchecked : requireUid uid = .ok uid ∧
      checkAttributes .account s.fieldNames attributes = .ok ()
  · -- What is sent falls apart where the lookups end and the composition begins.
    rw [updateAccount_of_checked hchecked.1 hchecked.2]
    obtain ⟨hpart, hall⟩ := sends_readAhead s uid attributes mode peer start
    have hyields := yields_readAhead s uid attributes mode peer start
    rcases Procedure.cases_run_bind peer (readAhead s uid attributes mode) (fun u =>
        Procedure.ofExcept id (Recipe.updateAccount? s u) >>= carryOut s u) start with
      ⟨fault, hfault, hrun, hexchanges⟩ | ⟨u, hu, hrun, hexchanges⟩
    · rw [hfault] at hyields
      exact ⟨_, [], by rw [hexchanges, List.append_nil], hpart,
        .inl ⟨rfl, fault, .inVain hyields, hrun⟩⟩
    · rw [hu] at hyields
      rw [hrun]
      exact ⟨_, _, hexchanges, hpart,
        .inr ⟨u, isComposed_of_isGathered hyields (hall u hu) peer _⟩⟩
  · obtain ⟨fault, hthrow⟩ : ∃ fault, updateAccount s uid attributes mode = throw fault :=
      exists_updateAccount_eq_throw hchecked
    rw [hthrow]
    exact ⟨[], [], rfl, List.nil_prefix, .inl ⟨rfl, fault, .refused hchecked, rfl⟩⟩

/-- A key to be written, and nothing else. -/
def keyOnly : AttributeSet :=
  .ofList [⟨AttributeName.publicKey, [.text "ssh-ed25519 AAAA"]⟩]

/-- The row is looked up, and the change is composed from it. -/
theorem updateAccount_looks_ahead_svc1 :
    ((update lenientSettings .account "svc1" keyOnly .replace).run Rehearsal.peer workingHost).1 =
        .ok "svc1" ∧
      ∃ ahead back u, (update lenientSettings .account "svc1" keyOnly .replace).exchanges
          Rehearsal.peer workingHost = ahead ++ back ∧
        IsComposed lenientSettings "svc1" keyOnly .replace ahead back (.ok "svc1") u := by
  have hok : ((update lenientSettings .account "svc1" keyOnly .replace).run Rehearsal.peer
      workingHost).1 = .ok "svc1" := by decide +kernel
  obtain ⟨ahead, back, hexchanges, -, hgoes⟩ :=
    updateAccount_looks_ahead lenientSettings "svc1" keyOnly .replace Rehearsal.peer workingHost
  rw [hok] at hgoes
  rcases hgoes with ⟨-, fault, -, hfault⟩ | ⟨u, hcomposed⟩
  · cases hfault
  · exact ⟨hok, ahead, back, u, hexchanges, hcomposed⟩

end Provision

end HostAccounts
