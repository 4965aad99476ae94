import HostAccounts.Proofs.Filter
import HostAccounts.Proofs.Provision.Enumeration
import HostAccounts.Proofs.Recipe.MembershipSearch
import HostAccounts.Proofs.Session.Returning

/-!
# The search for one object

A search for one object by its name reads the rows of that name only, where every other search reads
all rows; and it completes what it finds. On a host that answers the lookup with the lines of its
dump that are rows of that name, both searches tell the same of the objects of that name. Only the
verdict on the lookup could stand in the way: what it prints is a part of the dump, and taken for a
success as the dump is, unless a text has to be in it that the other lines held. Main statement:
`search_keyed_agrees_iff`.
-/

set_option autoImplicit false

namespace HostAccounts

/-! ## Rows of one name -/

namespace Database

variable {ρ : Type}

/-- The line is a row of the name. -/
def isRowOf (read : String → Except RowDefect ρ) (name : ρ → String) (v line : String) : Bool :=
  (rowIn? read line).any fun r => name r == v

/-- The lines of the rows of one name are read as the rows of that name. -/
theorem rows_readDump_of_lines {read : String → Except RowDefect ρ} {name : ρ → String}
    {v whole part : String}
    (h : Text.lines part = (Text.lines whole).filter (isRowOf read name v)) :
    (readDump read part).rows = (readDump read whole).rows.filter fun r => name r == v := by
  rw [readDump, readDump, rows_readLines, rows_readLines, h, List.filterMap_filter,
    List.filter_filterMap]
  refine List.filterMap_congr fun line _ => ?_
  rw [isRowOf]
  cases rowIn? read line <;> simp [Option.filter]

end Database

namespace Provision

open AttributeSet (entry?_insert_of_ne)
open Database (AccountRow GroupRow ShadowRow isRowOf)
open Procedure (Returns acts_bind returns_ofExcept returns_pure returns_request run_bind)
open Session (IsAnswered returns_read returns_rows)

variable {σ : Type} {peer : Dialogue.Peer σ}

/-! ## What is found under a name -/

/-- The line is a row of the object. -/
def isRowIn : ObjectClass → String → String → Bool
  | .account => isRowOf AccountRow.ofLine AccountRow.username
  | .group => isRowOf GroupRow.ofLine GroupRow.groupname
  | .other _ => fun _ _ => false

/-- The comparison of a name with a text. -/
def nameIs (field v : String) : Operand :=
  ⟨field, v, .equal, false⟩

theorem isKeyed_nameIs {field v : String} (h : (nameIs field v).isPrimaryKey = true) :
    isKeyed (some (nameIs field v)) = true := by
  rw [isKeyed, Option.any_some, Operand.isKeyed, h]
  rfl

theorem keyOf?_nameIs {field v : String} (h : (nameIs field v).isPrimaryKey = true) :
    keyOf? (some (nameIs field v)) = some v := by
  have hkeyed : (nameIs field v).isKeyed = true := isKeyed_nameIs h
  rw [keyOf?, Option.filter_some, hkeyed]
  rfl

theorem accountField_nameIs {names : FieldNames} {field v : String}
    (h : (nameIs field v).isPrimaryKey = true) :
    AccountField.ofName? names field = some .name := by
  rw [AccountField.ofName?]
  exact if_pos h

theorem isSearchable_nameIs (names : FieldNames) {c : ObjectClass} {field v : String}
    (hc : c.isSupported = true) (h : (nameIs field v).isPrimaryKey = true) :
    IsSearchable names c (some (nameIs field v)) := by
  cases c with
  | account =>
    rintro o ⟨⟩
    exact congrArg Option.isSome (accountField_nameIs h)
  | group =>
    rintro o ⟨⟩
    exact h
  | other what => cases hc

theorem acceptsAccount_nameIs {names : FieldNames} {field v : String}
    (h : (nameIs field v).isPrimaryKey = true) :
    acceptsAccount names (some (nameIs field v)) = fun r => r.username == v := by
  funext r
  rw [acceptsAccount, Option.all_some, nameIs, accountField_nameIs h]
  exact Bool.bne_false _

theorem acceptsGroup_nameIs (field v : String) :
    acceptsGroup (some (nameIs field v)) = fun r => r.groupname == v := by
  funext r
  exact Bool.bne_false _

/-- What is found under a name in the lines of its rows are the objects of that name that are found
in all lines. -/
theorem found_nameIs {s : Settings} {c : ObjectClass} {field v whole part : String}
    (h : (nameIs field v).isPrimaryKey = true)
    (hlines : Text.lines part = (Text.lines whole).filter (isRowIn c v)) :
    found s c (some (nameIs field v)) part =
      (found s c none whole).filter fun o => o.name == v := by
  cases c with
  | account =>
    have hall : acceptsAccount s.fieldNames none = fun _ => true := rfl
    simp only [found, AccountRow.dump, acceptsAccount_nameIs h, hall, List.filter_map,
      List.filter_true, Database.rows_readDump_of_lines hlines, List.filter_filter, Bool.and_self]
    rfl
  | group =>
    have hall : acceptsGroup none = fun _ => true := rfl
    simp only [found, GroupRow.dump, acceptsGroup_nameIs, hall, List.filter_map, List.filter_true,
      Database.rows_readDump_of_lines hlines, List.filter_filter, Bool.and_self]
    rfl
  | other what => rfl

/-! ## Objects of which more is told -/

/-- The names under which more is told of an object than stands in its row. -/
def completionNames : List String :=
  [AttributeName.groups, AttributeName.enable, AttributeName.lockOut, AttributeName.disableDate,
    AttributeName.permissions]

/-- The second object is the first, and tells the same but for the names under which more is
told. -/
structure IsMore (o o' : ManagedObject) : Prop where
  same : IsSame o o'
  kept : ∀ name, (∀ added ∈ completionNames, Text.sameIgnoringCase added name = false) →
    o'.attributes.entry? name = o.attributes.entry? name

theorem isMore_refl (o : ManagedObject) : IsMore o o :=
  ⟨isSame_refl o, fun _ _ => rfl⟩

theorem IsMore.trans {o o' o'' : ManagedObject} (h : IsMore o o') (h' : IsMore o' o'') :
    IsMore o o'' :=
  ⟨h.same.trans h'.same, fun name hname => (h'.kept name hname).trans (h.kept name hname)⟩

theorem isMore_insert (o : ManagedObject) {name : String} (values : List Value)
    (h : name ∈ completionNames) : IsMore o (o.insert name values) :=
  ⟨isSame_insert o name values, fun _ hother => entry?_insert_of_ne _ _ (hother name h)⟩

theorem returns_addGroups {s : Settings} {o : ManagedObject} {P : String → Prop}
    (h : IsAnswered peer s.diagnostics (Recipe.readMemberships o.name) P) :
    (addGroups s o).Returns peer (IsMore o) := by
  refine Returns.bind (P := fun _ => True) ?_ fun groups _ =>
    returns_pure (isMore_insert o _ (by decide))
  refine (returns_read h).bind fun output _ => ?_
  exact (returns_rows _).bind fun rows _ => returns_pure trivial

theorem returns_addRule {s : Settings} {o : ManagedObject} {command : RemoteCommand}
    {P : String → Prop} (hcommand : Recipe.readRule s o.objectClass o.name = .ok command)
    (h : IsAnswered peer s.diagnostics command P) : (addRule s o).Returns peer (IsMore o) := by
  refine (returns_ofExcept hcommand).bind fun command' hsame => ?_
  subst hsame
  refine (returns_read h).bind fun output _ => ?_
  split
  · exact returns_pure (isMore_insert o _ (by decide))
  · exact returns_pure (isMore_refl o)

/-- The first line that is not blank is a shadow record, if there is such a line. -/
def isStatus (output : String) : Bool :=
  ((Text.lines output).find? fun l => !Text.isBlankText l).all fun line =>
    (ShadowRow.ofLine line).toBool

theorem returns_addStatus {s : Settings} {o : ManagedObject}
    (h : IsAnswered peer s.diagnostics (Recipe.readStatus s o.name) (isStatus · = true)) :
    (addStatus s o).Returns peer (IsMore o) := by
  refine (returns_read h).bind fun output hstatus => ?_
  split
  · exact returns_pure (isMore_refl o)
  · next line hline =>
    rw [isStatus, hline, Option.all_some] at hstatus
    obtain ⟨row, hrow⟩ : ∃ row, ShadowRow.ofLine line = .ok row := by
      cases hrow : ShadowRow.ofLine line with
      | error defect =>
        rw [hrow] at hstatus
        cases hstatus
      | ok row => exact ⟨row, rfl⟩
    refine (returns_ofExcept hrow).bind fun row _ => ?_
    refine (returns_request .today).bind fun today _ => ?_
    have hused : IsMore o ((o.insert AttributeName.enable [.flag (row.status today).enabled]).insert
        AttributeName.lockOut [.flag (row.status today).locked]) :=
      (isMore_insert o _ (by decide)).trans (isMore_insert _ _ (by decide))
    dsimp only
    split
    · next date _ =>
      have hended : AttributeName.disableDate ∈ completionNames := by decide
      exact returns_pure (hused.trans (isMore_insert _ _ hended))
    · exact returns_pure hused

/-! ## Lookups that are answered -/

/-- The host answers all that is looked up about an object, and shows its status as it is kept. -/
structure AnswersAbout (s : Settings) (o : ManagedObject) (peer : Dialogue.Peer σ) : Prop where
  lookups : ∀ command ∈ lookupsAbout s o, IsAnswered peer s.diagnostics command fun _ => True
  status : o.objectClass = .account →
    IsAnswered peer s.diagnostics (Recipe.readStatus s o.name) (isStatus · = true)

/-- What is looked up about an account are its groups, its status and its rule. -/
theorem answersAbout_account {s : Settings} {v : String}
    (hgroups : IsAnswered peer s.diagnostics (Recipe.readMemberships v) fun _ => True)
    (hstatus : IsAnswered peer s.diagnostics (Recipe.readStatus s v) (isStatus · = true))
    (hrule : IsAnswered peer s.diagnostics (Recipe.elevated s
      (Primitive.cat (pathIn s.accounts.sudoersDirectory (v ++ "_user")))) fun _ => True) :
    AnswersAbout s (.ofName .account v) peer where
  lookups := by
    have hshown : IsAnswered peer s.diagnostics (Recipe.readStatus s v) fun _ => True :=
      hstatus.imp fun _ _ => trivial
    exact List.forall_mem_cons.mpr ⟨hgroups,
      List.forall_mem_cons.mpr ⟨hshown, List.forall_mem_singleton.mpr hrule⟩⟩
  status _ := hstatus

theorem returns_completeAccount {s : Settings} {o : ManagedObject} (ho : o.objectClass = .account)
    (h : AnswersAbout s o peer) : (completeAccount s o).Returns peer (IsMore o) := by
  have hlookups := h.lookups
  unfold lookupsAbout at hlookups
  rw [ho] at hlookups
  refine (returns_addGroups (hlookups _ (by simp))).bind fun o₁ h₁ => ?_
  have hname₁ : o₁.name = o.name := h₁.same.2.2
  have hstatus : IsAnswered peer s.diagnostics (Recipe.readStatus s o₁.name) (isStatus · = true) :=
    hname₁ ▸ h.status ho
  refine (returns_addStatus hstatus).bind fun o₂ h₂ => ?_
  have hmore : IsMore o o₂ := h₁.trans h₂
  have hrule : Recipe.readRule s o₂.objectClass o₂.name = .ok (Recipe.elevated s
      (Primitive.cat (pathIn s.accounts.sudoersDirectory (o.name ++ "_user")))) := by
    rw [hmore.same.1, hmore.same.2.2, ho]
    rfl
  exact (returns_addRule hrule (hlookups _ (by simp))).imp fun o₃ h₃ => hmore.trans h₃

theorem returns_completeGroup {s : Settings} {o : ManagedObject} (ho : o.objectClass = .group)
    (h : AnswersAbout s o peer) : (addRule s o).Returns peer (IsMore o) := by
  have hlookups := h.lookups
  unfold lookupsAbout at hlookups
  rw [ho] at hlookups
  refine returns_addRule ?_ (hlookups _ (List.mem_singleton_self _))
  rw [ho]
  rfl

/-! ## Handing over -/

/-- The objects that are handed over, in order. -/
def handed (acts : List Act) : List ManagedObject :=
  acts.filterMap fun
    | .handed o _ => some o
    | .sent _ => none

theorem handed_map_sent (es : List Exchange) : handed (es.map Act.sent) = [] := by
  rw [handed, List.filterMap_map]
  exact List.filterMap_eq_nil_iff.mpr fun _ _ => rfl

theorem handed_map_handed (objects : List ManagedObject) (more : Bool) :
    handed (objects.map (Act.handed · more)) = objects := by
  rw [handed, List.filterMap_map]
  exact List.filterMap_some

/-- A receiver that always wants more is handed every object once it is completed. -/
theorem handed_deliver {complete : ManagedObject → Procedure ManagedObject}
    {R : ManagedObject → ManagedObject → Prop}
    (hmore : ∀ o state, (peer (.deliver o) state).1 = true)
    (hands : ∀ o, (complete o).HandsNothing) {objects : List ManagedObject}
    (hcomplete : ∀ o ∈ objects, (complete o).Returns peer (R o)) (start : σ) :
    ((deliver complete handOver objects).run peer start).1 = .ok () ∧
      List.Forall₂ R objects (handed ((deliver complete handOver objects).acts peer start)) := by
  induction objects generalizing start with
  | nil => exact ⟨rfl, .nil⟩
  | cons o rest ih =>
    obtain ⟨o', hrun, hR⟩ := hcomplete o (List.mem_cons_self ..) start
    have hwanted : ∀ state, wantsMore peer o' state = true := hmore o'
    obtain ⟨hreturned, hrest⟩ := ih (fun o ho => hcomplete o (List.mem_cons_of_mem _ ho))
      (peer (.deliver o') ((complete o).run peer start).2).2
    rw [deliver, run_bind, acts_bind, hrun, hands]
    simp only [run_bind, acts_bind, acts_handOver, run_handOver, hwanted, if_true]
    refine ⟨hreturned, ?_⟩
    rw [handed, List.filterMap_append, ← handed, handed_map_sent]
    exact .cons hR hrest

/-! ## Hosts with a name in their dumps -/

/-- A lookup that is not taken for a success does not end as one that finds nothing. -/
theorem exists_resultOf_eq_error {d : Diagnostics.Overrides} {output : String}
    (h : d.classify .read output ≠ .success) :
    ∃ fault, Session.resultOf d .read "Could not read host database" "" (.ok output) =
        .error fault ∧ ∀ key, fault ≠ .noResults key := by
  rw [Session.resultOf]
  cases hverdict : d.classify .read output with
  | success => exact absurd hverdict h
  | notFound signature =>
    refine ⟨_, rfl, fun key heq => ?_⟩
    cases heq
  | failed signature =>
    refine ⟨_, rfl, fun key heq => ?_⟩
    cases heq
  | missingConfirmation marker =>
    refine ⟨_, rfl, fun key heq => ?_⟩
    cases heq

/-- A host whose dump is taken for a success, and which answers the lookup of a name with the lines
of the dump that are rows of that name. It answers all that is looked up about the name besides, and
the receiver always wants more. -/
structure KeyedHost (s : Settings) (c : ObjectClass) (v whole part : String)
    (peer : Dialogue.Peer σ) : Prop where
  dump : ∀ command, Recipe.list c = .ok command →
    ∀ state, (peer (.send command .read) state).1 = .ok whole
  lookup : ∀ command, Recipe.find c v = .ok command →
    ∀ state, (peer (.send command .read) state).1 = .ok part
  lines : Text.lines part = (Text.lines whole).filter (isRowIn c v)
  success : s.diagnostics.classify .read whole = .success
  about : AnswersAbout s (.ofName c v) peer
  wantsMore : ∀ o state, (peer (.deliver o) state).1 = true

/-- The objects of the name that stand in the dump. -/
def foundNamed (s : Settings) (c : ObjectClass) (v whole : String) : List ManagedObject :=
  (found s c none whole).filter fun o => o.name == v

section

variable {s : Settings} {c : ObjectClass} {v whole part field : String}

/-- The search for all objects hands over all that stand in the dump. -/
theorem KeyedHost.search_all (h : KeyedHost s c v whole part peer) (hc : c.isSupported = true)
    (start : σ) :
    ((search s c none handOver).run peer start).1 = .ok () ∧
      handed ((search s c none handOver).acts peer start) = found s c none whole := by
  have hsearchable : IsSearchable s.fieldNames c none := by
    cases c with
    | other what => cases hc
    | _ => rintro o ⟨⟩
  obtain ⟨command, hcommand⟩ := exists_readingOf hsearchable
  obtain ⟨rest, hacts, -, hread⟩ :=
    exists_acts_searchOperand_of_host hsearchable hcommand (h.dump command hcommand) start
  rw [search_eq_searchOperand rfl hsearchable]
  rcases hread h.success with ⟨fault, hfault, -⟩ | ⟨-, next, hrest, hresult⟩
  · cases hfault
  · rw [completion_of_not_keyed rfl] at hrest hresult
    obtain ⟨hdelivered, hreturned⟩ := deliver_pure h.wantsMore (found s c none whole) next
    refine ⟨hresult.trans hreturned, ?_⟩
    rw [hacts, hrest, hdelivered]
    exact handed_map_handed _ true

/-- Every object of the name can be completed. -/
theorem KeyedHost.returns_completion (h : KeyedHost s c v whole part peer)
    {operand : Option Operand} (hkeyed : isKeyed operand = true) :
    ∀ o ∈ foundNamed s c v whole, (completion s c operand o).Returns peer (IsMore o) := by
  intro o ho
  obtain ⟨hmem, hname⟩ := List.mem_filter.mp ho
  have hclass := objectClass_of_mem_found hmem
  have hv : o.name = v := eq_of_beq hname
  obtain ⟨lookups, status⟩ := h.about
  rw [← hclass, ← hv] at lookups status
  have habout : AnswersAbout s o peer := ⟨lookups, status⟩
  cases c with
  | account =>
    rw [completion_account hkeyed]
    exact returns_completeAccount hclass habout
  | group =>
    rw [completion_group hkeyed]
    exact returns_completeGroup hclass habout
  | other what => cases hmem

/-- What a search for one object comes to: it tells exactly that there is none, and hands over all
that there are, each with more told of it. -/
structure Finds (v : String) (objects : List ManagedObject) (acts : List Act)
    (result : Except Fault Unit) : Prop where
  missing : result = .error (.noResults v) ↔ objects = []
  found : objects ≠ [] → result = .ok ()
  handed : List.Forall₂ IsMore objects (handed acts)

/-- The verdict on the lookup decides whether the search finds what stands in the dump. -/
theorem KeyedHost.search_nameIs (h : KeyedHost s c v whole part peer) (hc : c.isSupported = true)
    (hfield : (nameIs field v).isPrimaryKey = true) (start : σ) :
    (s.diagnostics.classify .read part ≠ .success → ∃ fault,
      ((searchOperand s c (some (nameIs field v)) handOver).run peer start).1 = .error fault ∧
      ∀ key, fault ≠ .noResults key) ∧
    (s.diagnostics.classify .read part = .success → Finds v (foundNamed s c v whole)
      ((searchOperand s c (some (nameIs field v)) handOver).acts peer start)
      ((searchOperand s c (some (nameIs field v)) handOver).run peer start).1) := by
  have hsearchable := isSearchable_nameIs s.fieldNames hc hfield
  obtain ⟨command, hcommand⟩ := exists_readingOf hsearchable
  have hfind : Recipe.find c v = .ok command := by
    rw [readingOf, keyOf?_nameIs hfield] at hcommand
    exact hcommand
  obtain ⟨rest, hacts, hfailed, hread⟩ :=
    exists_acts_searchOperand_of_host hsearchable hcommand (h.lookup command hfind) start
  refine ⟨fun hverdict => ?_, fun hverdict => ?_⟩
  · obtain ⟨fault, hfault, hother⟩ := exists_resultOf_eq_error hverdict
    exact ⟨fault, (hfailed fault hfault).2, hother⟩
  have hkeyed := isKeyed_nameIs hfield
  have hobjects : found s c (some (nameIs field v)) part = foundNamed s c v whole :=
    found_nameIs hfield h.lines
  rw [hobjects] at hread
  rw [hacts]
  rcases hread hverdict with ⟨fault, hfault, rfl, hresult⟩ | ⟨hfound, next, rfl, hresult⟩
  · obtain ⟨o, ho, -, hnone, rfl⟩ := exists_of_requireFound_eq_error hfault
    obtain rfl : nameIs field v = o := Option.some.inj ho
    rw [hresult, hnone]
    exact ⟨iff_of_true rfl rfl, fun hsome => absurd rfl hsome, .nil⟩
  · obtain ⟨hreturned, hhanded⟩ := handed_deliver h.wantsMore (handsNothing_completion s c _)
      (h.returns_completion hkeyed) next
    have hsome := ne_nil_of_requireFound_eq_ok hfound hkeyed
    rw [hresult, hreturned]
    exact ⟨iff_of_false nofun hsome, fun _ => rfl, hhanded⟩

end

/-! ## Agreement -/

/-- The second object is about the same account or group as the first and tells the same of its
row. -/
structure IsAlike (names : FieldNames) (o o' : ManagedObject) : Prop where
  same : IsSame o o'
  comment : o'.attributes.entry? names.comment = o.attributes.entry? names.comment
  shell : o'.attributes.entry? names.shell = o.attributes.entry? names.shell
  homeDirectory :
    o'.attributes.entry? names.homeDirectory = o.attributes.entry? names.homeDirectory

/-- The names that fields usually go by are not among those under which more is told. -/
theorem IsMore.isAlike {o o' : ManagedObject} (h : IsMore o o') : IsAlike {} o o' where
  same := h.same
  comment := h.kept _ (by decide)
  shell := h.kept _ (by decide)
  homeDirectory := h.kept _ (by decide)

/-- The objects of the name that a search for all objects hands over. -/
def handedNamed (s : Settings) (c : ObjectClass) (v : String) (peer : Dialogue.Peer σ)
    (start : σ) : List ManagedObject :=
  (handed ((search s c none handOver).acts peer start)).filter fun o => o.name == v

/-- A search by a filter does what the search for all objects does for those of one name: it hands
over the same objects in the same order, and fails exactly for want of them. -/
structure AgreesOn (s : Settings) (c : ObjectClass) (v : String) (filter : Filter)
    (peer : Dialogue.Peer σ) (first second : σ) : Prop where
  all : ((search s c none handOver).run peer first).1 = .ok ()
  objects : List.Forall₂ (IsAlike s.fieldNames) (handedNamed s c v peer first)
    (handed ((search s c (some filter) handOver).acts peer second))
  missing : ((search s c (some filter) handOver).run peer second).1 = .error (.noResults v) ↔
    handedNamed s c v peer first = []
  found : handedNamed s c v peer first ≠ [] →
    ((search s c (some filter) handOver).run peer second).1 = .ok ()

/-- On a host that answers the lookup of a name with the rows of that name in its dump, the search
for the name agrees with the search for all objects exactly if the lookup prints the text without
which no read is taken for a success, if there is such a text. -/
theorem search_keyed_agrees_iff {s : Settings} {c : ObjectClass} {v whole part field : String}
    (hnames : s.fieldNames = {}) (hc : c.isSupported = true)
    (hfield : (nameIs field v).isPrimaryKey = true) (h : KeyedHost s c v whole part peer) (k : Nat)
    (first second : σ) :
    AgreesOn s c v (Filter.not^[2 * k] (.compare field .equal v)) peer first second ↔
      ∀ marker, (s.diagnostics.entry .read).confirmation = some marker →
        Text.contains part marker = true := by
  have hfilter : operandOf (some (Filter.not^[2 * k] (.compare field .equal v))) =
      .ok (some (nameIs field v)) := by
    rw [operandOf, Filter.operand, Filter.operandUnder_not_iterate]
    rfl
  have hsearch := search_eq_searchOperand hfilter
    (isSearchable_nameIs s.fieldNames hc hfield)
  obtain ⟨hall, hhanded⟩ := h.search_all hc first
  have hnamed : handedNamed s c v peer first = foundNamed s c v whole := by
    rw [handedNamed, hhanded, foundNamed]
  obtain ⟨hfailed, hfinds⟩ := h.search_nameIs hc hfield second
  rw [← hsearch] at hfailed hfinds
  constructor
  · rintro ⟨-, -, hmissing, hfound⟩
    -- Without the text the lookup fails, but not for want of an object.
    have hsuccess : s.diagnostics.classify .read part = .success := by
      refine Decidable.byContradiction fun hverdict => ?_
      obtain ⟨fault, hfault, hother⟩ := hfailed hverdict
      by_cases hnone : handedNamed s c v peer first = []
      · exact hother v (Except.error.inj (hfault.symm.trans (hmissing.mpr hnone)))
      · cases hfault.symm.trans (hfound hnone)
    exact (Diagnostics.Diagnostic.classify_eq_success_iff.mp hsuccess).2
  · intro hmarker
    have hsuccess : s.diagnostics.classify .read part = .success :=
      Diagnostics.Diagnostic.classify_of_lines_subset h.success
        (fun l hl => List.mem_of_mem_filter (h.lines ▸ hl)) hmarker
    obtain ⟨hmissing, hfound, hobjects⟩ := hfinds hsuccess
    rw [← hnamed] at hmissing hfound hobjects
    refine ⟨hall, hobjects.imp fun _ _ hmore => ?_, hmissing, hfound⟩
    rw [hnames]
    exact hmore.isAlike

/-- A dump with two rows of one account, and with a line that is no row. -/
def doubleDump : String :=
  "svc1:x:1:1:one:/:\nbroken\nroot:x:0:0::/:\nsvc1:x:2:2:two:/:\n"

/-- The rows of the account. -/
def doubleRows : String :=
  "svc1:x:1:1:one:/:\nsvc1:x:2:2:two:/:\n"

/-- A host that prints the dump, the rows, and a status of the account. -/
def doubleHost : Dialogue.Peer Unit :=
  steadyHost
    { script := { workingHost.script with
        replies := [("getent passwd", doubleDump), ("getent passwd svc1", doubleRows),
          ("getent shadow svc1", "svc1:!:::::::\n")] } }

theorem keyedHost_double :
    KeyedHost rootSettings .account "svc1" doubleDump doubleRows doubleHost where
  dump command hcommand state := by
    obtain rfl := Except.ok.inj hcommand
    rfl
  lookup command hcommand state := by
    obtain rfl := Except.ok.inj hcommand
    rfl
  lines := by decide +kernel
  success := by decide +kernel
  about := answersAbout_account
    (fun _ => ⟨"", rfl, by decide +kernel, trivial⟩)
    (fun _ => ⟨"svc1:!:::::::\n", rfl, by decide +kernel, by decide +kernel⟩)
    (fun _ => ⟨"", rfl, by decide +kernel, trivial⟩)
  wantsMore _ _ := rfl

/-- Both rows are handed over by either search. -/
theorem search_keyed_agrees_iff_double :
    handedNamed rootSettings .account "svc1" doubleHost () =
        [accountObject {} ⟨"svc1", 1, 1, "one", "/", ""⟩,
          accountObject {} ⟨"svc1", 2, 2, "two", "/", ""⟩] ∧
      AgreesOn rootSettings .account "svc1" (.not (.not (.compare "__NAME__" .equal "svc1")))
        doubleHost () () := by
  refine ⟨?_, ?_⟩
  · rw [handedNamed, (keyedHost_double.search_all rfl ()).2]
    decide +kernel
  · exact (search_keyed_agrees_iff rfl rfl rfl keyedHost_double 1 () ()).mpr nofun

/-- Settings by which no read is taken for a success without a certain word. -/
def confirmedSettings : Settings where
  elevation := { root := true }
  diagnostics := Diagnostics.Overrides.empty.insert .read { confirmation := some "root" }

/-- A dump of one account. -/
def rootDump : String :=
  "root:x:0:0::/:\n"

/-- A host with that account, which answers whatever is asked with the word, but prints nothing
where another account is looked up. -/
def rootHost : Dialogue.Peer Unit :=
  steadyHost
    { script := { workingHost.script with
        replies := [("getent passwd ghost", ""), ("getent passwd", rootDump),
          ("getent shadow ghost", "root:!:::::::\n"), ("ghost", "root\n")] } }

theorem keyedHost_root : KeyedHost confirmedSettings .account "ghost" rootDump "" rootHost where
  dump command hcommand state := by
    obtain rfl := Except.ok.inj hcommand
    rfl
  lookup command hcommand state := by
    obtain rfl := Except.ok.inj hcommand
    rfl
  lines := by decide +kernel
  success := by decide +kernel
  about := answersAbout_account
    (fun _ => ⟨"root\n", rfl, by decide +kernel, trivial⟩)
    (fun _ => ⟨"root:!:::::::\n", rfl, by decide +kernel, by decide +kernel⟩)
    (fun _ => ⟨"root\n", rfl, by decide +kernel, trivial⟩)
  wantsMore _ _ := rfl

/-- The lookup of an account that is not there lacks the word, and is taken for a failure of the
read. -/
theorem not_search_keyed_agrees :
    ¬ ∀ (s : Settings) (c : ObjectClass) (v whole part field : String)
        (peer : Dialogue.Peer Unit) (k : Nat),
      s.fieldNames = {} → c.isSupported = true → (nameIs field v).isPrimaryKey = true →
      KeyedHost s c v whole part peer →
      AgreesOn s c v (Filter.not^[2 * k] (.compare field .equal v)) peer () () := by
  intro h
  have hagrees := h confirmedSettings .account "ghost" rootDump "" "__NAME__" rootHost 0 rfl rfl rfl
    keyedHost_root
  have hnone : handedNamed confirmedSettings .account "ghost" rootHost () = [] := by
    rw [handedNamed, (keyedHost_root.search_all rfl ()).2]
    decide +kernel
  have hverdict : confirmedSettings.diagnostics.classify .read "" ≠ .success := by decide +kernel
  have hfield : (nameIs "__NAME__" "ghost").isPrimaryKey = true := rfl
  obtain ⟨fault, hfault, hother⟩ := (keyedHost_root.search_nameIs rfl hfield ()).1 hverdict
  exact hother "ghost" (Except.error.inj (hfault.symm.trans (hagrees.missing.mpr hnone)))

end Provision

end HostAccounts
