import HostAccounts.Proofs.Database.GroupRow
import HostAccounts.Proofs.Host.Deed

/-!
# What commands do to memberships

A group database on which accounts are taken out of groups, one after the other. Each time the
account must be in the group. Only its own memberships change, and only those in the groups named.
Main statements: `groupsOf_withdraw`, `run?_leave`.
-/

set_option autoImplicit false

namespace HostAccounts.Database.GroupRow

variable {rows : List GroupRow} {user other : String} {groups : List String}

/-! ## Withdrawal -/

/-- The row without the member. -/
def without (r : GroupRow) (user : String) : GroupRow :=
  { r with members := r.members.filter (· ≠ user) }

theorem hasMember_without (r : GroupRow) (user other : String) :
    (r.without user).hasMember other = (r.hasMember other && other ≠ user) := by
  rw [Bool.eq_iff_iff, Bool.and_eq_true, hasMember, hasMember, List.contains_iff_mem,
    List.contains_iff_mem, without, List.mem_filter]

/-- The rows after the account was taken out of the groups. -/
def withdraw (rows : List GroupRow) (user : String) (groups : List String) : List GroupRow :=
  rows.map fun r => if r.groupname ∈ groups then r.without user else r

theorem withdraw_nil (rows : List GroupRow) (user : String) : withdraw rows user [] = rows := by
  simp [withdraw]

theorem withdraw_withdraw (rows : List GroupRow) (user : String) (groups groups' : List String) :
    withdraw (withdraw rows user groups) user groups' = withdraw rows user (groups ++ groups') := by
  have htwice : ∀ r : GroupRow, (r.without user).without user = r.without user := by
    intro r
    simp [without]
  have hname : ∀ r : GroupRow, (r.without user).groupname = r.groupname := fun _ => rfl
  unfold withdraw
  rw [List.map_map]
  refine List.map_congr_left fun r _ => ?_
  by_cases h : r.groupname ∈ groups <;> by_cases h' : r.groupname ∈ groups' <;>
    simp [h, h', hname, htwice]

/-- Only memberships of the account are given up, and only those in the groups. -/
theorem groupsOf_withdraw (rows : List GroupRow) (user : String) (groups : List String)
    (other : String) :
    groupsOf (withdraw rows user groups) other =
      (groupsOf rows other).filter fun g => !(other = user && g ∈ groups) := by
  induction rows with
  | nil => rfl
  | cons r rest ih =>
    have hlisted := hasMember_without r user other
    have hname : (r.without user).groupname = r.groupname := rfl
    unfold withdraw groupsOf at ih ⊢
    rw [List.map_cons, List.filter_cons, List.filter_cons]
    by_cases hgroup : r.groupname ∈ groups <;> by_cases hother : other = user <;>
      cases hmember : r.hasMember other <;> simp_all

theorem groupsOf_withdraw_self (rows : List GroupRow) (user : String) (groups : List String) :
    groupsOf (withdraw rows user groups) user = (groupsOf rows user).filter (· ∉ groups) := by
  simp [groupsOf_withdraw]

theorem groupsOf_withdraw_of_ne (h : other ≠ user) (rows : List GroupRow) (groups : List String) :
    groupsOf (withdraw rows user groups) other = groupsOf rows other := by
  simp [groupsOf_withdraw, h]

/-! ## Deeds on the database -/

/-- Does one deed. To take an account out of a group fails if the group does not list it. No other
deed is about members. -/
def step? (rows : List GroupRow) : Deed → Option (List GroupRow)
  | .leave user group =>
    if group ∈ groupsOf rows user then some (withdraw rows user [group]) else none
  | _ => none

/-- Does deeds one after the other. -/
def run? (rows : List GroupRow) : List Deed → Option (List GroupRow)
  | [] => some rows
  | d :: ds => (step? rows d).bind fun rows' => run? rows' ds

/-- An account can be taken out of different groups that list it. -/
theorem run?_leave (hnodup : groups.Nodup) (hlisted : ∀ g ∈ groups, g ∈ groupsOf rows user) :
    run? rows (groups.map (Deed.leave user)) = some (withdraw rows user groups) := by
  induction groups generalizing rows with
  | nil => exact congrArg some (withdraw_nil rows user).symm
  | cons g rest ih =>
    obtain ⟨hfresh, hrest⟩ := List.nodup_cons.mp hnodup
    have hstep : step? rows (.leave user g) = some (withdraw rows user [g]) :=
      if_pos (hlisted g (List.mem_cons_self ..))
    -- To leave one group does not take the account out of the groups that it is still to leave.
    have hstill : ∀ g' ∈ rest, g' ∈ groupsOf (withdraw rows user [g]) user := by
      intro g' hg'
      rw [groupsOf_withdraw_self, List.mem_filter]
      refine ⟨hlisted g' (List.mem_cons_of_mem _ hg'), ?_⟩
      have hne : g' ≠ g := fun heq => hfresh (heq ▸ hg')
      simpa using hne
    rw [List.map_cons, run?, hstep, Option.bind_some, ih hrest hstill, withdraw_withdraw]
    rfl

end HostAccounts.Database.GroupRow
