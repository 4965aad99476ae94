import HostAccounts.Primitive
import HostAccounts.Proofs.Shell.Reading

/-!
# Primitive commands as they are written

The commands that anything on a host is made from, with any texts for their arguments. Main
statement: `Made.isWritable`, so that what is written of each is read as what it means.
-/

set_option autoImplicit false

namespace HostAccounts.Primitive

open Shell (Pipeline Invocation Redirection isCommandName)

/-- The pipeline is one of the primitive commands, with arbitrary arguments. -/
inductive Made : Pipeline → Prop where
  | useradd (user : String) (fields : AccountFields) (createHome : Bool) :
    Made (useradd user fields createHome)
  | usermod {user : String} {fields : AccountFields} {newName : Option String} {setGroups : Bool}
    {p : Pipeline} (h : usermod? user fields newName setGroups = some p) : Made p
  | userdel (user : String) (removeHome : Bool) : Made (userdel user removeHome)
  | lock (user : String) : Made (lock user)
  | unlock (user : String) : Made (unlock user)
  | expire (user date : String) : Made (expire user date)
  | removeFromGroup (user group : String) : Made (removeFromGroup user group)
  | chpasswd : Made chpasswd
  | resetPassword (user : String) : Made (resetPassword user)
  | groupadd (group : String) : Made (groupadd group)
  | renameGroup (group newName : String) : Made (renameGroup group newName)
  | groupdel (group : String) : Made (groupdel group)
  | tee (path : String) : Made (tee path)
  | mkdir (path : String) : Made (mkdir path)
  | chown (owner path : String) : Made (chown owner path)
  | chmod (mode path : String) : Made (chmod mode path)
  | removeFile (path : String) : Made (removeFile path)
  | removeDirectory (path : String) : Made (removeDirectory path)
  | move (source target : String) : Made (move source target)
  | cat (path : String) : Made (cat path)
  | accountEntry (user : String) : Made (accountEntry user)
  | accountDump : Made accountDump
  | groupEntry (group : String) : Made (groupEntry group)
  | groupDump : Made groupDump
  | shadowEntry (user : String) : Made (shadowEntry user)
  | groupsMentioning (user : String) : Made (groupsMentioning user)
  | echo (marker : String) : Made (echo marker)
  | succeed : Made succeed

/-- The pipeline is one of those that accompany the creation or the change of an account, without
setting the fields of its row. -/
inductive Accompanying : Pipeline → Prop where
  | lock (user : String) : Accompanying (lock user)
  | unlock (user : String) : Accompanying (unlock user)
  | expire (user date : String) : Accompanying (expire user date)
  | removeFromGroup (user group : String) : Accompanying (removeFromGroup user group)
  | renameGroup (group newName : String) : Accompanying (renameGroup group newName)
  | tee (path : String) : Accompanying (tee path)
  | mkdir (path : String) : Accompanying (mkdir path)
  | chown (owner path : String) : Accompanying (chown owner path)
  | chmod (mode path : String) : Accompanying (chmod mode path)
  | removeFile (path : String) : Accompanying (removeFile path)
  | move (source target : String) : Accompanying (move source target)

theorem Accompanying.made {p : Pipeline} (h : Accompanying p) : Made p := by
  cases h with
  | lock user => exact .lock user
  | unlock user => exact .unlock user
  | expire user date => exact .expire user date
  | removeFromGroup user group => exact .removeFromGroup user group
  | renameGroup group newName => exact .renameGroup group newName
  | tee path => exact .tee path
  | mkdir path => exact .mkdir path
  | chown owner path => exact .chown owner path
  | chmod mode path => exact .chmod mode path
  | removeFile path => exact .removeFile path
  | move source target => exact .move source target

/-- What a change of an account is written as, when anything changes. -/
theorem eq_of_usermod?_eq_some {user : String} {fields : AccountFields} {newName : Option String}
    {setGroups : Bool} {p : Pipeline} (h : usermod? user fields newName setGroups = some p) :
    p = .ofWords ("usermod" :: (fields.flags setGroups ++
      (newName.filter (· ≠ user)).toList.flatMap (fun n => ["-l", n]) ++ [user])) := by
  unfold usermod? at h
  simp only at h
  split at h
  · cases h
  · exact (Option.some.inj h).symm

/-- A command on one file, of which one stream goes elsewhere. -/
theorem isWritable_redirected {name : String} (h : isCommandName name = true) (path : String)
    {r : Redirection} (hr : Shell.isPlainWord r.path.toList = true) :
    (⟨[⟨name, ""⟩, ⟨path, ""⟩], some r⟩ : Invocation).IsWritable := by
  constructor
  · simp [Invocation.meaning, Shell.SimpleCommand.isNamed, Shell.Word.value, h]
  · simp
  · intro r' hr'
    obtain rfl := Option.mem_some.mp hr'
    exact hr

/-- The colon behind the owner is the only text that is glued to a quoted one. -/
theorem isWritable_owned (owner path : String) :
    (⟨[⟨"chown", ""⟩, ⟨"-R", ""⟩, ⟨owner, ":"⟩, ⟨path, ""⟩], none⟩ : Invocation).IsWritable := by
  constructor
  · simp [Invocation.meaning, Shell.SimpleCommand.isNamed, Shell.Word.value,
      show isCommandName "chown" = true by decide]
  · simp [show Shell.isSpecial ':' = false by decide]
  · intro r hr
    cases hr

theorem isWritable_groupsMentioning (user : String) : (groupsMentioning user).IsWritable := by
  constructor
  · exact List.cons_ne_nil _ _
  · intro i hi
    rcases List.mem_cons.mp hi with rfl | hi
    · exact Invocation.isWritable_ofWords (by decide) _
    · obtain rfl := List.mem_singleton.mp hi
      exact Invocation.isWritable_ofWords (by decide) _

/-- Every primitive command can be written, whatever its arguments hold. -/
theorem Made.isWritable {p : Pipeline} (h : Made p) : p.IsWritable := by
  cases h with
  | tee path | cat path =>
    exact Pipeline.isWritable_single (isWritable_redirected (by decide) path (by decide))
  | chown owner path => exact Pipeline.isWritable_single (isWritable_owned owner path)
  | groupsMentioning user => exact isWritable_groupsMentioning user
  | usermod h =>
    rw [eq_of_usermod?_eq_some h]
    exact Pipeline.isWritable_ofWords (by decide) _
  | _ => exact Pipeline.isWritable_ofWords (by decide) _

end HostAccounts.Primitive
