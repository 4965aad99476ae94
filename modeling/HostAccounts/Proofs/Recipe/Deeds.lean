import HostAccounts.Proofs.Host.Deed
import HostAccounts.Proofs.Recipe.Reading

/-!
# The deeds of plans

What the commands of a plan do to an account. Main statement: `Does.deeds?_command`, by which the
deeds that are read of a command text are those of the steps of its plan, whatever the elevation.
-/

set_option autoImplicit false

namespace HostAccounts

open Shell (CommandLine Program)

/-! ## Commands that are not made of words alone -/

namespace Primitive

theorem meaning_tee (path : String) :
    (tee path).meaning = [⟨["tee", path], [(1, "/dev/null")]⟩] := by
  simp [tee, Shell.Pipeline.meaning, Shell.Pipeline.single, Shell.Invocation.meaning,
    Shell.Word.value, Shell.Redirection.meaning]

theorem meaning_chown (owner path : String) :
    (chown owner path).meaning = [⟨["chown", "-R", owner ++ ":", path], []⟩] := by
  simp [chown, Shell.Pipeline.meaning, Shell.Pipeline.single, Shell.Invocation.meaning,
    Shell.Word.value]

end Primitive

/-! ## The deeds of a plan -/

namespace Plan

/-- The plan comes to the deeds, whether it runs through `sudo` or not. -/
def Does (p : Plan) (ds : List Deed) : Prop :=
  ∀ root, root = [] ∨ root = ["sudo"] →
    Deed.ofCommands? (p.flatMap (Intent.commandLine root)) = some ds

theorem does_nil : Does [] [] :=
  fun _ _ => rfl

theorem Does.append {p q : Plan} {ds es : List Deed} (hp : p.Does ds) (hq : q.Does es) :
    Does (p ++ q) (ds ++ es) := by
  intro root hroot
  rw [List.flatMap_append, Deed.ofCommands?_append, hp root hroot, hq root hroot]
  rfl

theorem Does.cons {i : Intent} {p : Plan} {ds es : List Deed} (hi : Does [i] ds) (hp : p.Does es) :
    Does (i :: p) (ds ++ es) :=
  hi.append hp

theorem does_map {α : Type} {f : α → Intent} {g : α → Deed} (h : ∀ a, Does [f a] [g a])
    (as : List α) : Does (as.map f) (as.map g) := by
  induction as with
  | nil => exact does_nil
  | cons a as ih => exact (h a).cons ih

/-- The plan comes to deeds that are all of one kind. -/
def DoesOnly (p : Plan) (kind : Deed → Prop) : Prop :=
  ∃ ds, p.Does ds ∧ ∀ d ∈ ds, kind d

theorem doesOnly_nil (kind : Deed → Prop) : DoesOnly [] kind :=
  ⟨[], does_nil, fun _ hd => absurd hd List.not_mem_nil⟩

theorem Does.doesOnly {p : Plan} {d : Deed} {kind : Deed → Prop} (h : p.Does [d]) (hd : kind d) :
    p.DoesOnly kind := by
  refine ⟨[d], h, ?_⟩
  intro e he
  rw [List.mem_singleton.mp he]
  exact hd

theorem DoesOnly.imp {p : Plan} {kind kind' : Deed → Prop} (h : p.DoesOnly kind)
    (hkind : ∀ d, kind d → kind' d) : p.DoesOnly kind' := by
  obtain ⟨ds, hds, hall⟩ := h
  exact ⟨ds, hds, fun d hd => hkind d (hall d hd)⟩

theorem DoesOnly.append {p q : Plan} {kind : Deed → Prop} (hp : p.DoesOnly kind)
    (hq : q.DoesOnly kind) : DoesOnly (p ++ q) kind := by
  obtain ⟨ds, hds, hkind⟩ := hp
  obtain ⟨es, hes, hkind'⟩ := hq
  refine ⟨ds ++ es, hds.append hes, ?_⟩
  intro d hd
  rcases List.mem_append.mp hd with hd | hd
  · exact hkind d hd
  · exact hkind' d hd

/-- A step with root rights does what its one command does. -/
theorem does_run {p : Shell.Pipeline} {name : String} {rest : List String} {ds : List Deed}
    {files : List (Nat × String)} (hp : p.meaning = [⟨name :: rest, files⟩])
    (hname : name ∉ ["sudo", "-k", "-S"]) (h : Deed.ofCommand? (name :: rest) = some ds) :
    Does [.run p] ds := by
  intro root hroot
  have hwords := (Deed.ofWords?_root hroot hname).trans h
  simp only [List.flatMap_cons, List.flatMap_nil, List.append_nil, Intent.commandLine, hp,
    CommandLine.ledBy, Deed.ofCommands?, hwords, Option.bind_some, Option.map_some]

/-- What feeds it does nothing. -/
theorem does_feed {p : Shell.Pipeline} {ds : List Deed} (payload : String) (h : Does [.run p] ds) :
    Does [.feed payload p] ds := by
  intro root hroot
  have hrun := h root hroot
  have hecho : Deed.ofWords? ["echo", payload] = some [] := rfl
  simp only [List.flatMap_cons, List.flatMap_nil, List.append_nil, Intent.commandLine] at hrun ⊢
  rw [Deed.ofCommands?, hecho, Option.bind_some, hrun]
  rfl

/-- The priming does nothing, wherever it stands. -/
theorem ofCommands?_primedProgram {priming : Program}
    (hpriming : Deed.ofCommands? priming.flatten = some []) (p : Plan) :
    Deed.ofCommands? (p.primedProgram priming).flatten =
      Deed.ofCommands? (p.flatMap (Intent.commandLine ["sudo"])) := by
  obtain ⟨front, back, hsplit, hprogram | hprogram⟩ := exists_flatten_primedProgram priming p
  · rw [hprogram, hsplit]
  · rw [hprogram, hsplit, Deed.ofCommands?_append, Deed.ofCommands?_append, Deed.ofCommands?_append,
      hpriming, Option.bind_some]
    simp

/-- What is read of the command of a plan is what its steps do. -/
theorem Does.deeds?_command {p : Plan} {ds : List Deed} (h : p.Does ds) (hmade : p.IsMade)
    (e : Elevation) : deeds? (p.command e).text = some ds := by
  rw [deeds?, parse_text_command hmade, Option.bind_some]
  cases e with
  | alreadyRoot => exact h [] (Or.inl rfl)
  | viaSudo secret =>
    rw [program, ofCommands?_primedProgram rfl]
    exact h ["sudo"] (Or.inr rfl)

/-! ## The deeds of the primitive commands -/

theorem does_removeFromGroup (user group : String) :
    Does [.run (Primitive.removeFromGroup user group)] [.leave user group] :=
  does_run (Shell.meaning_ofWords _) (by decide) rfl

theorem does_expire (user date : String) :
    Does [.run (Primitive.expire user date)] [.alter user none] :=
  does_run (Shell.meaning_ofWords _) (by decide) rfl

theorem does_lock (user : String) : Does [.run (Primitive.lock user)] [.alter user none] :=
  does_run (Shell.meaning_ofWords _) (by decide) rfl

theorem does_unlock (user : String) : Does [.run (Primitive.unlock user)] [.alter user none] :=
  does_run (Shell.meaning_ofWords _) (by decide) rfl

theorem does_renameGroup (group newName : String) :
    Does [.run (Primitive.renameGroup group newName)] [.renameGroup group newName] :=
  does_run (Shell.meaning_ofWords _) (by decide) rfl

theorem does_move (source target : String) :
    Does [.run (Primitive.move source target)] [.move source target] :=
  does_run (Shell.meaning_ofWords _) (by decide) rfl

theorem does_mkdir (path : String) : Does [.run (Primitive.mkdir path)] [.file path] :=
  does_run (Shell.meaning_ofWords _) (by decide) rfl

theorem does_chmod (mode path : String) : Does [.run (Primitive.chmod mode path)] [.file path] :=
  does_run (Shell.meaning_ofWords _) (by decide) rfl

theorem does_removeFile (path : String) : Does [.run (Primitive.removeFile path)] [.file path] :=
  does_run (Shell.meaning_ofWords _) (by decide) rfl

theorem does_tee (path : String) : Does [.run (Primitive.tee path)] [.file path] :=
  does_run (Primitive.meaning_tee path) (by decide) rfl

/-- The colon behind the owner is no part of the name. -/
theorem does_chown (owner path : String) :
    Does [.run (Primitive.chown owner path)] [.own owner path] := by
  refine does_run (Primitive.meaning_chown owner path) (by decide) ?_
  have howner : Text.dropLast? ':' (owner ++ ":") = some owner :=
    Text.dropLast?_eq_some_iff.mpr rfl
  rw [Deed.ofCommand?, howner]
  rfl

/-- A change of an account changes its name where a new one is given, whatever else it sets. -/
theorem does_usermod {user : String} {fields : Primitive.AccountFields} {newName : Option String}
    {setGroups : Bool} {p : Shell.Pipeline}
    (h : Primitive.usermod? user fields newName setGroups = some p) :
    Does [.run p] [.alter user (newName.filter (· ≠ user))] := by
  rw [Primitive.eq_of_usermod?_eq_some h]
  refine does_run (Shell.meaning_ofWords _) (by decide) ?_
  rw [Deed.ofCommand?, List.append_assoc, Deed.alteration?_flags]
  cases newName.filter (· ≠ user) <;> rfl

end Plan

end HostAccounts
